import Mathlib

/-!
Texts as bytes. The bytes of a text are those of its characters, one after the other, and texts are
ordered as their bytes are. A word that is looked for in the bytes of a text is found where it stands
among the characters, and a text is never cut inside one of them there.
-/
namespace StackSynth

theorem byte_list_loop (b : ByteArray) (i : Nat) (before : List UInt8) :
    ByteArray.toList.loop b i before = before.reverse ++ b.data.toList.drop i := by
  induction left : b.size - i generalizing i before with
  | zero =>
    rw [ByteArray.toList.loop, if_neg (by omega), List.drop_eq_nil_of_le, List.append_nil]
    simp only [Array.length_toList, ByteArray.size_data]
    omega
  | succ n ih =>
    have inside : i < b.data.toList.length := by
      simp only [Array.length_toList, ByteArray.size_data]
      omega
    have here : b.get! i = b.data.toList[i] := getElem!_pos b.data i (by simpa using inside)
    rw [ByteArray.toList.loop, if_pos (by omega), ih (i + 1) _ (by omega),
      List.drop_eq_getElem_cons inside, here]
    simp

theorem byte_list_eq (b : ByteArray) : b.toList = b.data.toList := byte_list_loop b 0 []

theorem utf8_eq (text : String) :
    text.toUTF8.toList = text.toList.flatMap String.utf8EncodeChar := by
  have encoded : text.toList.utf8Encode = text.toUTF8 := String.utf8Encode_toList
  rw [byte_list_eq, ← encoded, List.utf8Encode, List.toList_data_toByteArray]

theorem utf8_injective {text other : String}
    (same : text.toUTF8.toList = other.toUTF8.toList) : text = other := by
  rw [byte_list_eq, byte_list_eq, Array.toList_inj] at same
  exact String.toByteArray_inj.mp (ByteArray.ext same)

theorem zero_eq_byte_iff (n : Nat) : (0 : UInt8) = UInt8.ofNat n ↔ n % 256 = 0 := by
  rw [← UInt8.toNat_inj, UInt8.toNat_ofNat', eq_comm]
  rfl

/-- No character but the zero character has a zero byte. -/
theorem zero_mem_utf8_char {c : Char} (zero : 0 ∈ String.utf8EncodeChar c) : c = '\x00' := by
  have code : c.val.toNat = 0 := by
    simp only [String.utf8EncodeChar] at zero
    split_ifs at zero
    all_goals
      simp only [List.mem_cons, List.not_mem_nil, or_false, zero_eq_byte_iff] at zero
      omega
  exact Char.ext (UInt32.toNat_inj.mp code)

theorem zero_mem_utf8 {text : String} (zero : 0 ∈ text.toUTF8.toList) : '\x00' ∈ text.toList := by
  rw [utf8_eq] at zero
  obtain ⟨c, member, zero⟩ := List.mem_flatMap.mp zero
  rwa [zero_mem_utf8_char zero] at member

/-! The order of texts. -/

/-- What starts with the first bytes comes before what starts with the second, whatever follows. -/
def SortsBefore (first second : List UInt8) : Prop :=
  ∀ rest rest' : List UInt8, first ++ rest < second ++ rest'

theorem sorts_before_of_first {m n : Nat} {a b : List UInt8} (less : m < n) (byte : n < 256) :
    SortsBefore (UInt8.ofNat m :: a) (UInt8.ofNat n :: b) := by
  intro rest rest'
  have first : UInt8.ofNat m < UInt8.ofNat n := by
    rw [UInt8.lt_iff_toNat_lt, UInt8.toNat_ofNat_of_lt' (Nat.lt_trans less byte),
      UInt8.toNat_ofNat_of_lt' byte]
    exact less
  exact List.cons_lt_cons_iff.mpr (.inl first)

/-- The first bytes decide, unless they are equal. -/
theorem sorts_before_cons {m n : Nat} {a b : List UInt8} (le : m ≤ n) (byte : n < 256)
    (later : m = n → SortsBefore a b) : SortsBefore (UInt8.ofNat m :: a) (UInt8.ofNat n :: b) := by
  rcases Nat.lt_or_eq_of_le le with less | same
  · exact sorts_before_of_first less byte
  · intro rest rest'
    subst same
    exact List.cons_lt_cons_iff.mpr (.inr ⟨rfl, later rfl rest rest'⟩)

/-- The bytes of a character are ordered by its number: more bytes come after fewer, and bytes of the
same number from the first one on. -/
theorem utf8_char_sorts_before {c d : Char} (less : c < d) :
    SortsBefore (String.utf8EncodeChar c) (String.utf8EncodeChar d) := by
  have order : c.val.toNat < d.val.toNat := less
  have bound : d.val.toNat < 1114112 := by
    have valid := d.valid
    simp only [UInt32.isValidChar, Nat.isValidChar] at valid
    omega
  simp only [String.utf8EncodeChar]
  split_ifs
  all_goals first
    | omega
    | exact sorts_before_of_first (by omega) (by omega)
    | exact sorts_before_cons (by omega) (by omega) fun _ =>
        sorts_before_of_first (by omega) (by omega)
    | exact sorts_before_cons (by omega) (by omega) fun _ =>
        sorts_before_cons (by omega) (by omega) fun _ =>
          sorts_before_of_first (by omega) (by omega)
    | exact sorts_before_cons (by omega) (by omega) fun _ =>
        sorts_before_cons (by omega) (by omega) fun _ =>
          sorts_before_cons (by omega) (by omega) fun _ =>
            sorts_before_of_first (by omega) (by omega)

theorem utf8_chars_lt {cs ds : List Char} (less : cs < ds) :
    cs.flatMap String.utf8EncodeChar < ds.flatMap String.utf8EncodeChar := by
  induction cs generalizing ds with
  | nil =>
    cases ds with
    | nil => cases less
    | cons d ds =>
      obtain ⟨b, rest, encoded⟩ :=
        List.exists_cons_of_ne_nil (String.utf8EncodeChar_ne_nil (c := d))
      rw [List.flatMap_nil, List.flatMap_cons, encoded]
      exact List.nil_lt_cons _ _
  | cons c cs ih =>
    cases ds with
    | nil => cases less
    | cons d ds =>
      rw [List.flatMap_cons, List.flatMap_cons]
      rcases List.cons_lt_cons_iff.mp less with first | ⟨rfl, later⟩
      · exact utf8_char_sorts_before first _ _
      · exact List.append_left_lt (ih later)

theorem utf8_lt {text other : String} (less : text < other) :
    text.toUTF8.toList < other.toUTF8.toList := by
  rw [utf8_eq, utf8_eq]
  exact utf8_chars_lt (String.lt_iff_toList_lt.mp less)

/-! Places in the bytes of a text. -/

namespace Utf8

def encode (cs : List Char) : List UInt8 := cs.flatMap String.utf8EncodeChar

variable {c : Char} {cs before after word : List Char}

@[simp] theorem encode_nil : encode [] = [] := rfl

@[simp] theorem encode_cons (c : Char) (cs : List Char) :
    encode (c :: cs) = String.utf8EncodeChar c ++ encode cs := rfl

@[simp] theorem encode_append (before after : List Char) :
    encode (before ++ after) = encode before ++ encode after := List.flatMap_append

/-- Whether a character starts at a place, or the text ends there. -/
def IsBoundary (bytes : List UInt8) (place : Nat) : Prop :=
  place = bytes.length ∨ ∃ b ∈ bytes[place]?, b.IsUTF8FirstByte

instance (bytes : List UInt8) (place : Nat) : Decidable (IsBoundary bytes place) := by
  unfold IsBoundary
  infer_instance

/-- The bytes from a place on; none where it is inside a character or behind the end. -/
def from? (bytes : List UInt8) (place : Nat) : Option (List UInt8) :=
  if IsBoundary bytes place then some (bytes.drop place) else none

def upTo? (bytes : List UInt8) (place : Nat) : Option (List UInt8) :=
  if IsBoundary bytes place then some (bytes.take place) else none

/-- The first place where a word stands. -/
def place? (word : List UInt8) : List UInt8 → Option Nat
  | [] => if word = [] then some 0 else none
  | b :: rest => if word <+: b :: rest then some 0 else (place? word rest).map (· + 1)

/-- A character has one first byte, which is its first one. -/
theorem encode_char_bytes (c : Char) : ∃ first rest, String.utf8EncodeChar c = first :: rest ∧
    first.IsUTF8FirstByte ∧ ∀ b ∈ rest, ¬ b.IsUTF8FirstByte := by
  obtain ⟨first, rest, bytes⟩ := List.exists_cons_of_ne_nil (String.utf8EncodeChar_ne_nil (c := c))
  have starts {i : Nat} (inside : i < (first :: rest).length) :
      (first :: rest)[i].IsUTF8FirstByte ↔ i = 0 := by
    simp only [← bytes]
    exact UInt8.isUTF8FirstByte_getElem_utf8EncodeChar
  refine ⟨first, rest, bytes, (starts (Nat.succ_pos _)).mpr rfl, fun b member => ?_⟩
  obtain ⟨i, inside, rfl⟩ := List.getElem_of_mem member
  exact fun own => absurd ((starts (Nat.succ_lt_succ inside)).mp own) (Nat.succ_ne_zero i)

theorem boundary (before after : List Char) :
    IsBoundary (encode before ++ encode after) (encode before).length := by
  cases after with
  | nil => exact .inl (by rw [encode_nil, List.append_nil])
  | cons c cs =>
    obtain ⟨first, rest, bytes, own, -⟩ := encode_char_bytes c
    refine .inr ⟨first, ?_, own⟩
    simp [bytes]

theorem from_boundary (before after : List Char) :
    from? (encode before ++ encode after) (encode before).length = some (encode after) := by
  rw [from?, if_pos (boundary before after), List.drop_left]

theorem up_to_boundary (before after : List Char) :
    upTo? (encode before ++ encode after) (encode before).length = some (encode before) := by
  rw [upTo?, if_pos (boundary before after), List.take_left]

theorem encode_prefix_iff : encode word <+: encode cs ↔ word <+: cs := by
  constructor
  · rintro ⟨rest, whole⟩
    refine List.isPrefix_of_utf8Encode_append_eq_utf8Encode rest.toByteArray ?_
    rw [List.utf8Encode, List.utf8Encode, ← List.toByteArray_append]
    exact congrArg List.toByteArray whole
  · rintro ⟨rest, rfl⟩
    exact ⟨encode rest, (encode_append word rest).symm⟩

/-- A word does not stand where its own first byte does not. -/
theorem place_behind {first : UInt8} {word front : List UInt8} (other : ∀ b ∈ front, b ≠ first)
    (bytes : List UInt8) :
    place? (first :: word) (front ++ bytes) =
      (place? (first :: word) bytes).map (· + front.length) := by
  induction front with
  | nil => simp
  | cons b rest ih =>
    rw [List.forall_mem_cons] at other
    have differs : ¬ (first :: word) <+: b :: (rest ++ bytes) := fun starts =>
      other.1 (List.cons_prefix_cons.mp starts).1.symm
    rw [List.cons_append, place?, if_neg differs, ih other.2, Option.map_map]
    rfl

/-- A word is looked for character by character, though the search goes byte by byte. -/
theorem place_cons (filled : word ≠ []) (c : Char) (cs : List Char) :
    place? (encode word) (encode (c :: cs)) =
      if word <+: c :: cs then some 0
      else (place? (encode word) (encode cs)).map (· + (String.utf8EncodeChar c).length) := by
  obtain ⟨head, tail, rfl⟩ := List.exists_cons_of_ne_nil filled
  obtain ⟨first, more, own, starts, -⟩ := encode_char_bytes head
  obtain ⟨b, rest, bytes, -, inner⟩ := encode_char_bytes c
  have here : encode (head :: tail) <+: b :: (rest ++ encode cs) ↔ head :: tail <+: c :: cs := by
    rw [← encode_prefix_iff, encode_cons c, bytes, List.cons_append]
  have others : ∀ b ∈ rest, b ≠ first := fun b member same => inner b member (same ▸ starts)
  rw [encode_cons c, bytes, List.cons_append, place?]
  simp only [here]
  split
  · rfl
  · rw [encode_cons head, own, List.cons_append, place_behind others, Option.map_map,
      List.length_cons]
    rfl

/-- A word is found where it stands for the first time. -/
theorem place_first (after : List Char) (filled : word ≠ [])
    (first : ∀ c rest, c :: rest <:+ before → ¬ word <+: c :: (rest ++ (word ++ after))) :
    place? (encode word) (encode (before ++ (word ++ after))) = some (encode before).length := by
  induction before with
  | nil =>
    obtain ⟨c, rest, rfl⟩ := List.exists_cons_of_ne_nil filled
    rw [List.nil_append, List.cons_append, place_cons filled, if_pos ⟨after, rfl⟩]
    rfl
  | cons c rest ih =>
    rw [List.cons_append, place_cons filled, if_neg (first c rest (List.suffix_refl _)),
      ih fun d more behind => first d more (behind.trans (List.suffix_cons c rest)), encode_cons,
      List.length_append, Nat.add_comm]
    rfl

theorem place_none (filled : word ≠ []) (absent : ¬ word <:+: cs) :
    place? (encode word) (encode cs) = none := by
  induction cs with
  | nil =>
    obtain ⟨c, rest, rfl⟩ := List.exists_cons_of_ne_nil filled
    exact if_neg (by simp [String.utf8EncodeChar_ne_nil])
  | cons c rest ih =>
    rw [List.infix_cons_iff, not_or] at absent
    rw [place_cons filled, if_neg absent.1, ih absent.2]
    rfl

end Utf8

end StackSynth
