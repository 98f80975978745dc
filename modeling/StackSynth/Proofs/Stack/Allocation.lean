import Mathlib
import StackSynth.Proofs.Digest.Counting
import StackSynth.Proofs.Stack.Names
import StackSynth.Proofs.Text.Utf8

/-!
The ids that paths are given. Only the visible components of a path count, and they decide whether it
has an id at all, what can be read in it and which digits it ends with.
-/
namespace StackSynth.LogicalId

def upperDigit (n : Nat) : Char := ['0', '1', '2', '3', '4', '5', '6', '7', '8', '9', 'A', 'B', 'C',
  'D', 'E', 'F'].getD n '0'

/-- Two upper-case hexadecimal digits for each byte. -/
def upperHex (bytes : Digest.Bytes) : List Char :=
  bytes.flatMap fun b => [upperDigit (b.toNat / 16), upperDigit (b.toNat % 16)]

variable {components : List String} {id : String}

theorem to_upper_digit {n : Nat} (digit : n < 16) : (Nat.digitChar n).toUpper = upperDigit n := by
  have every : ∀ n < 16, (Nat.digitChar n).toUpper = upperDigit n := by decide
  exact every n digit

/-- The first digits of bytes are the digits of the first bytes. -/
theorem take_hex (count : Nat) (bytes : Digest.Bytes) :
    (bytes.flatMap Digest.hexByte).take (2 * count) = (bytes.take count).flatMap Digest.hexByte := by
  induction count generalizing bytes with
  | zero => rfl
  | succ count ih =>
    cases bytes with
    | nil => rfl
    | cons b rest =>
      have two : 2 * (count + 1) = (Digest.hexByte b).length + 2 * count := by
        rw [Nat.mul_succ, Nat.add_comm]
        rfl
      rw [List.take_succ_cons, List.flatMap_cons, List.flatMap_cons, ← ih rest, two,
        List.take_length_add_append]

theorem digest_of_eq (components : List String) :
    digestOf components =
      upperHex ((Digest.Md5.digest (String.intercalate "/" components).toUTF8.toList).take 4) := by
  have eight : digestLength = 2 * 4 := rfl
  simp only [digestOf]
  rw [Digest.hex, String.toList_ofList, eight, take_hex, List.map_flatMap, upperHex]
  refine List.flatMap_congr fun b _ => ?_
  have byte := b.toNat_lt
  simp only [Digest.hexByte, List.map_cons, List.map_nil]
  rw [to_upper_digit (by omega), to_upper_digit (by omega)]

/-- The bytes of a path as numbers. -/
def message (components : List String) : List Nat :=
  (List.intercalate ['/'] (components.map String.toList)).flatMap fun c =>
    (String.utf8EncodeChar c).map UInt8.toNat

theorem message_eq (components : List String) :
    message components = (String.intercalate "/" components).toUTF8.toList.map UInt8.toNat := by
  rw [utf8_eq, String.toList_intercalate, List.map_flatMap]
  rfl

/-- An id with its digits counted in natural numbers, as it is evaluated. -/
def counted (components : List String) : String :=
  String.ofList (readable components ++
    (Digest.Md5.littleOf 4 (Digest.Md5.first (message components))).flatMap fun n =>
      [upperDigit (n / 16), upperDigit (n % 16)])

theorem numbered_eq_counted : numbered = counted := by
  funext components
  rw [numbered, counted, digest_of_eq, Digest.Md5.digest_of_first, ← message_eq, upperHex,
    Digest.Md5.little_of_number, List.flatMap_map]

theorem drop_repeats_sublist (last : Option String) (components : List String) :
    (dropRepeats last components).Sublist components := by
  induction components generalizing last with
  | nil => exact List.Sublist.refl []
  | cons c rest ih =>
    cases last with
    | none => exact (ih _).cons_cons c
    | some kept =>
      rw [dropRepeats]
      split
      · exact (ih _).cons c
      · exact (ih _).cons_cons c

/-- What is read in an id stands in the components in the same order. -/
theorem readable_sublist (components : List String) :
    (readable components).Sublist (components.flatMap alphanumerics) :=
  (List.take_sublist _ _).trans
    ((List.filter_sublist.trans (drop_repeats_sublist none components)).flatMap alphanumerics)

theorem readable_length (components : List String) : (readable components).length ≤ 240 :=
  List.length_take_le _ _

/-- The id of a path with the given visible components. -/
structure Allocated (components : List String) (id : String) : Prop where
  letters : ∀ c ∈ id.toList, c.isAlphanum = true
  filled : 1 ≤ id.length
  short : id.length ≤ 248
  own : ∀ only, components = [only] → (alphanumerics only).length ≤ 240 →
    id.toList = alphanumerics only
  numbered : (∀ only, components = [only] → 240 < (alphanumerics only).length) →
    ∃ shown, id.toList = shown ++ upperHex
        ((Digest.Md5.digest (String.intercalate "/" components).toUTF8.toList).take 4) ∧
      shown.length ≤ 240 ∧ shown.Sublist (components.flatMap alphanumerics)

theorem ascii_alphanumeric_eq (c : Char) : Text.isAsciiAlphanumeric c = c.isAlphanum := by
  have upper : Text.isAsciiUpper c = c.isUpper := by
    simp [Text.isAsciiUpper, Char.isUpper, Char.le_def, ge_iff_le]
  have lower : Text.isAsciiLower c = c.isLower := by
    simp [Text.isAsciiLower, Char.isLower, Char.le_def, ge_iff_le]
  rw [Text.isAsciiAlphanumeric, Text.isAsciiLetter, upper, lower, Bool.or_comm c.isLower]
  rfl

theorem alphanumerics_eq_nil_iff {s : String} :
    alphanumerics s = [] ↔ ∀ c ∈ s.toList, c.isAlphanum = false := by
  simp only [alphanumerics, List.filter_eq_nil_iff, ascii_alphanumeric_eq, Bool.not_eq_true]

theorem own_allocated {only : String} (some : alphanumerics only ≠ [])
    (short : (alphanumerics only).length ≤ readableLimit) :
    Allocated [only] (String.ofList (alphanumerics only)) where
  letters c member := by
    rw [String.toList_ofList] at member
    exact ascii_alphanumeric_eq c ▸ (List.mem_filter.mp member).2
  filled := by
    rw [String.length_ofList]
    exact List.length_pos_iff.mpr some
  short := by
    rw [String.length_ofList]
    exact Nat.le_trans short (by decide)
  own other same _ := by
    cases same
    exact String.toList_ofList
  numbered long := absurd short (Nat.not_le.mpr (long only rfl))

theorem numbered_allocated
    (long : ∀ only, components = [only] → readableLimit < (alphanumerics only).length) :
    Allocated components (numbered components) where
  letters c member := ascii_alphanumeric_eq c ▸ alphanumeric_of_numbered member
  filled := by
    rw [numbered, String.length_ofList, List.length_append, digest_length]
    exact Nat.le_add_left 1 _
  short := by
    rw [numbered, String.length_ofList, List.length_append, digest_length]
    exact Nat.add_le_add_right (readable_length components) 8
  own only same short := absurd short (Nat.not_le.mpr (long only same))
  numbered _ := ⟨readable components, by rw [numbered, String.toList_ofList, digest_of_eq],
    readable_length components, readable_sublist components⟩

/-- Which paths have no id, and why, and what the id of any other path is like. Components that leave
no trace make no difference. -/
theorem of_path_allocates (path : List String) :
    ((∃ message, ofPath path = .error (.internal message)) ↔ visible path = []) ∧
    ((∃ construct message, ofPath path = .error (.invalidProps construct message)) ↔
      ∃ only, visible path = [only] ∧ ∀ c ∈ only.toList, c.isAlphanum = false) ∧
    (visible path ≠ [] →
      (¬ ∃ only, visible path = [only] ∧ ∀ c ∈ only.toList, c.isAlphanum = false) →
      ∃ id, ofPath path = .ok id ∧ Allocated (visible path) id) ∧
    ∀ other, visible other = visible path → ofPath other = ofPath path := by
  simp only [← alphanumerics_eq_nil_iff, ← and_assoc]
  refine ⟨?_, fun other same => by rw [ofPath, ofPath, same]⟩
  rcases ofPath_cases path with ⟨none, made⟩ | ⟨only, alone, empty, made⟩ |
    ⟨only, alone, some, short, made⟩ | ⟨some, long, made⟩
  · simp [made, none]
  · simp [made, alone, empty]
  · have own := own_allocated some short
    simp [made, alone, some, own]
  · have filled : ∀ only, visible path = [only] → alphanumerics only ≠ [] := by
      intro only alone empty
      have more := long only alone
      rw [empty] at more
      exact absurd more (by decide)
    have own := numbered_allocated long
    simpa [made, some, own] using filled

end StackSynth.LogicalId
