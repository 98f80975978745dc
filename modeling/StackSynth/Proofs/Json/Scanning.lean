import Mathlib.Data.List.DropRight
import StackSynth.Json.Text
import StackSynth.Json.Tree

/-!
Reading back what is written, up to whole values: numbers, strings and the blanks in between. What
follows a value has to be something that cannot belong to a number.
-/
namespace StackSynth

namespace NumberLiteral

/-- The decimal digits of a number, the highest first. -/
def decimals (n : Nat) : List Nat := if n < 10 then [n] else decimals (n / 10) ++ [n % 10]

theorem decimals_step (n : Nat) :
    decimals n = if n < 10 then [n] else decimals (n / 10) ++ [n % 10] := by
  rw [decimals]

theorem decimals_small {n : Nat} (small : n < 10) : decimals n = [n] :=
  (decimals_step n).trans (if_pos small)

theorem decimals_append {n d : Nat} (positive : 0 < n) (digit : d < 10) :
    decimals (10 * n + d) = decimals n ++ [d] := by
  have front : (10 * n + d) / 10 = n := by omega
  have last : (10 * n + d) % 10 = d := by omega
  rw [decimals_step, if_neg (by omega), front, last]

theorem to_digits_eq (n : Nat) : Nat.toDigits 10 n = (decimals n).map Nat.digitChar := by
  induction n using Nat.base_induction 10 (by decide) with
  | single n small =>
    rw [decimals_small small, Nat.toDigits_of_lt_base small, List.map_singleton]
  | digit n d digit positive ih =>
    rw [← Nat.toDigits_append_toDigits (by decide) positive digit, ih,
      Nat.toDigits_of_lt_base digit, decimals_append positive digit, List.map_append,
      List.map_singleton]

theorem decimals_lt (n : Nat) : ∀ d ∈ decimals n, d < 10 := by
  induction n using Nat.base_induction 10 (by decide) with
  | single n small =>
    rw [decimals_small small]
    intro d member
    cases List.mem_singleton.mp member
    exact small
  | digit n d digit positive ih =>
    rw [decimals_append positive digit]
    intro other member
    rcases List.mem_append.mp member with earlier | last
    · exact ih other earlier
    · cases List.mem_singleton.mp last
      exact digit

/-- A zero leads only where it stands alone. -/
theorem decimals_lead {n : Nat} (positive : n ≠ 0) :
    ∃ d rest, decimals n = d :: rest ∧ d ≠ 0 := by
  induction n using Nat.base_induction 10 (by decide) with
  | single n small => exact ⟨n, [], decimals_small small, positive⟩
  | digit n d digit above ih =>
    obtain ⟨first, rest, same, lead⟩ := ih (by omega)
    exact ⟨first, rest ++ [d], by rw [decimals_append above digit, same, List.cons_append], lead⟩

theorem gather_append {bound acc n : Nat} {a b : List Nat} (all : gather bound acc a = (n, [])) :
    gather bound acc (a ++ b) = gather bound n b := by
  induction a generalizing acc with
  | nil =>
    cases all
    rfl
  | cons d rest ih =>
    simp only [gather, List.cons_append] at all ⊢
    split at all
    · next fits =>
      rw [if_pos fits]
      exact ih all
    · cases all

theorem gather_decimals {bound n : Nat} (fits : n ≤ bound) :
    gather bound 0 (decimals n) = (n, []) := by
  induction n using Nat.base_induction 10 (by decide) with
  | single n small =>
    rw [decimals_small small]
    simp only [gather, Nat.zero_mul, Nat.zero_add, if_pos fits]
  | digit n d digit positive ih =>
    rw [decimals_append positive digit, gather_append (ih (by omega))]
    simp only [gather, Nat.mul_comm n 10, if_pos fits]

/-- The literal that an integer is written as. -/
def ofInt (n : Int) : NumberLiteral := ⟨decide (n < 0), decimals n.natAbs, none, none⟩

theorem of_int_val (n : JsonInt) : JsonInt.ofInt? n.val = some n := by
  unfold JsonInt.ofInt?
  rw [dif_pos n.lower, dif_pos n.upper]

theorem value_of_int (n : JsonInt) : (ofInt n.val).value = some (.int n) := by
  have fits : n.val.natAbs ≤ wordBound := by
    have lower := n.lower
    have upper := n.upper
    unfold wordBound
    omega
  unfold value ofInt
  rw [gather_decimals fits]
  by_cases negative : n.val < 0
  · have positive : n.val.natAbs ≠ 0 := by omega
    have same : -(n.val.natAbs : Int) = n.val := by omega
    simp only [decide_eq_true negative, if_pos, if_neg positive, same, of_int_val]
  · have same : (n.val.natAbs : Int) = n.val := by omega
    simp only [decide_eq_false negative, Bool.false_eq_true, if_false, same, of_int_val,
      Option.map_some]

end NumberLiteral

namespace JsonTree

open NumberLiteral

variable {rest : List Char}

/-- Nothing that could belong to a number comes first. -/
def Ends (cs : List Char) : Prop :=
  ∀ c ∈ cs.head?, digitValue? c = none ∧ c ≠ '.' ∧ c ≠ 'e' ∧ c ≠ 'E'

theorem digit_value_of_char : ∀ d < 10, digitValue? (Nat.digitChar d) = some d := by decide

theorem take_digits {digits : List Nat} (small : ∀ d ∈ digits, d < 10) (ends : Ends rest) :
    takeDigits (digits.map Nat.digitChar ++ rest) = (digits, rest) := by
  induction digits with
  | nil =>
    cases rest with
    | nil => rfl
    | cons c rest => simp only [List.map_nil, List.nil_append, takeDigits, (ends c rfl).1]
  | cons d digits ih =>
    rw [List.forall_mem_cons] at small
    simp only [List.map_cons, List.cons_append, takeDigits, digit_value_of_char d small.1,
      ih small.2]

theorem no_fraction (ends : Ends rest) : readFraction rest = some (none, rest) := by
  unfold readFraction
  split
  · exact absurd rfl (ends '.' rfl).2.1
  · rfl

theorem no_power (ends : Ends rest) : readPower rest = some (none, rest) := by
  cases rest with
  | nil => rfl
  | cons c rest =>
    obtain ⟨-, -, small, large⟩ := ends c rfl
    rw [readPower, if_neg (not_or.mpr ⟨small, large⟩)]

theorem read_number (negative : Bool) (n : Nat) (ends : Ends rest) :
    readNumber negative (Nat.toDigits 10 n ++ rest) =
      some (⟨negative, decimals n, none, none⟩, rest) := by
  rw [to_digits_eq]
  unfold readNumber
  rw [take_digits (decimals_lt n) ends]
  by_cases zero : n = 0
  · subst zero
    have alone : decimals 0 = [0] := decimals_small (by decide)
    simp only [alone, Option.bind_eq_bind, Option.bind_some, no_fraction ends, no_power ends]
    rfl
  · obtain ⟨d, more, same, positive⟩ := decimals_lead zero
    rw [same]
    cases d with
    | zero => exact absurd rfl positive
    | succ d =>
      simp only [Option.bind_eq_bind, Option.bind_some, no_fraction ends, no_power ends]
      rfl

/-! Strings. -/

/-- The unit of a string that a character is written as. -/
def pieceOf (c : Char) : Piece :=
  if c.toNat < 32 ∧ c ∉ ['\x08', '\x0c', '\n', '\r', '\t'] then .unit c.toNat else .char c

theorem hex_value_of_digit : ∀ d < 16, hexValue? (Json.hexDigit d) = some d := by decide

theorem hex_unit_of_control {n : Nat} (small : n < 32) :
    hexUnit? '0' '0' (Json.hexDigit (n / 16)) (Json.hexDigit (n % 16)) = some n := by
  have zero : hexValue? '0' = some 0 := by decide
  have whole : ((0 * 16 + 0) * 16 + n / 16) * 16 + n % 16 = n := by omega
  simp only [hexUnit?, zero, hex_value_of_digit (n / 16) (by omega),
    hex_value_of_digit (n % 16) (by omega), Option.bind_eq_bind, Option.bind_some, whole]
  rfl

theorem read_unit (a b c d : Char) (rest : List Char) :
    readPieces ('\\' :: 'u' :: a :: b :: c :: d :: rest) = (do
      let n ← hexUnit? a b c d
      let (pieces, left) ← readPieces rest
      return (.unit n :: pieces, left)) := rfl

theorem read_short {c e : Char} (other : e ≠ 'u') (stands : escaped? e = some c)
    (rest : List Char) : readPieces ('\\' :: e :: rest) =
      (readPieces rest).map fun read => (.char c :: read.1, read.2) := by
  rw [readPieces]
  · rw [stands]
    cases readPieces rest <;> rfl
  · exact fun _ _ _ _ _ same => absurd same other

theorem read_plain {c : Char} (quote : c ≠ '"') (slash : c ≠ '\\') (plain : ¬ c.toNat < 32)
    (rest : List Char) : readPieces (c :: rest) =
      (readPieces rest).map fun read => (.char c :: read.1, read.2) := by
  rw [readPieces]
  · rw [if_neg (not_or.mpr ⟨slash, plain⟩)]
    cases readPieces rest <;> rfl
  · exact quote
  · exact fun _ _ _ _ _ same => absurd same slash
  · exact fun _ _ same => absurd same slash

/-- How a character is escaped: by one letter, as a code unit, or not at all. -/
theorem escape_cases (c : Char) :
    (∃ e, Json.escapeChar c = ['\\', e] ∧ e ≠ 'u' ∧ escaped? e = some c ∧ pieceOf c = .char c) ∨
    (c.toNat < 32 ∧ pieceOf c = .unit c.toNat ∧ Json.escapeChar c =
      ['\\', 'u', '0', '0', Json.hexDigit (c.toNat / 16), Json.hexDigit (c.toNat % 16)]) ∨
    (Json.escapeChar c = [c] ∧ c ≠ '"' ∧ c ≠ '\\' ∧ ¬ c.toNat < 32 ∧ pieceOf c = .char c) := by
  by_cases short : c ∈ ['"', '\\', '\x08', '\x0c', '\n', '\r', '\t']
  · refine .inl ?_
    simp only [List.mem_cons, List.not_mem_nil, or_false] at short
    rcases short with rfl | rfl | rfl | rfl | rfl | rfl | rfl
    all_goals exact ⟨_, rfl, by decide, rfl, rfl⟩
  · simp only [List.mem_cons, List.not_mem_nil, or_false, not_or] at short
    obtain ⟨quote, slash, back, feed, line, turn, tab⟩ := short
    simp only [Json.escapeChar, if_neg quote, if_neg slash, if_neg back, if_neg feed, if_neg line,
      if_neg turn, if_neg tab]
    by_cases control : c.toNat < 32
    · refine .inr (.inl ⟨control, ?_, if_pos control⟩)
      rw [pieceOf, if_pos ⟨control, by simp [back, feed, line, turn, tab]⟩]
    · refine .inr (.inr ⟨if_neg control, quote, slash, control, ?_⟩)
      rw [pieceOf, if_neg fun both => control both.1]

/-- An escaped character is read as its unit, whatever follows. -/
theorem read_escaped (c : Char) (rest : List Char) : readPieces (Json.escapeChar c ++ rest) =
    (readPieces rest).map fun read => (pieceOf c :: read.1, read.2) := by
  rcases escape_cases c with ⟨e, same, other, stands, piece⟩ | ⟨control, piece, same⟩ |
    ⟨same, quote, slash, plain, piece⟩
  · rw [same, piece]
    exact read_short other stands rest
  · simp only [same, piece, List.cons_append, List.nil_append, read_unit,
      hex_unit_of_control control]
    cases readPieces rest <;> rfl
  · rw [same, piece]
    exact read_plain quote slash plain rest

theorem join_pieces (cs : List Char) : joinPieces (cs.map pieceOf) = some cs := by
  induction cs with
  | nil => rfl
  | cons c rest ih =>
    rw [List.map_cons, pieceOf]
    split
    · next control =>
      have low : ¬ (0xD800 ≤ c.toNat ∧ c.toNat < 0xDC00) := by omega
      have high : ¬ (0xDC00 ≤ c.toNat ∧ c.toNat < 0xE000) := by omega
      unfold joinPieces
      rw [if_neg low, if_neg high, ih, Option.map_some, Char.ofNat_toNat]
    · rw [joinPieces, ih, Option.map_some]

theorem read_pieces (cs rest : List Char) :
    readPieces (cs.flatMap Json.escapeChar ++ '"' :: rest) = some (cs.map pieceOf, rest) := by
  induction cs with
  | nil => rfl
  | cons c cs ih =>
    rw [List.flatMap_cons, List.append_assoc, read_escaped, ih]
    rfl

/-- What stands after the opening quote of a string that is written. -/
theorem read_string (s : String) (rest : List Char) :
    readString (s.toList.flatMap Json.escapeChar ++ '"' :: rest) = some (some s, rest) := by
  rw [readString, read_pieces]
  simp [join_pieces]

/-! Blanks. -/

theorem skip_blanks {blanks : List Char} (all : ∀ c ∈ blanks, isBlank c = true) (cs : List Char) :
    skipBlanks (blanks ++ cs) = skipBlanks cs :=
  List.dropWhile_append_of_pos all

theorem skip_indentation (level : Nat) (cs : List Char) :
    skipBlanks ('\n' :: Json.indentation level ++ cs) = skipBlanks cs := by
  refine skip_blanks (fun c member => ?_) cs
  rcases List.mem_cons.mp member with rfl | blank
  · rfl
  · rw [Json.indentation, List.mem_replicate] at blank
    rw [blank.2]
    rfl

theorem skip_nothing {c : Char} (solid : isBlank c = false) (cs : List Char) :
    skipBlanks (c :: cs) = c :: cs :=
  List.dropWhile_cons_of_neg (by rw [solid]; decide)

theorem skip_twice (cs : List Char) : skipBlanks (skipBlanks cs) = skipBlanks cs :=
  List.dropWhile_idempotent _ _

end JsonTree

end StackSynth
