import Mathlib
import StackSynth.Digest.Md5

/-!
The MD5 digest in natural numbers. Words are numbers below a bound, and the steps, which do not
depend on the message, are read as numbers before any message is. An id that is evaluated is
evaluated with this.
-/
namespace StackSynth.Digest.Md5

/-- The number of words there are. -/
def capacity : Nat := 4294967296

/-- A state whose words are read as numbers. -/
structure Count where
  a : Nat
  b : Nat
  c : Nat
  d : Nat

def State.count (s : State) : Count := ⟨s.a.toNat, s.b.toNat, s.c.toNat, s.d.toNat⟩

def complement (n : Nat) : Nat := capacity - 1 - n

def Count.mix (step : Nat) (s : Count) : Nat × Nat :=
  if step < 16 then ((s.b &&& s.c) ||| (complement s.b &&& s.d), step)
  else if step < 32 then ((s.d &&& s.b) ||| (complement s.d &&& s.c), (5 * step + 1) % 16)
  else if step < 48 then (s.b ^^^ s.c ^^^ s.d, (3 * step + 5) % 16)
  else (s.c ^^^ (s.b ||| complement s.d), (7 * step) % 16)

theorem mix_count (step : Nat) (s : State) :
    s.count.mix step = ((mix step s).1.toNat, (mix step s).2) := by
  unfold Count.mix mix State.count complement capacity
  split_ifs <;> simp

/-- A step with its constants as numbers: the one that is added, and how far to shift to the left and
to the right. -/
def plan (step : Nat × UInt32 × UInt32) : Nat × Nat × Nat × Nat :=
  (step.1, step.2.1.toNat, step.2.2.toNat % 32, (32 - step.2.2).toNat % 32)

def Count.turn (block : List Nat) (s : Count) (step : Nat × Nat × Nat × Nat) : Count :=
  let (number, sine, left, right) := step
  let (mixed, index) := s.mix number
  let sum := (s.a + mixed + sine + (block[index]?).getD 0) % capacity
  ⟨s.d, (s.b + ((sum <<< left) % capacity ||| sum >>> right)) % capacity, s.b, s.c⟩

theorem turn_count (block : List UInt32) (s : State) (step : Nat × UInt32 × UInt32) :
    (turn block.toArray s step).count = s.count.turn (block.map UInt32.toNat) (plan step) := by
  obtain ⟨number, sine, shift⟩ := step
  have word (i : Nat) : (((block.map UInt32.toNat)[i]?).getD 0) = ((block[i]?).getD 0).toNat := by
    rw [List.getElem?_map]
    cases block[i]? <;> rfl
  simp only [turn, Count.turn, plan, mix_count, word, List.getElem?_toArray]
  simp [State.count, rotateLeft, capacity, Nat.add_mod]

def Count.compress (s : Count) (block : List Nat) : Count :=
  let t := (steps.map plan).foldl (Count.turn block) s
  ⟨(s.a + t.a) % capacity, (s.b + t.b) % capacity, (s.c + t.c) % capacity, (s.d + t.d) % capacity⟩

theorem compress_count (s : State) (block : List UInt32) :
    (compress s block).count = s.count.compress (block.map UInt32.toNat) := by
  have turned : (steps.foldl (turn block.toArray) s).count =
      (steps.map plan).foldl (Count.turn (block.map UInt32.toNat)) s.count := by
    rw [List.foldl_map]
    exact (List.foldl_hom State.count fun s step => (turn_count block s step).symm).symm
  rw [compress, Count.compress, ← turned]
  simp [State.count, capacity]

/-! Messages as numbers. -/

def wordOf (a b c d : Nat) : Nat :=
  a ||| (b <<< 8) % capacity ||| (c <<< 16) % capacity ||| (d <<< 24) % capacity

def wordsOf : List Nat → List Nat
  | a :: b :: c :: d :: rest => wordOf a b c d :: wordsOf rest
  | _ => []

theorem words_of_bytes (bytes : Bytes) :
    wordsOf (bytes.map UInt8.toNat) = (words wordLittle bytes).map UInt32.toNat := by
  fun_induction words wordLittle bytes with
  | case1 a b c d rest ih =>
    simp only [List.map_cons, wordsOf, ih]
    simp [wordOf, wordLittle, capacity]
  | case2 bytes short =>
    match bytes with
    | [] => rfl
    | [_] => rfl
    | [_, _] => rfl
    | [_, _, _] => rfl
    | a :: b :: c :: d :: rest => exact absurd rfl (short a b c d rest)

def blocksOf : Nat → List Nat → List (List Nat)
  | 0, _ => []
  | _, [] => []
  | fuel + 1, ws => ws.take 16 :: blocksOf fuel (ws.drop 16)

theorem blocks_of_words (fuel : Nat) (ws : List UInt32) :
    blocksOf fuel (ws.map UInt32.toNat) = (blocks fuel ws).map (List.map UInt32.toNat) := by
  fun_induction blocks fuel ws with
  | case1 => rfl
  | case2 fuel => cases fuel <;> rfl
  | case3 fuel ws some ih =>
    obtain ⟨w, rest, rfl⟩ := List.exists_cons_of_ne_nil some
    rw [List.map_cons, List.map_cons, ← ih, List.map_take, List.map_drop]
    rfl

def littleOf : Nat → Nat → List Nat
  | 0, _ => []
  | count + 1, n => n % 256 :: littleOf count (n / 256)

theorem little_of_number (count n : Nat) :
    littleOf count n = (littleEndian count n).map UInt8.toNat := by
  induction count generalizing n with
  | zero => rfl
  | succ count ih => simp [littleOf, littleEndian, ih]

def paddedOf (message : List Nat) : List Nat :=
  let size := message.length
  message ++ 128 :: List.replicate ((119 - size % 64) % 64) 0 ++ littleOf 8 (8 * size)

theorem padded_of_bytes (message : Bytes) :
    paddedOf (message.map UInt8.toNat) = (padded (littleEndian 8) message).map UInt8.toNat := by
  simp [paddedOf, padded, little_of_number]

/-- The first word of the digest, of which its first digits are. -/
def first (message : List Nat) : Nat :=
  let ws := wordsOf (paddedOf message)
  ((blocksOf ws.length ws).foldl Count.compress start.count).a

theorem digest_of_first (message : Bytes) :
    (digest message).take 4 = littleEndian 4 (first (message.map UInt8.toNat)) := by
  have counted : ((blocks (words wordLittle (padded (littleEndian 8) message)).length
      (words wordLittle (padded (littleEndian 8) message))).foldl compress start).count.a =
      first (message.map UInt8.toNat) := by
    simp only [first, padded_of_bytes, words_of_bytes, List.length_map, blocks_of_words]
    rw [List.foldl_map]
    exact congrArg Count.a (List.foldl_hom State.count fun s block => (compress_count s block).symm).symm
  rw [← counted]
  simp [digest, littleEndian, State.count]

end StackSynth.Digest.Md5
