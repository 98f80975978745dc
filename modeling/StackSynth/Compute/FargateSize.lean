/-!
The pairs of processor units and memory that a Fargate task may have.
-/
namespace StackSynth.FargateSize

/-- Memory for the larger processors comes in equal steps between two bounds, in mebibytes. -/
structure MemoryRange where
  least : Nat
  most : Nat
  step : Nat
  deriving DecidableEq, Repr

def MemoryRange.Holds (r : MemoryRange) (memory : Nat) : Prop :=
  r.least ≤ memory ∧ memory ≤ r.most ∧ (memory - r.least) % r.step = 0

instance (r : MemoryRange) (memory : Nat) : Decidable (r.Holds memory) :=
  inferInstanceAs (Decidable (_ ∧ _ ∧ _))

def range? (cpu : Nat) : Option MemoryRange :=
  if cpu = 512 then some ⟨1024, 4096, 1024⟩
  else if cpu = 1024 then some ⟨2048, 8192, 1024⟩
  else if cpu = 2048 then some ⟨4096, 16384, 1024⟩
  else if cpu = 4096 then some ⟨8192, 30720, 1024⟩
  else if cpu = 8192 then some ⟨16384, 61440, 4096⟩
  else if cpu = 16384 then some ⟨32768, 122880, 8192⟩
  else none

def isValid (cpu memory : UInt32) : Bool :=
  if cpu.toNat = 256 then [512, 1024, 2048].contains memory.toNat
  else match range? cpu.toNat with
    | some range => decide (range.Holds memory.toNat)
    | none => false

end StackSynth.FargateSize
