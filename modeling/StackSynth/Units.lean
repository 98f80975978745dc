/-!
Sizes and spans of time, as words of sixty-four bits that stay at the largest word where a product
would be beyond it.
-/
namespace StackSynth

def largestWord : Nat := 18446744073709551615

def saturatingMul (a b : UInt64) : UInt64 :=
  let product := a.toNat * b.toNat
  UInt64.ofNat (if product ≤ largestWord then product else largestWord)

structure Size where
  mebibytes : UInt64
  deriving DecidableEq, Repr, Inhabited

namespace Size

def ofMebibytes (n : UInt64) : Size := ⟨n⟩
def ofGibibytes (n : UInt64) : Size := ⟨saturatingMul n 1024⟩

end Size

structure Duration where
  seconds : UInt64
  deriving DecidableEq, Repr, Inhabited

namespace Duration

def ofSeconds (n : UInt64) : Duration := ⟨n⟩
def ofMinutes (n : UInt64) : Duration := ⟨saturatingMul n 60⟩
def ofHours (n : UInt64) : Duration := ⟨saturatingMul n 3600⟩
def ofDays (n : UInt64) : Duration := ⟨saturatingMul n 86400⟩

/-- Whole minutes; seconds that are left over do not count. -/
def minutes (d : Duration) : UInt64 := d.seconds / 60

def Longer (a b : Duration) : Prop := b.seconds < a.seconds

instance (a b : Duration) : Decidable (Longer a b) :=
  inferInstanceAs (Decidable (b.seconds < a.seconds))

end Duration

end StackSynth
