/-!
What the digests share: padding a message to whole blocks of sixty-four bytes, and hexadecimal text.
-/
namespace StackSynth.Digest

abbrev Bytes := List UInt8

/-- The low `count` bytes of a number, least significant first. -/
def littleEndian : Nat → Nat → Bytes
  | 0, _ => []
  | count + 1, n => UInt8.ofNat (n % 256) :: littleEndian count (n / 256)

def bigEndian (count n : Nat) : Bytes := (littleEndian count n).reverse

/-- A one bit, zeros, and the length in bits fill the message up to whole blocks. -/
def padded (lengthText : Nat → Bytes) (message : Bytes) : Bytes :=
  let size := message.length
  message ++ 0x80 :: List.replicate ((119 - size % 64) % 64) 0 ++ lengthText (8 * size)

def wordLittle (a b c d : UInt8) : UInt32 :=
  a.toUInt32 ||| (b.toUInt32 <<< 8) ||| (c.toUInt32 <<< 16) ||| (d.toUInt32 <<< 24)

def wordBig (a b c d : UInt8) : UInt32 := wordLittle d c b a

/-- Groups bytes into words of four; fewer than four at the end are dropped. -/
def words (join : UInt8 → UInt8 → UInt8 → UInt8 → UInt32) : Bytes → List UInt32
  | a :: b :: c :: d :: rest => join a b c d :: words join rest
  | _ => []

/-- Groups words into blocks of sixteen. -/
def blocks : Nat → List UInt32 → List (List UInt32)
  | 0, _ => []
  | _, [] => []
  | fuel + 1, ws => ws.take 16 :: blocks fuel (ws.drop 16)

def rotateLeft (x : UInt32) (n : UInt32) : UInt32 := (x <<< n) ||| (x >>> (32 - n))
def rotateRight (x : UInt32) (n : UInt32) : UInt32 := (x >>> n) ||| (x <<< (32 - n))

def hexByte (b : UInt8) : List Char := [Nat.digitChar (b.toNat / 16), Nat.digitChar (b.toNat % 16)]

/-- Two lower-case hexadecimal digits for each byte. -/
def hex (bytes : Bytes) : String := String.ofList (bytes.flatMap hexByte)

end StackSynth.Digest
