/-!
White space of any script, and texts without it at their ends.
-/
namespace StackSynth.Text

/-- The characters that a reader sees as white space. -/
def isWhite (c : Char) : Bool :=
  let n := c.toNat
  (0x9 ≤ n && n ≤ 0xD) || n = 0x20 || n = 0x85 || n = 0xA0 || n = 0x1680
    || (0x2000 ≤ n && n ≤ 0x200A) || n = 0x2028 || n = 0x2029
    || n = 0x202F || n = 0x205F || n = 0x3000

def trimEnd (s : String) : String := String.ofList (s.toList.reverse.dropWhile isWhite).reverse

def trim (s : String) : String := trimEnd (String.ofList (s.toList.dropWhile isWhite))

def isBlank (s : String) : Bool := s.toList.all isWhite

end StackSynth.Text
