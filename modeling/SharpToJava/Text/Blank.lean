/-!
Blank characters, and texts without the blanks around them.
-/

namespace SharpToJava.Text

/-- White space in the sense of Unicode, and the four information separators. The zero width
space is not blank. -/
def isBlank (c : Char) : Bool :=
  let code := c.toNat
  (0x9 ≤ code && code ≤ 0xD) || (0x1C ≤ code && code ≤ 0x20) || code == 0x85 || code == 0xA0 ||
    code == 0x1680 || (0x2000 ≤ code && code ≤ 0x200A) || code == 0x2028 || code == 0x2029 ||
    code == 0x202F || code == 0x205F || code == 0x3000

def trimChars (text : List Char) : List Char :=
  ((text.dropWhile isBlank).reverse.dropWhile isBlank).reverse

/-- The text from its first to its last character that is not blank. -/
def trim (text : String) : String := String.ofList (trimChars text.toList)

end SharpToJava.Text
