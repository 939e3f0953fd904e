import CallAssist.Text.Rune

/-!
White space, as the Unicode property of that name has it, and trimming.
-/

namespace CallAssist

def isBlankChar (c : Char) : Bool :=
  let n := c.val
  (0x9 ≤ n && n ≤ 0xD) || n == 0x20 || n == 0x85 || n == 0xA0 || n == 0x1680 ||
    (0x2000 ≤ n && n ≤ 0x200A) || n == 0x2028 || n == 0x2029 || n == 0x202F || n == 0x205F ||
    n == 0x3000

/-- A white-space character; a stray byte is none. -/
def Rune.isBlank : Rune → Bool
  | .point c => isBlankChar c
  | .stray _ => false

namespace Bytes

def trimEnd (t : Bytes) : Bytes := ofRunes ((runes t).reverse.dropWhile Rune.isBlank).reverse

def trim (t : Bytes) : Bytes := trimEnd (ofRunes ((runes t).dropWhile Rune.isBlank))

end Bytes

end CallAssist
