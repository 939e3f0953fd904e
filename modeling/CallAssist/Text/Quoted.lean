import CallAssist.Text.Printable
import CallAssist.Text.Rune

/-!
Texts between double quotes with everything unprintable escaped, as error messages and log lines
show them.
-/

namespace CallAssist

namespace Quoted

def hex (width n : Nat) : Bytes :=
  let ds := (Nat.toDigits 16 n).map fun c => c.toNat.toUInt8
  List.replicate (width - ds.length) 0x30 ++ ds

def rune (quote : UInt8) : Rune → Bytes
  | .stray b => [0x5C, 0x78] ++ Bytes.hex2 b.toNat
  | .point c =>
    let n := c.toNat
    if n == quote.toNat || n == 0x5C then [0x5C, n.toUInt8]
    else if isPrintable c then String.utf8EncodeChar c
    else if n == 0x07 then [0x5C, 0x61]
    else if n == 0x08 then [0x5C, 0x62]
    else if n == 0x0C then [0x5C, 0x66]
    else if n == 0x0A then [0x5C, 0x6E]
    else if n == 0x0D then [0x5C, 0x72]
    else if n == 0x09 then [0x5C, 0x74]
    else if n == 0x0B then [0x5C, 0x76]
    else if n < 0x20 || n == 0x7F then [0x5C, 0x78] ++ hex 2 n
    else if n < 0x10000 then [0x5C, 0x75] ++ hex 4 n
    else [0x5C, 0x55] ++ hex 8 n

/-- Whether a rune may stand in back quotes, where nothing is escaped: no stray byte, no control
character but the tab, no back quote, and no byte order mark. -/
def isPlain : Rune → Bool
  | .stray _ => false
  | .point c =>
    let n := c.toNat
    n == 0x09 || (0x20 ≤ n && n != 0x60 && n != 0x7F && n != 0xFEFF)

end Quoted

namespace Bytes

def quoted (t : Bytes) : Bytes := [0x22] ++ (runes t).flatMap (Quoted.rune 0x22) ++ [0x22]

def backQuoted (t : Bytes) : Bytes :=
  if (runes t).all Quoted.isPlain then [0x60] ++ t ++ [0x60] else quoted t

end Bytes

def quotedChar (c : Char) : Bytes := [0x27] ++ Quoted.rune 0x27 (.point c) ++ [0x27]

end CallAssist
