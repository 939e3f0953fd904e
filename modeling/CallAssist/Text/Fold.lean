import CallAssist.Text.Rune

/-!
Texts compared without regard to letter case, and the lower case of names, as far as ASCII letters
are concerned.
-/

namespace CallAssist

namespace Bytes

/-- A key made comparable with an ASCII key: letter case is ignored, and the long s and the Kelvin
sign count as the letters they are forms of. -/
def foldKey (t : Bytes) : Bytes :=
  (chars t).flatMap fun c =>
    if c == 'ſ' then [0x53]
    else if c == '\u212a' then [0x4B]
    else (String.utf8EncodeChar c).map upperByte

/-- A name in lower case, where it matters to a comparison with an ASCII name: the Kelvin sign and
the dotted capital I have ASCII letters for lower case. -/
def lowerName (t : Bytes) : Bytes :=
  (chars t).flatMap fun c =>
    if c == '\u212a' then [0x6B]
    else if c == 'İ' then [0x69]
    else (String.utf8EncodeChar c).map lowerByte

end Bytes

end CallAssist
