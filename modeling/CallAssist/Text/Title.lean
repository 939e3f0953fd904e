import CallAssist.Text.LetterCase
import CallAssist.Text.Rune
import CallAssist.Text.Word

/-!
Texts with each word capitalized.
-/

namespace CallAssist

namespace Letter

def letterFollows : List Rune → Bool
  | [] => false
  | .stray _ :: _ => false
  | .point c :: rs => if isIgnorable c then letterFollows rs else isCased c

/-- The lower case of a letter before `rest`; a sigma that ends its word has a form of its own. -/
def lowerBefore (rest : List Rune) (c : Char) : List Char :=
  if c == 'Σ' then [if letterFollows rest then 'σ' else 'ς'] else lower c

/-- Title case from the middle of a text: `inside` says whether the word at hand has had its first
letter, `linked` whether the last character was a link. -/
def titled (inside linked : Bool) : List Rune → Bytes
  | [] => []
  | .stray b :: rs => b :: titled false false rs
  | .point c :: rs =>
    let inside := inside && !(linked && isLink c)
    if isCased c then
      Bytes.ofChars (if inside then lowerBefore rs c else title c) ++ titled true false rs
    else String.utf8EncodeChar c ++ titled (inside && !endsWord c) (isLink c) rs

end Letter

/-- The text with the first letter of each word in title case and its other letters in lower
case. -/
def Bytes.title (t : Bytes) : Bytes := Letter.titled false false (runes t)

end CallAssist
