import CallAssist.Text.Rune

/-!
Addresses of files. A path is put into an address as it is; an address is read with its escapes
resolved, if they can be.
-/

namespace CallAssist

namespace Uri

def scheme : Bytes := utf8 "file://"

def hexDigit? (b : UInt8) : Option Nat :=
  match Bytes.digitValue? b with
  | some d => if d < 16 then some d else none
  | none => none

/-- Percent escapes resolved; none if a percent sign starts no escape. -/
def unescape? : Bytes → Option Bytes
  | [] => some []
  | 0x25 :: a :: b :: t => match hexDigit? a, hexDigit? b with
    | some x, some y => (unescape? t).map ((x * 16 + y).toUInt8 :: ·)
    | _, _ => none
  | b :: t => if b == 0x25 then none else (unescape? t).map (b :: ·)

/-- The path of an address; another kind of address is returned as it is. -/
def toPath (uri : Bytes) : Bytes :=
  match Bytes.dropFront? scheme uri with
  | none => uri
  | some path => match unescape? path with
    | some t => if Bytes.isUtf8 t then t else path
    | none => path

def ofPath (path : Bytes) : Bytes :=
  if scheme.isPrefixOf path then path else scheme ++ path

end Uri

end CallAssist
