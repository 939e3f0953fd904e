import CallAssist.Text.Grapheme

/-!
The columns of a line on a terminal, which takes the control functions in it for orders and shows
the rest grapheme by grapheme.
-/

namespace CallAssist

/-- Where a terminal is in a control function. An escape character starts one; what follows says
whether it is a control sequence, a command to the system or a device, or some other text. A
character beyond ASCII ends them all but two. -/
inductive ControlState where
  | ground
  | escape
  | escapeMore
  | sequence
  | sequenceMore
  | device
  | deviceParameter
  | deviceMore
  | deviceText
  | command
  | text
  | character
  deriving DecidableEq, Repr

namespace ControlState

def anywhere (b : UInt8) : Option ControlState :=
  if b == 0x18 || b == 0x1A || (0x80 ≤ b && b ≤ 0x8F) || (0x91 ≤ b && b ≤ 0x97) ||
      b == 0x99 || b == 0x9A || b == 0x9C then some .ground
  else if b == 0x1B then some .escape
  else if b == 0x98 || b == 0x9E || b == 0x9F then some .text
  else if b == 0x9B then some .sequence
  else if b == 0x90 then some .device
  else if b == 0x9D then some .command
  else if 0xC2 ≤ b && b ≤ 0xF4 then some .character
  else none

def afterEscape (b : UInt8) : ControlState :=
  if b < 0x20 || b == 0x7F then .escape
  else if b < 0x30 then .escapeMore
  else if b == 0x50 then .device
  else if b == 0x58 || b == 0x5E || b == 0x5F then .text
  else if b == 0x5B then .sequence
  else if b == 0x5D then .command
  else .ground

/-- What a byte does that has no meaning of its own in a state: controls leave it, intermediate
bytes lead to `more`, parameters to `parameter`, and the others end it. -/
def inside (s parameter more final : ControlState) (b : UInt8) : ControlState :=
  if b < 0x20 || b == 0x7F then s
  else if b < 0x30 then more
  else if b < 0x40 then parameter
  else if b < 0x7F then final
  else .ground

def next (s : ControlState) (b : UInt8) : ControlState :=
  let ends : Bool := b == 0x9C || b == 0x18 || b == 0x1A
  match s with
  | .deviceText => if b == 0x1B then .escape else if ends then .ground else .deviceText
  | .command =>
    if b == 0x1B then .escape else if ends || b == 0x07 then .ground else .command
  | _ =>
    if s == .device && (b == 0x1B || (0x08 ≤ b && b ≤ 0x0D)) then .deviceText
    else match anywhere b with
      | some s => s
      | none => match s with
        | .escape => if b < 0x80 then afterEscape b else .ground
        | .escapeMore => inside .escapeMore .ground .escapeMore .ground b
        | .sequence => inside .sequence .sequence .sequenceMore .ground b
        | .sequenceMore => inside .sequenceMore .ground .sequenceMore .ground b
        | .device => inside .device .deviceParameter .deviceMore .deviceText b
        | .deviceParameter =>
          inside .deviceParameter .deviceParameter .deviceMore .deviceText b
        | .deviceMore => inside .deviceMore .deviceText .deviceMore .deviceText b
        | .text => if b < 0x80 then .text else .ground
        | _ => .ground

end ControlState

def displayFrom (s : ControlState) (open_ : Option Grapheme) : List Rune → Nat
  | [] => (open_.map Grapheme.width).getD 0
  | r :: rs => match open_.bind (·.extend? r.char) with
    | some g => displayFrom .ground (some g) rs
    | none =>
      let before := (open_.map Grapheme.width).getD 0
      let s := if open_.isSome then .ground else s
      if (r.bytes.head?.map s.next) == some .character then
        before + displayFrom .ground (some (Grapheme.start r.char)) rs
      else
        let shown := s == .ground && ' ' ≤ r.char && r.char < '\x7f'
        before + (if shown then 1 else 0) + displayFrom (r.bytes.foldl .next s) none rs

namespace Bytes

def displayWidth (t : Bytes) : Nat := displayFrom .ground none (runes t)

end Bytes

end CallAssist
