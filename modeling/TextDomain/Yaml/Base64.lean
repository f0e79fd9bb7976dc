import TextDomain.Text.Utf8

/-!
# Bytes as text

Four letters stand for three bytes. Whatever is no letter of the alphabet is
passed over, and reading ends where padding completes a group.
-/

namespace TextDomain.Yaml.Base64

/-- The six bits behind a letter. -/
def sextet? (c : Char) : Option Nat :=
  if 'A' ≤ c ∧ c ≤ 'Z' then some (c.toNat - 'A'.toNat)
  else if 'a' ≤ c ∧ c ≤ 'z' then some (c.toNat - 'a'.toNat + 26)
  else if '0' ≤ c ∧ c ≤ '9' then some (c.toNat - '0'.toNat + 52)
  else if c = '+' then some 62
  else if c = '/' then some 63
  else none

/-- The bytes of a text after `position` letters of a group, of which the bits
`left` are not yet part of a byte and which `pads` padding signs follow. -/
def decodeFrom? (position left pads : Nat) : Text → Option Bytes
  | [] => if position = 0 then some [] else none
  | c :: rest =>
    if c = '=' then
      if position < 2 then decodeFrom? position left pads rest
      else if 4 ≤ position + pads + 1 then some []
      else decodeFrom? position left (pads + 1) rest
    else match sextet? c with
      | none => decodeFrom? position left pads rest
      | some v =>
        match position with
        | 0 => decodeFrom? 1 v 0 rest
        | 1 => (decodeFrom? 2 (v % 16) 0 rest).map (UInt8.ofNat (left * 4 + v / 16) :: ·)
        | 2 => (decodeFrom? 3 (v % 4) 0 rest).map (UInt8.ofNat (left * 16 + v / 4) :: ·)
        | _ => (decodeFrom? 0 0 0 rest).map (UInt8.ofNat (left * 64 + v) :: ·)

/-- The bytes behind a text, which has to be ASCII. -/
def decode? (t : Text) : Option Bytes :=
  if t.all fun c => decide (c.toNat < 0x80) then decodeFrom? 0 0 0 t else none

end TextDomain.Yaml.Base64
