/-!
# Lenient base64

`decodeBase64` reads base64 the lenient way: characters outside the alphabet are skipped,
and a run of `=` that completes a group of four ends the data, whatever follows. The data
is refused when its digits leave a group unfinished: one digit over a multiple of four, or
two or three without the padding that completes them.
-/

namespace DocIndex.Text

/-- The value of a base64 digit. -/
def base64Value (c : Char) : Option Nat :=
  if 'A' ≤ c && c ≤ 'Z' then some (c.toNat - 'A'.toNat)
  else if 'a' ≤ c && c ≤ 'z' then some (c.toNat - 'a'.toNat + 26)
  else if '0' ≤ c && c ≤ '9' then some (c.toNat - '0'.toNat + 52)
  else if c = '+' then some 62
  else if c = '/' then some 63
  else none

/-- Where decoding stands within a group of four digits: how many digits of the group were
read, the bits they left over, and how many `=` followed them. -/
structure Base64Group where
  position : Nat
  carry : Nat
  pads : Nat

/-- Decode characters, `bytes` holding the output so far, last byte first. Returns the
bytes, or `none` when the data is refused. -/
def base64From (group : Base64Group) (bytes : List UInt8) : List Char → Option (List UInt8)
  | [] => if group.position = 0 then some bytes.reverse else none
  | c :: rest =>
    if c = '=' then
      if group.position ≥ 2 && group.position + group.pads + 1 ≥ 4 then some bytes.reverse
      else
        let pads := if group.position ≥ 2 then group.pads + 1 else group.pads
        base64From { group with pads := pads } bytes rest
    else
      match base64Value c with
      | none => base64From group bytes rest
      | some v =>
        match group.position with
        | 0 => base64From ⟨1, v, 0⟩ bytes rest
        | 1 => base64From ⟨2, v % 16, 0⟩ ((group.carry * 4 + v / 16).toUInt8 :: bytes) rest
        | 2 => base64From ⟨3, v % 4, 0⟩ ((group.carry * 16 + v / 4).toUInt8 :: bytes) rest
        | _ => base64From ⟨0, 0, 0⟩ ((group.carry * 64 + v).toUInt8 :: bytes) rest

/-- The bytes that base64 text encodes, read leniently; `none` when it is refused. -/
def decodeBase64 (text : String) : Option (List UInt8) :=
  base64From ⟨0, 0, 0⟩ [] text.toList

end DocIndex.Text
