/-!
Base 64. Four characters stand for three bytes, and padding completes the last four. Characters that
belong to no byte are passed over.
-/
namespace MachineDescriptor.Text.Base64

/-- The six bits that a character stands for. -/
def value? (c : Char) : Option Nat :=
  if 'A' ≤ c ∧ c ≤ 'Z' then some (c.toNat - 'A'.toNat)
  else if 'a' ≤ c ∧ c ≤ 'z' then some (c.toNat - 'a'.toNat + 26)
  else if '0' ≤ c ∧ c ≤ '9' then some (c.toNat - '0'.toNat + 52)
  else if c = '+' then some 62
  else if c = '/' then some 63
  else none

/-- Decodes the rest of a text: `held` characters of the present four were read, which leave over
the bits in `left`, and `pads` signs of padding follow them. -/
def decodeFrom (held left pads : Nat) : List Char → Option (List UInt8)
  | [] => if held = 0 then some [] else none
  | c :: rest =>
    if c = '=' then
      if 2 ≤ held then
        if 4 ≤ held + pads + 1 then some [] else decodeFrom held left (pads + 1) rest
      else decodeFrom held left pads rest
    else
      match value? c with
      | none => decodeFrom held left pads rest
      | some v =>
        match held with
        | 0 => decodeFrom 1 v 0 rest
        | 1 => (decodeFrom 2 (v % 16) 0 rest).map (UInt8.ofNat (left * 4 + v / 16) :: ·)
        | 2 => (decodeFrom 3 (v % 4) 0 rest).map (UInt8.ofNat (left * 16 + v / 4) :: ·)
        | _ => (decodeFrom 0 0 0 rest).map (UInt8.ofNat (left * 64 + v) :: ·)

/-- The bytes of a text; `none` when its last four characters are not complete. -/
def decode? (cs : List Char) : Option (List UInt8) := decodeFrom 0 0 0 cs

example : decode? "aGk=".toList = some [104, 105] := by decide +kernel
example : decode? "aGk".toList = none := by decide +kernel

end MachineDescriptor.Text.Base64
