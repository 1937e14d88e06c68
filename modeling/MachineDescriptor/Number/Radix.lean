import MachineDescriptor.Number.Integer
import MachineDescriptor.Text.Hex

/-!
Numerals to the bases two, eight and sixteen. The letter of the base may stand in front after a
zero. Their length is not limited.
-/
namespace MachineDescriptor.Integer

/-- The letter of a base. -/
def baseLetter : Nat → Char
  | 2 => 'b'
  | 8 => 'o'
  | _ => 'x'

/-- The value of a digit to a base: a decimal digit of any script, or a letter from `a` on. -/
def digitTo? (base : Nat) (c : Char) : Option Nat :=
  let value := match Text.digitValue? c with
    | some d => some d
    | none => Text.hexValue? c
  value.filter (· < base)

/-- The numeral without a zero and the letter of the base at its start. -/
def withoutBaseLetter (base : Nat) (cs : List Char) : List Char :=
  match cs with
  | '0' :: c :: rest => if c.toLower = baseLetter base then rest else cs
  | _ => cs

/-- The integer that a numeral to a base stands for; blanks may stand around it. -/
def readTo (base : Nat) (cs : List Char) : Except Fault Int :=
  let trimmed := ((cs.dropWhile isPadding).reverse.dropWhile isPadding).reverse
  let (negative, body) := signed trimmed
  let digits := withoutBaseLetter base body
  match digits.mapM (digitTo? base) with
  | some (d :: ds) =>
    let value := (d :: ds).foldl (fun n d => n * base + d) 0
    .ok (if negative then -value else value)
  | _ => .error (.notANumeral base (Text.quoted cs))

example : (readTo 16 ['-', 'f', 'F']).toOption = some (-255) := by decide
example : (readTo 8 ['0', 'o', '1', '7']).toOption = some 15 := by decide
example : (readTo 2 ['2']).toOption = none := by decide

end MachineDescriptor.Integer
