import MachineDescriptor.Number.Decimal
import MachineDescriptor.Number.Radix
import MachineDescriptor.Text.LetterCase
import MachineDescriptor.Yaml.Fault
import MachineDescriptor.Yaml.Kind

/-!
Numbers of scalars. Underscores do not count, a zero in front of an integer announces its base, and
colons separate the digits of a number to the base sixty.
-/
namespace MachineDescriptor.Yaml.Number

/-- The text without underscores. -/
def withoutGaps (cs : List Char) : List Char := cs.filter (· != '_')

/-- Whether a text starts with a minus sign, and the text after its sign. -/
def signed : List Char → Except Fault (Bool × List Char)
  | [] => .error .noDigits
  | '-' :: rest => .ok (true, rest)
  | '+' :: rest => .ok (false, rest)
  | cs => .ok (false, cs)

/-- Digits to the base sixty, the most significant first. -/
def sixtieths (digits : List Int) : Int := digits.foldl (fun n d => n * 60 + d) 0

/-- The integer of a text without a sign. -/
def amount (cs : List Char) : Except Fault Int :=
  let read (r : Except Integer.Fault Int) : Except Fault Int := r.mapError .integer
  match cs with
  | [] => .error .noDigits
  | ['0'] => .ok 0
  | '0' :: 'b' :: rest => read (Integer.readTo 2 rest)
  | '0' :: 'x' :: rest => read (Integer.readTo 16 rest)
  | '0' :: _ => read (Integer.readTo 8 cs)
  | _ =>
    if cs.contains ':' then read ((Text.split ':' cs).mapM Integer.read |>.map sixtieths)
    else read (Integer.read cs)

/-- The integer that a scalar is. -/
def integer (cs : List Char) : Except Fault Int := do
  let (negative, body) ← signed (withoutGaps cs)
  let n ← amount body
  pure (if negative then -n else n)

/-- The floating-point number of one part of a text. -/
def part (cs : List Char) : Except Fault Binary64 :=
  match Binary64.ofText? cs with
  | some x => .ok x
  | none => .error (.notAFloat (Text.quoted cs))

/-- The sum of the parts of a number to the base sixty, the least significant first, of which the
first counts `base`. -/
def weighted (sum : Binary64) (base : Nat) : List Binary64 → Except Fault Binary64
  | [] => .ok sum
  | x :: rest =>
    match Binary64.ofInt base with
    | .infinite _ => .error .tooLargeForFloat
    | factor => weighted (Binary64.add sum (Binary64.mul x factor)) (base * 60) rest

/-- The number without its sign. -/
def magnitude (cs : List Char) : Except Fault Binary64 := do
  if cs = ".inf".toList then pure (.infinite false)
  else if cs = ".nan".toList then pure .nan
  else if cs.contains ':' then
    let parts ← (Text.split ':' cs).mapM part
    weighted (Binary64.zeroOf false) 1 parts.reverse
  else part cs

/-- The floating-point number that a scalar is. -/
def float (cs : List Char) : Except Fault Binary64 := do
  let lowered := (Text.lower (String.ofList (withoutGaps cs))).toList
  let (negative, body) ← signed lowered
  let x ← magnitude body
  pure (if negative then x.neg else x)

end MachineDescriptor.Yaml.Number
