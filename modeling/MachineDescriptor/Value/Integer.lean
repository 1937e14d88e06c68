import MachineDescriptor.Value.Text

/-!
Integers made of values: a number loses its fraction, a text or byte sequence is read as a numeral,
and no other value has an integer.
-/
namespace MachineDescriptor.Value

/-- The integer that a value converts to. -/
def toInteger (v : Value) : Except Integer.Fault Int :=
  match v with
  | bool b => .ok (if b then 1 else 0)
  | int n => .ok n
  | float .nan => .error .notANumber
  | float (.infinite _) => .error .infinite
  | float (.finite negative mantissa exponent) =>
    .ok (Binary64.truncated negative mantissa exponent)
  | text s => Integer.read s.toList
  | basis b => Integer.readAs v.display b.word.toList
  | bytes bs => Integer.readBytes bs
  | _ => .error (.wrongKind v.kind)

/-- The integer that a value converts to, or a default when its kind or its text does not allow
one. An infinity is refused all the same. -/
def toIntegerOr (default : Int) (v : Value) : Except Integer.Fault Int :=
  match v.toInteger with
  | .ok n => .ok n
  | .error .infinite => .error .infinite
  | .error _ => .ok default

end MachineDescriptor.Value
