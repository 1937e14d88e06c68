import MachineDescriptor.Calendar
import MachineDescriptor.Number.Integer
import MachineDescriptor.Text.Quoted

/-!
Why a text is no YAML document that can be loaded. Most faults are not told apart; those that arise
when a scalar is made into a number, a truth value or a time have words of their own.
-/
namespace MachineDescriptor.Yaml

inductive Fault where
  /-- an error of the syntax, an unknown tag, or a node of the wrong kind -/
  | malformed
  /-- the number of a character that does not exist -/
  | noSuchCharacter (code : Nat)
  | integer (fault : Integer.Fault)
  | calendar (fault : Calendar.Fault)
  /-- a scalar that is no floating-point number, in its quoted form -/
  | notAFloat (shown : List Char)
  | tooLargeForFloat
  /-- a number without a single character -/
  | noDigits
  /-- a scalar that is neither true nor false, in its quoted form -/
  | notAFlag (shown : List Char)
  | notATime
  /-- a mapping that stands for a time by the value of a key -/
  | timeInMapping

namespace Fault

/-- The largest number that is looked up as one of a character. -/
def maxCode : Nat := 0x7fffffff

def kind : Fault → String
  | malformed => "YAMLError"
  | noSuchCharacter code => if maxCode < code then "OverflowError" else "ValueError"
  | integer f => f.kind
  | calendar _ | notAFloat _ => "ValueError"
  | tooLargeForFloat => "OverflowError"
  | noDigits => "IndexError"
  | notAFlag _ => "KeyError"
  | notATime => "AttributeError"
  | timeInMapping => "TypeError"

def message : Fault → String
  | malformed => ""
  | noSuchCharacter code =>
    if maxCode < code then "Python int too large to convert to C int"
    else "chr() arg not in range(0x110000)"
  | integer f => f.message
  | calendar f => f.message
  | notAFloat shown => "could not convert string to float: " ++ String.ofList shown
  | tooLargeForFloat => "int too large to convert to float"
  | noDigits => "string index out of range"
  | notAFlag shown => String.ofList shown
  | notATime => "'NoneType' object has no attribute 'groupdict'"
  | timeInMapping => "expected string or bytes-like object, got 'list'"

/-- Whether a fault is one of the text and not of the work on it: only such a fault is reported as
an error of the configuration. -/
def isOfText (f : Fault) : Bool := f.kind == "YAMLError" || f.kind == "ValueError"

end Fault
end MachineDescriptor.Yaml
