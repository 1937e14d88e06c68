import MachineDescriptor.Context
import MachineDescriptor.Fault
import MachineDescriptor.Text.Blank
import MachineDescriptor.Text.Line

/-!
The fields of a context in a log line: name and value of each, in the order of the names, on one
line and of bounded length.
-/
namespace MachineDescriptor.Log

/-- The mark at the end of a text that was cut. -/
def omission : List Char := ['…']

/-- The most characters of a name and of a value. -/
def maxFieldName : Int := 80
def maxFieldValue : Int := 240

/-- A text with its line breaks escaped, cut to a length. -/
def brief (limit : Int) (cs : List Char) : List Char :=
  Text.cut limit omission (Text.escapeLineFeeds cs)

/-- The brief text of a value. -/
def briefValue (limit : Int) (v : Value) : Except Fault (List Char) :=
  match v.written with
  | .ok cs => .ok (brief limit cs)
  | .error f => .error (.integer f)

/-- One field after a blank. -/
def fieldText (e : String × Value) : Except Fault (List Char) := do
  let value ← briefValue maxFieldValue e.2
  pure ([' '] ++ brief maxFieldName e.1.toList ++ ['='] ++ value)

/-- The fields of a context, each after a blank. -/
def fieldsText (c : Context) : Except Fault (List Char) := do
  let parts ← c.sorted.mapM fieldText
  pure parts.flatten

/-- The context with every value replaced by its brief text. -/
def briefFields (c : Context) : Except Fault (List (String × String)) :=
  c.entries.mapM fun e => do
    let value ← briefValue maxFieldValue e.2
    pure (e.1, String.ofList value)

end MachineDescriptor.Log
