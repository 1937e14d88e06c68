import MachineDescriptor.Context
import MachineDescriptor.Foreign
import MachineDescriptor.Json.Reader
import MachineDescriptor.Log.Template
import MachineDescriptor.Terminal.Markup
import MachineDescriptor.Text.Letters
import MachineDescriptor.Text.Utf8
import MachineDescriptor.Value.Integer
import MachineDescriptor.Yaml.Fault

/-!
Faults: what goes wrong below the level at which the library reports errors of its own. A fault has
a kind, by which it is named in messages, and a text.
-/
namespace MachineDescriptor

inductive Fault where
  | integer (fault : Integer.Fault)
  | calendar (fault : Calendar.Fault)
  | json (fault : Json.Fault)
  | template (fault : Template.Fault)
  | yaml (fault : Yaml.Fault)
  | markup (fault : Terminal.Markup.Fault)
  | undecodable (fault : Text.Utf8.Fault)
  | unencodable (codes : Text.Unencodable)
  | refused (refusal : Files.Refusal)
  | nullInPath
  /-- a stream that was closed before, in memory or on a file -/
  | closedMemory
  | closedFile
  | notInMemory
  | missingPort
  | negativeIndex (index : Int)
  | unknownBasis (word : String)
  | unknownStyle (name : String)
  | negativeWidth
  | noHome
  /-- a value in place of a text -/
  | notAText (kind : String)
  /-- a value in place of a collection -/
  | notACollection (kind : String)
  /-- words that are no texts -/
  | notTexts (kind : String)
  /-- a plain logger in place of one with a context -/
  | unbound
  /-- a named value whose name is that of an argument which is given already -/
  | nameTaken (call name : String)
  | interrupted
  | foreign (error : Foreign)
  | unmakeable (fault : Foreign.Fault)

namespace Fault

/-- The bytes of a fault in a byte sequence, and where they lie. -/
def undecodableText (f : Text.Utf8.Fault) : String :=
  match f.bytes with
  | [b] =>
    "'utf-8' codec can't decode byte 0x" ++ String.ofList (Text.hex 2 b.toNat) ++ " in position " ++
      toString f.position ++ ": " ++ f.why.message
  | bs =>
    "'utf-8' codec can't decode bytes in position " ++ toString f.position ++ "-" ++
      toString (f.position + bs.length - 1) ++ ": " ++ f.why.message

/-- The name of a fault's kind. -/
def kind : Fault → String
  | integer f => f.kind
  | calendar _ => "ValueError"
  | json f => f.kind
  | template f => f.kind
  | yaml f => f.kind
  | markup _ => "MarkupError"
  | undecodable _ => "UnicodeDecodeError"
  | unencodable _ => "UnicodeEncodeError"
  | refused r => r.kind
  | nullInPath | closedMemory | closedFile | negativeIndex _ | unknownBasis _
  | negativeWidth => "ValueError"
  | notInMemory => "TypeError"
  | missingPort => "IndexError"
  | unknownStyle _ => "KeyError"
  | noHome => "RuntimeError"
  | notAText _ | unbound => "AttributeError"
  | nameTaken .. | notTexts _ | notACollection _ => "TypeError"
  | interrupted => "KeyboardInterrupt"
  | foreign e => e.kind
  | unmakeable f => f.kind

/-- What stands for the text of an error where it cannot be written. -/
def noText : String := "<exception str() failed>"

/-- The text of a fault. -/
def message : Fault → String
  | integer f => f.message
  | calendar f => f.message
  | json f => f.message
  | template f => f.message
  | yaml f => f.message
  | markup f => f.message
  | undecodable f => undecodableText f
  | unencodable codes => codes.message
  | refused r => r.message
  | nullInPath => "embedded null byte"
  | closedMemory => "I/O operation on closed file"
  | closedFile => "I/O operation on closed file."
  | notInMemory => "getvalue() is only available on in-memory writers"
  | missingPort => "list index out of range"
  | negativeIndex n => "drive index must be >= 0, got: " ++ String.ofList (Integer.text n)
  | unknownBasis word => String.ofList (Text.quoted word.toList) ++ " is not a valid Basis"
  | unknownStyle name => String.ofList (Text.quoted name.toList)
  | negativeWidth => "Sign not allowed in string format specifier"
  | noHome => "Could not determine home directory."
  | notTexts kind => "sequence item 0: expected str instance, " ++ kind ++ " found"
  | notACollection kind => "'" ++ kind ++ "' object is not iterable"
  | notAText kind => "'" ++ kind ++ "' object has no attribute 'split'"
  | unbound => "'Logger' object has no attribute 'bind'"
  | nameTaken call name => call ++ "() got multiple values for argument '" ++ name ++ "'"
  | interrupted => ""
  | foreign e =>
    match e.text with
    | .ok cs => String.ofList cs
    | .error _ => noText
  | unmakeable f => f.message

/-- The text of a fault, refused when an integer in it is too long to write. -/
def written : Fault → Except Integer.Fault String
  | foreign e => e.text.map String.ofList
  | f => .ok f.message

/-- The kinds that stop a run altogether and are not errors of the work in hand. -/
def stopKinds : List String := ["KeyboardInterrupt", "SystemExit", "GeneratorExit"]

/-- Whether a fault stops the whole run. -/
def isStop (f : Fault) : Bool := stopKinds.contains f.kind

/-- Whether a fault comes from the system. -/
def isOfSystem (f : Fault) : Bool := Foreign.systemKinds.contains f.kind

/-- The kinds of faults about a value that is not what it should be. -/
def valueKinds : List String :=
  ["ValueError", "UnicodeError", "UnicodeDecodeError", "UnicodeEncodeError",
    "UnicodeTranslateError", "JSONDecodeError"]

/-- Whether a fault is about a value. -/
def isOfValue (f : Fault) : Bool := valueKinds.contains f.kind

/-- Refuses named values of which one has the name of an argument that is given already. -/
def refuseTaken (call : String) (taken : List String) (c : Context) : Except Fault Unit :=
  match c.entries.find? fun e => taken.contains e.1 with
  | some e => .error (.nameTaken call e.1)
  | none => .ok ()

end Fault
end MachineDescriptor
