import MachineDescriptor.Text.Hex
import MachineDescriptor.Value.Text

/-!
JSON texts of values. A text is put in double quotes, with escapes only where the format demands
them: for the quote, the backslash and the control characters. The members of an array or object
follow one another after a comma and a space, on one line.
-/
namespace MachineDescriptor.Json

open Text (hex joined)

/-- One character of a JSON string. -/
def escapedChar (c : Char) : List Char :=
  if c = '"' then ['\\', '"']
  else if c = '\\' then ['\\', '\\']
  else if c = '\n' then ['\\', 'n']
  else if c = '\r' then ['\\', 'r']
  else if c = '\t' then ['\\', 't']
  else if c = '\x0c' then ['\\', 'f']
  else if c = '\x08' then ['\\', 'b']
  else if c.toNat < 0x20 then ['\\', 'u'] ++ hex 4 c.toNat
  else [c]

/-- A JSON string. -/
def quoted (cs : List Char) : List Char := '"' :: cs.flatMap escapedChar ++ ['"']

/-- The name of an object's member that a key gives rise to. -/
def memberName : Value → List Char
  | .text s => s.toList
  | v => v.plain

def numberText (x : Binary64) : List Char :=
  match x with
  | .nan => "NaN".toList
  | .infinite negative => Binary64.signText negative ++ "Infinity".toList
  | x => x.text

mutual

/-- The JSON text of a value; a value of a kind that JSON does not know is given as a string. -/
def print : Value → List Char
  | .null => "null".toList
  | .bool b => (if b then "true" else "false").toList
  | .int n => Integer.text n
  | .float x => numberText x
  | .text s => quoted s.toList
  | .list vs | .tuple vs | .set vs => ['['] ++ joined [',', ' '] (printAll vs) ++ [']']
  | .dict entries => ['\x7b'] ++ joined [',', ' '] (printMembers entries) ++ ['\x7d']
  | v => quoted v.plain

def printAll : List Value → List (List Char)
  | [] => []
  | v :: vs => print v :: printAll vs

def printMembers : List (Value × Value) → List (List Char)
  | [] => []
  | (k, v) :: rest => (quoted (memberName k) ++ [':', ' '] ++ print v) :: printMembers rest

end

end MachineDescriptor.Json
