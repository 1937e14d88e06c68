import MachineDescriptor.Files.Refusal
import MachineDescriptor.Value.Text

/-!
Foreign errors: those that come from outside the library, made of a kind and of values. An error of
the system takes its kind from its number, and says what it is about by a reason and by paths.
-/
namespace MachineDescriptor

structure Foreign where
  kind : String
  parts : List Value

namespace Foreign

/-- Why an error cannot be made. -/
inductive Fault where
  /-- a number of characters that is no integer, by its kind -/
  | notAnInteger (kind : String)
  | integerTooLarge

def Fault.kind : Fault → String
  | notAnInteger _ => "TypeError"
  | integerTooLarge => "ValueError"

def Fault.message : Fault → String
  | notAnInteger kind => "'" ++ kind ++ "' object cannot be interpreted as an integer"
  | integerTooLarge => "cannot fit 'int' into an index-sized integer"

/-- The kinds of errors that come from the system and carry a number and a reason. -/
def systemKinds : List String :=
  ["OSError", "FileNotFoundError", "PermissionError", "FileExistsError", "IsADirectoryError",
    "NotADirectoryError", "BrokenPipeError", "BlockingIOError", "ChildProcessError",
    "ConnectionError", "ConnectionAbortedError", "ConnectionRefusedError", "ConnectionResetError",
    "InterruptedError", "ProcessLookupError", "TimeoutError"]

/-- The kind of an error. A system error that carries a number is of that number's kind; truth
values count as numbers. -/
def kindOf (kind : String) (parts : List Value) : String :=
  let kind := if kind = "IOError" ∨ kind = "EnvironmentError" then "OSError" else kind
  match parts with
  | number :: _ :: rest =>
    if kind = "OSError" ∧ rest.length ≤ 3 then
      match number with
      | .int n => Files.Refusal.kindOf n
      | .bool b => Files.Refusal.kindOf (if b then 1 else 0)
      | _ => kind
    else kind
  | _ => kind

/-- What stands after the number and the reason of a system error: the path that it is about and a
second path. -/
structure Subject where
  path : Value
  second : Option Value

/-- The value unless it is null. -/
def unlessNull : Option Value → Option Value
  | some .null => none
  | v => v

/-- What a system error is about. An operation that would have had to wait may give the number of
characters that it got through in place of a path. -/
def subject (kind : String) (rest : List Value) : Option Subject :=
  match unlessNull rest.head? with
  | none => none
  | some path =>
    if kind = "BlockingIOError" ∧ path.number?.isSome then none
    else some ⟨path, unlessNull rest[2]?⟩

/-- The largest number of characters. -/
def maxCount : Int := Int.pow 2 63 - 1

/-- Refuses a number of characters that is no integer or out of reach. -/
def checkCount (v : Value) : Except Fault Unit :=
  match v.number? with
  | some (.binary _) => .error (.notAnInteger v.kind)
  | some (.whole n) => if n < -maxCount - 1 ∨ maxCount < n then .error .integerTooLarge else .ok ()
  | none => .ok ()

/-- The error of a kind that is made of values. -/
def ofParts (kind : String) (parts : List Value) : Except Fault Foreign := do
  let kind := kindOf kind parts
  match parts with
  | _ :: _ :: path :: more =>
    if kind = "BlockingIOError" ∧ more.length ≤ 2 then checkCount path
  | _ => pure ()
  pure ⟨kind, parts⟩

/-- The text of the values that an error is made of: nothing, the only one, or all. -/
def partsText (parts : List Value) : Except Integer.Fault (List Char) :=
  match parts with
  | [] => .ok []
  | [v] => v.written
  | vs => (Value.tuple vs).shown

/-- The text of a system error with a number, a reason and what follows them. -/
def systemText (kind : String) (number reason : Value) (rest : List Value) :
    Except Integer.Fault (List Char) := do
  let head := "[Errno ".toList ++ (← number.written) ++ "] ".toList ++ (← reason.written)
  match subject kind rest with
  | none => pure head
  | some s =>
    let path ← s.path.shown
    match s.second with
    | none => pure (head ++ ": ".toList ++ path)
    | some v => pure (head ++ ": ".toList ++ path ++ " -> ".toList ++ (← v.shown))

/-- The text of an error. A missing key is quoted, and a system error of two to five values has a
form of its own. -/
def text (e : Foreign) : Except Integer.Fault (List Char) :=
  if e.kind = "KeyError" then
    match e.parts with
    | [v] => v.shown
    | vs => partsText vs
  else
    match e.parts with
    | number :: reason :: rest =>
      if systemKinds.contains e.kind ∧ rest.length ≤ 3 then systemText e.kind number reason rest
      else partsText e.parts
    | vs => partsText vs

end Foreign
end MachineDescriptor
