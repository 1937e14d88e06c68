import MachineDescriptor.Text.Quoted

/-!
Refusals of the file system: a number, the reason in words, and the path it is about.
-/
namespace MachineDescriptor.Files

structure Refusal where
  number : Nat
  reason : String
  subject : Option String
deriving DecidableEq

namespace Refusal

def noSuchFile : String → Refusal := fun path => ⟨2, "No such file or directory", some path⟩
def inputOutput : Refusal := ⟨5, "Input/output error", none⟩
def permissionDenied : String → Refusal := fun path => ⟨13, "Permission denied", some path⟩
def fileExists : String → Refusal := fun path => ⟨17, "File exists", some path⟩
def notADirectory : String → Refusal := fun path => ⟨20, "Not a directory", some path⟩
def isADirectory : String → Refusal := fun path => ⟨21, "Is a directory", some path⟩
def noSpace : Refusal := ⟨28, "No space left on device", none⟩
def nameTooLong : String → Refusal := fun path => ⟨36, "File name too long", some path⟩
def tooManyLinks : String → Refusal := fun path =>
  ⟨40, "Too many levels of symbolic links", some path⟩

/-- The kind of error that stands for a number; most numbers have no kind of their own. -/
def kindOf (number : Int) : String :=
  if number = 2 then "FileNotFoundError"
  else if number = 1 ∨ number = 13 then "PermissionError"
  else if number = 3 then "ProcessLookupError"
  else if number = 4 then "InterruptedError"
  else if number = 10 then "ChildProcessError"
  else if number = 11 ∨ number = 114 ∨ number = 115 then "BlockingIOError"
  else if number = 17 then "FileExistsError"
  else if number = 20 then "NotADirectoryError"
  else if number = 21 then "IsADirectoryError"
  else if number = 32 ∨ number = 108 then "BrokenPipeError"
  else if number = 103 then "ConnectionAbortedError"
  else if number = 104 then "ConnectionResetError"
  else if number = 110 then "TimeoutError"
  else if number = 111 then "ConnectionRefusedError"
  else "OSError"

def kind (r : Refusal) : String := kindOf r.number

def message (r : Refusal) : String :=
  "[Errno " ++ toString r.number ++ "] " ++ r.reason ++
    match r.subject with
    | none => ""
    | some path => ": " ++ String.ofList (Text.quoted path.toList)

end Refusal
end MachineDescriptor.Files
