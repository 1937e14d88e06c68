import MachineDescriptor.Command.Running

/-!
Calls of the program with the words of a command line. A call that makes no sense is refused before
anything is done, and one that asks for the version or for help is answered at once.
-/
namespace MachineDescriptor.Command

/-- How a call ends. -/
inductive Ending where
  | misused (m : Misuse)
  /-- the program told something about itself -/
  | answered
  | ran (code : Nat)
  /-- the journal could not be set up, or a failure could not be told in it -/
  | failed (f : Failure)

namespace Ending

/-- The exit code of a call. -/
def code : Ending → Nat
  | misused _ => 2
  | answered => 0
  | ran code => code
  | failed _ => 1

end Ending

/-- The line about the version. -/
def versionLine : String := Document.programName ++ " " ++ Document.version ++ "\n"

/-- The lines about all spellings. -/
def helpLines : String :=
  "usage: " ++ Document.programName ++ " SWITCH ...\n\nswitches:\n" ++
    String.join (Switch.spellings.map fun s => "  " ++ s.1 ++ "\n")

/-- The line about a misuse. -/
def misuseLine (m : Misuse) : String :=
  Document.programName ++ ": error: " ++ m.message ++ "\n"

/-- A state with more on the error stream. -/
def State.withError (s : State) (text : String) : State :=
  let (journal, tree) := s.placed
  { s with placed := ({ journal with errorText := journal.errorText ++ text }, tree) }

/-- A call with the words of a command line, and with letters for the surrogate codes in the texts
that it reads. -/
def call (scene : Scene) (words : List String) (s : State) (letters : Text.Letters := .plain) :
    Ending × State :=
  match Request.read words with
  | .error (.misuse m) => (.misused m, s.withError (misuseLine m))
  | .error .version => (.answered, { s with output := s.output ++ versionLine })
  | .error .help => (.answered, { s with output := s.output ++ helpLines })
  | .ok r =>
    match r.run scene letters s with
    | .ok code s => (.ran code, s)
    | .error f s => (.failed f, s)

end MachineDescriptor.Command
