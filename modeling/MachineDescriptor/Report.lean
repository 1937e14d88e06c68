import MachineDescriptor.Context
import MachineDescriptor.Fault
import MachineDescriptor.Text.Blank

/-!
Reports: the errors that the library raises itself. A report has an exit code between 0 and 255, a
message on one line, a context of named values, and possibly a cause. What a user sees of it is one
line of bounded length.
-/
namespace MachineDescriptor

/-- What a report is about. All but general reports end the current call for good. -/
inductive Report.Kind where
  | general
  | fatal
  | config
  | writer
deriving DecidableEq

namespace Report

def Kind.name : Kind → String
  | .general => "Phys2KvmError"
  | .fatal => "Fatal"
  | .config => "ConfigError"
  | .writer => "XmlWriterError"

/-- The kind that a name stands for. -/
def Kind.ofName? (name : String) : Option Kind :=
  [Kind.general, .fatal, .config, .writer].find? (·.name == name)

def Kind.isFatal : Kind → Bool
  | .general => false
  | _ => true

/-- The exit code that takes the place of the code one. -/
def Kind.ownCode : Kind → Int
  | .config => 2
  | .writer => 3
  | _ => 1

/-- An error behind a report: its kind and its text, which an integer that is too long to write
makes impossible. -/
structure Cause where
  kind : String
  text : Except Integer.Fault String

end Report

structure Report where
  kind : Report.Kind
  code : Nat
  message : String
  cause : Option Report.Cause
  context : Context

namespace Report

/-- An exit code brought into the range 0 to 255; below zero it becomes one. -/
def clampCode (code : Int) : Int := if code < 0 then 1 else if 255 < code then 255 else code

theorem clampCode_mem (code : Int) : 0 ≤ clampCode code ∧ clampCode code ≤ 255 := by
  unfold clampCode
  split
  · omega
  · split <;> omega

theorem clampCode_of_mem {code : Int} (low : 0 ≤ code) (high : code ≤ 255) :
    clampCode code = code := by
  unfold clampCode
  rw [if_neg (by omega), if_neg (by omega)]

/-- A text brought to one line of the usual length. -/
def oneLine (s : String) : String := String.ofList (Text.oneLine Text.lineLimit s.toList)

/-- The exit code for a given value: a value equal to one stands for the kind's own code. -/
def codeOf (kind : Kind) (given : Value) : Except Integer.Fault Nat := do
  let isOne := (given.number?.map fun n => n.equals (.whole 1)).getD false
  let code ← if isOne then pure kind.ownCode else given.toIntegerOr 1
  pure (clampCode code).toNat

/-- The message for a given text; an empty one is replaced by the name of the kind. -/
def messageOf (kind : Kind) (given : String) : String :=
  let line := oneLine given
  if line.isEmpty then kind.name else line

/-- The report of a kind with its own exit code. -/
def ofMessage (kind : Kind) (message : String) (cause : Option Cause) (context : Context) :
    Report :=
  ⟨kind, kind.ownCode.toNat, messageOf kind message, cause, context⟩

/-- The text of a value given as a message: nothing that is empty or false has one. The words of a
byte sequence are no texts, and other values have no words. -/
def givenMessage (given : Value) : Except Fault String :=
  match given.text? with
  | some s => .ok s
  | none =>
    match given with
    | .bytes bs =>
      if bs.all fun b => b == 0x20 || (0x09 ≤ b && b ≤ 0x0d) then .ok ""
      else .error (.notTexts given.kind)
    | v => if v.isTrue then .error (.notAText v.kind) else .ok ""

/-- The report made of a given code and message. -/
def make (kind : Kind) (code message : Value) (cause : Option Cause) (context : Context) :
    Except Fault Report := do
  let code ← (codeOf kind code).mapError .integer
  let message ← givenMessage message
  pure ⟨kind, code, messageOf kind message, cause, context⟩

/-- The report with more named values in its context. -/
def withContext (r : Report) (more : Context) : Report :=
  { r with context := r.context.merge more }

/-- The report with more named values, none of which may be named like the report itself. -/
def annotated (r : Report) (more : Context) : Except Fault Report := do
  Fault.refuseTaken "Phys2KvmError.with_context" ["self"] more
  pure (r.withContext more)

/-- The entries of a context in the order of their names, each with its quoted value. -/
def contextText (c : Context) : Except Integer.Fault String :=
  if c.isWritable then
    .ok (String.ofList (Text.joined [',', ' ']
      (c.sorted.map fun e => e.1.toList ++ ['='] ++ e.2.display)))
  else .error .tooLongToWrite

/-- The line that a user sees, with the context and the cause as asked for. -/
def userMessage (r : Report) (withContext withCause : Bool) : Except Integer.Fault String := do
  let context ← if withContext && !r.context.isEmpty then do
      let text ← contextText r.context
      pure (" [" ++ oneLine text ++ "]")
    else pure ""
  let cause ← match r.cause with
    | some c =>
      if withCause then do pure (" (cause: " ++ c.kind ++ ": " ++ oneLine (← c.text) ++ ")")
      else pure ""
    | none => pure ""
  pure (r.message ++ context ++ cause)

end Report

/-- What an operation ends in when it fails: a report of the library or a fault below it. -/
inductive Failure where
  | report (r : Report)
  | fault (f : Fault)

namespace Failure

/-- The name of the failure's kind. -/
def kind : Failure → String
  | report r => r.kind.name
  | fault f => f.kind

/-- The text of a failure. -/
def text : Failure → String
  | report r => r.message
  | fault f => f.message

/-- The text of a failure, refused when an integer in it is too long to write. -/
def written : Failure → Except Integer.Fault String
  | report r => .ok r.message
  | fault f => f.written

/-- The failure as the cause of a report. -/
def asCause (f : Failure) : Report.Cause := ⟨f.kind, f.written⟩

/-- Whether the failure stops the whole run and is not an error of the work in hand. -/
def isStop : Failure → Bool
  | report _ => false
  | fault f => f.isStop

/-- The line about a failure on a command line, the fuller the more it is asked for. -/
def line (f : Failure) (verbose : Int) : Except Integer.Fault String :=
  match f with
  | report r => r.userMessage (1 ≤ verbose) (2 ≤ verbose)
  | fault f => do
    let text := Report.oneLine (← f.written)
    pure (if 2 ≤ verbose then f.kind ++ ": " ++ text else if text.isEmpty then f.kind else text)

end Failure

/-- A fault as the cause of a report. -/
def Fault.asCause (f : Fault) : Report.Cause := ⟨f.kind, f.written⟩

end MachineDescriptor
