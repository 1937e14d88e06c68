import MachineDescriptor.Command.Request
import MachineDescriptor.Command.Summary
import MachineDescriptor.Configuration
import MachineDescriptor.Document.Saving
import MachineDescriptor.Log.Notice
import MachineDescriptor.Terminal.Panel

/-!
Running a command line: the machine's configuration is loaded and its document goes to a file or to
the standard output. Whatever fails on the way is told in the journal and becomes an exit code; only
a journal that cannot be set up fails the whole call.
-/
namespace MachineDescriptor.Command

open Log (Journal)

/-- What a run finds: the architecture of the host, whether the standard output is a terminal,
whether the user interrupts while the configuration is loaded, and the traces that failures leave in
this run. -/
structure Scene where
  host : String
  terminal : Bool
  interrupted : Bool
  trace : Failure → String

/-- What a run has left behind so far: the journal with the tree, and the text on the standard
output. -/
structure State where
  placed : Journal.Placed
  output : String

abbrev Running := EStateM Failure State

/-- The logger of all that the command line does. -/
def speaker : Log.Speaker := Journal.rootLogger

def note (step : Journal.Placed → Journal.Placed) : Running Unit := modify fun s =>
  { s with placed := step s.placed }

def print (text : String) : Running Unit := modify fun s => { s with output := s.output ++ text }

def ofExcept {α : Type} : Except Failure α → Running α
  | .ok a => pure a
  | .error f => throw f

/-- Takes a step on the journal and the tree that may fail. -/
def onPlaced {α : Type} (step : Journal.Placed → Except Failure α × Journal.Placed) :
    Running α := do
  let (outcome, placed) := step (← get).placed
  note fun _ => placed
  ofExcept outcome

/-- The configuration that is asked for, with a port for each disk. -/
def load (scene : Scene) (r : Request) (letters : Text.Letters) :
    Running (Machine × List Int) := do
  if scene.interrupted then throw (.fault .interrupted)
  let configuration ← ofExcept (Configuration.load (← get).placed.2 r.config letters)
  let given := (r.ports.map fun ns => ns.map .int).getD configuration.ports
  let ports ← ofExcept (Typing.ports given)
  ofExcept (Typing.checkPorts configuration.machine.disks.length ports.length)
  pure (configuration.machine, ports)

/-- What a document about a machine is written from. -/
def order (scene : Scene) (r : Request) (m : Machine) (ports : List Int)
    (letters : Text.Letters := .plain) : Document.Order :=
  { machine := m
    ports := ports.map .int
    architecture := Document.architecture r.architecture scene.host
    program := Document.programName
    interfaces := Files.Path.ofString r.interfaces
    speaker
    letters }

/-- Notes that a configuration was loaded. -/
def noteLoaded (o : Document.Order) : Running Unit :=
  note (Journal.say speaker Log.trace "config loaded" [] (some (Context.ofList
    [("guest", .text o.machine.name), ("disks", .int o.machine.disks.length),
      ("arch", .text o.architecture)])))

/-- Prints the document. -/
def printDocument (o : Document.Order) : Running Unit := do
  let text ← onPlaced fun (journal, tree) =>
    let (outcome, desk) := Document.render o tree journal
    (outcome, (desk.journal, desk.tree))
  print text
  note (Journal.ok speaker "physical.xml written to stdout"
    (Context.ofList [("guest", .text o.machine.name)]))

/-- Takes a step as a stage of the run. A run has no clock, so no stage takes any time. -/
def staged {α : Type} (description : String)
    (step : Journal.Placed → Except Failure α × Journal.Placed) : Running α :=
  onPlaced fun placed =>
    let (outcome, placed) := step (Journal.begin speaker description placed)
    let failure := match outcome with
      | .ok _ => none
      | .error f => some f
    (outcome, Journal.finish speaker description (Binary64.zeroOf false) failure placed)

/-- The panel with the summary. -/
def panel (o : Document.Order) (path : String) : Except Failure String := do
  let text ← (summary o.machine path o.architecture).mapError fun f => .fault (.integer f)
  let panel ← (Terminal.panel Terminal.usualColumns "physical.xml".toList text).mapError fun f =>
    .fault (.markup f)
  pure (String.ofList panel)

/-- Writes the document to a file; a terminal shows a summary of it. -/
def saveDocument (scene : Scene) (o : Document.Order) (path : String) : Running Unit := do
  let shown ← staged ("Writing " ++ path) (Document.save o (Files.Path.ofString path))
  if scene.terminal then print (← ofExcept (panel o shown))

/-- The work that a request asks for. -/
def work (scene : Scene) (r : Request) (letters : Text.Letters) : Running Unit := do
  let (m, ports) ← load scene r letters
  let o := order scene r m ports letters
  noteLoaded o
  match r.destination with
  | .standardOutput => printDocument o
  | .file path => saveDocument scene o path

/-- Tells a failure in the journal and answers the exit code for it. Where the failure is not of a
kind that is expected, its trace is told as well. -/
def tell (scene : Scene) (r : Request) (f : Failure) : Running Nat := do
  match f with
  | .report report =>
    if report.kind.isFatal then
      let line ← ofExcept ((f.line r.verbose).mapError fun f => .fault (.integer f))
      note (Journal.fail speaker line Context.empty)
      return report.code
  | .fault .interrupted =>
    note (Journal.warn speaker "Interrupted by user (Ctrl+C)." Context.empty)
    return 130
  | _ => pure ()
  note (Journal.say speaker Log.error "💥 UNHANDLED %s: %s" [.text f.kind, .text f.text] none)
  note (Journal.say speaker Log.debug (scene.trace f) [] none)
  return 1

/-- What the journal of a request is set up with. -/
def Request.setup (r : Request) : Journal.Setup :=
  { Journal.Setup.plain with
    verbose := r.verbose, quiet := r.quiet, colour := r.colour, json := r.jsonLogs,
    file := r.logFile }

/-- Runs a request to its exit code. -/
def Request.run (r : Request) (scene : Scene) (letters : Text.Letters) : Running Nat := fun s =>
  match Journal.setUp r.setup s.placed with
  | .error f placed => .error (.fault f) { s with placed }
  | .ok _ placed =>
    match work scene r letters { s with placed } with
    | .ok _ s => .ok 0 s
    | .error f s => tell scene r f s

end MachineDescriptor.Command
