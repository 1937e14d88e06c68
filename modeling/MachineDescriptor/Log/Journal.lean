import MachineDescriptor.Files.Tree
import MachineDescriptor.Log.Console
import MachineDescriptor.Log.Encoding
import MachineDescriptor.Log.Ndjson

/-!
The journal: where log records go. It keeps every record that was made, and hands those at or above
its level to its outlets, which write lines to the error stream or to a file in the tree. A record
that an outlet cannot put into words is dropped there.
-/
namespace MachineDescriptor.Log

/-- How an outlet writes a record. -/
inductive Layout where
  | console (style : Style)
  | json (utc : Bool)

/-- Where an outlet writes to. -/
inductive Sink where
  | errorStream
  | file (place : Files.Location)
  | device

structure Outlet where
  layout : Layout
  sink : Sink

/-- What records and lines say of the run: its process, the time, where records come from, and
whether the error stream is a terminal that can write symbols. -/
structure Surroundings where
  process : Int
  created : Int
  moduleName : String
  line : Int
  terminal : Bool
  symbols : Bool

/-- The journal of a run; its level is unknown until it is set up. -/
structure Journal where
  surroundings : Surroundings
  level : Option Level
  outlets : List Outlet
  errorText : String
  records : List Record

namespace Journal

/-- A journal that was not set up. -/
def fresh (s : Surroundings) : Journal := ⟨s, none, [], "", []⟩

/-- The line of a record in a layout. -/
def layOut (s : Surroundings) (layout : Layout) (r : Record) : Except Fault (List Char) :=
  match layout with
  | .console style => consoleLine style s.terminal s.process r
  | .json utc => jsonLine utc s.process r

/-- A journal together with the tree that its files are in. -/
abbrev Placed := Journal × Files.Tree

/-- Puts a line on a sink. -/
def putLine (sink : Sink) (line : List Char) : Placed → Placed := fun (j, t) =>
  match sink with
  | .errorStream => ({ j with errorText := j.errorText ++ String.ofList line ++ "\n" }, t)
  | .file place => (j, t.append place (Text.Utf8.encode (line ++ ['\n'])))
  | .device => (j, t)

/-- Hands a record to one outlet. -/
def handTo (r : Record) (p : Placed) (o : Outlet) : Placed :=
  match layOut p.1.surroundings o.layout r with
  | .ok line => putLine o.sink line p
  | .error _ => p

/-- The level of a journal that was not set up. Its records go to the error stream as they are. -/
def silentLevel : Level := warning

/-- Takes a record in. -/
def enter (r : Record) (p : Placed) : Placed :=
  let p : Placed := ({ p.1 with records := p.1.records ++ [r] }, p.2)
  match p.1.level with
  | some level => if level ≤ r.level then p.1.outlets.foldl (handTo r) p else p
  | none =>
    if silentLevel ≤ r.level then
      match r.message with
      | .ok line => putLine .errorStream line p
      | .error _ => p
    else p

/-- The record that a speaker makes at the present time. -/
def recordOf (s : Surroundings) (speaker : Speaker) (level : Level) (template : Value)
    (arguments : List Value) (context : Option Context) : Record :=
  ⟨level, levelName level, speaker.name, template, arguments, speaker.contextOf context, none,
    s.moduleName, s.line, s.created⟩

/-- Lets a speaker say something. -/
def say (speaker : Speaker) (level : Level) (template : String) (arguments : List Value)
    (context : Option Context) (p : Placed) : Placed :=
  enter (recordOf p.1.surroundings speaker level (.text template) arguments context) p

/-- What a journal is set up with. -/
structure Setup where
  verbose : Int
  quiet : Int
  colour : Bool
  showMillis : Bool
  utc : Bool
  showLogger : Bool
  json : Bool
  file : Option String

def Setup.plain : Setup := ⟨0, 0, true, false, false, false, false, none⟩

/-- The style of the error stream. -/
def Setup.style (setup : Setup) (symbols : Bool) : Style :=
  { colour := setup.colour
    showMillis := setup.showMillis || 3 ≤ setup.verbose
    showSource := 3 ≤ setup.verbose
    showProcess := 2 ≤ setup.verbose
    showLogger := setup.showLogger
    utc := setup.utc
    levelWidth := Style.plain.levelWidth
    symbols }

/-- The style of a log file, which shows everything and has no colours. -/
def Setup.fileStyle (setup : Setup) (symbols : Bool) : Style :=
  { colour := false
    showMillis := true
    showSource := true
    showProcess := true
    showLogger := true
    utc := setup.utc
    levelWidth := Style.plain.levelWidth
    symbols }

/-- The logger of the library. -/
def rootLogger : Speaker := .logger "phys2kvm"

/-- Opens a log file, with the directories above it. -/
def openFile (path : String) (t : Files.Tree) : Except Fault (Sink × Files.Tree) :=
  let given := Files.Path.ofString path
  match given.expandHome with
  | none => .error (if given.userHasNull then .nullInPath else .noHome)
  | some p =>
    if p.hasNull then .error .nullInPath
    else
      match t.canonical p with
      | none =>
        .error (.foreign ⟨"RuntimeError",
          [.text ("Symlink loop from " ++ String.ofList (Text.quoted p.toString.toList))]⟩)
      | some p =>
        match Files.Tree.makeDirectories p.names.length t p.parent with
        | .error r => .error (.refused r)
        | .ok t =>
          match t.openTo false p with
          | .error r => .error (.refused r)
          | .ok (.file place, t) => .ok (.file place, t)
          | .ok (.device _, t) => .ok (.device, t)

/-- Sets the journal up anew: level and outlets, the error stream first. When the log file cannot
be opened, the journal is left with the error stream alone. -/
def setUp (setup : Setup) : EStateM Fault Placed Unit := fun (j, t) =>
  let level := threshold setup.verbose setup.quiet
  let symbols := j.surroundings.symbols
  let layout := fun (style : Style) => if setup.json then Layout.json setup.utc else .console style
  let stream : Outlet := ⟨layout (setup.style symbols), .errorStream⟩
  let j := { j with level := some level, outlets := [stream] }
  let announce : Placed → Placed := fun p =>
    say rootLogger trace "TRACE enabled (verbose >= 3)" [] none
      (say rootLogger debug "Logger initialized (level=%s, pid=%s)"
        [.text (levelName level), .int j.surroundings.process] none p)
  match setup.file with
  | none => .ok () (announce (j, t))
  | some path =>
    if path.isEmpty then .ok () (announce (j, t))
    else
      match openFile path t with
      | .error f => .error f (j, t)
      | .ok (sink, t) =>
        let file : Outlet := ⟨layout (setup.fileStyle symbols), sink⟩
        .ok () (announce ({ j with outlets := [stream, file] }, t))

end Journal
end MachineDescriptor.Log
