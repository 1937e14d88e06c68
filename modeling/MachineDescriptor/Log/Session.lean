import MachineDescriptor.Log.Notice

/-!
Sessions: lists of steps at a journal, given as data. The speaker of the session changes when it is
set up or bound to a context, and a clock moves on with every timed stage. Every step of a session
is taken, also after one that failed; the steps inside a stage end at the first that fails.
-/
namespace MachineDescriptor.Log

/-- How a message is given out. -/
inductive Verdict where
  | ok
  | warn
  | fail

/-- One step of a session. -/
inductive Step where
  | setUp (setup : Journal.Setup)
  /-- binds a context to the speaker -/
  | bind (context : Context)
  /-- binds more to the innermost context of the speaker -/
  | rebind (context : Context)
  | notice (verdict : Verdict) (message : String) (context : Context)
  | trace (message : String) (arguments : List Value) (context : Context)
  | log (level : Level) (message : String) (arguments : List Value) (context : Option Context)
  /-- a stage that takes some milliseconds and ends in a failure if one is given -/
  | stage (description : String) (elapsed : Int) (body : List Step) (failure : Option Failure)

/-- The state of a session: the journal and the tree, the speaker, the clock in seconds, and the log
file that is watched together with how many of its bytes were seen. -/
structure Session where
  placed : Journal.Placed
  speaker : Speaker
  clock : Binary64
  watched : Option (String × Nat)

namespace Session

/-- A session with a journal that was not set up. -/
def fresh (s : Surroundings) (tree : Files.Tree) : Session :=
  ⟨(Journal.fresh s, tree), Journal.rootLogger, Binary64.zeroOf false, none⟩

abbrev Acting := EStateM Failure Session

def onPlaced (f : Journal.Placed → Journal.Placed) : Acting Unit := modify fun s =>
  { s with placed := f s.placed }

/-- Refuses a context that names an argument of the call. -/
def refuseNames (call : String) (taken : List String) (c : Context) : Acting Unit := fun s =>
  match Fault.refuseTaken call taken c with
  | .ok _ => .ok () s
  | .error f => .error (.fault f) s

/-- The log file to watch: one that is watched already is watched on, and any other from its
start. -/
def watch (file : Option String) (watched : Option (String × Nat)) : Option (String × Nat) :=
  match file with
  | none => none
  | some name =>
    if name.isEmpty then none
    else
      match watched with
      | some (old, seen) => if old = name then some (old, seen) else some (name, 0)
      | none => some (name, 0)

/-- Sets the journal up; its own logger speaks from then on. -/
def setUp (setup : Journal.Setup) : Acting Unit := fun s =>
  match Journal.setUp setup s.placed with
  | .ok _ placed =>
    .ok () { s with
      placed, speaker := Journal.rootLogger, watched := watch setup.file s.watched }
  | .error f placed => .error (.fault f) { s with placed }

def rebind (c : Context) : Acting Unit := do
  refuseNames "ContextLoggerAdapter.bind" ["self"] c
  let s ← get
  match s.speaker.rebind? c with
  | some speaker => set { s with speaker }
  | none => throw (.fault .unbound)

/-- Gives a notice out. -/
def notice (verdict : Verdict) (message : String) (c : Context) : Acting Unit := do
  let speaker := (← get).speaker
  let taken := ["logger", "msg"]
  match verdict with
  | .ok =>
    refuseNames "Log.ok" taken c
    onPlaced (Journal.ok speaker message c)
  | .warn =>
    refuseNames "Log.warn" taken c
    onPlaced (Journal.warn speaker message c)
  | .fail =>
    refuseNames "Log.fail" taken c
    onPlaced (Journal.fail speaker message c)

/-- Moves the clock on by some milliseconds. -/
def pass (elapsed : Int) : Acting Unit := modify fun s =>
  { s with clock := Binary64.add s.clock (Binary64.ofRatio (elapsed < 0) elapsed.natAbs 1000) }

/-- Runs the body of a stage, with an announcement before it and a notice about its end. -/
def stage (description : String) (body : Acting Unit) : Acting Unit := do
  let start := (← get).clock
  let speaker := (← get).speaker
  onPlaced (Journal.begin speaker description)
  let outcome : Option Failure ← fun s =>
    match body s with
    | .ok _ s => .ok none s
    | .error f s => .ok (some f) s
  let seconds := Binary64.add (← get).clock start.neg
  onPlaced (Journal.finish speaker description seconds outcome)
  match outcome with
  | some f => throw f
  | none => pure ()

mutual

/-- Takes one step. -/
def act : Step → Acting Unit
  | .setUp setup => setUp setup
  | .bind c => do
    refuseNames "Log.bind" ["logger"] c
    modify fun s => { s with speaker := s.speaker.bind c }
  | .rebind c => rebind c
  | .notice verdict message c => notice verdict message c
  | .trace message arguments c => do
    refuseNames "Log.trace" ["logger", "msg"] c
    onPlaced (Journal.say (← get).speaker Log.trace message arguments (Journal.unlessEmpty c))
  | .log level message arguments c => do
    onPlaced (Journal.say (← get).speaker level message arguments c)
  | .stage description elapsed body failure =>
    stage description do
      pass elapsed
      actAll body
      match failure with
      | some f => throw f
      | none => pure ()

/-- Takes steps up to the first that fails. -/
def actAll : List Step → Acting Unit
  | [] => pure ()
  | s :: rest => do
    act s
    actAll rest

end

/-- The bytes of the watched log file, none where it cannot be read. -/
def watchedBytes (s : Session) (name : String) : List UInt8 :=
  match s.placed.2.read (Files.Path.ofString name) with
  | .ok bytes => bytes
  | .error _ => []

/-- What is seen after a step: its outcome, what was added to the error stream, and what was added
to the log file, where one is watched. -/
structure Sight where
  outcome : Except Failure Unit
  errorText : String
  fileText : Option (List Char)

/-- What is seen of a session beyond so many characters of the error stream; the log file is then
seen to its end. -/
def look (outcome : Except Failure Unit) (seen : Nat) (s : Session) : Sight × Session :=
  let added := String.ofList (s.placed.1.errorText.toList.drop seen)
  match s.watched with
  | none => (⟨outcome, added, none⟩, s)
  | some (name, old) =>
    let bytes := s.watchedBytes name
    (⟨outcome, added, some (Text.Utf8.decodeLossy (bytes.drop old))⟩,
      { s with watched := some (name, bytes.length) })

/-- What is seen after each step, together with the session at that time. -/
def perform : List Step → Session → List (Sight × Session)
  | [], _ => []
  | step :: rest, s =>
    let seen := s.placed.1.errorText.length
    let (sight, s) := match act step s with
      | .ok _ s => look (.ok ()) seen s
      | .error f s => look (.error f) seen s
    (sight, s) :: perform rest s

end Session
end MachineDescriptor.Log
