import MachineDescriptor.Command.Call
import MachineDescriptor.Files.Survey
import Std.Time.DateTime.Timestamp

/-!
The program. What a call may look at is brought from the disk into a tree, the call is made with
that tree, and what it changed there goes back to the disk.
-/
namespace MachineDescriptor.Program

open Files (Location Path Root Tree)

/-- The location that a path spells. -/
def locate (t : Tree) (p : Path) : Location :=
  if p.root = .current then t.current ++ p.names else p.names

/-- Brings what lies at a path into a tree, if anything does. -/
def bring? (t : Tree) (p : Path) : IO (Option Tree) := do
  let place := locate t p
  if (t.find? place).isSome then return some t
  try
    let target := toString (← IO.FS.realPath p.toString)
    let entry : Files.Entry ←
      try pure (.file (← IO.FS.readBinFile target).toList) catch _ => pure .directory
    let t := t.plant (Path.ofString target).names entry
    if (t.find? place).isSome || place.contains ".." then return some t
    return some (t.plant place (.link target))
  catch _ => return none

/-- Brings what lies at a path or at the nearest place above it; its names are given from the last
to the first. -/
def bringNearest (t : Tree) (base : Root) : List String → IO Tree
  | [] => pure t
  | name :: above => do
    match ← bring? t ⟨base, (name :: above).reverse⟩ with
    | some t => pure t
    | none => bringNearest t base above

/-- Brings what lies at a path that a user gave. -/
def bringGiven (t : Tree) (given : String) : IO Tree :=
  match (Path.ofString given).expandHome with
  | some p => bringNearest t p.root p.names.reverse
  | none => pure t

/-- The tree with the current directory and the devices. -/
def surface : IO Tree := do
  let here := (Path.ofString (toString (← IO.currentDir))).names
  let t := (Tree.bare.plant ["dev", "null"] (.device .null)).plant ["dev", "full"] (.device .full)
  return { t.withDirectories [] here with current := here }

/-- Brings all that a request may look at. -/
def gather (r : Command.Request) (t : Tree) : IO Tree := do
  let t ← bringGiven t r.config
  let t ← match r.destination with
    | .file path => bringGiven t path
    | .standardOutput => pure t
  let t ← match r.logFile with
    | some path => bringGiven t path
    | none => pure t
  match Configuration.load t r.config with
  | .error _ => return t
  | .ok c =>
    let directory := Path.ofString r.interfaces
    (c.machine.interfaces.getD []).foldlM (fun t interface =>
      let p := Network.addressPath directory interface
      bringNearest t p.root p.names.reverse) t

/-- Letters that occur neither among the words of a call nor in the texts of its configuration. -/
def lettersFor (words : List String) (t : Tree) : Text.Letters :=
  let read : Option (List String) := match Command.Request.read words with
    | .ok r => (Configuration.load t r.config).toOption.map fun c => c.machine.texts
    | .error _ => none
  .unusedIn ((words ++ read.getD []).flatMap String.toList)

/-- The spelling of a location. -/
def spell (place : Location) : String := Path.toString ⟨.root, place⟩

/-- Takes what changed between two trees back to the disk. -/
def putBack (old new : Tree) : IO Unit :=
  (Tree.changes old new []).forM fun (place, entry) =>
    match entry with
    | some (.file bytes) => do
      IO.FS.createDirAll (spell place.dropLast)
      IO.FS.writeBinFile (spell place) (ByteArray.mk bytes.toArray)
    | some _ => pure ()
    | none => IO.FS.removeFile (spell place)

/-- The first word of a file that the system keeps. -/
def firstWord (path : String) : IO String := do
  try
    return String.ofList ((← IO.FS.readFile path).toList.takeWhile fun c => c != ' ' && c != '\n')
  catch _ => return ""

/-- What lines of the journal say of this run. -/
def surroundings : IO Log.Surroundings := do
  let now ← Std.Time.Timestamp.now
  return {
    process := (← firstWord "/proc/self/stat").toInt?.getD 0
    created := now.toNanosecondsSinceUnixEpoch.val / 1000
    moduleName := "main"
    line := 1
    terminal := ← (← IO.getStderr).isTty
    symbols := true }

end MachineDescriptor.Program

open MachineDescriptor in
/-- Calls the program with the words of the command line. -/
def main (words : List String) : IO UInt32 := do
  let bare ← Program.surface
  let tree ← match Command.Request.read words with
    | .ok r => Program.gather r bare
    | .error _ => pure bare
  let scene : Command.Scene :=
    ⟨← Program.firstWord "/proc/sys/kernel/arch", ← (← IO.getStdout).isTty, false, Failure.text⟩
  let journal := Log.Journal.fresh (← Program.surroundings)
  let (ending, state) :=
    Command.call scene words ⟨(journal, tree), ""⟩ (Program.lettersFor words tree)
  Program.putBack tree state.placed.2
  (← IO.getStdout).putStr state.output
  (← IO.getStderr).putStr state.placed.1.errorText
  match ending with
  | .failed f => (← IO.getStderr).putStr (f.text ++ "\n")
  | _ => pure ()
  return ending.code.toUInt32
