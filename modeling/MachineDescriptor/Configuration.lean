import MachineDescriptor.Files.Tree
import MachineDescriptor.Json.Reader
import MachineDescriptor.Machine.Typing
import MachineDescriptor.Text.Line
import MachineDescriptor.Yaml.Loading

/-!
Configurations: a machine together with the ports of its disks, read from a file. The suffix of the
file's name tells its format. A file that cannot be read as what it should be is reported with the
path; the ports are kept as they are given.
-/
namespace MachineDescriptor

structure Configuration where
  machine : Machine
  ports : List Value

namespace Configuration

open Files (Path Tree)

/-- The formats of configurations. -/
inductive Format where
  | json
  | yaml
deriving DecidableEq

/-- The format that a suffix stands for, in whichever case it is written. -/
def Format.ofSuffix? (suffix : String) : Option Format :=
  let suffix := Text.lower suffix
  if suffix = ".json" then some .json
  else if suffix = ".yaml" ∨ suffix = ".yml" then some .yaml
  else none

/-- The value of a text in a format. A text of which a YAML loader makes nothing, or something that
counts as false, stands for an empty mapping. -/
def valueOf (letters : Text.Letters) (format : Format) (cs : List Char) : Except Fault Value :=
  match format with
  | .json => (Json.read cs letters).mapError .json
  | .yaml =>
    match Yaml.load letters cs with
    | .ok v => .ok (if v.isTrue then v else .dict [])
    | .error f => .error (.yaml f)

/-- The value of a file. -/
def readValue (letters : Text.Letters) (tree : Tree) (path : Path) (format : Format) :
    Except Fault Value := do
  let bytes ← (tree.read path).mapError .refused
  let cs ← (Text.Utf8.decode bytes).mapError .undecodable
  valueOf letters format (Text.unifyLineFeeds cs)

/-- Whether a fault of reading is one of the file's text and not of the work on it. -/
def isOfText : Fault → Bool
  | .yaml f => f.isOfText
  | _ => true

/-- The report about a configuration file. -/
def report (path : Path) (message : String) (cause : Option Fault) : Failure :=
  Typing.report message cause [("path", .text path.toString)]

/-- The failure over a file that cannot be read as a value. -/
def unreadable (path : Path) (f : Fault) : Failure :=
  if isOfText f then
    let message := f.message
    report path ("cannot parse config " ++ path.toString ++
      (if message.isEmpty then "" else ": " ++ message)) (some f)
  else .fault f

/-- The ports of a configuration's value. -/
def portsOf (path : Path) (v : Value) : Except Failure (List Value) :=
  let given := match v.opened with
    | .dict fields => (Value.lookup "nbd_ports" fields).getD .null
    | _ => .null
  if given.isTrue then
    match given.opened with
    | .list vs => .ok vs
    | _ =>
      .error (Typing.misfit "`nbd_ports` must be a list, got: " given "" none
        [("path", .text path.toString)])
  else .ok []

/-- Loads the configuration at a path, with letters for the surrogate codes in its texts. -/
def load (tree : Tree) (path : String) (letters : Text.Letters := .plain) :
    Except Failure Configuration := do
  let given := Path.ofString path
  let some path := given.expandHome |
    throw (.fault (if given.userHasNull then .nullInPath else .noHome))
  let isFile ← (tree.isFile path).mapError fun r => .fault (.refused r)
  if !isFile then throw (report path ("config file not found: " ++ path.toString) none)
  let some format := Format.ofSuffix? path.suffix |
    throw (report path ("config must be .json/.yaml/.yml, got: " ++ path.toString) none)
  let v ← (readValue letters tree path format).mapError (unreadable path)
  let machine ← Typing.machine v
  pure ⟨machine, ← portsOf path v⟩

end Configuration
end MachineDescriptor
