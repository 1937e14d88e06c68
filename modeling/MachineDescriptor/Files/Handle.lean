import MachineDescriptor.Files.Tree
import MachineDescriptor.Text.Letters

/-!
Open files. What is written to one waits in two places before it reaches the tree: texts are
gathered until they come to a block, and blocks are gathered until they fill a buffer. A refusal of
the device therefore shows only at a later write, at a flush, or when the file is closed.
-/
namespace MachineDescriptor.Files

/-- A file open for writing: where it leads, the position of the next byte, the gathered bytes and
the buffered ones, whether it is closed, and the letters of the texts that are written to it. -/
structure Handle where
  target : Tree.Target
  position : Nat
  gathered : List UInt8
  buffered : List UInt8
  closed : Bool
  letters : Text.Letters

namespace Handle

/-- The sizes of a block of gathered bytes and of the buffer. -/
def blockSize : Nat := 8192
def bufferSize : Nat := 4096

/-- A file that was just opened at its start. -/
def atStart (target : Tree.Target) : Handle := ⟨target, 0, [], [], false, .plain⟩

/-- A file together with the tree it is in. -/
abbrev Placed := Handle × Tree

/-- Hands bytes to the file itself. -/
def deliver (bytes : List UInt8) : EStateM Refusal Placed Unit := fun (h, t) =>
  match h.target with
  | .device .null => .ok () (h, t)
  | .device .full => if bytes.isEmpty then .ok () (h, t) else .error .noSpace (h, t)
  | .file place =>
    let content := Tree.overwrite (t.bytesAt place) h.position bytes
    .ok () ({ h with position := h.position + bytes.length }, t.set place (.file content))

/-- Hands the buffered bytes over; they stay in the buffer when they are refused. -/
def drain : EStateM Refusal Placed Unit := do
  let (h, _) ← get
  if h.buffered.isEmpty then pure ()
  else
    deliver h.buffered
    modify fun (h, t) => ({ h with buffered := [] }, t)

/-- Puts bytes into the buffer, which is handed over first when they do not fit; what is larger
than the buffer goes to the file at once. -/
def buffer (bytes : List UInt8) : EStateM Refusal Placed Unit := do
  let (h, _) ← get
  if h.buffered.length + bytes.length ≤ bufferSize then
    set (({ h with buffered := h.buffered ++ bytes }, (← get).2) : Placed)
  else
    drain
    if bufferSize < bytes.length then deliver bytes
    else modify fun (h, t) => ({ h with buffered := bytes }, t)

/-- Moves the gathered bytes to the buffer; they are gone when it refuses them. -/
def release : EStateM Refusal Placed Unit := do
  let (h, t) ← get
  set (({ h with gathered := [] }, t) : Placed)
  if h.gathered.isEmpty then pure () else buffer h.gathered

/-- Writes a text that can be encoded to an open file. -/
def write (s : String) : EStateM Refusal Placed Unit := do
  let bytes := Text.Utf8.encode s.toList
  let (h, _) ← get
  if !h.gathered.isEmpty && blockSize < h.gathered.length + bytes.length then release
  modify fun (h, t) => ({ h with gathered := h.gathered ++ bytes }, t)
  let (h, _) ← get
  if blockSize ≤ h.gathered.length then release

/-- Hands over everything that waits. -/
def flush : EStateM Refusal Placed Unit := do
  release
  drain

/-- Closes a file after everything that waits is handed over. It is closed also when that is
refused, and then the last refusal comes out. -/
def close : EStateM Refusal Placed Unit := fun s =>
  let shut : Placed → Placed := fun (h, t) => ({ h with closed := true }, t)
  match flush s with
  | .ok _ s => .ok () (shut s)
  | .error r s =>
    match drain s with
    | .ok _ s => .error r (shut s)
    | .error r s => .error r (shut s)

end Handle
end MachineDescriptor.Files
