import MachineDescriptor.Text.Base64
import MachineDescriptor.Yaml.Assembly
import MachineDescriptor.Yaml.Node
import MachineDescriptor.Yaml.Number

/-!
From nodes to values. Scalars are made at once; collections are made in the order in which they are
met, one after the other, so that of several faults the outermost comes out. Entries of other
mappings are taken over before those of the mapping itself.
-/
namespace MachineDescriptor.Yaml

/-- The nodes, what those met so far are built into, and the collections that are still to be built.
Numbers beyond those of the nodes are given to collections without a node of their own. -/
structure Loader where
  nodes : Graph
  built : Array (Option Built)
  waiting : List Nat

namespace Loader

abbrev Loading := StateT Loader (Except Fault)

def fail {α : Type} : Loading α := throw .malformed

def nodeAt (number : Nat) : Loading Node := do
  match (← get).nodes[number]? with
  | some n => pure n
  | none => fail

def entriesOf (number : Nat) : Loading (List (Nat × Nat)) := do
  match (← nodeAt number).content with
  | .mapping entries => pure entries
  | _ => fail

def membersOf (number : Nat) : Loading (List Nat) := do
  match (← nodeAt number).content with
  | .sequence members => pure members
  | _ => fail

def update (number : Nat) (f : Node → Node) : Loading Unit := modify fun s =>
  { s with nodes := s.nodes.modify number f }

def setEntries (number : Nat) (entries : List (Nat × Nat)) : Loading Unit :=
  update number fun n => { n with content := .mapping entries }

def setBuilt (number : Nat) (b : Built) : Loading Unit := modify fun s =>
  { s with built := s.built.modify number fun _ => some b }

/-- The text of a scalar; a mapping with a key for its value stands for that value. The fuel bounds
the number of such mappings. -/
def scalarText : Nat → Nat → Loading (List Char)
  | 0, _ => fail
  | fuel + 1, number => do
    match (← nodeAt number).content with
    | .scalar cs => pure cs
    | .sequence _ => fail
    | .mapping entries =>
      match ← entries.findM? (fun e => do return (← nodeAt e.1).kind == .value) with
      | some e => scalarText fuel e.2
      | none => fail

/-- The words for true and false. -/
def flags : List (String × Bool) :=
  [("yes", true), ("no", false), ("true", true), ("false", false), ("on", true), ("off", false)]

def flagOf (cs : List Char) : Except Fault Value :=
  let word := Text.lower (String.ofList cs)
  match flags.lookup word with
  | some b => .ok (.bool b)
  | none => .error (.notAFlag (Text.quoted word.toList))

def timeOf (cs : List Char) : Except Fault Value :=
  match Timestamp.read? cs with
  | none => .error .notATime
  | some t => (value t).mapError .calendar
where
  value (t : Timestamp) : Except Calendar.Fault Value := do
    match t.clock with
    | none => pure (.date (← Calendar.date t.year t.month t.day))
    | some c =>
      let offset ← match c.offset with
        | none => pure none
        | some n => pure (some (← Calendar.offset n))
      let date ← Calendar.date t.year t.month t.day
      let time ← Calendar.time c.hour c.minute c.second c.micro
      pure (.moment ⟨date, time, offset⟩)

def bytesOf (cs : List Char) : Except Fault Value :=
  if cs.all fun c => c.toNat < 0x80 then
    match Text.Base64.decode? cs with
    | some bytes => .ok (.bytes bytes)
    | none => .error .malformed
  else .error .malformed

/-- How the text of a scalar of a kind is made into a value; no other kinds are scalars. -/
def scalarOf? : Kind → Option (List Char → Except Fault Value)
  | .null => some fun _ => .ok .null
  | .flag => some flagOf
  | .integer => some fun cs => (Number.integer cs).map .int
  | .float => some fun cs => (Number.float cs).map .float
  | .bytes => some bytesOf
  | .time => some timeOf
  | .text => some fun cs => .ok (.text (String.ofList cs))
  | _ => none

/-- What a collection of a kind is while its members are not built yet. -/
def hollow? : Kind → Option Built
  | .sequence | .orderedMap | .pairs => some (.list [])
  | .mapping => some (.dict [])
  | .set => some (.leaf (.set []))
  | _ => none

/-- Meets a node: a scalar is made, and a collection waits. -/
def meet (number : Nat) : Loading Unit := do
  let s ← get
  match (s.built[number]?).join with
  | some _ => pure ()
  | none =>
    let n ← nodeAt number
    match hollow? n.kind, scalarOf? n.kind with
    | some b, _ =>
      setBuilt number b
      modify fun s => { s with waiting := s.waiting ++ [number] }
    | none, some make =>
      let cs ← scalarText (s.nodes.size + 1) number
      if n.kind = .time ∧ !n.isScalar then throw .timeInMapping
      match make cs with
      | .ok v => setBuilt number (.leaf v)
      | .error f => throw f
    | none, none => fail

/-- The value of a key, which is no collection. -/
def keyValue (number : Nat) : Loading Value := do
  match ((← get).built[number]?).join with
  | some (.leaf v) => if v.isKey then pure v else fail
  | _ => fail

/-- The mappings whose entries are taken over, the last of a list first. -/
def sources (number : Nat) : Loading (List Nat) := do
  match (← nodeAt number).content with
  | .scalar _ => fail
  | .mapping _ => pure [number]
  | .sequence members => pure members.reverse

/-- Sets the entries of a mapping apart: those that it takes over, and its own. The keys before were
kept already; `settle` does the same for another mapping. -/
def takeOver (settle : Nat → Loading Unit) (number : Nat) (kept : List (Nat × Nat)) :
    List (Nat × Nat) → Loading (List (Nat × Nat) × List (Nat × Nat))
  | [] => pure ([], kept)
  | (key, value) :: rest => do
    match (← nodeAt key).kind with
    | .merge =>
      setEntries number (kept ++ rest)
      let found ← sources value
      found.reverse.forM fun m => do
        let _ ← entriesOf m
        settle m
      let taken ← found.mapM entriesOf
      let (more, own) ← takeOver settle number kept rest
      pure (taken.flatten ++ more, own)
    | .value =>
      update key fun n => { n with kind := .text }
      takeOver settle number (kept ++ [(key, value)]) rest
    | _ => takeOver settle number (kept ++ [(key, value)]) rest

/-- Puts the entries that a mapping takes over in front of its own. The fuel bounds how far this
goes on in the mappings that they come from. -/
def settle : Nat → Nat → Loading Unit
  | 0, _ => fail
  | fuel + 1, number => do
    let (taken, own) ← takeOver (settle fuel) number [] (← entriesOf number)
    if !taken.isEmpty then setEntries number (taken ++ own)

/-- The entries of a mapping by the values of their keys. -/
def fields (number : Nat) : Loading (List (Value × Nat)) := do
  let _ ← entriesOf number
  settle ((← get).nodes.size + 1) number
  (← entriesOf number).foldlM (fun entries e => do
    meet e.1
    let key ← keyValue e.1
    meet e.2
    pure (Value.put key e.2 entries)) []

/-- The key and the value of a mapping's only entry, as a collection of its own. -/
def onlyEntry (number : Nat) : Loading Nat := do
  match ← entriesOf number with
  | [(key, value)] =>
    meet key
    meet value
    modifyGet fun s => (s.built.size, { s with built := s.built.push (some (.tuple [key, value])) })
  | _ => fail

/-- Makes a collection. -/
def make (number : Nat) : Loading Unit := do
  match (← nodeAt number).kind with
  | .sequence =>
    let members ← membersOf number
    members.forM meet
    setBuilt number (.list members)
  | .orderedMap | .pairs =>
    setBuilt number (.list (← (← membersOf number).mapM onlyEntry))
  | .mapping => setBuilt number (.dict (← fields number))
  | .set => setBuilt number (.leaf (.set ((← fields number).map Prod.fst)))
  | _ => fail

/-- Makes the collections that wait, in at most so many steps. -/
def makeAll : Nat → Loading Unit
  | 0 => pure ()
  | fuel + 1 => do
    match (← get).waiting with
    | [] => pure ()
    | number :: rest =>
      modify fun s => { s with waiting := rest }
      make number
      makeAll fuel

/-- The value of a node with all that belongs to it. -/
def load (root : Nat) : Loading Value := do
  let size := (← get).nodes.size
  meet root
  makeAll (size + 1)
  return Built.value ((← get).built.map fun b => b.getD (.leaf .null)) root

end Loader

/-- The value of a text's only document, with letters for the surrogate codes in its texts; a text
without a document has the value null. -/
def load (letters : Text.Letters) (cs : List Char) : Except Fault Value := do
  match ← Graph.ofText letters cs with
  | (_, none) => pure .null
  | (nodes, some root) =>
    let (v, _) ← (Loader.load root).run ⟨nodes, Array.replicate nodes.size none, []⟩
    pure v

end MachineDescriptor.Yaml
