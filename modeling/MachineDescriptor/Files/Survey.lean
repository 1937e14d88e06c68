import MachineDescriptor.Files.Tree

/-!
Trees from lists of entries, and what changed between two trees.
-/
namespace MachineDescriptor.Files.Tree

/-- The tree with nothing in it. -/
def bare : Tree := ⟨[], [], true⟩

/-- The tree with a directory at a location and at all those above it. -/
def withDirectories (t : Tree) : (above : Location) → (names : List String) → Tree
  | _, [] => t
  | above, name :: rest =>
    let place := above ++ [name]
    let t := if (t.find? place).isSome then t else t.set place .directory
    t.withDirectories place rest

/-- The tree with an entry at a location and with the directories above it. -/
def plant (t : Tree) (place : Location) (e : Entry) : Tree :=
  (t.withDirectories [] place.dropLast).set place e

/-- What lies at the locations below a directory that are not directories themselves. -/
def contentsOf (t : Tree) (top : Location) : List (Location × Entry) :=
  t.entries.filter fun e => top.isPrefixOf e.1 && e.2 != .directory

/-- What changed below a directory between two trees: the new entry at each location that has got
one, and nothing for each location that lost its entry. -/
def changes (old new : Tree) (top : Location) : List (Location × Option Entry) :=
  ((new.contentsOf top).filter fun e => old.find? e.1 != some e.2).map (fun e => (e.1, some e.2)) ++
    ((old.contentsOf top).filter fun e =>
      match new.find? e.1 with
      | none | some .directory => true
      | _ => false).map (fun e => (e.1, none))

end MachineDescriptor.Files.Tree
