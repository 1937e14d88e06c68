import MachineDescriptor.Machine.Address
import MachineDescriptor.Proofs.Destinations

/-!
Walks through trees without links. On such a tree a walk goes where the names say, so that names
which keep to the way down to a directory and to what lies below it lead to no file outside. What is
read by such names is the same in any two trees that have the same files in that directory, also
after lines were added to both.
-/
namespace MachineDescriptor

namespace Files.Tree

/-- No link is in the tree. -/
def LinkFree (t : Tree) : Prop := ∀ place target, t.find? place ≠ some (.link target)

/-- A path leads to a directory of a tree, and above that there is nothing but directories. -/
structure HasDirectory (t : Tree) (path : Path) (home : Location) : Prop where
  arrives : t.resolve true path = .ok (.entry home .directory)
  above : ∀ place, place <+: home → t.find? place = some .directory

/-- Two trees have the same at a location and everywhere below it. -/
def AgreeBelow (home : Location) (t t' : Tree) : Prop :=
  ∀ place, home <+: place → t'.find? place = t.find? place

/-- A location is above another one, or below it, or the same. -/
def InLine (home place : Location) : Prop := place <+: home ∨ home <+: place

instance (home place : Location) : Decidable (InLine home place) :=
  inferInstanceAs (Decidable (_ ∨ _))

/-- Where a name leads from a directory. -/
def neighbour (place : Location) (name : String) : Location :=
  if name = ".." then place.dropLast else place ++ [name]

/-- Names lead from a location to none but such as are in line with `home`. -/
def KeepsTo (home : Location) : Location → List String → Prop
  | _, [] => True
  | place, name :: rest =>
    InLine home (neighbour place name) ∧ KeepsTo home (neighbour place name) rest

instance decidableKeepsTo (home : Location) :
    ∀ (place : Location) (names : List String), Decidable (KeepsTo home place names)
  | _, [] => inferInstanceAs (Decidable True)
  | place, name :: rest =>
    have := decidableKeepsTo home (neighbour place name) rest
    inferInstanceAs (Decidable (_ ∧ _))

variable {t t' : Tree} {home place : Location} {follow : Bool} {links : Nat}
  {names rest : List String}

/-! ## Walks without links -/

theorem linkFree_of_entries (none : ∀ e ∈ t.entries, ∀ target, e.2 ≠ .link target) :
    t.LinkFree := by
  intro place target
  unfold find?
  split
  · simp
  · intro found
    obtain ⟨before, after, split, -⟩ := List.lookup_eq_some_iff.mp found
    have listed : (place, Entry.link target) ∈ t.entries := by simp [split]
    exact none _ listed target rfl

/-- Without links, a walk goes on from a directory at the neighbour that a name says. -/
theorem walk_neighbour (free : t.LinkFree) (name : String) :
    t.walk follow links place (name :: rest) =
      match t.find? place with
      | some .directory =>
        if maxName < name.utf8ByteSize then .error .nameTooLong
        else t.walk follow links (neighbour place name) rest
      | some _ => .error .notADirectory
      | none => .error .missing := by
  cases found : t.find? place with
  | none => exact walk_of_missing found follow links name rest
  | some e =>
    cases e with
    | file bytes => exact walk_of_file found follow links name rest
    | device d => rw [Tree.walk, found]
    | link target => exact absurd found (free place target)
    | directory =>
      by_cases up : name = ".."
      · subst up
        have short : ¬maxName < "..".utf8ByteSize := by decide
        rw [Tree.walk, found]
        exact (if_pos rfl).trans (if_neg short).symm
      · have down : neighbour place name = place ++ [name] := if_neg up
        by_cases long : maxName < name.utf8ByteSize
        · rw [Tree.walk, found]
          exact (if_neg up).trans ((if_pos long).trans (if_pos long).symm)
        · simp only [if_neg long, down]
          have straight := free (place ++ [name])
          cases rest with
          | nil =>
            refine (walk_of_last found up long straight follow links).trans ?_
            unfold Tree.walk
            cases t.find? (place ++ [name]) <;> rfl
          | cons next rest =>
            cases child : t.find? (place ++ [name]) with
            | none =>
              rw [walk_of_directory found up long, child, walk_of_missing child]
              rfl
            | some e =>
              refine walk_of_entry found up long child ?_ follow links (List.cons_ne_nil _ _)
              rintro target rfl
              exact straight target child

/-- A walk that arrives somewhere goes on from there. -/
theorem walk_append (free : t.LinkFree) {e : Entry}
    (arrives : t.walk follow links place names = .ok (.entry home e)) :
    t.walk follow links place (names ++ rest) = t.walk follow links home rest := by
  induction names generalizing place with
  | nil =>
    rw [Tree.walk] at arrives
    cases found : t.find? place with
    | none =>
      rw [found] at arrives
      cases arrives
    | some e =>
      rw [found] at arrives
      cases arrives
      rfl
  | cons name names ih =>
    rw [List.cons_append, walk_neighbour free]
    rw [walk_neighbour free] at arrives
    cases found : t.find? place with
    | none =>
      rw [found] at arrives
      cases arrives
    | some e =>
      rw [found] at arrives
      cases e with
      | file | link | device => cases arrives
      | directory =>
        dsimp only at arrives ⊢
        split at arrives
        · cases arrives
        · next fits =>
          rw [if_neg fits]
          exact ih arrives

/-- Trees that agree in line with a directory are walked the same way by names that keep to it. -/
theorem walk_of_agree (free : t.LinkFree) (free' : t'.LinkFree)
    (agree : ∀ place, InLine home place → t'.find? place = t.find? place)
    (here : InLine home place) (keeps : KeepsTo home place names) :
    t'.walk follow links place names = t.walk follow links place names := by
  induction names generalizing place with
  | nil => rw [Tree.walk, Tree.walk, agree place here]
  | cons name rest ih =>
    obtain ⟨next, later⟩ := keeps
    rw [walk_neighbour free, walk_neighbour free', agree place here, ih next later]

theorem inLine_of_walk (free : t.LinkFree) {a : Arrival} (here : InLine home place)
    (keeps : KeepsTo home place names) (arrives : t.walk follow links place names = .ok a) :
    InLine home a.place := by
  induction names generalizing place with
  | nil =>
    rw [Tree.walk] at arrives
    obtain rfl := Except.ok.inj arrives
    cases t.find? place <;> exact here
  | cons name rest ih =>
    obtain ⟨next, later⟩ := keeps
    rw [walk_neighbour free] at arrives
    split at arrives
    · split at arrives
      · cases arrives
      · exact ih next later arrives
    · cases arrives
    · cases arrives

theorem HasDirectory.agree {path path' : Path} (here : t.HasDirectory path home)
    (there : t'.HasDirectory path' home) (below : AgreeBelow home t t') (place : Location)
    (line : InLine home place) : t'.find? place = t.find? place := by
  obtain above | inside := line
  · rw [here.above place above, there.above place above]
  · exact below place inside

/-- What is in line with a directory and is no directory lies below it. -/
theorem HasDirectory.below {path : Path} (here : t.HasDirectory path home) {e : Entry}
    (line : InLine home place) (found : t.find? place = some e) (other : e ≠ .directory) :
    home <+: place ∧ place ≠ home := by
  have apart : ¬place <+: home := fun above =>
    other (Option.some.inj (found.symm.trans (here.above place above)))
  exact ⟨line.resolve_left apart, fun same => apart (same ▸ List.prefix_rfl)⟩

/-! ## Trees that are written in -/

/-- A walk that arrives at a directory arrives there in every tree that has the directories of the
first one. -/
theorem walk_of_directories (free : t.LinkFree) (free' : t'.LinkFree)
    (kept : ∀ place, t.find? place = some .directory → t'.find? place = some .directory)
    (arrives : t.walk follow links place names = .ok (.entry home .directory)) :
    t'.walk follow links place names = .ok (.entry home .directory) := by
  induction names generalizing place with
  | nil =>
    rw [Tree.walk] at arrives ⊢
    cases found : t.find? place with
    | none =>
      rw [found] at arrives
      cases arrives
    | some e =>
      rw [found] at arrives
      cases arrives
      rw [kept _ found]
  | cons name rest ih =>
    rw [walk_neighbour free] at arrives
    rw [walk_neighbour free']
    split at arrives
    · next found =>
      rw [kept place found]
      split at arrives
      · cases arrives
      · next fits =>
        dsimp only
        rw [if_neg fits]
        exact ih arrives
    · cases arrives
    · cases arrives

/-- A tree without links that has the directory of a path, and room for some files. -/
structure Grounds (files : List Location) (path : Path) (home : Location) (t : Tree) : Prop where
  free : t.LinkFree
  found : t.HasDirectory path home
  room : t.HasRoom files

theorem find?_set_file {l : Location} (ne : l ≠ []) (bytes : List UInt8) (place : Location) :
    (t.set l (.file bytes)).find? place =
      if place = l then some (.file bytes) else t.find? place := by
  split
  · next same =>
    subst same
    exact find?_set_self t ne _
  · next differs => exact find?_set_of_ne t differs _

theorem LinkFree.set {l : Location} (free : t.LinkFree) (ne : l ≠ []) (bytes : List UInt8) :
    (t.set l (.file bytes)).LinkFree := by
  intro place target
  rw [find?_set_file ne]
  split
  · simp
  · exact free place target

theorem HasRoom.set {files : List Location} {l : Location} (room : t.HasRoom files) (ne : l ≠ [])
    (bytes : List UInt8) : (t.set l (.file bytes)).HasRoom files := by
  intro place given e found
  rw [find?_set_file ne] at found
  split at found
  · obtain rfl := Option.some.inj found
    rfl
  · exact room place given e found

theorem HasDirectory.set {path : Path} {l : Location} (here : t.HasDirectory path home)
    (free : t.LinkFree) (ne : l ≠ []) (other : t.find? l ≠ some .directory)
    (bytes : List UInt8) : (t.set l (.file bytes)).HasDirectory path home := by
  have kept : ∀ place, t.find? place = some .directory →
      (t.set l (.file bytes)).find? place = some .directory := by
    intro place directory
    rw [find?_set_file ne, if_neg, directory]
    rintro rfl
    exact other directory
  refine ⟨?_, fun place above => kept place (here.above place above)⟩
  have arrives := here.arrives
  rw [resolve] at arrives ⊢
  split at arrives
  · cases arrives
  · next short =>
    rw [if_neg short]
    exact walk_of_directories free (free.set ne bytes) kept arrives

theorem Grounds.set {files : List Location} {path : Path} (grounds : t.Grounds files path home)
    {l : Location} (listed : l ∈ files) (bytes : List UInt8) :
    (t.set l (.file bytes)).Grounds files path home := by
  have ne : l ≠ [] := grounds.room.ne_nil listed
  have other : t.find? l ≠ some .directory := fun directory =>
    absurd (grounds.room l listed _ directory) (by decide)
  exact ⟨grounds.free.set ne bytes, grounds.found.set grounds.free ne other bytes,
    grounds.room.set ne bytes⟩

/-- Two trees with room for the same files that have a directory and agree in line with it. -/
structure Twins (files : List Location) (path : Path) (home : Location) (t t' : Tree) :
    Prop where
  first : t.Grounds files path home
  second : t'.Grounds files path home
  agree : ∀ place, InLine home place → t'.find? place = t.find? place

/-- Twins stay twins while the same lines are added to both. -/
theorem Twins.append {files : List Location} {path : Path} (twins : Twins files path home t t')
    {l : Location} (listed : l ∈ files) (bytes : List UInt8) :
    Twins files path home (t.append l bytes) (t'.append l bytes) := by
  refine ⟨twins.first.set listed _, twins.second.set listed _, fun place line => ?_⟩
  have ne : l ≠ [] := twins.first.room.ne_nil listed
  unfold Tree.append
  rw [find?_set_file ne, find?_set_file ne]
  split
  · next same =>
    subst same
    rw [bytesAt, bytesAt, twins.agree place line]
  · exact twins.agree place line

end Files.Tree

/-! ## The addresses of interfaces -/

namespace Network

open Files (Path Location Entry)
open Files.Tree

/-- Where the search for an address begins: in the directory of interfaces, or at the top of the
tree for an interface that is itself a path from the root. -/
def startOf (home : Location) (interface : String) : Location :=
  if (Path.ofString interface).root = .current then home else []

/-- The name of an interface leads from the directory of interfaces to no location but the way down
to that directory and what is below it. -/
def StaysIn (home : Location) (interface : String) : Prop :=
  KeepsTo home (startOf home interface) ((Path.ofString interface).names ++ [addressFile])

instance (home : Location) (interface : String) : Decidable (StaysIn home interface) :=
  decidableKeepsTo _ _ _

variable {t t' : Files.Tree} {directory : Path} {home : Location}

theorem startOf_inLine (home : Location) (interface : String) :
    InLine home (startOf home interface) := by
  unfold startOf
  split
  · exact .inl List.prefix_rfl
  · exact .inl (List.nil_prefix)

theorem addressPath_of_current {interface : String}
    (current : (Path.ofString interface).root = .current) :
    addressPath directory interface =
      ⟨directory.root, directory.names ++ ((Path.ofString interface).names ++ [addressFile])⟩ := by
  simp only [addressPath, Path.join, current, List.append_assoc]

theorem addressPath_of_root {interface : String}
    (root : (Path.ofString interface).root ≠ .current) :
    addressPath directory interface =
      ⟨(Path.ofString interface).root, (Path.ofString interface).names ++ [addressFile]⟩ := by
  have away : directory.join (Path.ofString interface) = Path.ofString interface := by
    unfold Path.join
    split
    · next current => exact absurd current root
    · rfl
  rw [addressPath, away]
  rfl

theorem resolve_addressPath (free : t.LinkFree) (found : t.HasDirectory directory home)
    (interface : String) :
    t.resolve true (addressPath directory interface) =
      if maxPath < (addressPath directory interface).toString.utf8ByteSize then
        .error .nameTooLong
      else
        t.walk true maxLinks (startOf home interface)
          ((Path.ofString interface).names ++ [addressFile]) := by
  rw [resolve]
  split
  · rfl
  · have arrives := found.arrives
    rw [resolve] at arrives
    split at arrives
    · cases arrives
    · by_cases current : (Path.ofString interface).root = .current
      · rw [startOf, if_pos current, addressPath_of_current current]
        exact walk_append free arrives
      · rw [startOf, if_neg current, addressPath_of_root current, if_neg current]

/-- Twins give the same address to an interface that stays in the directory of interfaces. -/
theorem findAddress_of_twins {files : List Location} (twins : Twins files directory home t t')
    {interface : String} (stays : StaysIn home interface) :
    findAddress t' directory interface = findAddress t directory interface := by
  have same : t'.resolve true (addressPath directory interface) =
      t.resolve true (addressPath directory interface) := by
    rw [resolve_addressPath twins.first.free twins.first.found,
      resolve_addressPath twins.second.free twins.second.found,
      walk_of_agree twins.first.free twins.second.free twins.agree
        (startOf_inLine home interface) stays]
  unfold findAddress Files.Tree.read
  dsimp only
  rw [same]

theorem lookUp_of_twins {files : List Location} (twins : Twins files directory home t t')
    (letters : Text.Letters) {interface : String} (stays : StaysIn home interface) :
    lookUp letters t' directory interface = lookUp letters t directory interface := by
  unfold lookUp
  rw [findAddress_of_twins twins stays]

/-- What can be read of an entry. -/
def bytes? : Entry → Option (List UInt8)
  | .file bytes => some bytes
  | .device _ => some []
  | .directory | .link _ => none

/-- An address comes from what lies below the directory of interfaces. -/
theorem findAddress_below (free : t.LinkFree) (found : t.HasDirectory directory home)
    {interface : String} (stays : StaysIn home interface) {text : List Char}
    (read : findAddress t directory interface = .ok (.address text)) :
    ∃ place bytes, home <+: place ∧ place ≠ home ∧ (t.find? place).bind bytes? = some bytes ∧
      text = address bytes := by
  unfold findAddress at read
  dsimp only at read
  split at read
  · cases read
  · unfold Files.Tree.read at read
    cases arrives : t.resolve true (addressPath directory interface) with
    | error o =>
      rw [arrives] at read
      cases read
    | ok a =>
      have line : InLine home a.place := by
        have walked := arrives
        rw [resolve_addressPath free found] at walked
        split at walked
        · cases walked
        · exact inLine_of_walk free (startOf_inLine home interface) stays walked
      have lies := find?_of_resolve arrives
      rw [arrives] at read
      rcases a with ⟨place, e⟩ | place
      · have here : t.find? place = some e := lies
        cases e with
        | directory | link => cases read
        | file bytes =>
          obtain ⟨inside, apart⟩ := found.below line here (by simp)
          cases read
          exact ⟨place, bytes, inside, apart, by rw [here]; rfl, rfl⟩
        | device d =>
          obtain ⟨inside, apart⟩ := found.below line here (by simp)
          cases read
          exact ⟨place, [], inside, apart, by rw [here]; rfl, rfl⟩
      · cases read

end Network

end MachineDescriptor
