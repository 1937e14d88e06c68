import MachineDescriptor.Files.Path
import MachineDescriptor.Files.Refusal
import MachineDescriptor.Text.Utf8

/-!
A tree of files as a plain value. What lies at a location is a regular file, a directory, a symbolic
link or one of two devices. A path is walked name by name through the links in it, and the
operations read, write, remove and create what the walk arrives at or refuse with a reason.
-/
namespace MachineDescriptor.Files

/-- The names that lead from the top of the tree to a place in it, none of them a link. -/
abbrev Location := List String

/-- The device that swallows everything, and the one that is always full. -/
inductive Device where
  | null
  | full
deriving DecidableEq

inductive Entry where
  | file (bytes : List UInt8)
  | directory
  | link (target : String)
  | device (d : Device)
deriving DecidableEq

/-- The entries of a tree by their locations, the current directory, and whether files may be
removed from it. -/
structure Tree where
  entries : List (Location × Entry)
  current : Location
  mayRemove : Bool

namespace Tree

/-- What lies at a location; the top of the tree is a directory. -/
def find? (t : Tree) (place : Location) : Option Entry :=
  if place.isEmpty then some .directory else t.entries.lookup place

/-- The entries with one put at a location. -/
def setEntry (place : Location) (e : Entry) : List (Location × Entry) → List (Location × Entry)
  | [] => [(place, e)]
  | (l, old) :: rest =>
    if l = place then (l, e) :: rest else (l, old) :: setEntry place e rest

/-- The tree with an entry at a location. -/
def set (t : Tree) (place : Location) (e : Entry) : Tree :=
  { t with entries := setEntry place e t.entries }

theorem lookup_setEntry_self (place : Location) (e : Entry) (es : List (Location × Entry)) :
    (setEntry place e es).lookup place = some e := by
  induction es with
  | nil => simp [setEntry]
  | cons old rest ih =>
    obtain ⟨l, o⟩ := old
    by_cases h : l = place
    · simp [setEntry, h]
    · have h' : (place == l) = false := by simpa using fun e => h e.symm
      simp [setEntry, h, List.lookup_cons, h', ih]

theorem lookup_setEntry_of_ne {place other : Location} (ne : other ≠ place) (e : Entry)
    (es : List (Location × Entry)) : (setEntry place e es).lookup other = es.lookup other := by
  have ne' : (other == place) = false := by simpa using ne
  induction es with
  | nil => simp [setEntry, List.lookup_cons, ne']
  | cons old rest ih =>
    obtain ⟨l, o⟩ := old
    by_cases h : l = place
    · subst h
      simp [setEntry, List.lookup_cons, ne']
    · simp [setEntry, h, List.lookup_cons, ih]

/-- What was put at a location lies there. -/
theorem find?_set_self (t : Tree) {place : Location} (ne : place ≠ []) (e : Entry) :
    (t.set place e).find? place = some e := by
  have ne' : place.isEmpty = false := by simpa using ne
  simp [find?, set, ne', lookup_setEntry_self]

/-- Nothing else changes. -/
theorem find?_set_of_ne (t : Tree) {place other : Location} (ne : other ≠ place) (e : Entry) :
    (t.set place e).find? other = t.find? other := by
  simp [find?, set, lookup_setEntry_of_ne ne]

/-- The tree without what lay at a location. -/
def erase (t : Tree) (place : Location) : Tree :=
  { t with entries := t.entries.filter fun e => e.1 != place }

/-- Why a walk stops. -/
inductive Obstacle where
  | missing
  | notADirectory
  | nameTooLong
  | tooManyLinks
deriving DecidableEq

def Obstacle.refusal : Obstacle → String → Refusal
  | missing => .noSuchFile
  | notADirectory => .notADirectory
  | nameTooLong => .nameTooLong
  | tooManyLinks => .tooManyLinks

/-- Where a walk arrives: at an entry, or at a free name in a directory. -/
inductive Arrival where
  | entry (place : Location) (e : Entry)
  | free (place : Location)

/-- The longest name, in bytes, and the longest path. -/
def maxName : Nat := 255
def maxPath : Nat := 4095

/-- The most links that a walk passes through. -/
def maxLinks : Nat := 40

/-- Walks from a directory along names. A link in the middle is always followed, one at the end
only when `follow` holds. -/
def walk (t : Tree) (follow : Bool) (links : Nat) (place : Location) (names : List String) :
    Except Obstacle Arrival :=
  match names with
  | [] => .ok (match t.find? place with | some e => .entry place e | none => .free place)
  | name :: rest =>
    match t.find? place with
    | none => .error .missing
    | some .directory =>
      if name = ".." then t.walk follow links place.dropLast rest
      else if maxName < name.utf8ByteSize then .error .nameTooLong
      else
        let child := place ++ [name]
        match t.find? child with
        | none => if rest.isEmpty then .ok (.free child) else .error .missing
        | some (.link target) =>
          if rest.isEmpty && !follow then .ok (.entry child (.link target))
          else
            match links with
            | 0 => .error .tooManyLinks
            | links + 1 =>
              let path := Path.ofString target
              let start := if path.root = .current then place else []
              t.walk follow links start (path.names ++ rest)
        | some e =>
          if rest.isEmpty then .ok (.entry child e)
          else t.walk follow links child rest
    | some _ => .error .notADirectory
termination_by (links, names.length)

/-- Where a path leads. -/
def resolve (t : Tree) (follow : Bool) (p : Path) : Except Obstacle Arrival :=
  if maxPath < p.toString.utf8ByteSize then .error .nameTooLong
  else t.walk follow maxLinks (if p.root = .current then t.current else []) p.names

/-- Whether a path leads to a regular file. A walk that is stopped by the length of a name is
refused; one that is stopped in another way leads to no file. -/
def isFile (t : Tree) (p : Path) : Except Refusal Bool :=
  if p.hasNull then .ok false
  else
    match t.resolve true p with
    | .ok (.entry _ (.file _)) => .ok true
    | .error .nameTooLong => .error (.nameTooLong p.toString)
    | _ => .ok false

/-- The bytes of the file that a path leads to. -/
def read (t : Tree) (p : Path) : Except Refusal (List UInt8) :=
  match t.resolve true p with
  | .ok (.entry _ (.file bytes)) => .ok bytes
  | .ok (.entry _ (.device _)) => .ok []
  | .ok (.entry _ .directory) => .error (.isADirectory p.toString)
  | .ok (.entry _ (.link _)) | .ok (.free _) => .error (.noSuchFile p.toString)
  | .error o => .error (o.refusal p.toString)

/-- What a path opened for writing leads to. -/
inductive Target where
  | file (place : Location)
  | device (d : Device)

/-- Opens a path for writing. A missing file is created, and with `truncate` an old one is
emptied. -/
def openTo (t : Tree) (truncate : Bool) (p : Path) : Except Refusal (Target × Tree) :=
  match t.resolve true p with
  | .ok (.entry place (.file _)) =>
    .ok (.file place, if truncate then t.set place (.file []) else t)
  | .ok (.entry _ (.device d)) => .ok (.device d, t)
  | .ok (.entry _ .directory) => .error (.isADirectory p.toString)
  | .ok (.entry _ (.link _)) => .error (.noSuchFile p.toString)
  | .ok (.free place) => .ok (.file place, t.set place (.file []))
  | .error o => .error (o.refusal p.toString)

/-- The bytes of the file at a location. -/
def bytesAt (t : Tree) (place : Location) : List UInt8 :=
  match t.find? place with
  | some (.file bytes) => bytes
  | _ => []

/-- Puts bytes over those of a file from a position on; a gap before the position is filled with
zeros. -/
def overwrite (old : List UInt8) (position : Nat) (new : List UInt8) : List UInt8 :=
  old.take position ++ List.replicate (position - old.length) 0 ++ new ++
    old.drop (position + new.length)

/-- Puts bytes at the end of the file at a location. -/
def append (t : Tree) (place : Location) (bytes : List UInt8) : Tree :=
  t.set place (.file (t.bytesAt place ++ bytes))

/-- Removes what a path leads to, without following a link at its end. -/
def remove (t : Tree) (p : Path) : Except Refusal Tree :=
  if !t.mayRemove then .error (.permissionDenied p.toString)
  else
    match t.resolve false p with
    | .ok (.entry _ .directory) => .error (.isADirectory p.toString)
    | .ok (.entry place _) => .ok (t.erase place)
    | .ok (.free _) => .error (.noSuchFile p.toString)
    | .error o => .error (o.refusal p.toString)

/-- Whether a path leads to a directory. -/
def isDirectory (t : Tree) (p : Path) : Bool :=
  match t.resolve true p with
  | .ok (.entry _ .directory) => true
  | _ => false

/-- Creates one directory. -/
def makeDirectory (t : Tree) (p : Path) : Except Refusal Tree :=
  match t.resolve false p with
  | .ok (.free place) => .ok (t.set place .directory)
  | .ok (.entry ..) => .error (.fileExists p.toString)
  | .error o => .error (o.refusal p.toString)

/-- Creates a directory with those above it; one that is there already is left alone. The fuel
bounds the number of directories above. -/
def makeDirectories : (fuel : Nat) → Tree → Path → Except Refusal Tree
  | 0, t, p => t.makeDirectory p
  | fuel + 1, t, p =>
    match t.makeDirectory p with
    | .ok t' => .ok t'
    | .error r =>
      if t.isDirectory p then .ok t
      else if r = .noSuchFile p.toString then do
        let t' ← makeDirectories fuel t p.parent
        t'.makeDirectory p
      else .error r

/-- The location that a path leads to when missing names are taken as they stand; `none` when its
links lead in a circle. The fuel bounds the number of names. -/
def settle (t : Tree) : (fuel : Nat) → (links : Nat) → Location → List String → Option Location
  | 0, _, place, _ => some place
  | _, _, place, [] => some place
  | fuel + 1, links, place, name :: rest =>
    if name = ".." then t.settle fuel links place.dropLast rest
    else
      match t.find? (place ++ [name]) with
      | some (.link target) =>
        match links with
        | 0 => none
        | links + 1 =>
          let path := Path.ofString target
          t.settle (fuel + path.names.length) links
            (if path.root = .current then place else []) (path.names ++ rest)
      | _ => t.settle fuel links (place ++ [name]) rest
termination_by fuel links => (links, fuel)

/-- The path without links that a path stands for. -/
def canonical (t : Tree) (p : Path) : Option Path :=
  (t.settle p.names.length maxLinks (if p.root = .current then t.current else []) p.names).map
    fun names => ⟨.root, names⟩

end Tree
end MachineDescriptor.Files
