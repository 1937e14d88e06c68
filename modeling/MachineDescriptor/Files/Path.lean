import MachineDescriptor.Text.LetterCase
import MachineDescriptor.Text.Split

/-!
Paths by their spelling alone: a root and the names between the slashes. Empty names and single
dots say nothing and are dropped; two dots are kept, because what they mean depends on links.
-/
namespace MachineDescriptor.Files

/-- How a path begins: at the current directory, at the root, or at the root of two slashes. -/
inductive Root where
  | current
  | root
  | doubleRoot
deriving DecidableEq

structure Path where
  root : Root
  names : List String
deriving DecidableEq

namespace Path

/-- The names of a path's spelling that say something. -/
def namesOf (cs : List Char) : List String :=
  ((Text.split '/' cs).filter fun part => !part.isEmpty && part != ['.']).map String.ofList

/-- The root that a spelling begins with; three slashes or more count as one. -/
def rootOf : List Char → Root
  | '/' :: '/' :: '/' :: _ => .root
  | '/' :: '/' :: _ => .doubleRoot
  | '/' :: _ => .root
  | _ => .current

def ofString (s : String) : Path := ⟨rootOf s.toList, namesOf s.toList⟩

def Root.text : Root → String
  | .current => ""
  | .root => "/"
  | .doubleRoot => "//"

/-- The spelling of a path; the path without root and names is the current directory. -/
def toString (p : Path) : String :=
  let s := Root.text p.root ++ String.intercalate "/" p.names
  if s.isEmpty then "." else s

/-- The second path taken from the first; a path with a root stands for itself. -/
def join (p q : Path) : Path :=
  match q.root with
  | .current => ⟨p.root, p.names ++ q.names⟩
  | _ => q

/-- The last name. -/
def name (p : Path) : String := p.names.getLast?.getD ""

/-- The path without its last name. -/
def parent (p : Path) : Path := ⟨p.root, p.names.dropLast⟩

/-- The end of the last name from its last point on; a point at either end of the name starts no
suffix. -/
def suffix (p : Path) : String :=
  let cs := p.name.toList
  let after := (cs.reverse.takeWhile (· != '.')).reverse
  let point := cs.length - after.length - 1
  if after.length < cs.length ∧ 0 < point ∧ ¬ after.isEmpty then String.ofList ('.' :: after)
  else ""

/-- Whether the spelling of some name holds the null character. -/
def hasNull (p : Path) : Bool := p.names.any fun n => n.toList.contains '\x00'

/-- Whether the name of the user at the start of a path holds the null character. -/
def userHasNull (p : Path) : Bool := (p.names.head?.getD "").toList.contains '\x00'

/-- The home directory of the user who runs the library. -/
def home : Path := ofString "/home/nobody"

/-- The home directories of the users that are known by name. -/
def homes : List (String × Path) := [("root", ofString "/root")]

/-- The path with a tilde at its start replaced by the home directory it names, if there is such a
user. -/
def expandHome (p : Path) : Option Path :=
  match p.root, p.names with
  | .current, first :: rest =>
    match first.toList with
    | '~' :: user =>
      if user.isEmpty then some (home.join ⟨.current, rest⟩)
      else (homes.lookup (String.ofList user)).map (·.join ⟨.current, rest⟩)
    | _ => some p
  | _, _ => some p

example : (ofString "./a//b/./c").toString = "a/b/c" := by decide +kernel
example : (ofString "m.yaml").suffix = ".yaml" := by decide +kernel
example : (ofString ".json").suffix = "" := by decide +kernel

end Path
end MachineDescriptor.Files
