import MachineDescriptor.Fault
import MachineDescriptor.Machine.Network

/-!
The address of an interface in a tree of files. A file that cannot be read means that the interface
has no address; the reason is told.
-/
namespace MachineDescriptor.Network

/-- What is found out about the address of an interface. -/
inductive Finding where
  | address (text : List Char)
  | unreadable (path : Files.Path) (why : Files.Refusal)

/-- The address, if there is one. -/
def Finding.address? : Finding → Option (List Char)
  | address text => some text
  | unreadable .. => none

/-- Finds out about the address of an interface below a directory. -/
def findAddress (tree : Files.Tree) (directory : Files.Path) (interface : String) :
    Except Fault Finding :=
  let path := addressPath directory interface
  if path.hasNull then .error .nullInPath
  else
    match tree.read path with
    | .ok bytes => .ok (.address (address bytes))
    | .error refusal => .ok (.unreadable path refusal)

/-- What of the path to the address of an interface cannot be encoded. -/
@[irreducible]
def unencodable? (letters : Text.Letters) (directory : Files.Path) (interface : String) :
    Option Text.Unencodable :=
  letters.pathFault? (addressPath directory interface).toString.toList

/-- Looks the address of an interface up below a directory, where the path can be encoded. -/
def lookUp (letters : Text.Letters) (tree : Files.Tree) (directory : Files.Path)
    (interface : String) : Except Fault Finding :=
  match unencodable? letters directory interface with
  | none => findAddress tree directory interface
  | some codes => .error (.unencodable codes)

/-- Every path can be encoded when no text spells surrogate codes. -/
@[simp] theorem unencodable?_plain (directory : Files.Path) (interface : String) :
    unencodable? .plain directory interface = none := by
  unfold unencodable?
  exact Text.Letters.pathFault?_plain _

/-- The path of an address cannot be encoded, has a null character in it, or is read, which may
fail. -/
theorem lookUp_cases (letters : Text.Letters) (tree : Files.Tree) (directory : Files.Path)
    (interface : String) :
    (∃ codes, unencodable? letters directory interface = some codes ∧
      lookUp letters tree directory interface = .error (.unencodable codes)) ∨
    unencodable? letters directory interface = none ∧
      ((addressPath directory interface).hasNull = true ∧
        lookUp letters tree directory interface = .error .nullInPath ∨
      (addressPath directory interface).hasNull = false ∧
        ((∃ bytes, tree.read (addressPath directory interface) = .ok bytes ∧
          lookUp letters tree directory interface = .ok (.address (address bytes))) ∨
        ∃ why, tree.read (addressPath directory interface) = .error why ∧
          lookUp letters tree directory interface =
            .ok (.unreadable (addressPath directory interface) why))) := by
  unfold lookUp findAddress
  dsimp only
  cases unencodable? letters directory interface with
  | some codes => exact .inl ⟨codes, rfl, rfl⟩
  | none =>
    refine .inr ⟨rfl, ?_⟩
    cases (addressPath directory interface).hasNull with
    | true => exact .inl ⟨rfl, rfl⟩
    | false =>
      refine .inr ⟨rfl, ?_⟩
      cases tree.read (addressPath directory interface) with
      | ok bytes => exact .inl ⟨bytes, rfl, rfl⟩
      | error why => exact .inr ⟨why, rfl, rfl⟩

end MachineDescriptor.Network
