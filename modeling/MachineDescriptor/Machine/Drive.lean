import MachineDescriptor.Fault

/-!
Target names of disks. A disk that is given by a path has the name of its position in the list of
disks: `sd` and letters that count a, b, … z, aa, ab, …, each position in its own name and shorter
names first. Any other disk is named by itself.
-/
namespace MachineDescriptor.Drive

/-- The letter of a digit below 26. -/
def letter (digit : Nat) : Char := Char.ofNat ('a'.toNat + digit)

/-- The letters of a position. -/
def letters (index : Nat) : List Char :=
  if index < 26 then [letter index]
  else letters (index / 26 - 1) ++ [letter (index % 26)]
termination_by index
decreasing_by omega

/-- What every positional name begins with. -/
def stem : List Char := ['s', 'd']

/-- The name of a position. -/
def positional (index : Nat) : List Char := stem ++ letters index

/-- The longest name that a disk may give itself. -/
def maxName : Nat := 63

/-- Whether a disk is named by its position: it is a path, or its own name is too long. -/
def isPositional (disk : List Char) : Bool := disk.head? == some '/' || maxName < disk.length

/-- The target name of the disk at a position. -/
def target (disk : List Char) (index : Nat) : List Char :=
  if isPositional disk then positional index else disk

/-- The target names of a list of disks, the first of which has a given position. -/
def targetsFrom (index : Nat) : List (List Char) → List (List Char)
  | [] => []
  | disk :: rest => target disk index :: targetsFrom (index + 1) rest

/-- The position that an integer stands for. -/
def position (index : Int) : Except Fault Nat :=
  if 0 ≤ index then .ok index.toNat
  else if Integer.isWritable index then .error (.negativeIndex index)
  else .error (.integer .tooLongToWrite)

/-- The letters of a position that is given as an integer. -/
def lettersAt (index : Int) : Except Fault (List Char) := (position index).map letters

/-- The name of a position that is given as an integer. -/
def positionalAt (index : Int) : Except Fault (List Char) := (position index).map positional

/-- The target name of a disk at a position that is given as an integer; a disk that names itself
does not look at the position. -/
def targetAt (disk : List Char) (index : Int) : Except Fault (List Char) :=
  if isPositional disk then positionalAt index else .ok disk

example : letters 25 = ['z'] := by decide +kernel
example : letters 26 = ['a', 'a'] := by decide +kernel
example : letters 702 = ['a', 'a', 'a'] := by decide +kernel

end MachineDescriptor.Drive
