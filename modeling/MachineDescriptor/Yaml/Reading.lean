import MachineDescriptor.Yaml.Cursor
import MachineDescriptor.Yaml.Fault

/-!
Steps of reading that move a cursor through a text or fail.
-/
namespace MachineDescriptor.Yaml

abbrev Reading := StateT Cursor (Except Fault)

namespace Reading

def fail {α : Type} : Reading α := throw .malformed

/-- The next character, which is not taken. -/
def peek : Reading (Option Char) := do return (← get).next

/-- The character so many places ahead. -/
def peekAt (n : Nat) : Reading (Option Char) := do return (← get).ahead n

def skip (n : Nat) : Reading Unit := modify (Cursor.skip n)

/-- Takes the characters that are of a class. -/
def takeWhile (p : Char → Bool) : Reading (List Char) := do
  let (taken, c) := (← get).takeWhile p
  set c
  pure taken

def skipSpaces : Reading Unit := modify Cursor.skipSpaces

/-- Takes a line break, if there is one here. -/
def lineBreak : Reading (Option Char) := do
  let (found, c) := (← get).lineBreak
  set c
  pure found

/-- Fails unless the next character, or the end of the text, is of a class. -/
def expect (p : Option Char → Bool) : Reading Unit := do
  if p (← peek) then pure () else fail

/-- Takes one given character or fails. -/
def expectChar (x : Char) : Reading Unit := do
  expect (· == some x)
  skip 1

/-- Takes the spaces, the comment and the break at the end of a line that has nothing more. -/
def restOfLine : Reading Unit := do
  skipSpaces
  modify Cursor.skipComment
  expect endsLine
  let _ ← lineBreak

/-- How many steps are enough to read what is left. -/
def enough : Reading Nat := do return (← get).rest.length + 1

end Reading
end MachineDescriptor.Yaml
