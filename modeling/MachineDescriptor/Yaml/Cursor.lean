import MachineDescriptor.Text.Letters
import MachineDescriptor.Yaml.Character

/-!
A place in a text: what is still to be read, and how far the reading has come, in characters, lines
and columns. Escapes of surrogate codes are read with the letters that go with the place.
-/
namespace MachineDescriptor.Yaml

structure Cursor where
  rest : List Char
  index : Nat
  line : Nat
  column : Nat
  letters : Text.Letters

namespace Cursor

/-- The start of a text. -/
def ofText (letters : Text.Letters) (cs : List Char) : Cursor := ⟨cs, 0, 0, 0, letters⟩

/-- The next character. -/
def next (c : Cursor) : Option Char := c.rest.head?

/-- The character so many places ahead. -/
def ahead (c : Cursor) (n : Nat) : Option Char := c.rest[n]?

/-- The place after the next character. -/
def step (c : Cursor) : Cursor :=
  match c.rest with
  | [] => c
  | x :: rest =>
    if isBreak x && !(x == '\r' && rest.head? == some '\n') then
      { c with rest, index := c.index + 1, line := c.line + 1, column := 0 }
    else if x = byteOrderMark then { c with rest, index := c.index + 1 }
    else { c with rest, index := c.index + 1, column := c.column + 1 }

/-- The place after so many characters. -/
def skip : Nat → Cursor → Cursor
  | 0, c => c
  | n + 1, c => skip n c.step

/-- The characters from here on that are of a class, and the place after them. -/
def takeWhile (c : Cursor) (p : Char → Bool) : List Char × Cursor :=
  let taken := c.rest.takeWhile p
  (taken, c.skip taken.length)

/-- The place after the characters of a class. -/
def dropWhile (c : Cursor) (p : Char → Bool) : Cursor := (c.takeWhile p).2

/-- The place after the spaces. -/
def skipSpaces (c : Cursor) : Cursor := c.dropWhile (· == ' ')

/-- The place at the end of a comment, if one starts here. -/
def skipComment (c : Cursor) : Cursor :=
  if c.next = some '#' then c.dropWhile (!isBreak ·) else c

/-- A line break, if there is one here, and the place after it. Most breaks count as line feeds. -/
def lineBreak (c : Cursor) : Option Char × Cursor :=
  match c.rest with
  | '\r' :: '\n' :: _ => (some '\n', c.skip 2)
  | x :: _ =>
    if x = '\u2028' ∨ x = '\u2029' then (some x, c.step)
    else if isBreak x then (some '\n', c.step)
    else (none, c)
  | [] => (none, c)

/-- Whether three dashes or three points stand here as a word. -/
def atSeparator (c : Cursor) : Bool :=
  (c.rest.take 3 == ['-', '-', '-'] || c.rest.take 3 == ['.', '.', '.']) && endsToken (c.ahead 3)

end Cursor
end MachineDescriptor.Yaml
