import MachineDescriptor.Terminal.CellWidth
import MachineDescriptor.Text.Blank

/-!
Lines of a bounded width on a terminal. A line is broken in front of a word that does not fit on it,
and a word that fits on no line is cut into parts; blanks go with the word before them. Every line
comes out no wider than it may be.
-/
namespace MachineDescriptor.Terminal

/-- The columns from one stop of the tabulator to the next. -/
def tabStops : Nat := 8

/-- A line with each tab replaced by spaces up to the next stop; `column` is where it starts. -/
def expandTabs (column : Nat) : List Char → List Char
  | [] => []
  | c :: rest =>
    if c = '\t' then
      let spaces := tabStops - column % tabStops
      List.replicate spaces ' ' ++ expandTabs (column + spaces) rest
    else c :: expandTabs (column + charWidth c) rest

/-- The words of a line, each with the blanks after it, and the first with those before it; `blank`
tells whether the word begun so far has ended, and `begun` holds its characters, the last first. -/
def wordsWithBlanks (begun : List Char) (some? blank : Bool) : List Char → List (List Char)
  | [] => if some? then [begun.reverse] else []
  | c :: rest =>
    if Text.isBlank c then wordsWithBlanks (c :: begun) some? true rest
    else if some? && blank then begun.reverse :: wordsWithBlanks [c] true false rest
    else wordsWithBlanks (c :: begun) true false rest

/-- The parts of a text that are each no wider than a limit; `used` cells are taken by the part
begun so far, whose last character comes first. -/
def chopped (limit used : Nat) (begun : List Char) : List Char → List (List Char)
  | [] => [begun.reverse]
  | c :: rest =>
    let w := charWidth c
    if limit < used + w then begun.reverse :: chopped limit w [c] rest
    else chopped limit (used + w) (c :: begun) rest

/-- A word without the blanks at its end. -/
def trimmedEnd (cs : List Char) : List Char := (cs.reverse.dropWhile Text.isBlank).reverse

/-- The lines after a line begun so far, which takes `used` cells and is the first of all where
`first` holds. -/
def filled (limit used : Nat) (line : List Char) (first : Bool) :
    List (List Char) → List (List Char)
  | [] => [line]
  | word :: rest =>
    let needed := width (trimmedEnd word)
    if used + needed ≤ limit then filled limit (used + width word) (line ++ word) false rest
    else if limit < needed then
      let parts := chopped limit 0 [] word
      let last := parts.getLast?.getD []
      (if first then [] else [line]) ++ parts.dropLast ++ filled limit (width last) last false rest
    else if used = 0 ∨ first then filled limit used (line ++ word) false rest
    else line :: filled limit (width word) word false rest

/-- A line without blanks at its end that lie beyond so many characters. -/
def croppedEnd (limit : Nat) (cs : List Char) : List Char :=
  let blanks := cs.length - (trimmedEnd cs).length
  cs.take (cs.length - min blanks (cs.length - limit))

/-- The beginning of a text that fills a number of cells; a character that would stand half beyond
them becomes a space. The search goes on between two positions for at most so many steps. -/
def fittingWithin (cells : Nat) (cs : List Char) : Nat → Nat → Nat → List Char
  | 0, _, stop => cs.take stop
  | fuel + 1, start, stop =>
    let middle := (start + stop) / 2
    let before := cs.take (middle + 1)
    let taken := width before
    if taken = cells + 1 ∧ before.getLast?.any (charWidth · == 2) then before.dropLast ++ [' ']
    else if taken = cells then before
    else if cells < taken then fittingWithin cells cs fuel start middle
    else fittingWithin cells cs fuel middle stop

/-- A text cut or filled with spaces to a number of cells. -/
def fitted (cells : Nat) (cs : List Char) : List Char :=
  let w := width cs
  if w ≤ cells then cs ++ List.replicate (cells - w) ' '
  else if cells = 0 then []
  else fittingWithin cells cs (2 * cs.length + 2) 0 cs.length

/-- The lines that a line comes to, each filled to the limit. -/
def wrapped (limit : Nat) (line : List Char) : List (List Char) :=
  let line := expandTabs 0 line
  let ws := wordsWithBlanks [] false false line
  let lines := if ws.isEmpty then [line] else filled limit 0 [] true ws
  lines.map fun l => fitted limit (croppedEnd limit l)

end MachineDescriptor.Terminal
