import MachineDescriptor.Terminal.Markup
import MachineDescriptor.Terminal.Wrap
import MachineDescriptor.Text.Line
import MachineDescriptor.Text.Split

/-!
Panels: a text in a box with rounded corners and a title in its upper edge. The box is as wide as
the text needs, but no wider than the terminal.
-/
namespace MachineDescriptor.Terminal

/-- The columns of a terminal whose size is not known. -/
def usualColumns : Nat := 80

/-- A horizontal edge of so many cells. -/
def edge (cells : Nat) : List Char := List.replicate cells '─'

/-- The upper edge with a title in its middle; what is left over goes to the right. -/
def upperEdge (inner : Nat) (title : List Char) : List Char :=
  let room := inner - 2 - width title
  ['╭', '─'] ++ edge (room / 2) ++ title ++ edge (room - room / 2) ++ ['─', '╮']

/-- The cells that a text needs. -/
def neededWidth (cs : List Char) : Nat := ((Text.lines cs).map width).foldl max 0

/-- The panel around a text without markup. -/
def panelOf (columns : Nat) (title cs : List Char) : List Char :=
  let title := [' '] ++ title ++ [' ']
  let inner := min (columns - 2) (max (neededWidth cs + 2) (width title + 2))
  let lines := (Text.split '\n' cs).flatMap (wrapped (inner - 2))
  let body := lines.flatMap fun l => ['│', ' '] ++ l ++ [' ', '│', '\n']
  upperEdge inner title ++ ['\n'] ++ body ++ ['╰'] ++ edge inner ++ ['╯', '\n']

/-- The panel around a text with markup. -/
def panel (columns : Nat) (title cs : List Char) : Except Markup.Fault (List Char) :=
  (Markup.plain cs).map (panelOf columns title)

end MachineDescriptor.Terminal
