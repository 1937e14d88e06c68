/-!
Lines of a text. A line ends at any of the line and paragraph breaks; a carriage return followed by
a line feed is one break.
-/
namespace MachineDescriptor.Text

/-- The characters that end a line. -/
def isLineBreak (c : Char) : Bool :=
  let n := c.toNat
  (0x0a ≤ n && n ≤ 0x0d) || (0x1c ≤ n && n ≤ 0x1e) || n == 0x85 || n == 0x2028 || n == 0x2029

/-- The lines of a text, after the line begun so far, whose last character comes first. -/
def linesAfter (begun : List Char) : List Char → List (List Char)
  | [] => if begun.isEmpty then [] else [begun.reverse]
  | '\r' :: '\n' :: rest => begun.reverse :: linesAfter [] rest
  | c :: rest =>
    if isLineBreak c then begun.reverse :: linesAfter [] rest else linesAfter (c :: begun) rest

/-- The lines of a text, without their breaks; a break at the very end opens no further line. -/
def lines (cs : List Char) : List (List Char) := linesAfter [] cs

/-- Every carriage return, alone or before a line feed, becomes a line feed. -/
def unifyLineFeeds : List Char → List Char
  | [] => []
  | '\r' :: '\n' :: rest => '\n' :: unifyLineFeeds rest
  | c :: rest => (if c = '\r' then '\n' else c) :: unifyLineFeeds rest

/-- A line feed or carriage return becomes its two-character escape. -/
def escapeLineFeeds : List Char → List Char
  | [] => []
  | c :: rest =>
    (if c = '\n' then ['\\', 'n'] else if c = '\r' then ['\\', 'r'] else [c]) ++
      escapeLineFeeds rest

end MachineDescriptor.Text
