import MachineDescriptor.Text.Split

/-!
Blanks: the characters that separate words. A text is brought to one line by setting its words
apart with single spaces; such a text has no line break of any kind, because every line break is a
blank.
-/
namespace MachineDescriptor.Text

/-- The separators of words: the seven-bit blanks and separators, the next-line control, and the
space and line separators of all scripts. -/
def isBlank (c : Char) : Bool :=
  let n := c.toNat
  (0x09 ≤ n && n ≤ 0x0d) || (0x1c ≤ n && n ≤ 0x20) || n == 0x85 || n == 0xa0 || n == 0x1680 ||
    (0x2000 ≤ n && n ≤ 0x200a) || n == 0x2028 || n == 0x2029 || n == 0x202f || n == 0x205f ||
    n == 0x3000

/-- The text without the blanks at its two ends. -/
def trim (cs : List Char) : List Char :=
  ((cs.dropWhile isBlank).reverse.dropWhile isBlank).reverse

/-- The words of a text, after the word begun so far, whose last character comes first. -/
def wordsAfter (begun : List Char) : List Char → List (List Char)
  | [] => if begun.isEmpty then [] else [begun.reverse]
  | c :: rest =>
    if isBlank c then
      if begun.isEmpty then wordsAfter [] rest else begun.reverse :: wordsAfter [] rest
    else wordsAfter (c :: begun) rest

/-- The words of a text: its longest stretches without a blank. -/
def words (cs : List Char) : List (List Char) := wordsAfter [] cs

/-- The text up to a position; a position below zero counts from the end. -/
def upTo (cs : List Char) (position : Int) : List Char :=
  if 0 ≤ position then cs.take position.toNat else cs.take (cs.length + position).toNat

/-- The text itself when it has at most `limit` characters, and else a shorter beginning of it
followed by a mark of the omission. -/
def cut (limit : Int) (mark : List Char) (cs : List Char) : List Char :=
  if (cs.length : Int) ≤ limit then cs else upTo cs (limit - mark.length) ++ mark

/-- A text on one line of at most `limit` characters. -/
def oneLine (limit : Int) (cs : List Char) : List Char :=
  cut limit ['.', '.', '.'] (joined [' '] (words cs))

/-- The usual limit of a text on one line. -/
def lineLimit : Int := 600

end MachineDescriptor.Text
