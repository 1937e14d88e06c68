import MachineDescriptor.Text.Hex
import MachineDescriptor.Text.Printable

/-!
Quoted texts, as values are shown in messages. A text stands between single quotes, or between
double quotes when it holds a single quote and no double one; within, the quote in use, the
backslash and everything that is not printable are escaped.
-/
namespace MachineDescriptor.Text

/-- The quote around a text that does or does not hold each of the two quotes. -/
def quoteFor (holdsSingle holdsDouble : Bool) : Char :=
  if holdsSingle && !holdsDouble then '"' else '\''

/-- One character of a quoted text. -/
def quotedChar (quote c : Char) : List Char :=
  let n := c.toNat
  if c = quote ∨ c = '\\' then ['\\', c]
  else if c = '\t' then ['\\', 't']
  else if c = '\n' then ['\\', 'n']
  else if c = '\r' then ['\\', 'r']
  else if isPrintable c then [c]
  else if n ≤ 0xff then ['\\', 'x'] ++ hex 2 n
  else if n ≤ 0xffff then ['\\', 'u'] ++ hex 4 n
  else ['\\', 'U'] ++ hex 8 n

/-- A text in quotes. -/
def quoted (cs : List Char) : List Char :=
  let quote := quoteFor (cs.contains '\'') (cs.contains '"')
  quote :: cs.flatMap (quotedChar quote) ++ [quote]

/-- One byte of a quoted byte sequence; only the printable seven-bit characters stand for
themselves. -/
def quotedByte (quote : Char) (b : UInt8) : List Char :=
  let c := Char.ofNat b.toNat
  if c = quote ∨ c = '\\' then ['\\', c]
  else if c = '\t' then ['\\', 't']
  else if c = '\n' then ['\\', 'n']
  else if c = '\r' then ['\\', 'r']
  else if 0x20 ≤ b.toNat ∧ b.toNat < 0x7f then [c]
  else ['\\', 'x'] ++ hex 2 b.toNat

/-- A byte sequence in quotes after the letter b. -/
def quotedBytes (bs : List UInt8) : List Char :=
  let quote := quoteFor (bs.contains 0x27) (bs.contains 0x22)
  'b' :: quote :: bs.flatMap (quotedByte quote) ++ [quote]

example : quoted "it's".toList = "\"it's\"".toList := by decide
example : quoted "a\n\u2028".toList = "'a\\n\\u2028'".toList := by decide +kernel

end MachineDescriptor.Text
