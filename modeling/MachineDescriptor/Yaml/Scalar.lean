import MachineDescriptor.Yaml.Reading

/-!
Scalars as they are written: plain, in quotes, and as blocks of lines. A single line break within a
scalar is folded to a space where the style folds lines, and each further one is kept.
-/
namespace MachineDescriptor.Yaml.Scalar

open Reading

/-- What a line break and the empty lines after it come to when lines are folded. -/
def folded (lineBreak : Char) (breaks : List Char) : List Char :=
  if lineBreak ≠ '\n' then lineBreak :: breaks
  else if breaks.isEmpty then [' ']
  else breaks

/-! Plain scalars. -/

/-- The characters of a plain scalar at the start of a text, up to a blank or an indicator. -/
def plainChunk (inFlow : Bool) : List Char → List Char
  | [] => []
  | c :: rest =>
    let endsKey := c == ':' && (endsToken rest.head? || inFlow && rest.head?.any isFlowEnd)
    if isSpaceOrTab c || isBreak c || endsKey || inFlow && isFlowMark c then []
    else c :: plainChunk inFlow rest

/-- The empty lines after a line of a plain scalar, in at most so many steps; nothing where a
document separator follows. -/
def plainBreaks : Nat → Reading (Option (List Char))
  | 0 => pure (some [])
  | fuel + 1 => do
    skipSpaces
    match ← lineBreak with
    | none => pure (some [])
    | some b =>
      if (← get).atSeparator then pure none
      else return (← plainBreaks fuel).map (b :: ·)

/-- What stands between two chunks of a plain scalar, and whether the second starts a line. -/
def plainGap : Reading (List Char × Bool) := do
  let spaces ← takeWhile (· == ' ')
  match ← lineBreak with
  | none => pure (spaces, false)
  | some b =>
    if (← get).atSeparator then pure ([], true)
    else
      match ← plainBreaks (← enough) with
      | none => pure ([], true)
      | some breaks => pure (folded b breaks, true)

/-- The chunks of a plain scalar after what stands in front of them, in at most so many steps, and
whether the reading stopped at the start of a line. -/
def plainFrom (inFlow : Bool) (indent : Int) : Nat → List Char → Bool → Reading (List Char × Bool)
  | 0, _, onNewLine => pure ([], onNewLine)
  | fuel + 1, gap, onNewLine => do
    let chunk := plainChunk inFlow (← get).rest
    if (← peek) = some '#' ∨ chunk.isEmpty then pure ([], onNewLine)
    else
      skip chunk.length
      let (next, broken) ← plainGap
      let c ← get
      if next.isEmpty || c.next == some '#' || (!inFlow && (c.column : Int) < indent) then
        pure (gap ++ chunk, broken)
      else
        let (more, last) ← plainFrom inFlow indent fuel next broken
        pure (gap ++ chunk ++ more, last)

/-- A plain scalar, and whether the reading stopped at the start of a line. -/
def plain (inFlow : Bool) (indent : Int) : Reading (List Char × Bool) := do
  plainFrom inFlow indent (← enough) [] false

/-! Scalars in quotes. -/

/-- The characters that a letter after a backslash stands for. -/
def escapes : List (Char × Char) :=
  [('0', '\x00'), ('a', '\x07'), ('b', '\x08'), ('t', '\t'), ('\t', '\t'), ('n', '\n'),
    ('v', '\x0b'), ('f', '\x0c'), ('r', '\r'), ('e', '\x1b'), (' ', ' '), ('"', '"'),
    ('\\', '\\'), ('/', '/'), ('N', '\x85'), ('_', '\xa0'), ('L', '\u2028'), ('P', '\u2029')]

/-- How many hexadecimal digits follow a letter after a backslash. -/
def escapeWidths : List (Char × Nat) := [('x', 2), ('u', 4), ('U', 8)]

/-- The largest number of a character. -/
def maxCharacter : Nat := 0x10ffff

/-- Takes the digits of a character's number. -/
def numbered (width : Nat) : Reading Char := do
  let digits := (← get).rest.take width
  match Text.hexNumber? digits with
  | some code =>
    if digits.length < width then fail
    else if maxCharacter < code then throw (.noSuchCharacter code)
    else do
      skip width
      return (← get).letters.character code
  | none => fail

/-- The line breaks within a scalar in quotes, in at most so many steps. No document separator may
stand there. -/
def quotedBreaks : Nat → Reading (List Char)
  | 0 => pure []
  | fuel + 1 => do
    if (← get).atSeparator then fail
    else
      let _ ← takeWhile isSpaceOrTab
      match ← lineBreak with
      | some b => return b :: (← quotedBreaks fuel)
      | none => pure []

/-- What a backslash and the characters after it stand for. -/
def escaped : Reading (List Char) := do
  skip 1
  match ← peek with
  | none => fail
  | some c =>
    match escapes.lookup c with
    | some x => do
      skip 1
      pure [x]
    | none =>
      match escapeWidths.lookup c with
      | some width => do
        skip 1
        return [← numbered width]
      | none =>
        if isBreak c then do
          let _ ← lineBreak
          quotedBreaks (← enough)
        else fail

/-- The characters of a scalar in quotes up to a blank or its end, in at most so many steps. -/
def quotedChunk (double : Bool) : Nat → Reading (List Char)
  | 0 => pure []
  | fuel + 1 => do
    match ← peek with
    | none => pure []
    | some c =>
      if isSpaceOrTab c || isBreak c then pure []
      else if !double && c == '\'' && (← peekAt 1) == some '\'' then do
        skip 2
        return '\'' :: (← quotedChunk double fuel)
      else if c == (if double then '"' else '\'') then pure []
      else if double && c == '\\' then do
        let cs ← escaped
        return cs ++ (← quotedChunk double fuel)
      else do
        skip 1
        return c :: (← quotedChunk double fuel)

/-- The blanks within a scalar in quotes. -/
def quotedGap : Reading (List Char) := do
  let spaces ← takeWhile isSpaceOrTab
  match ← lineBreak with
  | some b => return folded b (← quotedBreaks (← enough))
  | none => if (← peek).isNone then fail else pure spaces

/-- The rest of a scalar in quotes, in at most so many steps. -/
def quotedFrom (double : Bool) : Nat → Reading (List Char)
  | 0 => fail
  | fuel + 1 => do
    let chunk ← quotedChunk double (← enough)
    if (← peek) = some (if double then '"' else '\'') then do
      skip 1
      pure chunk
    else
      let gap ← quotedGap
      return chunk ++ gap ++ (← quotedFrom double fuel)

/-- A scalar in double or single quotes. -/
def quoted (double : Bool) : Reading (List Char) := do
  skip 1
  quotedFrom double (← enough)

/-! Blocks. -/

/-- What becomes of the line breaks at the end of a block. -/
inductive Chomping where
  | strip
  | clip
  | keep
deriving DecidableEq

/-- The chomping that a sign asks for. -/
def chomping? : Option Char → Option Chomping
  | some '+' => some .keep
  | some '-' => some .strip
  | _ => none

/-- The indentation that a digit asks for. -/
def increment? (c : Option Char) : Option Nat :=
  c.bind fun c => if '0' ≤ c ∧ c ≤ '9' then some (c.toNat - '0'.toNat) else none

/-- Takes the sign for the chomping, if there is one. -/
def takeChomping : Reading (Option Chomping) := do
  let found := chomping? (← peek)
  if found.isSome then skip 1
  pure found

/-- Takes the digit for the indentation, if there is one; it is not zero. -/
def takeIncrement : Reading (Option Nat) := do
  let found := increment? (← peek)
  if found = some 0 then fail
  else
    if found.isSome then skip 1
    pure found

/-- The first line of a block: a sign and a digit in either order. -/
def header : Reading (Chomping × Option Nat) := do
  let first ← takeChomping
  let increment ← takeIncrement
  let chomping ← if first.isNone && increment.isSome then takeChomping else pure first
  expect endsWord
  restOfLine
  pure (chomping.getD .clip, increment)

/-- The line breaks in front of a block's first line, and the widest indentation among the empty
lines and that line, in at most so many steps. -/
def leadingBreaks : Nat → Nat → Reading (List Char × Nat)
  | 0, widest => pure ([], widest)
  | fuel + 1, widest => do
    skipSpaces
    let widest := max widest (← get).column
    match ← lineBreak with
    | none => pure ([], widest)
    | some b =>
      let (breaks, widest) ← leadingBreaks fuel widest
      pure (b :: breaks, widest)

/-- Skips spaces up to a column, of which so many are missing. -/
def skipIndent : Nat → Reading Unit
  | 0 => pure ()
  | missing + 1 => do
    if (← peek) = some ' ' then
      skip 1
      skipIndent missing

/-- The line breaks between two lines of a block, in at most so many steps. -/
def blockBreaks (indent : Nat) : Nat → Reading (List Char)
  | 0 => pure []
  | fuel + 1 => do
    skipIndent (indent - (← get).column)
    match ← lineBreak with
    | none => pure []
    | some b => return b :: (← blockBreaks indent fuel)

/-- Whether a line of a block with an indentation starts here. -/
def atLine (indent : Nat) (c : Cursor) : Bool := c.column == indent && c.next.isSome

/-- What stands between two lines of a block. A break between two lines that do not start with a
blank is folded. -/
def lineGap (folds : Bool) (blankBefore : Bool) (blankAfter : Bool) (lineBreak : Option Char)
    (breaks : List Char) : List Char :=
  if folds && lineBreak == some '\n' && !blankBefore && !blankAfter then
    if breaks.isEmpty then [' '] else []
  else lineBreak.toList

/-- The lines of a block after some line breaks, in at most so many steps; also the break that ends
the last line, and those after it. -/
def blockLines (folds : Bool) (indent : Nat) :
    Nat → List Char → Option Char → Reading (List Char × Option Char × List Char)
  | 0, breaks, last => pure ([], last, breaks)
  | fuel + 1, breaks, last => do
    if !atLine indent (← get) then pure ([], last, breaks)
    else
      let blankBefore := (← peek).any isSpaceOrTab
      let line ← takeWhile (!isBreak ·)
      let ending ← lineBreak
      let after ← blockBreaks indent (← enough)
      let c ← get
      let gap := if atLine indent c then
          lineGap folds blankBefore (c.next.any isSpaceOrTab) ending after
        else []
      let (more, last, rest) ← blockLines folds indent fuel after ending
      pure (breaks ++ line ++ gap ++ more, last, rest)

/-- A block inside of a collection with an indentation. -/
def block (folds : Bool) (parent : Int) : Reading (List Char) := do
  skip 1
  let (chomping, increment) ← header
  let least := (max (parent + 1) 1).toNat
  let (breaks, indent) ← match increment with
    | some n => do
      let indent := least + n - 1
      pure (← blockBreaks indent (← enough), indent)
    | none => do
      let (breaks, widest) ← leadingBreaks (← enough) 0
      pure (breaks, max least widest)
  let (body, last, rest) ← blockLines folds indent (← enough) breaks none
  match chomping with
  | .strip => pure body
  | .clip => pure (body ++ last.toList)
  | .keep => pure (body ++ last.toList ++ rest)

end MachineDescriptor.Yaml.Scalar
