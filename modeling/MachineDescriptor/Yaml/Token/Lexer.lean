import MachineDescriptor.Yaml.Scalar
import MachineDescriptor.Yaml.Token

/-!
From text to tokens. A key is known only by the colon after it, so the place of each token that may
turn out to be one is kept until the line ends; the key token is then put in front of it. Block
collections begin where a line is set in further, and end where one is set in less.
-/
namespace MachineDescriptor.Yaml

/-- The place of a token that may be a key: its number among the tokens, whether it must be a key,
and where it stands. -/
structure Candidate where
  number : Nat
  required : Bool
  index : Nat
  line : Nat
  column : Nat

/-- The state of the reading: the tokens so far, the last one first; the depth of flow collections;
the indentation of the innermost block collection and of those around it; whether a key may start
here; and the candidates for keys by the depth they stand at. -/
structure Lexer where
  cursor : Cursor
  tokens : List Token
  flow : Nat
  indent : Int
  indents : List Int
  allowKey : Bool
  candidates : List (Nat × Candidate)

namespace Lexer

abbrev Lexing := EStateM Fault Lexer

def fail {α : Type} : Lexing α := throw .malformed

/-- The start of a text. -/
def ofText (letters : Text.Letters) (cs : List Char) : Lexer :=
  ⟨.ofText letters cs, [], 0, -1, [], true, []⟩

/-- Takes a step of reading. -/
def reading {α : Type} (r : Reading α) : Lexing α := fun s =>
  match r s.cursor with
  | .ok (a, cursor) => .ok a { s with cursor }
  | .error f => .error f s

def emit (t : Token) : Lexing Unit := modify fun s => { s with tokens := t :: s.tokens }

def setAllowKey (b : Bool) : Lexing Unit := modify fun s => { s with allowKey := b }

/-- Puts a token in at a place among the tokens. -/
def insertAt (number : Nat) (t : Token) : Lexing Unit := modify fun s =>
  let later := s.tokens.length - number
  { s with tokens := s.tokens.take later ++ t :: s.tokens.drop later }

/-- How far a key may reach, in characters. -/
def keyReach : Nat := 1024

/-- Whether the reading has gone past the reach of a candidate. -/
def isStale (c : Cursor) (k : Candidate) : Bool :=
  k.line != c.line || keyReach < c.index - k.index

/-- Drops the candidates that can be no keys any more; one that must be a key is a fault. -/
def dropStale : Lexing Unit := do
  let s ← get
  let (stale, live) := s.candidates.partition fun e => isStale s.cursor e.2
  if stale.any fun e => e.2.required then fail
  else set { s with candidates := live }

/-- Drops the candidate at the present depth. -/
def dropCandidate : Lexing Unit := do
  let s ← get
  match s.candidates.lookup s.flow with
  | some k =>
    if k.required then fail
    else set { s with candidates := s.candidates.filter fun e => e.1 != s.flow }
  | none => pure ()

/-- Keeps the present place as that of a key. The first token of a block collection's line must be
one. -/
def saveCandidate : Lexing Unit := do
  let s ← get
  if s.allowKey then
    dropCandidate
    let c := s.cursor
    let k : Candidate :=
      ⟨s.tokens.length, s.flow == 0 && s.indent == c.column, c.index, c.line, c.column⟩
    modify fun s => { s with candidates := (s.flow, k) :: s.candidates }

/-- The ends of the block collections that are set in further than a column. -/
def unwoundTo (column : Int) (indent : Int) : List Int → Nat × Int × List Int
  | [] => (0, indent, [])
  | outer :: rest =>
    if column < indent then
      let (n, indent, rest) := unwoundTo column outer rest
      (n + 1, indent, rest)
    else (0, indent, outer :: rest)

/-- Ends the block collections that are set in further than a column. -/
def unwind (column : Int) : Lexing Unit := do
  let s ← get
  if s.flow = 0 then
    let (n, indent, indents) := unwoundTo column s.indent s.indents
    set { s with indent, indents, tokens := List.replicate n Token.blockEnd ++ s.tokens }

/-- Opens a block collection at a column, if it is set in further than the one around it. -/
def openAt (column : Int) : Lexing Bool := do
  let s ← get
  if s.indent < column then
    set { s with indent := column, indents := s.indent :: s.indents }
    pure true
  else pure false

/-- Opens a block collection at the present column. -/
def openHere (t : Token) : Lexing Unit := do
  if ← openAt (← get).cursor.column then emit t

/-- Skips a byte order mark at the start of the text. -/
def skipMark (s : Lexer) : Lexer :=
  if s.cursor.index = 0 ∧ s.cursor.next = some byteOrderMark then
    { s with cursor := s.cursor.step }
  else s

/-- Skips spaces, comments and line breaks in at most so many steps. After a line break in a block a
key may start. -/
def skipToToken : Nat → Lexing Unit
  | 0 => pure ()
  | fuel + 1 => do
    reading do
      Reading.skipSpaces
      modify Cursor.skipComment
    match ← reading Reading.lineBreak with
    | none => pure ()
    | some _ =>
      if (← get).flow = 0 then setAllowKey true
      skipToToken fuel

/-- The numbers of a version directive. -/
def versionNumber : Reading Int := do
  let digits ← Reading.takeWhile fun c => '0' ≤ c && c ≤ '9'
  if digits.isEmpty then Reading.fail
  else
    match Integer.read digits with
    | .ok n => pure n
    | .error f => throw (.integer f)

/-- A directive up to the end of its line. -/
def directive : Reading Directive := do
  Reading.skip 1
  let name ← Reading.takeWhile isNameChar
  if name.isEmpty then Reading.fail
  else
    Reading.expect endsWord
    let d ← if name = "YAML".toList then do
        Reading.skipSpaces
        let major ← versionNumber
        Reading.expectChar '.'
        let minor ← versionNumber
        Reading.expect endsWord
        pure (.version major minor)
      else if name = "TAG".toList then do
        Reading.skipSpaces
        let handle ← TagText.handleText
        Reading.expect (· == some ' ')
        Reading.skipSpaces
        let beginning ← TagText.chars
        Reading.expect endsWord
        pure (.handle handle beginning)
      else do
        let _ ← Reading.takeWhile (!isBreak ·)
        pure .other
    Reading.restOfLine
    pure d

/-- What may follow the name of an anchor or alias. -/
def endsName (c : Option Char) : Bool :=
  endsToken c || c.any ("?:,]\x7d%@\x60".toList.contains ·)

/-- The name of an anchor or alias. -/
def anchorName : Reading (List Char) := do
  Reading.skip 1
  let name ← Reading.takeWhile isNameChar
  if name.isEmpty then Reading.fail
  else
    Reading.expect endsName
    pure name

/-- A token of one line's own: it ends all block collections. -/
def documentMark (t : Token) : Lexing Unit := do
  unwind (-1)
  dropCandidate
  setAllowKey false
  reading (Reading.skip 3)
  emit t

def flowStart (t : Token) : Lexing Unit := do
  saveCandidate
  modify fun s => { s with flow := s.flow + 1, allowKey := true }
  reading (Reading.skip 1)
  emit t

def flowEnd (t : Token) : Lexing Unit := do
  dropCandidate
  modify fun s => { s with flow := s.flow - 1, allowKey := false }
  reading (Reading.skip 1)
  emit t

def flowEntry : Lexing Unit := do
  setAllowKey true
  dropCandidate
  reading (Reading.skip 1)
  emit .flowEntry

/-- The dash of a sequence's entry. -/
def blockEntry : Lexing Unit := do
  let s ← get
  if s.flow = 0 then
    if s.allowKey then openHere .sequenceStart else fail
  setAllowKey true
  dropCandidate
  reading (Reading.skip 1)
  emit .blockEntry

/-- The question mark of a key. -/
def explicitKey : Lexing Unit := do
  let s ← get
  if s.flow = 0 then
    if s.allowKey then openHere .mappingStart else fail
  setAllowKey (s.flow == 0)
  dropCandidate
  reading (Reading.skip 1)
  emit .key

/-- The colon of a value. The candidate in front of it becomes a key. -/
def valueMark : Lexing Unit := do
  let s ← get
  match s.candidates.lookup s.flow with
  | some k =>
    set { s with candidates := s.candidates.filter fun e => e.1 != s.flow }
    insertAt k.number .key
    if s.flow = 0 then
      if ← openAt k.column then insertAt k.number .mappingStart
    setAllowKey false
  | none =>
    if s.flow = 0 then
      if s.allowKey then openHere .mappingStart else fail
    setAllowKey (s.flow == 0)
    dropCandidate
  reading (Reading.skip 1)
  emit .value

/-- A token that may be a key. -/
def keyLike (r : Reading Token) : Lexing Unit := do
  saveCandidate
  setAllowKey false
  emit (← reading r)

/-- A scalar in the form of a block. -/
def blockScalar (folds : Bool) : Lexing Unit := do
  setAllowKey true
  dropCandidate
  let cs ← reading (Scalar.block folds (← get).indent)
  emit (.scalar cs false)

/-- A plain scalar; a key may start after it when it was read to the end of its line. -/
def plainScalar : Lexing Unit := do
  saveCandidate
  let s ← get
  let (cs, onNewLine) ← reading (Scalar.plain (s.flow != 0) (s.indent + 1))
  setAllowKey onNewLine
  emit (.scalar cs true)

/-- Whether a plain scalar starts here. -/
def startsPlain (flow : Nat) (c : Char) (second : Option Char) : Bool :=
  (!endsToken (some c) && !isIndicator c) ||
    (!endsToken second && (c == '-' || (flow == 0 && (c == '?' || c == ':'))))

/-- Reads the token that starts with a character. -/
def token (c : Char) : Lexing Unit := do
  let s ← get
  let second := s.cursor.ahead 1
  let inFlow := s.flow != 0
  let atMargin := s.cursor.column == 0
  if c == '%' && atMargin then
    unwind (-1)
    dropCandidate
    setAllowKey false
    let d ← reading directive
    emit (.directive d)
  else if c == '-' && atMargin && s.cursor.atSeparator then documentMark .documentStart
  else if c == '.' && atMargin && s.cursor.atSeparator then documentMark .documentEnd
  else if c == '[' then flowStart .flowSequenceStart
  else if c == '\x7b' then flowStart .flowMappingStart
  else if c == ']' then flowEnd .flowSequenceEnd
  else if c == '\x7d' then flowEnd .flowMappingEnd
  else if c == ',' then flowEntry
  else if c == '-' && endsToken second then blockEntry
  else if c == '?' && (inFlow || endsToken second) then explicitKey
  else if c == ':' && (inFlow || endsToken second) then valueMark
  else if c == '*' then keyLike (do return .alias (← anchorName))
  else if c == '&' then keyLike (do return .anchor (← anchorName))
  else if c == '!' then keyLike (do return .tag (← TagText.read))
  else if c == '|' && !inFlow then blockScalar false
  else if c == '>' && !inFlow then blockScalar true
  else if c == '\'' then keyLike (do return .scalar (← Scalar.quoted false) false)
  else if c == '"' then keyLike (do return .scalar (← Scalar.quoted true) false)
  else if startsPlain s.flow c second then plainScalar
  else fail

/-- Reads the next token, if there is one, with all that comes before it. -/
def step : Lexing Bool := do
  skipToToken ((← get).cursor.rest.length + 1)
  dropStale
  unwind (← get).cursor.column
  match (← get).cursor.next with
  | none =>
    unwind (-1)
    dropCandidate
    pure false
  | some c =>
    token c
    pure true

/-- Reads tokens to the end of the text, in at most so many steps, or up to a fault: then the state
before the faulty step is left. -/
def run : Nat → Lexer → Lexer × Option Fault
  | 0, s => (s, some .malformed)
  | fuel + 1, s =>
    match step s with
    | .ok true next => run fuel next
    | .ok false last => (last, none)
    | .error f _ => (s, some f)

/-- How many tokens are known for good: those in front of the first that may still turn out to be a
key. -/
def settled (s : Lexer) : Nat :=
  (s.candidates.filter fun e => !isStale s.cursor e.2).foldl (fun n e => min n e.2.number)
    s.tokens.length

end Lexer

/-- The tokens of a text, and the fault at which the reading of it ended early. In front of a fault
only the tokens count that were known for good. -/
def Token.ofText (letters : Text.Letters) (cs : List Char) : List Token × Option Fault :=
  if cs.all isAllowed then
    let (s, fault) := Lexer.run (cs.length + 1) (Lexer.ofText letters cs).skipMark
    let tokens := s.tokens.reverse
    (if fault.isSome then tokens.take s.settled else tokens, fault)
  else ([], some .malformed)

end MachineDescriptor.Yaml
