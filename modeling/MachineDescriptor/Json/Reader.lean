import MachineDescriptor.Number.Decimal
import MachineDescriptor.Text.Letters
import MachineDescriptor.Value.Basic

/-!
Reading JSON. Beyond the standard, the numbers that are not finite may be written by name, half of a
surrogate pair may stand alone, and of two members with one name the later one counts. A fault names
the first place where the text cannot go on, by line, column and position.
-/
namespace MachineDescriptor.Json

/-- What is wrong at a place. -/
inductive Problem where
  | value
  | memberName
  | colon
  | comma
  | extra
  | unterminated
  | control
  | escape
  | unicodeEscape
  | byteOrderMark
deriving DecidableEq

def Problem.message : Problem → String
  | value => "Expecting value"
  | memberName => "Expecting property name enclosed in double quotes"
  | colon => "Expecting ':' delimiter"
  | comma => "Expecting ',' delimiter"
  | extra => "Extra data"
  | unterminated => "Unterminated string starting at"
  | control => "Invalid control character at"
  | escape => "Invalid \\escape"
  | unicodeEscape => "Invalid \\uXXXX escape"
  | byteOrderMark => "Unexpected UTF-8 BOM (decode using utf-8-sig)"

/-- A reader's stop: a problem with so many characters left, or a numeral that is too long. -/
inductive Stop where
  | at (problem : Problem) (left : Nat)
  | integer (fault : Integer.Fault)

def isSpace (c : Char) : Bool := c == ' ' || c == '\t' || c == '\n' || c == '\r'

def skipSpace (cs : List Char) : List Char := cs.dropWhile isSpace

def isHighSurrogate (n : Nat) : Bool := 0xd800 ≤ n && n < 0xdc00
def isLowSurrogate (n : Nat) : Bool := 0xdc00 ≤ n && n < 0xe000

/-- The character that a backslash and this character stand for. -/
def simpleEscape? (c : Char) : Option Char :=
  if c = '"' ∨ c = '\\' ∨ c = '/' then some c
  else if c = 'b' then some '\x08'
  else if c = 'f' then some '\x0c'
  else if c = 'n' then some '\n'
  else if c = 'r' then some '\r'
  else if c = 't' then some '\t'
  else none

/-- The four digits after a backslash and a `u`, `left` characters before the end of the text, and
what follows them; something has to follow. -/
def unicodeDigits (left : Nat) : List Char → Except Stop (Nat × List Char)
  | a :: b :: c :: d :: e :: rest =>
    match Text.hexNumber? [a, b, c, d] with
    | some n => .ok (n, e :: rest)
    | none => .error (.at .unicodeEscape left)
  | _ => .error (.at .unicodeEscape left)

/-- The character of a `\u` escape, `left` characters before the end of the text at its `u`. Two
escapes may make up one character between them; half of a pair alone is spelled by a letter. -/
def unicodeEscape (letters : Text.Letters) (left : Nat) (cs : List Char) :
    Except Stop (Char × List Char) := do
  let (n, rest) ← unicodeDigits left cs
  if isHighSurrogate n then
    match rest with
    | '\\' :: 'u' :: more =>
      if more.length ≤ 4 then .ok (letters.letter n, rest)
      else
        let (m, rest') ← unicodeDigits (more.length + 1) more
        if isLowSurrogate m then
          .ok (Char.ofNat (0x10000 + (n - 0xd800) * 0x400 + (m - 0xdc00)), rest')
        else .ok (letters.letter n, rest)
    | _ => .ok (letters.letter n, rest)
  else if isLowSurrogate n then .ok (letters.letter n, rest)
  else .ok (Char.ofNat n, rest)

/-- The rest of a string whose opening quote stands `opening` characters before the end of the
text; `begun` holds the characters read so far, the last one first. The fuel bounds the number of
characters. -/
def stringAfter (letters : Text.Letters) (opening : Nat) :
    (fuel : Nat) → (begun : List Char) → List Char → Except Stop (List Char × List Char)
  | 0, _, _ => .error (.at .unterminated opening)
  | _, _, [] => .error (.at .unterminated opening)
  | fuel + 1, begun, c :: rest =>
    if c = '"' then .ok (begun.reverse, rest)
    else if c = '\\' then
      match rest with
      | [] => .error (.at .unterminated opening)
      | e :: rest' =>
        if e = 'u' then do
          let (x, after) ← unicodeEscape letters rest.length rest'
          stringAfter letters opening fuel (x :: begun) after
        else match simpleEscape? e with
          | some x => stringAfter letters opening fuel (x :: begun) rest'
          | none => .error (.at .escape (rest.length + 1))
    else if c.toNat < 0x20 then .error (.at .control (rest.length + 1))
    else stringAfter letters opening fuel (c :: begun) rest

/-- The string after an opening quote. -/
def string (letters : Text.Letters) (cs : List Char) : Except Stop (List Char × List Char) :=
  stringAfter letters (cs.length + 1) cs.length [] cs

def isDigit (c : Char) : Bool := '0' ≤ c && c ≤ '9'

/-- The value of a run of seven-bit digits. -/
def digitsValue (cs : List Char) : Nat := cs.foldl (fun n c => n * 10 + (c.toNat - 0x30)) 0

/-- The exponent of a number, when a marked run of digits follows, and the text after it. -/
def exponent? (cs : List Char) : Option (Int × List Char) :=
  match cs with
  | c :: rest =>
    if c = 'e' ∨ c = 'E' then
      let (negative, body) := Integer.signed rest
      let digits := body.takeWhile isDigit
      if digits.isEmpty then none
      else some (if negative then -digitsValue digits else digitsValue digits,
        body.dropWhile isDigit)
    else none
  | [] => none

/-- The digits of a fraction, when a point with a digit after it follows, and the text after
them. -/
def fraction? : List Char → Option (List Char × List Char)
  | '.' :: rest =>
    let digits := rest.takeWhile isDigit
    if digits.isEmpty then none else some (digits, rest.dropWhile isDigit)
  | _ => none

/-- The number that begins with these whole digits, and the text after it. -/
def numberAfter (negative : Bool) (whole : List Char) (cs : List Char) :
    Except Stop (Value × List Char) :=
  let (places, afterFraction) := match fraction? cs with
    | some (digits, rest) => (digits, rest)
    | none => ([], cs)
  match exponent? afterFraction with
  | some (power, rest) =>
    .ok (.float (Binary64.ofDecimal negative (digitsValue (whole ++ places))
      (power - places.length)), rest)
  | none =>
    if places.isEmpty then
      if Integer.maxDigits < whole.length then
        .error (.integer (.tooManyDigits whole.length))
      else
        .ok (.int (if negative then -digitsValue whole else digitsValue whole), afterFraction)
    else
      .ok (.float (Binary64.ofDecimal negative (digitsValue (whole ++ places))
        (-(places.length : Int))), afterFraction)

/-- A number; a zero at the start is its only whole digit. -/
def number (cs : List Char) : Except Stop (Value × List Char) :=
  let (negative, body) := match cs with
    | '-' :: rest => (true, rest)
    | _ => (false, cs)
  match body with
  | '0' :: rest => numberAfter negative ['0'] rest
  | _ =>
    let whole := body.takeWhile isDigit
    if whole.isEmpty then .error (.at .value cs.length)
    else numberAfter negative whole (body.dropWhile isDigit)

/-- The values that are written as words. -/
def namedValues : List (List Char × Value) :=
  [("null".toList, .null), ("true".toList, .bool true), ("false".toList, .bool false),
    ("NaN".toList, .float .nan), ("Infinity".toList, .float (.infinite false)),
    ("-Infinity".toList, .float (.infinite true))]

/-- The word that a text begins with, as its value and the text after it. -/
def named? (cs : List Char) : Option (Value × List Char) :=
  (namedValues.find? fun w => w.1.isPrefixOf cs).map fun w => (w.2, cs.drop w.1.length)

mutual

/-- The value at the start of a text. The fuel bounds the steps, of which two go with a character
at most. -/
def value (letters : Text.Letters) : (fuel : Nat) → List Char → Except Stop (Value × List Char)
  | 0, cs => .error (.at .value cs.length)
  | _, [] => .error (.at .value 0)
  | fuel + 1, c :: rest =>
    if c = '"' then do
      let (s, after) ← string letters rest
      .ok (.text (String.ofList s), after)
    else if c = '\x7b' then
      match skipSpace rest with
      | '\x7d' :: after => .ok (.dict [], after)
      | body => members letters fuel [] body
    else if c = '[' then
      match skipSpace rest with
      | ']' :: after => .ok (.list [], after)
      | body => elements letters fuel [] body
    else match named? (c :: rest) with
      | some found => .ok found
      | none => number (c :: rest)

/-- The elements of an array from here on; `begun` holds those before, the last one first. -/
def elements (letters : Text.Letters) :
    (fuel : Nat) → (begun : List Value) → List Char → Except Stop (Value × List Char)
  | 0, _, cs => .error (.at .value cs.length)
  | fuel + 1, begun, cs => do
    let (v, after) ← value letters fuel cs
    match skipSpace after with
    | ']' :: rest => .ok (.list (v :: begun).reverse, rest)
    | ',' :: rest => elements letters fuel (v :: begun) (skipSpace rest)
    | rest => .error (.at .comma rest.length)

/-- The members of an object from here on; `begun` holds those before. -/
def members (letters : Text.Letters) :
    (fuel : Nat) → (begun : List (Value × Value)) → List Char → Except Stop (Value × List Char)
  | 0, _, cs => .error (.at .memberName cs.length)
  | fuel + 1, begun, cs =>
    match cs with
    | '"' :: body => do
      let (name, after) ← string letters body
      match skipSpace after with
      | ':' :: rest =>
        let (v, after) ← value letters fuel (skipSpace rest)
        let entries := Value.put (.text (String.ofList name)) v begun
        match skipSpace after with
        | '\x7d' :: rest => .ok (.dict entries, rest)
        | ',' :: rest => members letters fuel entries (skipSpace rest)
        | rest => .error (.at .comma rest.length)
      | rest => .error (.at .colon rest.length)
    | _ => .error (.at .memberName cs.length)

end

/-- Why a text is no JSON document: a problem at a place, or a numeral that is too long. -/
inductive Fault where
  | malformed (problem : Problem) (line column position : Nat)
  | integer (fault : Integer.Fault)

def Fault.message : Fault → String
  | .malformed problem line column position =>
    problem.message ++ ": line " ++ toString line ++ " column " ++ toString column ++ " (char " ++
      toString position ++ ")"
  | .integer fault => fault.message

def Fault.kind : Fault → String
  | .malformed .. => "JSONDecodeError"
  | .integer fault => fault.kind

/-- The fault at a position of a text. -/
def faultAt (cs : List Char) (problem : Problem) (position : Nat) : Fault :=
  let before := cs.take position
  .malformed problem (before.count '\n' + 1) ((before.reverse.takeWhile (· != '\n')).length + 1)
    position

/-- The value of a whole JSON document, with letters for the surrogate codes in its texts. -/
def read (cs : List Char) (letters : Text.Letters := .plain) : Except Fault Value :=
  if cs.head? = some '\ufeff' then .error (faultAt cs .byteOrderMark 0)
  else
    match value letters (2 * cs.length + 1) (skipSpace cs) with
    | .error (.at problem left) => .error (faultAt cs problem (cs.length - left))
    | .error (.integer fault) => .error (.integer fault)
    | .ok (v, rest) =>
      match skipSpace rest with
      | [] => .ok v
      | rest => .error (faultAt cs .extra (cs.length - rest.length))

end MachineDescriptor.Json
