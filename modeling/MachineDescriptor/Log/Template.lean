import MachineDescriptor.Number.Decimal
import MachineDescriptor.Value.Integer

/-!
Message templates. A percent sign begins a place for a value: flags, a width, a precision, and a
letter that says how the value is written. Values are taken one after the other, or by name from a
mapping; too few or too many of them are a fault, and so is a value that its letter cannot write.
-/
namespace MachineDescriptor.Template

/-- Why a template cannot be filled. -/
inductive Fault where
  | tooFew
  | tooMany
  | noMapping
  | noSuchKey (name : String)
  | incompleteKey
  | incomplete
  | starNeedsInteger
  | tooWide
  | tooPrecise
  | tooManyDigits
  | outOfMemory
  | sizeTooLarge (kind : String)
  | unsupported (letter : Char) (position : Nat)
  | needsNumber (letter : Char) (kind : String)
  | needsInteger (letter : Char) (kind : String)
  | needsReal (kind : String)
  | needsCharacter
  | noSuchCharacter
  | tooLargeForReal
  | integer (fault : Integer.Fault)

def Fault.kind : Fault → String
  | tooFew | tooMany | noMapping | starNeedsInteger | needsNumber .. | needsInteger .. | needsReal _
  | needsCharacter => "TypeError"
  | noSuchKey _ => "KeyError"
  | incompleteKey | incomplete | tooWide | tooPrecise | unsupported .. => "ValueError"
  | noSuchCharacter | tooLargeForReal | tooManyDigits | sizeTooLarge _ => "OverflowError"
  | outOfMemory => "MemoryError"
  | integer f => f.kind

/-- A letter as messages show it: outside the printable seven-bit range, whose lowest number is here
that of the unit separator, a question mark. -/
def shownLetter (letter : Char) : Char :=
  if 0x1f ≤ letter.toNat ∧ letter.toNat < 0x7f then letter else '?'

def Fault.message : Fault → String
  | tooFew => "not enough arguments for format string"
  | tooMany => "not all arguments converted during string formatting"
  | noMapping => "format requires a mapping"
  | noSuchKey name => String.ofList (Text.quoted name.toList)
  | incompleteKey => "incomplete format key"
  | incomplete => "incomplete format"
  | starNeedsInteger => "* wants int"
  | tooWide => "width too big"
  | tooPrecise => "precision too big"
  | tooManyDigits => "precision too large"
  | outOfMemory => ""
  | sizeTooLarge kind => "Python int too large to convert to C " ++ kind
  | unsupported letter position =>
    "unsupported format character '" ++ toString (shownLetter letter) ++ "' (0x" ++
      String.ofList (Nat.toDigits 16 letter.toNat) ++ ") at index " ++ toString position
  | needsNumber letter kind =>
    "%" ++ toString letter ++ " format: a real number is required, not " ++ kind
  | needsInteger letter kind =>
    "%" ++ toString letter ++ " format: an integer is required, not " ++ kind
  | needsReal kind => "must be real number, not " ++ kind
  | needsCharacter => "%c requires int or char"
  | noSuchCharacter => "%c arg not in range(0x110000)"
  | tooLargeForReal => "int too large to convert to float"
  | integer f => f.message

/-- How a place is filled: to the left, with a sign or a blank for numbers that are not negative, in
the alternate form, with zeros; at least how wide; and how precise. -/
structure Place where
  left : Bool
  plus : Bool
  blank : Bool
  alternate : Bool
  zero : Bool
  width : Nat
  precision : Option Nat

def Place.plain : Place := ⟨false, false, false, false, false, 0, none⟩

/-- The values that are left, and the mapping that names are looked up in if there is one. -/
structure Supply where
  values : List Value
  mapping : Option (List (Value × Value))

/-- The next value. -/
def Supply.next (s : Supply) : Except Fault (Value × Supply) :=
  match s.values with
  | v :: rest => .ok (v, { s with values := rest })
  | [] => .error .tooFew

/-- A text filled up with blanks on one side to the width of its place. -/
def filled (p : Place) (cs : List Char) : List Char :=
  let blanks := List.replicate (p.width - cs.length) ' '
  if p.left then cs ++ blanks else blanks ++ cs

/-- The sign of a number in its place. -/
def signOf (p : Place) (negative : Bool) : List Char :=
  if negative then ['-'] else if p.plus then ['+'] else if p.blank then [' '] else []

/-- A number made of its sign, a mark of its base and its digits, filled up to the width; zeros go
between the mark and the digits. -/
def filledNumber (p : Place) (negative : Bool) (mark digits : List Char) : List Char :=
  let head := signOf p negative ++ mark
  if p.zero && !p.left then
    head ++ List.replicate (p.width - head.length - digits.length) '0' ++ digits
  else filled p (head ++ digits)

/-- The largest width and precision of a place. -/
def maxWidth : Nat := Nat.pow 2 63 - 1
def maxPrecision : Nat := Nat.pow 2 31 - 1

/-- The largest precision of an integer, which leaves room for its sign and the mark of its base. -/
def maxDigits : Nat := maxPrecision - 3

/-- Digits with zeros in front up to the precision of the place. -/
def precise (p : Place) (digits : List Char) : List Char :=
  List.replicate (p.precision.getD 0 - digits.length) '0' ++ digits

/-- An integer in decimal digits. -/
def decimal (p : Place) (letter : Char) (v : Value) : Except Fault (List Char) :=
  match v.number? with
  | none => .error (.needsNumber letter v.kind)
  | some _ =>
    match v.toInteger with
    | .error f => .error (.integer f)
    | .ok n =>
      if maxDigits < p.precision.getD 0 then .error .tooManyDigits
      else if Integer.isWritable n then
        .ok (filledNumber p (n < 0) [] (precise p (Nat.toDigits 10 n.natAbs)))
      else .error (.integer .tooLongToWrite)

/-- An integer in digits of base eight or sixteen. -/
def based (p : Place) (letter : Char) (base : Nat) (v : Value) : Except Fault (List Char) :=
  match v.number? with
  | some (.whole n) =>
    if maxDigits < p.precision.getD 0 then .error .tooManyDigits
    else
      let digits := precise p (Nat.toDigits base n.natAbs)
      let digits := if letter = 'X' then digits.map Char.toUpper else digits
      .ok (filledNumber p (n < 0) (if p.alternate then ['0', letter] else []) digits)
  | _ => .error (.needsInteger letter v.kind)

/-- The floating-point number that a value is. -/
def real (v : Value) : Except Fault Binary64 :=
  match v.number? with
  | some (.binary x) => .ok x
  | some (.whole n) =>
    match Binary64.ofInt n with
    | .infinite _ => .error .tooLargeForReal
    | x => .ok x
  | none => .error (.needsReal v.kind)

/-- The precision of a floating-point number where none is given. -/
def usualPrecision : Nat := 6

/-- The absolute value of a finite number in the notation of a letter. With an exponent the largest
precision counts as zero, because the digit before the point is one more. -/
def realDigits (p : Place) (letter : Char) (mantissa : Nat) (exponent : Int) : List Char :=
  let places := p.precision.getD usualPrecision
  if letter = 'f' ∨ letter = 'F' then
    Binary64.fixed places mantissa exponent ++ (if p.alternate && places == 0 then ['.'] else [])
  else if letter = 'e' ∨ letter = 'E' then
    let places := if places = maxPrecision then 0 else places
    let cs := Binary64.exponential letter places mantissa exponent
    if p.alternate && places == 0 then cs.take 1 ++ ['.'] ++ cs.drop 1 else cs
  else
    Binary64.general (if letter = 'G' then 'E' else 'e') p.alternate places mantissa exponent

/-- A floating-point number; the names of those that are not finite take the case of the letter. -/
def floating (p : Place) (letter : Char) (v : Value) : Except Fault (List Char) := do
  let named (cs : List Char) : List Char := if letter.isUpper then cs.map Char.toUpper else cs
  match ← real v with
  | .nan => pure (filledNumber p false [] (named ['n', 'a', 'n']))
  | .infinite negative => pure (filledNumber p negative [] (named ['i', 'n', 'f']))
  | .finite negative mantissa exponent =>
    pure (filledNumber p negative [] (realDigits p letter mantissa exponent))

/-- One character, given by itself or by its number. -/
def character (p : Place) (v : Value) : Except Fault (List Char) :=
  match v with
  | .text s =>
    match s.toList with
    | [c] => .ok (filled p [c])
    | _ => .error .needsCharacter
  | v =>
    match v.number? with
    | some (.whole n) =>
      if 0 ≤ n ∧ n < 0x110000 then .ok (filled p [Char.ofNat n.toNat]) else .error .noSuchCharacter
    | _ => .error .needsCharacter

/-- A quoted text with everything beyond the seven-bit range escaped. -/
def sevenBit (cs : List Char) : List Char :=
  cs.flatMap fun c =>
    let n := c.toNat
    if n < 0x80 then [c]
    else if n ≤ 0xff then ['\\', 'x'] ++ Text.hex 2 n
    else if n ≤ 0xffff then ['\\', 'u'] ++ Text.hex 4 n
    else ['\\', 'U'] ++ Text.hex 8 n

/-- A text cut to the precision of its place. -/
def textual (p : Place) (cs : Except Integer.Fault (List Char)) : Except Fault (List Char) :=
  match cs with
  | .ok cs => .ok (filled p (match p.precision with | some n => cs.take n | none => cs))
  | .error f => .error (.integer f)

/-- The width from which on a place is too wide for any memory. -/
def memoryLimit : Nat := Nat.pow 2 40

/-- A value as its letter writes it, in its place. -/
def written (p : Place) (letter : Char) (position : Nat) (v : Value) : Except Fault (List Char) :=
  if letter = 's' then textual p v.written
  else if letter = 'r' then textual p v.shown
  else if letter = 'a' then textual p (v.shown.map sevenBit)
  else if letter = 'd' ∨ letter = 'i' ∨ letter = 'u' then
    decimal p letter v
  else if letter = 'x' ∨ letter = 'X' then based p letter 16 v
  else if letter = 'o' then based p letter 8 v
  else if letter = 'c' then character p v
  else if ['e', 'E', 'f', 'F', 'g', 'G'].contains letter then
    floating p letter v
  else .error (.unsupported letter position)

/-- A value in its place. A place that is too wide is a fault, unless the value is one before it. -/
def fill (p : Place) (letter : Char) (position : Nat) (v : Value) : Except Fault (List Char) :=
  if memoryLimit ≤ p.width then do
    let _ ← written { p with width := 0 } letter position v
    throw .outOfMemory
  else written p letter position v

/-- The flags at the start of a place. -/
def flags (p : Place) : List Char → Place × List Char
  | '-' :: rest => flags { p with left := true } rest
  | '+' :: rest => flags { p with plus := true } rest
  | ' ' :: rest => flags { p with blank := true } rest
  | '#' :: rest => flags { p with alternate := true } rest
  | '0' :: rest => flags { p with zero := true } rest
  | cs => (p, cs)

def isDigit (c : Char) : Bool := '0' ≤ c && c ≤ '9'

/-- A number written in a template, or a star for the next value. -/
inductive Size where
  | number (n : Nat)
  | star (n : Int)

def size (s : Supply) (cs : List Char) : Except Fault (Size × Supply × List Char) :=
  match cs with
  | '*' :: rest => do
    let (v, s) ← s.next
    match v with
    | .int n => pure (.star n, s, rest)
    | .bool b => pure (.star (if b then 1 else 0), s, rest)
    | _ => throw .starNeedsInteger
  | cs =>
    let digits := cs.takeWhile isDigit
    .ok (.number (digits.foldl (fun n c => n * 10 + (c.toNat - 0x30)) 0), s, cs.dropWhile isDigit)

/-- The width of a place. A negative one from a star sets its value to the left, and the lowest of
all gives no width. -/
def withWidth (p : Place) (s : Supply) (cs : List Char) :
    Except Fault (Place × Supply × List Char) := do
  match ← size s cs with
  | (.star n, s, rest) =>
    if n < -(maxWidth + 1) ∨ maxWidth < n then throw (.sizeTooLarge "ssize_t")
    else if n < -maxWidth then pure ({ p with left := true }, s, rest)
    else if n < 0 then pure ({ p with left := true, width := n.natAbs }, s, rest)
    else pure ({ p with width := n.toNat }, s, rest)
  | (.number n, s, rest) =>
    if maxWidth < n then throw .tooWide else pure ({ p with width := n }, s, rest)

/-- The precision of a place after its point. -/
def withPrecision (p : Place) (s : Supply) (cs : List Char) :
    Except Fault (Place × Supply × List Char) :=
  match cs with
  | '.' :: rest => do
    match ← size s rest with
    | (.star n, s, rest) =>
      if n < -(maxPrecision + 1) ∨ maxPrecision < n then throw (.sizeTooLarge "int")
      else pure ({ p with precision := some n.toNat }, s, rest)
    | (.number n, s, rest) =>
      if maxPrecision < n then throw .tooPrecise else pure ({ p with precision := some n }, s, rest)
  | cs => .ok (p, s, cs)

/-- A name in parentheses, which may hold further pairs of them, and what follows it. -/
def keyAfter (begun : List Char) (depth : Nat) : List Char → Option (List Char × List Char)
  | [] => none
  | ')' :: rest =>
    match depth with
    | 0 => some (begun.reverse, rest)
    | depth + 1 => keyAfter (')' :: begun) depth rest
  | '(' :: rest => keyAfter ('(' :: begun) (depth + 1) rest
  | c :: rest => keyAfter (c :: begun) depth rest

/-- The supply for a place that names its value. -/
def named (s : Supply) (cs : List Char) : Except Fault (Supply × List Char) :=
  match cs with
  | '(' :: rest =>
    match s.mapping with
    | none => .error .noMapping
    | some entries =>
      match keyAfter [] 0 rest with
      | none => .error .incompleteKey
      | some (name, rest) =>
        match Value.lookup (String.ofList name) entries with
        | some v => .ok ({ s with values := [v] }, rest)
        | none => .error (.noSuchKey (String.ofList name))
  | cs => .ok (s, cs)

/-- A letter that once told the size of a number and says nothing. -/
def skipSize : List Char → List Char
  | 'h' :: rest | 'l' :: rest | 'L' :: rest => rest
  | cs => cs

/-- One place after its percent sign, in a template of a given length: its text, the values that
are left, and what follows it. A second percent sign stands for one. -/
def place (length : Nat) (s : Supply) (cs : List Char) :
    Except Fault (List Char × Supply × List Char) :=
  match cs with
  | '%' :: rest => .ok (['%'], s, rest)
  | cs => do
    let (s, cs) ← named s cs
    let (p, cs) := flags .plain cs
    let (p, s, cs) ← withWidth p s cs
    let (p, s, cs) ← withPrecision p s cs
    match skipSize cs with
    | [] => throw .incomplete
    | letter :: rest =>
      let (v, s) ← s.next
      let text ← fill p letter (length - rest.length - 1) v
      pure (text, s, rest)

/-- The text of a template from here on. The fuel bounds the number of characters. -/
def fillFrom (length : Nat) : (fuel : Nat) → Supply → List Char → Except Fault (List Char)
  | 0, _, _ => .ok []
  | _, s, [] => if s.mapping.isNone && !s.values.isEmpty then .error .tooMany else .ok []
  | fuel + 1, s, c :: rest =>
    if c = '%' then do
      let (text, s, rest) ← place length s rest
      pure (text ++ (← fillFrom length fuel s rest))
    else do pure (c :: (← fillFrom length fuel s rest))

/-- The text of a template with values in its places. A single mapping that is not empty supplies
values by name. -/
def fillAll (template : List Char) (values : List Value) : Except Fault (List Char) :=
  let supply : Supply := match values with
    | [.dict (e :: es)] => ⟨[.dict (e :: es)], some (e :: es)⟩
    | vs => ⟨vs, none⟩
  fillFrom template.length (template.length + 1) supply template

end MachineDescriptor.Template
