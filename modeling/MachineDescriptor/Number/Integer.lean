import MachineDescriptor.Text.Blank
import MachineDescriptor.Text.Digit
import MachineDescriptor.Text.Quoted

/-!
Decimal numerals. A numeral may stand between blanks, may have a sign, may be written in the digits
of any script, and may have single underscores between its digits. Numerals of more than 4300
digits are neither read nor written.
-/
namespace MachineDescriptor.Integer

/-- The most digits that a numeral may have. -/
def maxDigits : Nat := 4300

/-- The numeral of an integer in its shortest form. -/
def text (n : Int) : List Char :=
  (if n < 0 then ['-'] else []) ++ Nat.toDigits 10 n.natAbs

/-- Whether the numeral of an integer keeps to the limit on its digits. -/
def isWritable (n : Int) : Bool := n.natAbs < Nat.pow 10 maxDigits

theorem isWritable_of_natAbs_le {m n : Int} (le : m.natAbs ≤ n.natAbs)
    (writable : isWritable n = true) : isWritable m = true := by
  simp only [isWritable, decide_eq_true_eq] at writable ⊢
  exact Nat.lt_of_le_of_lt le writable

/-- Why something is no integer. -/
inductive Fault where
  /-- a text that is no numeral to a base, in its quoted form -/
  | notANumeral (base : Nat) (shown : List Char)
  | tooManyDigits (count : Nat)
  | tooLongToWrite
  /-- a value of a kind that no integer can be made of -/
  | wrongKind (kind : String)
  | notANumber
  | infinite

/-- A fault of an integer that is too large is told apart from one of a bad value. -/
def Fault.kind : Fault → String
  | .wrongKind _ => "TypeError"
  | .infinite => "OverflowError"
  | _ => "ValueError"

/-- How much of a quoted text is shown. -/
def shownLimit : Nat := 200

def Fault.message : Fault → String
  | .notANumeral base shown =>
    "invalid literal for int() with base " ++ toString base ++ ": " ++
      String.ofList (shown.take shownLimit)
  | .tooManyDigits count =>
    "Exceeds the limit (4300 digits) for integer string conversion: value has " ++
      toString count ++ " digits; use sys.set_int_max_str_digits() to increase the limit"
  | .tooLongToWrite =>
    "Exceeds the limit (4300 digits) for integer string conversion; " ++
      "use sys.set_int_max_str_digits() to increase the limit"
  | .wrongKind kind =>
    "int() argument must be a string, a bytes-like object or a real number, not '" ++ kind ++ "'"
  | .notANumber => "cannot convert float NaN to integer"
  | .infinite => "cannot convert float infinity to integer"

/-- The blanks that may stand around a numeral: among the seven-bit characters only the space and
the white space controls, beyond them every blank. -/
def isPadding (c : Char) : Bool :=
  if c.toNat < 0x80 then c == ' ' || ('\t' ≤ c && c ≤ '\r') else Text.isBlank c

/-- A numeral without the blanks around it. -/
def withoutPadding (cs : List Char) : List Char :=
  ((cs.dropWhile isPadding).reverse.dropWhile isPadding).reverse

/-- What a run of digits comes to. -/
structure Run where
  value : Nat
  count : Nat
  rest : List Char

/-- The run of digits that goes on after a digit or, when `gap` holds, after an underscore; `none`
when an underscore does not stand between two digits. -/
def digitRun (value count : Nat) (gap : Bool) : List Char → Option Run
  | [] => if gap then none else some ⟨value, count, []⟩
  | c :: rest =>
    match Text.digitValue? c with
    | some d => digitRun (value * 10 + d) (count + 1) false rest
    | none =>
      if c = '_' then if gap then none else digitRun value count true rest
      else if gap then none else some ⟨value, count, c :: rest⟩

/-- The sign of a numeral, true for a minus, and what follows it. -/
def signed : List Char → Bool × List Char
  | '-' :: rest => (true, rest)
  | '+' :: rest => (false, rest)
  | cs => (false, cs)

/-- The integer that a numeral stands for; `shown` is its quoted form. -/
def readAs (shown : List Char) (cs : List Char) : Except Fault Int :=
  let (negative, body) := signed (cs.dropWhile isPadding)
  match digitRun 0 0 true body with
  | none => .error (.notANumeral 10 shown)
  | some run =>
    if maxDigits < run.count then .error (.tooManyDigits run.count)
    else if run.rest.all isPadding then .ok (if negative then -run.value else run.value)
    else .error (.notANumeral 10 shown)

/-- The integer that a text stands for. -/
def read (cs : List Char) : Except Fault Int := readAs (Text.quoted cs) cs

/-- The integer that a byte sequence stands for; a byte beyond the seven-bit range belongs to no
numeral. -/
def readBytes (bs : List UInt8) : Except Fault Int :=
  readAs (Text.quotedBytes bs) (bs.map fun b => if b < 0x80 then Char.ofNat b.toNat else '\ufffd')

example : (read [' ', '-', '1', '_', '0', '\n']).toOption = some (-10) := by decide
example : (read ['1', '_', '_', '0']).toOption = none := by decide
example : (read ['_', '1']).toOption = none := by decide

end MachineDescriptor.Integer
