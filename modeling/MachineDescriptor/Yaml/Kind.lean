import MachineDescriptor.Text.Hex
import MachineDescriptor.Text.Split
import MachineDescriptor.Yaml.Timestamp

/-!
Kinds of nodes. A node has the kind of its tag; a plain scalar without a tag has the kind that its
text looks like.
-/
namespace MachineDescriptor.Yaml

inductive Kind where
  | null
  | flag
  | integer
  | float
  | bytes
  | time
  | text
  | sequence
  | mapping
  | set
  | orderedMap
  | pairs
  /-- a key under which the entries of other mappings are taken over -/
  | merge
  /-- a key whose value stands for the whole mapping -/
  | value
  | unknown
deriving DecidableEq

namespace Kind

/-- What the tags of the known kinds begin with. -/
def tagStem : String := "tag:yaml.org,2002:"

/-- The known tags. -/
def tags : List (String × Kind) :=
  [("null", .null), ("bool", .flag), ("int", .integer), ("float", .float), ("binary", .bytes),
    ("timestamp", .time), ("str", .text), ("seq", .sequence), ("map", .mapping), ("set", .set),
    ("omap", .orderedMap), ("pairs", .pairs), ("merge", .merge), ("value", .value)]

/-- The kind of a tag in full. -/
def ofTag (tag : List Char) : Kind :=
  ((tags.find? fun e => (tagStem ++ e.1).toList == tag).map Prod.snd).getD .unknown

def isDigit (c : Char) : Bool := '0' ≤ c && c ≤ '9'
def isDigitOrGap (c : Char) : Bool := isDigit c || c == '_'

/-- The text after a sign, if it has one. -/
def unsigned : List Char → List Char
  | '+' :: rest => rest
  | '-' :: rest => rest
  | cs => cs

/-- A digit with digits and underscores after it. -/
def isDigits : List Char → Bool
  | [] => false
  | c :: rest => isDigit c && rest.all isDigitOrGap

/-- The parts of a number to the base sixty after the first. -/
def isSixtieth : List Char → Bool
  | [c] => isDigit c
  | [c, d] => '0' ≤ c && c ≤ '5' && isDigit d
  | _ => false

/-- The exponent of a number, which has a sign; there may be none. -/
def isExponent : List Char → Bool
  | [] => true
  | e :: sign :: digits =>
    (e == 'e' || e == 'E') && (sign == '+' || sign == '-') && !digits.isEmpty && digits.all isDigit
  | _ => false

/-- The fraction of a number with an exponent, or without one. -/
def isFraction (cs : List Char) : Bool := isExponent (cs.dropWhile isDigitOrGap)

/-- A number to the base sixty with a fraction. -/
def isSixtiethFloat (whole fraction : List Char) : Bool :=
  match Text.split ':' whole with
  | first :: second :: more =>
    isDigits first && (second :: more).all isSixtieth && fraction.all isDigitOrGap
  | _ => false

def isFloat (cs : List Char) : Bool :=
  let body := unsigned cs
  let whole := body.takeWhile (· != '.')
  match body.drop whole.length with
  | '.' :: fraction =>
    if whole.isEmpty then
      ["inf", "Inf", "INF"].any (·.toList == fraction) ||
        (body.length == cs.length && (["nan", "NaN", "NAN"].any (·.toList == fraction) ||
          (fraction.head?.any isDigit && isFraction fraction)))
    else (isDigits whole && isFraction fraction) || isSixtiethFloat whole fraction
  | _ => false

def isInteger (cs : List Char) : Bool :=
  match unsigned cs with
  | ['0'] => true
  | '0' :: 'b' :: rest =>
    !rest.isEmpty && rest.all fun c => c == '0' || c == '1' || c == '_'
  | '0' :: 'x' :: rest =>
    !rest.isEmpty && rest.all fun c => (Text.hexValue? c).isSome || c == '_'
  | '0' :: rest => rest.all fun c => ('0' ≤ c && c ≤ '7') || c == '_'
  | body =>
    match Text.split ':' body with
    | first :: more => isDigits first && more.all isSixtieth
    | [] => false

def flagWords : List String :=
  ["yes", "Yes", "YES", "no", "No", "NO", "true", "True", "TRUE", "false", "False", "FALSE", "on",
    "On", "ON", "off", "Off", "OFF"]

def nullWords : List String := ["~", "null", "Null", "NULL"]

/-- The kind that the text of a plain scalar looks like. A line feed at its end does not count. -/
def ofPlain (cs : List Char) : Kind :=
  let body := Timestamp.withoutLineFeed cs
  if cs.isEmpty then .null
  else if body.isEmpty then .text
  else if flagWords.any (·.toList == body) then .flag
  else if isFloat body then .float
  else if isInteger body then .integer
  else if body = ['<', '<'] then .merge
  else if nullWords.any (·.toList == body) then .null
  else if Timestamp.isPlain cs then .time
  else if body = ['='] then .value
  else if body = ['!'] ∨ body = ['&'] ∨ body = ['*'] then .unknown
  else .text

example : ofPlain "1e3".toList = .text := by decide +kernel
example : ofPlain "1:30".toList = .integer := by decide +kernel
example : ofPlain "08".toList = .text := by decide +kernel
example : ofPlain "1_000.5e+3".toList = .float := by decide +kernel

end Kind
end MachineDescriptor.Yaml
