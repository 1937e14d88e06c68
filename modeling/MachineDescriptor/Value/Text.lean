import MachineDescriptor.Number.Decimal
import MachineDescriptor.Text.Quoted
import MachineDescriptor.Value.Basic

/-!
Texts of values. The quoted form shows what kind of value it is; the plain form differs from it
only where a text is not put in quotes. A collection inside of itself is shown as dots. Both are
refused for a value that holds an integer with too many digits.
-/
namespace MachineDescriptor.Value

open Text (quoted quotedBytes joined)

def separator : List Char := [',', ' ']

/-- A time offset as a span of days and seconds. -/
def spanText (seconds : Int) : String :=
  let days := Int.fdiv seconds Calendar.secondsPerDay
  let rest := Int.fmod seconds Calendar.secondsPerDay
  let parts := (if days = 0 then [] else ["days=" ++ toString days]) ++
    (if rest = 0 then [] else ["seconds=" ++ toString rest])
  "datetime.timedelta(" ++ String.intercalate ", " parts ++ ")"

/-- The numbers of a moment in their order: those of its date, its hour and minute, and its second
and microsecond as far as they are not zero at the end. -/
def momentNumbers (m : Calendar.Moment) : List Nat :=
  [m.date.year, m.date.month, m.date.day, m.time.hour, m.time.minute] ++
    (if m.time.micro ≠ 0 then [m.time.second, m.time.micro]
      else if m.time.second ≠ 0 then [m.time.second] else [])

def momentText (m : Calendar.Moment) : String :=
  "datetime.datetime(" ++ String.intercalate ", " ((momentNumbers m).map toString ++
    match m.offset with
    | none => []
    | some 0 => ["tzinfo=datetime.timezone.utc"]
    | some n => ["tzinfo=datetime.timezone(" ++ spanText n ++ ")"]) ++ ")"

def dateText (d : Calendar.Date) : String :=
  "datetime.date(" ++ String.intercalate ", " ([d.year, d.month, d.day].map toString) ++ ")"

/-- The member of its kind that a basis is. -/
def basisName : Basis → String
  | .unknown => "Basis.UNKNOWN"
  | .utc => "Basis.UTC"
  | .localtime => "Basis.LOCALTIME"

/-- What a walk through a web comes to at one of its collections. A step tells what it comes to at a
collection when that is known for the inner ones; a collection that the walk is inside of already
ends it. The fuel bounds how many collections the walk is inside of at once. -/
def walk {α : Type} (steps : List ((Nat → α) → α)) (ends : Nat → α) : Nat → List Nat → Nat → α
  | 0, _, number => ends number
  | fuel + 1, around, number =>
    if around.contains number then ends number
    else
      match steps[number]? with
      | some step => step (walk steps ends fuel (number :: around))
      | none => ends number

/-- What stands for a collection inside of itself. -/
def displayInside : Option Value → List Char
  | some (tuple _) => "(...)".toList
  | some (dict _) => ['\x7b', '.', '.', '.', '\x7d']
  | _ => "[...]".toList

mutual

/-- The quoted form of a value, given those of the collections of the web that it stands in. -/
def displayIn : Value → (Nat → List Char) → List Char
  | null, _ => "None".toList
  | bool b, _ => (if b then "True" else "False").toList
  | int n, _ => Integer.text n
  | float x, _ => x.text
  | text s, _ => quoted s.toList
  | bytes bs, _ => quotedBytes bs
  | basis b, _ => ("<" ++ basisName b ++ ": '" ++ b.word ++ "'>").toList
  | date d, _ => (dateText d).toList
  | moment m, _ => (momentText m).toList
  | list vs, web => ['['] ++ joined separator ((displayAll vs).map (· web)) ++ [']']
  | tuple [v], web => ['('] ++ displayIn v web ++ [',', ')']
  | tuple vs, web => ['('] ++ joined separator ((displayAll vs).map (· web)) ++ [')']
  | set [], _ => "set()".toList
  | set vs, web => ['\x7b'] ++ joined separator ((displayAll vs).map (· web)) ++ ['\x7d']
  | dict entries, web => ['\x7b'] ++ joined separator (displayEntries entries web) ++ ['\x7d']
  | woven vs number, _ =>
    walk (displayAll vs) (fun n => displayInside vs[n]?) vs.length [] number
  | inner number, web => web number

def displayAll : List Value → List ((Nat → List Char) → List Char)
  | [] => []
  | v :: vs => displayIn v :: displayAll vs

def displayEntries : List (Value × Value) → (Nat → List Char) → List (List Char)
  | [], _ => []
  | (k, v) :: rest, web => (displayIn k web ++ [':', ' '] ++ displayIn v web) ::
    displayEntries rest web

end

/-- The quoted form of a value. -/
def display (v : Value) : List Char := v.displayIn fun _ => displayInside none

mutual

/-- Whether every integer in a value keeps to the limit on digits, given whether those do in the
collections of the web that it stands in. -/
def isWritableIn : Value → (Nat → Bool) → Bool
  | int n, _ => Integer.isWritable n
  | list vs, web | tuple vs, web | set vs, web => (writableAll vs).all (· web)
  | dict entries, web => entriesWritable entries web
  | woven vs number, _ => walk (writableAll vs) (fun _ => true) vs.length [] number
  | inner number, web => web number
  | _, _ => true

def writableAll : List Value → List ((Nat → Bool) → Bool)
  | [] => []
  | v :: vs => isWritableIn v :: writableAll vs

def entriesWritable : List (Value × Value) → (Nat → Bool) → Bool
  | [], _ => true
  | (k, v) :: rest, web => isWritableIn k web && isWritableIn v web && entriesWritable rest web

end

/-- Whether every integer in a value keeps to the limit on digits. -/
def isWritable (v : Value) : Bool := v.isWritableIn fun _ => true

/-- The plain form of a value. -/
def plain : Value → List Char
  | text s => s.toList
  | basis b => (basisName b).toList
  | date d => d.text.toList
  | moment m => (m.text " ").toList
  | v => display v

/-- The quoted form, refused when an integer is too long to write. -/
def shown (v : Value) : Except Integer.Fault (List Char) :=
  if v.isWritable then .ok v.display else .error .tooLongToWrite

/-- The plain form, refused when an integer is too long to write. -/
def written (v : Value) : Except Integer.Fault (List Char) :=
  if v.isWritable then .ok v.plain else .error .tooLongToWrite

end MachineDescriptor.Value
