import MachineDescriptor.Calendar
import MachineDescriptor.Machine.Basis
import MachineDescriptor.Number.Binary64

/-!
Values: what a machine description in a data format is made of before it is given a type, and what
contexts of errors and log records hold. A mapping keeps its entries in order and has no two equal
keys. Collections that are members of each other, or of themselves, stand side by side in a web and
name each other by their numbers; `opened` takes the members of such a collection out of the web.
-/
namespace MachineDescriptor

inductive Value where
  | null
  | bool (b : Bool)
  | int (n : Int)
  | float (x : Binary64)
  | text (s : String)
  | bytes (bs : List UInt8)
  | basis (b : Basis)
  | date (d : Calendar.Date)
  | moment (m : Calendar.Moment)
  | list (vs : List Value)
  | tuple (vs : List Value)
  | set (vs : List Value)
  | dict (entries : List (Value × Value))
  /-- a collection of a web, by its number -/
  | woven (web : List Value) (number : Nat)
  /-- in a collection of a web: another one, by its number -/
  | inner (number : Nat)

namespace Value

/-- A member of a collection of a web, taken out of it. -/
def takenOut (web : List Value) : Value → Value
  | inner number => woven web number
  | v => v

/-- A collection of a web with its members taken out; any other value is as it is. -/
def opened : Value → Value
  | woven web number =>
    match web[number]? with
    | some (list vs) => list (vs.map (takenOut web))
    | some (tuple vs) => tuple (vs.map (takenOut web))
    | some (dict entries) => dict (entries.map fun e => (e.1, takenOut web e.2))
    | _ => null
  | v => v

/-- False for nothing, false, the zeros and everything empty. -/
def isTrue (v : Value) : Bool :=
  match v.opened with
  | null => false
  | bool b => b
  | int n => n != 0
  | float x => !x.isZero
  | text s => !s.isEmpty
  | bytes bs => !bs.isEmpty
  | list vs | tuple vs | set vs => !vs.isEmpty
  | dict entries => !entries.isEmpty
  | basis _ | date _ | moment _ | woven _ _ | inner _ => true

/-- The number that a value is: an integer, a truth value, or a floating-point number. -/
inductive Number where
  | whole (n : Int)
  | binary (x : Binary64)

def number? : Value → Option Number
  | bool b => some (.whole (if b then 1 else 0))
  | int n => some (.whole n)
  | float x => some (.binary x)
  | _ => none

/-- Whether two numbers are equal, whichever kinds they are. -/
def Number.equals : Number → Number → Bool
  | whole a, whole b => a == b
  | whole a, binary x | binary x, whole a => x.equalsInt a
  | binary x, binary y => x.equals y

/-- The text that a value is; the word of a basis is a text too. -/
def text? : Value → Option String
  | text s => some s
  | basis b => some b.word
  | _ => none

/-- Whether two keys of a mapping are one key. Numbers are compared by their amount; collections
are no keys. -/
def sameKey (a b : Value) : Bool :=
  match a.number?, b.number? with
  | some m, some n => m.equals n
  | none, none =>
    match a.text?, b.text? with
    | some s, some t => s == t
    | none, none =>
      match a, b with
      | null, null => true
      | bytes p, bytes q => p == q
      | date d, date e => d == e
      | moment m, moment n => m.isSame n
      | _, _ => false
    | _, _ => false
  | _, _ => false

/-- Whether a value may be the key of a mapping. -/
def isKey : Value → Bool
  | list _ | set _ | dict _ | woven _ _ | inner _ => false
  | tuple vs => go vs
  | _ => true
where
  go : List Value → Bool
    | [] => true
    | v :: vs => isKey v && go vs

/-- The entries after one is put in: a new key goes last, a known one keeps its place and its
form. -/
def put {α : Type} (key : Value) (value : α) : List (Value × α) → List (Value × α)
  | [] => [(key, value)]
  | (k, v) :: rest => if k.sameKey key then (k, value) :: rest else (k, v) :: put key value rest

/-- What a mapping has under a word. -/
def lookup (word : String) : List (Value × Value) → Option Value
  | [] => none
  | (k, v) :: rest => if k.text? == some word then some v else lookup word rest

/-- What a value holds, one after the other: the members of a collection, the keys of a mapping,
the characters of a text or the numbers of bytes. A value of any other kind holds nothing. -/
def members? (v : Value) : Option (List Value) :=
  match v.opened with
  | list vs | tuple vs | set vs => some vs
  | dict entries => some (entries.map Prod.fst)
  | text s => some (s.toList.map fun c => text (String.singleton c))
  | basis b => some (b.word.toList.map fun c => text (String.singleton c))
  | bytes bs => some (bs.map fun b => int b.toNat)
  | null | bool _ | int _ | float _ | date _ | moment _ | woven _ _ | inner _ => none

/-- The name of a value's kind, as messages give it. -/
def kind (v : Value) : String :=
  match v.opened with
  | null => "NoneType"
  | bool _ => "bool"
  | int _ => "int"
  | float _ => "float"
  | text _ => "str"
  | bytes _ => "bytes"
  | basis _ => "Basis"
  | date _ => "datetime.date"
  | moment _ => "datetime.datetime"
  | list _ | woven _ _ | inner _ => "list"
  | tuple _ => "tuple"
  | set _ => "set"
  | dict _ => "dict"

end Value
end MachineDescriptor
