import MachineDescriptor.Calendar

/-!
Timestamps as they are written: a date, and a time of day with a fraction of a second and an offset
from universal time.
-/
namespace MachineDescriptor.Yaml

/-- The numbers of a time of day; the offset is in seconds. -/
structure Clock where
  hour : Nat
  minute : Nat
  second : Nat
  micro : Nat
  offset : Option Int

structure Timestamp where
  year : Nat
  month : Nat
  day : Nat
  clock : Option Clock

namespace Timestamp

/-- A number of at least and at most so many digits at the start of a text, and what follows it. -/
def number? (least most : Nat) (cs : List Char) : Option (Nat × List Char) :=
  let digits := (cs.take most).takeWhile fun c => '0' ≤ c && c ≤ '9'
  if digits.length < least then none
  else
    some (digits.foldl (fun n c => n * 10 + (c.toNat - '0'.toNat)) 0, cs.drop digits.length)

/-- What follows a given character. -/
def after? (x : Char) : List Char → Option (List Char)
  | [] => none
  | c :: rest => if c = x then some rest else none

def isBlank (c : Char) : Bool := c == ' ' || c == '\t'

/-- The microseconds of a fraction, digits beyond the sixth dropped, and what follows it. -/
def fraction (cs : List Char) : Nat × List Char :=
  match cs with
  | '.' :: rest =>
    let digits := rest.takeWhile fun c => '0' ≤ c && c ≤ '9'
    let six := (digits ++ List.replicate 6 '0').take 6
    (six.foldl (fun n c => n * 10 + (c.toNat - '0'.toNat)) 0, rest.drop digits.length)
  | _ => (0, cs)

/-- An offset with its sign, which ends the text. -/
def signedOffset? (negative : Bool) (cs : List Char) : Option Int := do
  let (hours, rest) ← number? 1 2 cs
  let (minutes, rest) ← match rest with
    | ':' :: rest => number? 2 2 rest
    | rest => some (0, rest)
  if rest.isEmpty then
    let seconds : Int := hours * 3600 + minutes * 60
    some (if negative then -seconds else seconds)
  else none

/-- The offset at the end of a text, if there is one. -/
def offset? (cs : List Char) : Option (Option Int) :=
  if cs.isEmpty then some none
  else
    match cs.dropWhile isBlank with
    | ['Z'] => some (some 0)
    | '+' :: rest => (signedOffset? false rest).map some
    | '-' :: rest => (signedOffset? true rest).map some
    | _ => none

/-- What follows the mark between a date and a time of day. -/
def afterDate? (cs : List Char) : Option (List Char) :=
  match cs with
  | c :: rest =>
    if c = 'T' ∨ c = 't' then some rest
    else if isBlank c then some (rest.dropWhile isBlank)
    else none
  | [] => none

def clock? (cs : List Char) : Option Clock := do
  let (hour, rest) ← number? 1 2 (← afterDate? cs)
  let (minute, rest) ← number? 2 2 (← after? ':' rest)
  let (second, rest) ← number? 2 2 (← after? ':' rest)
  let (micro, rest) := fraction rest
  some ⟨hour, minute, second, micro, ← offset? rest⟩

/-- The text without one line feed at its end. -/
def withoutLineFeed (cs : List Char) : List Char :=
  if cs.getLast? = some '\n' then cs.dropLast else cs

/-- The timestamp that a text is. -/
def read? (cs : List Char) : Option Timestamp := do
  let (year, rest) ← number? 4 4 (withoutLineFeed cs)
  let (month, rest) ← number? 1 2 (← after? '-' rest)
  let (day, rest) ← number? 1 2 (← after? '-' rest)
  if rest.isEmpty then some ⟨year, month, day, none⟩
  else some ⟨year, month, day, some (← clock? rest)⟩

/-- The length of a date with all its digits. -/
def fullDate : Nat := 10

/-- Whether a plain scalar is a timestamp: a date alone must have all its digits. -/
def isPlain (cs : List Char) : Bool :=
  match read? cs with
  | none => false
  | some t => t.clock.isSome || (withoutLineFeed cs).length == fullDate

end Timestamp
end MachineDescriptor.Yaml
