import MachineDescriptor.Number.Binary64
import MachineDescriptor.Number.Integer

/-!
Decimal texts of floating-point numbers: the shortest text that reads back as the same number, and
texts with a given number of digits.
-/
namespace MachineDescriptor.Binary64

/-- A decimal number `0.d₁d₂… · 10 ^ point`, with its digits from first to last. -/
structure Digits where
  digits : List Char
  point : Int

/-- Whether a quotient is at least a power of ten. -/
def reaches (numerator denominator : Nat) (power : Int) : Bool :=
  if 0 ≤ power then denominator * Nat.pow 10 power.toNat ≤ numerator
  else denominator ≤ numerator * Nat.pow 10 (-power).toNat

/-- The largest power of ten that is at most a positive quotient. -/
def log10 (numerator denominator : Nat) : Int :=
  let guess := Int.fdiv (log2 numerator denominator * 30103) 100000
  if reaches numerator denominator (guess + 1) then guess + 1
  else if reaches numerator denominator guess then guess
  else guess - 1

/-- A quotient in units of a power of ten. -/
def inUnits (numerator denominator : Nat) (power : Int) : Nat × Nat :=
  if 0 ≤ power then (numerator, denominator * Nat.pow 10 power.toNat)
  else (numerator * Nat.pow 10 (-power).toNat, denominator)

/-- The decimal point of a number of so many units. -/
def digitsOf (units : Nat) (power : Int) : Digits :=
  let ds := Nat.toDigits 10 units
  ⟨ds, ds.length + power⟩

/-- Digits without the zeros at their end. -/
def Digits.trimmed (x : Digits) : Digits :=
  let ds := (x.digits.reverse.dropWhile (· == '0')).reverse
  ⟨if ds.isEmpty then ['0'] else ds, x.point⟩

/-- The quarters of the last binary place between which every quotient rounds to the number: the
number itself is `4 * mantissa` of them. Below a power of two the numbers lie twice as close. -/
def quarters (mantissa : Nat) (exponent : Int) : Nat × Nat :=
  (if mantissa = Nat.pow 2 52 ∧ minExponent < exponent then 4 * mantissa - 1 else 4 * mantissa - 2,
    4 * mantissa + 2)

/-- Whether so many units of a power of ten round to the number. -/
def readsBack (mantissa : Nat) (exponent : Int) (units : Nat) (power : Int) : Bool :=
  let (low, high) := quarters mantissa exponent
  let (n, d) := inUnits units 1 (-power)
  let (l, ld) := ratio low (exponent - 2)
  let (h, hd) := ratio high (exponent - 2)
  if mantissa % 2 = 0 then l * d ≤ n * ld && n * hd ≤ h * d
  else l * d < n * ld && n * hd < h * d

/-- The decimal number with the fewest digits that rounds to `mantissa * 2 ^ exponent`, and the
nearest of them; the search starts at a number of digits and goes on to at most `fuel` more. -/
def shortestFrom (mantissa : Nat) (exponent : Int) (top : Int) : (fuel count : Nat) → Digits
  | 0, count =>
    let power := top - count + 1
    let (n, d) := ratio mantissa exponent
    let (p, q) := inUnits n d power
    (digitsOf (nearest p q) power).trimmed
  | fuel + 1, count =>
    let power := top - count + 1
    let (n, d) := ratio mantissa exponent
    let (p, q) := inUnits n d power
    let below := p / q
    let near := nearest p q
    let far := if near = below then below + 1 else below
    if readsBack mantissa exponent near power then (digitsOf near power).trimmed
    else if readsBack mantissa exponent far power then (digitsOf far power).trimmed
    else shortestFrom mantissa exponent top fuel (count + 1)

/-- The most digits that a shortest decimal number needs. -/
def maxShortestDigits : Nat := 17

/-- The shortest decimal number that rounds to a positive finite number. -/
def shortest (mantissa : Nat) (exponent : Int) : Digits :=
  let (n, d) := ratio mantissa exponent
  shortestFrom mantissa exponent (log10 n d) (maxShortestDigits - 1) 1

/-- The exponent of ten, with its sign and at least two digits. -/
def exponentText (mark : Char) (power : Int) : List Char :=
  let ds := Nat.toDigits 10 power.natAbs
  [mark, if power < 0 then '-' else '+'] ++ (if ds.length < 2 then '0' :: ds else ds)

/-- Digits with the point at its place. -/
def positional (x : Digits) : List Char :=
  if x.point ≤ 0 then ['0', '.'] ++ List.replicate (-x.point).toNat '0' ++ x.digits
  else
    let n := x.point.toNat
    if x.digits.length ≤ n then
      x.digits ++ List.replicate (n - x.digits.length) '0' ++ ['.', '0']
    else x.digits.take n ++ ['.'] ++ x.digits.drop n

/-- Digits with the point after the first of them and an exponent of ten. -/
def scientific (x : Digits) : List Char :=
  x.digits.take 1 ++ (if 1 < x.digits.length then '.' :: x.digits.drop 1 else []) ++
    exponentText 'e' (x.point - 1)

def signText (negative : Bool) : List Char := if negative then ['-'] else []

/-- The shortest text of a number: positional from 10^-4 up to below 10^16, and else with an
exponent. -/
def text : Binary64 → List Char
  | nan => ['n', 'a', 'n']
  | infinite negative => signText negative ++ ['i', 'n', 'f']
  | finite negative 0 _ => signText negative ++ ['0', '.', '0']
  | finite negative mantissa exponent =>
    let x := shortest mantissa exponent
    signText negative ++ (if -4 < x.point ∧ x.point ≤ 16 then positional x else scientific x)

/-- A whole number with a point before its last `places` digits. -/
def withPoint (units places : Nat) : List Char :=
  let ds := Nat.toDigits 10 units
  let ds := List.replicate (places + 1 - ds.length) '0' ++ ds
  let whole := ds.length - places
  ds.take whole ++ (if places = 0 then [] else '.' :: ds.drop whole)

/-- The absolute value of a finite number with a given number of decimal places. -/
def fixed (places mantissa : Nat) (exponent : Int) : List Char :=
  let (n, d) := ratio mantissa exponent
  withPoint (nearest (n * Nat.pow 10 places) d) places

/-- The absolute value of a finite number rounded to a given number of digits, at least one. -/
def rounded (count mantissa : Nat) (exponent : Int) : Digits :=
  if mantissa = 0 then ⟨List.replicate count '0', 1⟩
  else
    let (n, d) := ratio mantissa exponent
    let top := log10 n d
    let power := top - count + 1
    let (p, q) := inUnits n d power
    let x := digitsOf (nearest p q) power
    ⟨x.digits.take count, x.point⟩

/-- A number with an exponent of ten and a given number of decimal places. -/
def exponential (mark : Char) (places mantissa : Nat) (exponent : Int) : List Char :=
  let x := rounded (places + 1) mantissa exponent
  x.digits.take 1 ++ (if places = 0 then [] else '.' :: x.digits.drop 1) ++
    exponentText mark (x.point - 1)

/-- The most digits that a finite number has before only zeros follow. -/
def maxExactDigits : Nat := 767

/-- A number with a given count of digits, without zeros at the end unless `keep` holds; an
exponent is used when the number is below 10^-4 or has more digits before its point. -/
def general (mark : Char) (keep : Bool) (count mantissa : Nat) (exponent : Int) : List Char :=
  let count := max (if keep then count else min count maxExactDigits) 1
  let x := rounded count mantissa exponent
  let kept := if keep then x.digits else x.trimmed.digits
  if -4 < x.point ∧ x.point ≤ count then
    if x.point ≤ 0 then
      ['0', '.'] ++ List.replicate (-x.point).toNat '0' ++ kept
    else
      let whole := x.point.toNat
      let before := x.digits.take whole
      let after := kept.drop whole
      before ++ (if after.isEmpty && !keep then [] else '.' :: after)
  else
    kept.take 1 ++ (if (kept.drop 1).isEmpty && !keep then [] else '.' :: kept.drop 1) ++
      exponentText mark (x.point - 1)

/-- The digits of the whole part and of the fraction of a decimal text, single underscores between
digits dropped: the value, how many digits there are, and the rest. -/
def decimalDigits (cs : List Char) : Option Integer.Run :=
  match cs with
  | c :: _ => if (Text.digitValue? c).isSome then Integer.digitRun 0 0 true cs else some ⟨0, 0, cs⟩
  | [] => some ⟨0, 0, []⟩

/-- The power of ten that a decimal text ends in: zero when there is none. -/
def exponentPart (cs : List Char) : Option Int :=
  match cs with
  | [] => some 0
  | c :: rest =>
    if c = 'e' ∨ c = 'E' then
      let (negative, body) := Integer.signed rest
      match Integer.digitRun 0 0 true body with
      | some ⟨value, _, []⟩ => some (if negative then -value else value)
      | _ => none
    else none

/-- The number that a decimal text without blanks stands for. -/
def ofDecimalText? (cs : List Char) : Option Binary64 :=
  let (negative, body) := Integer.signed cs
  let name := body.map Char.toLower
  if name = ['n', 'a', 'n'] then some nan
  else if name = ['i', 'n', 'f'] ∨ name = ['i', 'n', 'f', 'i', 'n', 'i', 't', 'y'] then
    some (infinite negative)
  else do
    let whole ← decimalDigits body
    let fraction ← match whole.rest with
      | '.' :: rest => decimalDigits rest
      | rest => some ⟨0, 0, rest⟩
    if whole.count + fraction.count = 0 then none
    else
      let power ← exponentPart fraction.rest
      some (ofDecimal negative (whole.value * Nat.pow 10 fraction.count + fraction.value)
        (power - fraction.count))

/-- The number that a text stands for; blanks may stand around it. -/
def ofText? (cs : List Char) : Option Binary64 := ofDecimalText? (Integer.withoutPadding cs)

end MachineDescriptor.Binary64
