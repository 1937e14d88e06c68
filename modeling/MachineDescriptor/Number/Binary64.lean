/-!
Binary floating-point numbers of 64 bits, held exactly: a finite number is a sign, a whole number
below 2^53 and a power of two. Every operation computes the exact result as a quotient of whole
numbers and rounds it once, to the nearest number and in a tie to the even one.
-/
namespace MachineDescriptor

/-- A floating-point number: not a number, an infinity, or `± mantissa · 2 ^ exponent`. -/
inductive Binary64 where
  | nan
  | infinite (negative : Bool)
  | finite (negative : Bool) (mantissa : Nat) (exponent : Int)
deriving DecidableEq

namespace Binary64

/-- The smallest power of two of a finite number, and the largest. -/
def minExponent : Int := -1074
def maxExponent : Int := 971

/-- The whole number nearest to a quotient, the even one in a tie. -/
def nearest (numerator denominator : Nat) : Nat :=
  let q := numerator / denominator
  let r := numerator % denominator
  if 2 * r < denominator then q else if denominator < 2 * r then q + 1 else q + q % 2

/-- A quotient divided by a power of two, as a pair of whole numbers. -/
def scaled (numerator denominator : Nat) (power : Int) : Nat × Nat :=
  if 0 ≤ power then (numerator, denominator * Nat.pow 2 power.toNat)
  else (numerator * Nat.pow 2 (-power).toNat, denominator)

/-- The largest power of two that is at most a positive quotient. -/
def log2 (numerator denominator : Nat) : Int :=
  let guess : Int := (numerator.log2 : Int) - denominator.log2
  let (n, d) := scaled numerator denominator guess
  if d ≤ n then guess else guess - 1

def zeroOf (negative : Bool) : Binary64 := finite negative 0 minExponent

/-- The floating-point number nearest to a quotient; too large a quotient becomes an infinity. -/
def ofRatio (negative : Bool) (numerator denominator : Nat) : Binary64 :=
  if numerator = 0 then zeroOf negative
  else
    let exponent := max (log2 numerator denominator - 52) minExponent
    let (n, d) := scaled numerator denominator exponent
    let mantissa := nearest n d
    let (mantissa, exponent) :=
      if mantissa = Nat.pow 2 53 then (Nat.pow 2 52, exponent + 1) else (mantissa, exponent)
    if maxExponent < exponent then infinite negative else finite negative mantissa exponent

/-- How far from the point a decimal number may reach before its size alone decides that it is
zero or infinite. -/
def decimalReach : Int := 400

/-- The floating-point number nearest to `± digits · 10 ^ power`. -/
def ofDecimal (negative : Bool) (digits : Nat) (power : Int) : Binary64 :=
  if digits = 0 then zeroOf negative
  else
    let size := (Nat.toDigits 10 digits).length + power
    if decimalReach < size then infinite negative
    else if size < -decimalReach then zeroOf negative
    else if 0 ≤ power then ofRatio negative (digits * Nat.pow 10 power.toNat) 1
    else ofRatio negative digits (Nat.pow 10 (-power).toNat)

def ofInt (n : Int) : Binary64 := ofRatio (n < 0) n.natAbs 1

/-- The absolute value of a finite number as a quotient. -/
def ratio (mantissa : Nat) (exponent : Int) : Nat × Nat := scaled mantissa 1 (-exponent)

/-- The whole number that is left of a finite number when its fraction is dropped. -/
def truncated (negative : Bool) (mantissa : Nat) (exponent : Int) : Int :=
  let (n, d) := ratio mantissa exponent
  let q : Int := (n / d : Nat)
  if negative then -q else q

def isZero : Binary64 → Bool
  | finite _ 0 _ => true
  | _ => false

/-- Whether a number is exactly this integer. -/
def equalsInt (x : Binary64) (n : Int) : Bool :=
  match x with
  | finite negative mantissa exponent =>
    let (p, d) := ratio mantissa exponent
    (if negative then -(p : Int) else p) == n * d
  | _ => false

/-- Numerical equality: the two zeros are equal, and what is not a number equals nothing. -/
def equals : Binary64 → Binary64 → Bool
  | nan, _ => false
  | _, nan => false
  | finite _ 0 _, finite _ 0 _ => true
  | x, y => x == y

/-- The product of two numbers. -/
def mul : Binary64 → Binary64 → Binary64
  | nan, _ | _, nan => nan
  | infinite a, infinite b => infinite (a != b)
  | infinite a, finite b m _ | finite b m _, infinite a => if m = 0 then nan else infinite (a != b)
  | finite a m e, finite b n f =>
    let (p, d) := ratio (m * n) (e + f)
    ofRatio (a != b) p d

/-- The sum of two numbers. A sum of zero is negative only when both numbers are. -/
def add : Binary64 → Binary64 → Binary64
  | nan, _ | _, nan => nan
  | infinite a, infinite b => if a = b then infinite a else nan
  | infinite a, _ | _, infinite a => infinite a
  | finite a m e, finite b n f =>
    let low := min e f
    let p : Int := (m * Nat.pow 2 (e - low).toNat : Nat) * (if a then -1 else 1)
    let q : Int := (n * Nat.pow 2 (f - low).toNat : Nat) * (if b then -1 else 1)
    let sum := p + q
    if sum = 0 then zeroOf (a && b)
    else
      let (s, d) := ratio sum.natAbs low
      ofRatio (sum < 0) s d

def neg : Binary64 → Binary64
  | nan => nan
  | infinite a => infinite !a
  | finite a m e => finite (!a) m e

end Binary64
end MachineDescriptor
