import Mathlib.Algebra.Order.Floor.Ring
import Mathlib.Data.Rat.Floor
import Mathlib.Tactic.Linarith
import Mathlib.Tactic.Positivity
import MachineDescriptor.Proofs.Counts

/-!
What a number loses when it becomes an integer. Each finite number has an exact amount, and the
integer made of it is the whole part of that amount: the two are equal exactly if there is no
fraction to drop. A truth value is never taken for a count of a machine, but it is for a port.
-/
namespace MachineDescriptor

/-- The number that is left of an amount when its fraction is dropped. -/
def wholePart (q : ℚ) : Int := if q < 0 then ⌈q⌉ else ⌊q⌋

theorem wholePart_intCast (n : Int) : wholePart n = n := by
  unfold wholePart
  split <;> simp

theorem wholePart_neg (q : ℚ) : wholePart (-q) = -wholePart q := by
  unfold wholePart
  rcases lt_trichotomy q 0 with below | rfl | above
  · rw [if_neg (by linarith), if_pos below, Int.floor_neg]
  · simp
  · rw [if_pos (by linarith), if_neg (by linarith), Int.ceil_neg]

/-- The whole part of a quotient of natural numbers is what division leaves of it. -/
theorem wholePart_natCast_div (p d : Nat) : wholePart (p / d) = (p / d : Nat) := by
  have above : (0 : ℚ) ≤ p / d := by positivity
  rw [wholePart, if_neg (not_lt.mpr above), Rat.floor_natCast_div_natCast]
  rfl

theorem wholePart_eq_iff {q : ℚ} : (wholePart q : ℚ) = q ↔ ∃ n : Int, q = n := by
  constructor
  · intro same
    exact ⟨wholePart q, same.symm⟩
  · rintro ⟨n, rfl⟩
    rw [wholePart_intCast]

namespace Binary64

/-- The exact amount of a finite number. -/
def amount? : Binary64 → Option ℚ
  | finite negative mantissa exponent =>
    some ((if negative then -1 else 1) * (mantissa * 2 ^ exponent))
  | _ => none

theorem ratio_pos (mantissa : Nat) (exponent : Int) : 0 < (ratio mantissa exponent).2 := by
  unfold ratio scaled
  split
  · simp
  · exact Nat.one_pos

theorem ratio_amount (mantissa : Nat) (exponent : Int) :
    ((ratio mantissa exponent).1 / (ratio mantissa exponent).2 : ℚ) = mantissa * 2 ^ exponent := by
  unfold ratio scaled
  split
  · next low =>
    obtain ⟨k, rfl⟩ : ∃ k : Nat, exponent = -k := ⟨(-exponent).toNat, by omega⟩
    simp [div_eq_mul_inv]
  · next high =>
    obtain ⟨k, rfl⟩ : ∃ k : Nat, exponent = k := ⟨exponent.toNat, by omega⟩
    simp

/-- The integer made of a finite number is the whole part of its amount. -/
theorem truncated_eq_wholePart (negative : Bool) (mantissa : Nat) (exponent : Int) :
    truncated negative mantissa exponent =
      wholePart ((if negative then -1 else 1) * (mantissa * 2 ^ exponent)) := by
  obtain ⟨p, d, parts⟩ : ∃ p d, ratio mantissa exponent = (p, d) := ⟨_, _, rfl⟩
  have amount := ratio_amount mantissa exponent
  rw [parts] at amount
  unfold truncated
  rw [parts, ← amount]
  dsimp only
  rw [← wholePart_natCast_div]
  cases negative with
  | false => rw [if_neg Bool.false_ne_true, if_neg Bool.false_ne_true, one_mul]
  | true => rw [if_pos rfl, if_pos rfl, neg_one_mul, wholePart_neg]

/-- A number equals an integer exactly if its amount does. -/
theorem equalsInt_iff (x : Binary64) (n : Int) :
    x.equalsInt n = true ↔ x.amount? = some (n : ℚ) := by
  cases x with
  | nan | infinite => simp [equalsInt, amount?]
  | finite negative mantissa exponent =>
    obtain ⟨p, d, parts⟩ : ∃ p d, ratio mantissa exponent = (p, d) := ⟨_, _, rfl⟩
    have amount := ratio_amount mantissa exponent
    have positive := ratio_pos mantissa exponent
    rw [parts] at amount positive
    have nonzero : (d : ℚ) ≠ 0 := Nat.cast_ne_zero.mpr positive.ne'
    have signed : ((if negative then -1 else 1) * (p / d) : ℚ) =
        ((if negative then -(p : Int) else p : Int) : ℚ) / d := by
      cases negative <;> simp [neg_div]
    unfold equalsInt amount?
    dsimp only
    rw [parts, ← amount, signed, Option.some.injEq, div_eq_iff nonzero, beq_iff_eq]
    norm_cast

end Binary64

namespace Value.Number

/-- The exact amount of a number, unless it is infinite or no number at all. -/
def amount? : Number → Option ℚ
  | whole n => some n
  | binary x => x.amount?

theorem equals_whole_iff (x : Number) (n : Int) :
    x.equals (.whole n) = true ↔ x.amount? = some (n : ℚ) := by
  cases x with
  | whole k => simp [equals, amount?]
  | binary x => exact x.equalsInt_iff n

end Value.Number

namespace Typing

/-- An integer that loses nothing of a value: the value is no truth value, and if it is a number,
the integer equals it. -/
def Keeps (v : Value) (n : Int) : Prop :=
  (∀ b, v ≠ .bool b) ∧ ∀ x, v.number? = some x → x.equals (.whole n) = true

/-- A value that is neither a truth value nor a number with a fraction. -/
def IsWhole (v : Value) : Prop :=
  (∀ b, v ≠ .bool b) ∧ ∀ x q, v.number? = some x → x.amount? = some q → ∃ k : Int, q = k

/-- An integer made of a value: the whole part of the value if that is a number, so that nothing is
lost of whole values and of no others. -/
structure Truncates (v : Value) (n : Int) : Prop where
  whole : ∀ x, v.number? = some x → ∃ q, x.amount? = some q ∧ n = wholePart q
  keeps : Keeps v n ↔ IsWhole v

theorem whole_of_toInteger {v : Value} {n : Int} (made : v.toInteger = .ok n) :
    ∀ x, v.number? = some x → ∃ q, x.amount? = some q ∧ n = wholePart q := by
  intro x number
  cases v with
  | bool b =>
    obtain rfl := Option.some.inj number
    obtain rfl := Except.ok.inj made
    exact ⟨_, rfl, (wholePart_intCast _).symm⟩
  | int k =>
    obtain rfl := Option.some.inj number
    obtain rfl := Except.ok.inj made
    exact ⟨_, rfl, (wholePart_intCast _).symm⟩
  | float y =>
    obtain rfl := Option.some.inj number
    cases y with
    | nan | infinite => cases made
    | finite negative mantissa exponent =>
      obtain rfl := Except.ok.inj made
      exact ⟨_, rfl, Binary64.truncated_eq_wholePart _ _ _⟩
  | _ => cases number

theorem truncates_of_toInteger {v : Value} {n : Int} (made : v.toInteger = .ok n) :
    Truncates v n where
  whole := whole_of_toInteger made
  keeps := by
    have equal : ∀ x q, v.number? = some x → x.amount? = some q →
        (x.equals (.whole n) = true ↔ ∃ k : Int, q = k) := by
      intro x q number amount
      obtain ⟨r, amount', whole⟩ := whole_of_toInteger made x number
      obtain rfl : q = r := Option.some.inj (amount.symm.trans amount')
      rw [Value.Number.equals_whole_iff, amount, ← wholePart_eq_iff, whole, Option.some.injEq]
      exact eq_comm
    constructor
    · rintro ⟨noBool, equals⟩
      refine ⟨noBool, fun x q number amount => ?_⟩
      exact (equal x q number amount).mp (equals x number)
    · rintro ⟨noBool, noFraction⟩
      refine ⟨noBool, fun x number => ?_⟩
      obtain ⟨q, amount, -⟩ := whole_of_toInteger made x number
      exact (equal x q number amount).mpr (noFraction x q number amount)

/-- **An integer keeps what a number says but for its fraction.** No count of a machine is made of a
truth value, and each count or port that is made of a number is the whole part of it; nothing is
lost exactly if there is no fraction and, for a port, no truth value. -/
theorem integers_truncate (v : Value) :
    (∀ m, machine v = .ok m → ∃ fields, v.opened = .dict fields ∧
      ∀ c : Count, c.isAsked m.clock.basis = true → ∀ w, c.given fields = some w → w ≠ .null →
        (∀ b, w ≠ .bool b) ∧ Truncates w (c.ofMachine m)) ∧
    ∀ ns, portsIn v = .ok ns → ∃ ws, v.members? = some ws ∧ List.Forall₂ Truncates ws ns := by
  constructor
  · intro m made
    obtain ⟨fields, opened, made⟩ := opened_of_made made
    obtain ⟨-, counts⟩ := restOf_of_made made
    refine ⟨fields, opened, fun c asked w given something => ?_⟩
    obtain ⟨noBool, converted⟩ := (Count.typed_eq_ok asked given something).mp (counts c)
    exact ⟨noBool, truncates_of_toInteger converted⟩
  · intro ns made
    obtain ⟨ws, members, converted⟩ := members_of_portsIn made
    exact ⟨ws, members, converted.imp fun w n => truncates_of_toInteger⟩

/-- The number one and a half. -/
def oneAndHalf : Binary64 := .finite false 0x18000000000000 (-52)

/-- A mapping with a memory of one byte and a half. -/
def halfByte : Fields := [
  (.text "guestname", .text "g"),
  (.text "memory", .float oneAndHalf),
  (.text "vcpus", .int 1)]

/-- A memory of one byte and a half is taken for one byte, and a truth value for a port. -/
theorem halfByte_truncated :
    (∃ m, machine (.dict halfByte) = .ok m ∧ m.memory = 1 ∧ oneAndHalf.equalsInt 1 = false ∧
      Truncates (.float oneAndHalf) m.memory) ∧
    ∃ ws, (Value.list [.int 10809, .bool true]).members? = some ws ∧
      List.Forall₂ Truncates ws [10809, 1] := by
  constructor
  · refine ⟨_, rfl, rfl, by decide, ?_⟩
    obtain ⟨fields, opened, counts⟩ := (integers_truncate (.dict halfByte)).1 _ rfl
    obtain rfl := Value.dict.inj opened
    exact (counts .memory rfl _ rfl nofun).2
  · exact (integers_truncate _).2 _ rfl

end Typing

end MachineDescriptor
