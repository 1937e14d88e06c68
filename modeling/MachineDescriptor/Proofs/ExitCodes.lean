import MachineDescriptor.Proofs.Amounts
import MachineDescriptor.Proofs.Mappings

/-!
Exit codes that are made of given values. A value converts to an integer, which is brought into the
range of exit codes; a value equal to one stands for the code of the kind, and a value that does not
convert counts as one. Only an infinite number makes no code, and with it no report.
-/
namespace MachineDescriptor

/-- The exact amount of a value that is a finite number. -/
def Value.amount? (v : Value) : Option ℚ := v.number?.bind Number.amount?

namespace Report

open Typing (isInfinity textOrNull)

/-- The exit code of a kind of report for a value, said by what the value amounts to and by the
integer that it converts to. -/
structure IsCodeFor (kind : Kind) (given : Value) (code : Nat) : Prop where
  bounded : code ≤ 255
  own : given.amount? = some 1 → code = kind.ownCode
  kept : given.amount? ≠ some 1 → ∀ n, given.toInteger = .ok n → 0 ≤ n → n ≤ 255 → code = n
  below : ∀ n, given.toInteger = .ok n → n < 0 → code = 1
  above : ∀ n, given.toInteger = .ok n → 255 < n → code = 255
  unreadable : (∀ n, given.toInteger ≠ .ok n) → code = 1

theorem isOne_iff (given : Value) :
    (given.number?.map fun n => n.equals (.whole 1)).getD false = true ↔
      given.amount? = some 1 := by
  unfold Value.amount?
  cases given.number? with
  | none => simp
  | some x => simpa using x.equals_whole_iff 1

/-- A value equal to one converts to one. -/
theorem toInteger_of_one {given : Value} (one : given.amount? = some 1) :
    given.toInteger = .ok 1 := by
  cases given with
  | bool b =>
    cases b with
    | true => rfl
    | false => simp [Value.amount?, Value.number?, Value.Number.amount?] at one
  | int n => simpa [Value.amount?, Value.number?, Value.Number.amount?, Value.toInteger] using one
  | float x =>
    cases x with
    | nan | infinite => cases one
    | finite negative mantissa exponent =>
      have amount : (if negative then -1 else 1) * (mantissa * 2 ^ exponent) = (1 : ℚ) :=
        Option.some.inj one
      have whole := wholePart_intCast 1
      rw [Int.cast_one] at whole
      rw [Value.toInteger, Binary64.truncated_eq_wholePart, amount, whole]
  | _ => cases one

theorem toIntegerOr_of_error {given : Value} {f : Integer.Fault} (finite : isInfinity given = false)
    (failed : given.toInteger = .error f) (default : Int) :
    given.toIntegerOr default = .ok default := by
  unfold Value.toIntegerOr
  rw [failed]
  cases f with
  | infinite =>
    rw [Typing.isInfinity_of_toInteger failed] at finite
    cases finite
  | _ => rfl

theorem ownCode_mem (kind : Kind) : 0 ≤ kind.ownCode ∧ kind.ownCode ≤ 255 := by
  cases kind <;> decide

theorem toNat_clampCode (n : Int) : ((clampCode n).toNat : Int) = clampCode n :=
  Int.toNat_of_nonneg (clampCode_mem n).1

theorem isCodeFor_clampCode {kind : Kind} {given : Value} {n : Int}
    (other : given.amount? ≠ some 1) (converted : given.toInteger = .ok n) :
    IsCodeFor kind given (clampCode n).toNat := by
  have same : ∀ k, given.toInteger = .ok k → k = n := fun k converted' =>
    Except.ok.inj (converted'.symm.trans converted)
  have bounds := clampCode_mem n
  refine ⟨by omega, fun one => absurd one other, fun _ k made low high => ?_, fun k made low => ?_,
    fun k made high => ?_, fun none => absurd converted (none n)⟩
  · rw [toNat_clampCode, same k made, clampCode_of_mem (same k made ▸ low) (same k made ▸ high)]
  · rw [clampCode, if_pos (same k made ▸ low)]
    rfl
  · rw [same k made] at high
    rw [clampCode, if_neg (by omega), if_pos high]
    rfl

/-- Every value that is not infinite has an exit code. -/
theorem codeOf_of_finite (kind : Kind) {given : Value} (finite : isInfinity given = false) :
    ∃ code, codeOf kind given = .ok code ∧ IsCodeFor kind given code := by
  unfold codeOf
  by_cases one : given.amount? = some 1
  · have integer := toInteger_of_one one
    have bounds := ownCode_mem kind
    have own := clampCode_of_mem bounds.1 bounds.2
    rw [(isOne_iff given).mpr one]
    refine ⟨(clampCode kind.ownCode).toNat, rfl, ?_⟩
    rw [own]
    have same : ∀ n, given.toInteger = .ok n → n = 1 := fun n made =>
      Except.ok.inj (made.symm.trans integer)
    refine ⟨by omega, fun _ => by omega, fun other => absurd one other, fun n made low => ?_,
      fun n made high => ?_, fun none => absurd integer (none 1)⟩
    · rw [same n made] at low
      omega
    · rw [same n made] at high
      omega
  · rw [Bool.eq_false_iff.mpr fun isOne => one ((isOne_iff given).mp isOne)]
    cases made : given.toInteger with
    | ok n =>
      refine ⟨(clampCode n).toNat, ?_, isCodeFor_clampCode one made⟩
      simp only [Value.toIntegerOr, made]
      rfl
    | error f =>
      refine ⟨1, ?_, by omega, fun isOne => absurd isOne one, fun _ n converted => ?_,
        fun n converted => ?_, fun n converted => ?_, fun _ => rfl⟩
      · simp only [toIntegerOr_of_error finite made]
        rfl
      all_goals
        rw [made] at converted
        cases converted

/-- No exit code is made of an infinite number. -/
theorem codeOf_of_infinite (kind : Kind) {given : Value} (infinite : isInfinity given = true) :
    codeOf kind given = .error .infinite := by
  have failed := Typing.toInteger_of_isInfinity infinite
  have other : given.amount? ≠ some 1 := by
    intro one
    rw [toInteger_of_one one] at failed
    cases failed
  unfold codeOf
  rw [Bool.eq_false_iff.mpr fun isOne => other ((isOne_iff given).mp isOne)]
  simp only [Value.toIntegerOr, failed]
  rfl

theorem givenMessage_textOrNull (message : Option String) :
    givenMessage (textOrNull message) = .ok (message.getD "") := by
  cases message <;> rfl

/-- What a report is made of, when its code is known. -/
theorem make_of_codeOf {kind : Kind} {given : Value} {code : Nat} (coded : codeOf kind given = .ok code)
    (message : Option String) (cause : Option Cause) (context : Context) :
    make kind given (textOrNull message) cause context =
      .ok ⟨kind, code, messageOf kind (message.getD ""), cause, context⟩ := by
  unfold make
  rw [coded, givenMessage_textOrNull]
  rfl

/-- **Every value but an infinite number makes a report with an exit code.** -/
theorem make_unless_infinite (kind : Kind) (given : Value) (message : Option String)
    (cause : Option Cause) (context : Context) :
    (isInfinity given = false →
      ∃ r, make kind given (textOrNull message) cause context = .ok r ∧
        IsCodeFor kind given r.code) ∧
    (isInfinity given = true →
      make kind given (textOrNull message) cause context = .error (.integer .infinite)) := by
  constructor
  · intro finite
    obtain ⟨code, coded, isCode⟩ := codeOf_of_finite kind finite
    exact ⟨_, make_of_codeOf coded message cause context, isCode⟩
  · intro infinite
    unfold make
    rw [codeOf_of_infinite kind infinite]
    rfl

/-- An infinite number makes no report about a configuration; the truth value makes one with the
code two. -/
theorem make_endless :
    make .config (.float (.infinite false)) (textOrNull (some "x")) none .empty =
        .error (.integer .infinite) ∧
      ∃ r, make .config (.bool true) (textOrNull (some "x")) none .empty = .ok r ∧ r.code = 2 := by
  refine ⟨(make_unless_infinite _ _ _ _ _).2 rfl, ?_⟩
  obtain ⟨r, made, isCode⟩ := (make_unless_infinite .config (.bool true) (some "x") none .empty).1 rfl
  have one : (Value.bool true).amount? = some 1 := by
    simp [Value.amount?, Value.number?, Value.Number.amount?]
  have own : (r.code : Int) = 2 := isCode.own one
  exact ⟨r, made, by omega⟩

end Report
end MachineDescriptor
