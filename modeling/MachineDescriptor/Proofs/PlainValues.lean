import MachineDescriptor.Machine.Typing

/-!
Plain values: what a data format can hold, with integers that keep to the limit on digits. A plain
value can be shown, and so can whatever it holds. Its written form is the word for a basis only if
it is a text.
-/
namespace MachineDescriptor

namespace Value

mutual

/-- Whether each value in a value, keys included, that holds no others passes a test. -/
def every (p : Value → Bool) : Value → Bool
  | list vs | tuple vs => everyOf p vs
  | dict entries => everyEntry p entries
  | v => p v

def everyOf (p : Value → Bool) : List Value → Bool
  | [] => true
  | v :: rest => v.every p && everyOf p rest

def everyEntry (p : Value → Bool) : List (Value × Value) → Bool
  | [] => true
  | (k, v) :: rest => k.every p && v.every p && everyEntry p rest

end

def isPlainScalar : Value → Bool
  | null | bool _ | float _ | text _ | bytes _ | basis _ => true
  | int n => Integer.isWritable n
  | _ => false

/-- Whether a value is made of nothing, truth values, numbers, texts, bytes, lists and mappings. -/
def isPlain (v : Value) : Bool := v.every isPlainScalar

def isFiniteScalar : Value → Bool
  | float (.infinite _) => false
  | _ => true

/-- Whether there is no infinite number in a value. -/
def isFinite (v : Value) : Bool := v.every isFiniteScalar

variable {p : Value → Bool}

theorem everyOf_of_forall {vs : List Value} (all : ∀ v ∈ vs, v.every p = true) :
    everyOf p vs = true := by
  induction vs with
  | nil => rfl
  | cons v rest ih =>
    obtain ⟨first, others⟩ := List.forall_mem_cons.mp all
    rw [everyOf, first, ih others]
    rfl

theorem everyEntry_of_forall {entries : List (Value × Value)}
    (all : ∀ e ∈ entries, e.1.every p = true ∧ e.2.every p = true) :
    everyEntry p entries = true := by
  induction entries with
  | nil => rfl
  | cons e rest ih =>
    obtain ⟨⟨key, value⟩, others⟩ := List.forall_mem_cons.mp all
    rw [everyEntry, key, value, ih others]
    rfl

theorem every_of_lookup {word : String} {entries : List (Value × Value)} {v : Value}
    (all : everyEntry p entries = true) (found : lookup word entries = some v) :
    v.every p = true := by
  induction entries with
  | nil => cases found
  | cons e rest ih =>
    obtain ⟨k, w⟩ := e
    obtain ⟨first, others⟩ := (Bool.and_eq_true _ _).mp all
    unfold lookup at found
    split at found
    · obtain rfl := Option.some.inj found
      exact ((Bool.and_eq_true _ _).mp first).2
    · exact ih others found

/-- What a mapping has under a word, or nothing, passes the test of its values. -/
theorem every_getD {entries : List (Value × Value)} (all : everyEntry p entries = true)
    (nothing : p null = true) (word : String) :
    ((lookup word entries).getD null).every p = true := by
  cases found : lookup word entries with
  | none => exact nothing
  | some v => exact every_of_lookup all found

theorem isWritableIn_of_isPlainScalar {v : Value} (plain : isPlainScalar v = true)
    (web : Nat → Bool) : v.isWritableIn web = true := by
  cases v with
  | int n =>
    rw [isPlainScalar] at plain
    rw [isWritableIn]
    exact plain
  | null | bool | float | text | bytes | basis =>
    unfold isWritableIn
    rfl
  | list | tuple | dict | date | moment | set | woven | inner => cases plain

mutual

theorem isWritableIn_of_every (v : Value) (web : Nat → Bool) :
    v.every isPlainScalar = true → v.isWritableIn web = true := by
  match v with
  | list vs | tuple vs => exact writableAll_of_every vs web
  | dict entries => exact entriesWritable_of_every entries web
  | null | bool _ | int _ | float _ | text _ | bytes _ | basis _ | date _ | moment _ | set _
  | woven _ _ | inner _ =>
    intro plain
    unfold every at plain
    exact isWritableIn_of_isPlainScalar plain web

theorem writableAll_of_every (vs : List Value) (web : Nat → Bool)
    (plain : everyOf isPlainScalar vs = true) : (writableAll vs).all (· web) = true := by
  match vs with
  | [] => rfl
  | v :: rest =>
    obtain ⟨first, others⟩ := (Bool.and_eq_true _ _).mp plain
    rw [writableAll, List.all_cons, isWritableIn_of_every v web first,
      writableAll_of_every rest web others]
    rfl

theorem entriesWritable_of_every (entries : List (Value × Value)) (web : Nat → Bool)
    (plain : everyEntry isPlainScalar entries = true) : entriesWritable entries web = true := by
  match entries with
  | [] => rfl
  | (k, v) :: rest =>
    obtain ⟨both, others⟩ := (Bool.and_eq_true _ _).mp plain
    obtain ⟨key, value⟩ := (Bool.and_eq_true _ _).mp both
    rw [entriesWritable, isWritableIn_of_every k web key, isWritableIn_of_every v web value,
      entriesWritable_of_every rest web others]
    rfl

end

/-- **A plain value can be written and shown.** -/
theorem isWritable_of_isPlain {v : Value} (plain : v.isPlain = true) : v.isWritable = true :=
  isWritableIn_of_every v _ plain

theorem shown_of_isPlain {v : Value} (plain : v.isPlain = true) : v.shown = .ok v.display := by
  rw [shown, if_pos (isWritable_of_isPlain plain)]

theorem written_of_isPlain {v : Value} (plain : v.isPlain = true) : v.written = .ok v.plain := by
  rw [written, if_pos (isWritable_of_isPlain plain)]

theorem opened_of_isPlain {v : Value} (plain : v.isPlain = true) : v.opened = v := by
  cases v with
  | woven => cases plain
  | _ => rfl

end Value

/-! ## Texts of numbers -/

/-- A character that a numeral or the name of a number may begin with. -/
def beginsNumber (c : Char) : Prop := c.isDigit = true ∨ c ∈ ['-', 'n', 'i']

theorem beginsNumber_toDigits (n : Nat) :
    ∃ c rest, Nat.toDigits 10 n = c :: rest ∧ c.isDigit = true := by
  cases digits : Nat.toDigits 10 n with
  | nil => exact absurd digits Nat.toDigits_ne_nil
  | cons c rest =>
    have listed : c ∈ Nat.toDigits 10 n := by
      rw [digits]
      exact List.mem_cons_self
    exact ⟨c, rest, rfl, Nat.isDigit_of_mem_toDigits (by omega) (by omega) listed⟩

theorem Integer.text_begins (n : Int) : ∃ c rest, Integer.text n = c :: rest ∧ beginsNumber c := by
  obtain ⟨c, rest, digits, digit⟩ := beginsNumber_toDigits n.natAbs
  by_cases negative : n < 0
  · refine ⟨'-', c :: rest, ?_, .inr (by decide)⟩
    rw [Integer.text, if_pos negative, digits]
    rfl
  · refine ⟨c, rest, ?_, .inl digit⟩
    rw [Integer.text, if_neg negative, digits]
    rfl

namespace Binary64

/-- Digits that begin with one, as those of a number do. -/
def Digits.IsSound (x : Digits) : Prop := ∃ c rest, x.digits = c :: rest ∧ c.isDigit = true

theorem Digits.isSound_trimmed {x : Digits} (all : ∀ c ∈ x.digits, c.isDigit = true) :
    x.trimmed.IsSound := by
  unfold Digits.IsSound Digits.trimmed
  cases kept : (x.digits.reverse.dropWhile (· == '0')).reverse with
  | nil => exact ⟨'0', [], rfl, rfl⟩
  | cons c rest =>
    have listed : c ∈ (x.digits.reverse.dropWhile (· == '0')).reverse := by
      rw [kept]
      exact List.mem_cons_self
    have before := (List.dropWhile_sublist _).subset (List.mem_reverse.mp listed)
    exact ⟨c, rest, rfl, all c (List.mem_reverse.mp before)⟩

theorem digitsOf_isDigit (units : Nat) (power : Int) :
    ∀ c ∈ (digitsOf units power).digits, c.isDigit = true := by
  intro c listed
  exact Nat.isDigit_of_mem_toDigits (by omega) (by omega) listed

theorem shortestFrom_isSound (mantissa : Nat) (exponent top : Int) (fuel count : Nat) :
    (shortestFrom mantissa exponent top fuel count).IsSound := by
  induction fuel generalizing count with
  | zero => exact Digits.isSound_trimmed (digitsOf_isDigit _ _)
  | succ fuel ih =>
    have next : ∀ units : Nat, (if readsBack mantissa exponent units (top - count + 1) = true then
        (digitsOf units (top - count + 1)).trimmed
        else shortestFrom mantissa exponent top fuel (count + 1)).IsSound := by
      intro units
      split
      · exact Digits.isSound_trimmed (digitsOf_isDigit _ _)
      · exact ih (count + 1)
    unfold shortestFrom
    dsimp only
    split
    · exact Digits.isSound_trimmed (digitsOf_isDigit _ _)
    · exact next _

theorem positional_begins {x : Digits} (sound : x.IsSound) :
    ∃ c rest, positional x = c :: rest ∧ beginsNumber c := by
  obtain ⟨c, more, digits, digit⟩ := sound
  unfold positional
  split
  · exact ⟨'0', _, rfl, .inl rfl⟩
  · next positive =>
    dsimp only
    split
    · rw [digits]
      exact ⟨c, _, rfl, .inl digit⟩
    · obtain ⟨n, whole⟩ : ∃ n, x.point.toNat = n + 1 := ⟨x.point.toNat - 1, by omega⟩
      rw [whole, digits]
      exact ⟨c, _, rfl, .inl digit⟩

theorem scientific_begins {x : Digits} (sound : x.IsSound) :
    ∃ c rest, scientific x = c :: rest ∧ beginsNumber c := by
  obtain ⟨c, more, digits, digit⟩ := sound
  unfold scientific
  rw [digits]
  exact ⟨c, _, rfl, .inl digit⟩

theorem signed_begins {cs : List Char} (negative : Bool)
    (body : ∃ c rest, cs = c :: rest ∧ beginsNumber c) :
    ∃ c rest, signText negative ++ cs = c :: rest ∧ beginsNumber c := by
  cases negative with
  | false => exact body
  | true => exact ⟨'-', cs, rfl, .inr (by decide)⟩

theorem text_begins (x : Binary64) : ∃ c rest, x.text = c :: rest ∧ beginsNumber c := by
  match x with
  | nan => exact ⟨'n', _, rfl, .inr (by decide)⟩
  | infinite negative => exact signed_begins negative ⟨'i', _, rfl, .inr (by decide)⟩
  | finite negative 0 _ => exact signed_begins negative ⟨'0', _, rfl, .inl rfl⟩
  | finite negative (mantissa + 1) exponent =>
    refine signed_begins negative ?_
    split
    · exact positional_begins (shortestFrom_isSound _ _ _ _ _)
    · exact scientific_begins (shortestFrom_isSound _ _ _ _ _)

end Binary64

/-! ## Words for a basis -/

namespace Typing

open Text (isBlank trim lower lowerAfter lowerChar)

theorem dropWhile_concat {α : Type} {p : α → Bool} {a : α} (kept : p a = false) (as : List α) :
    (as ++ [a]).dropWhile p = as.dropWhile p ++ [a] := by
  induction as with
  | nil => simp [kept]
  | cons b rest ih =>
    rw [List.cons_append, List.dropWhile_cons, List.dropWhile_cons]
    split
    · exact ih
    · rfl

theorem trim_cons {c : Char} (solid : isBlank c = false) (rest : List Char) :
    ∃ kept, trim (c :: rest) = c :: kept := by
  refine ⟨(rest.reverse.dropWhile isBlank).reverse, ?_⟩
  rw [trim, List.dropWhile_cons_of_neg (by simp [solid]), List.reverse_cons,
    dropWhile_concat solid, List.reverse_append]
  rfl

/-- A seven-bit character that no word for a basis begins with. -/
structure BeginsNoWord (c : Char) : Prop where
  ascii : c.toNat < 0x80
  solid : isBlank c = false
  other : c.toLower ≠ 'u' ∧ c.toLower ≠ 'l'

theorem ofWord?_of_begins {c : Char} (h : BeginsNoWord c) (rest : List Char) :
    Basis.ofWord? (basisWord (c :: rest)) = none := by
  obtain ⟨kept, trimmed⟩ := trim_cons h.solid rest
  have plain : c ≠ 'Σ' := by
    rintro rfl
    exact absurd h.ascii (by decide)
  have word : basisWord (c :: rest) = String.ofList (c.toLower :: lowerAfter [c] kept) := by
    rw [basisWord, trimmed, lower, String.toList_ofList, lowerAfter, if_neg plain, lowerChar]
    simp only [h.ascii, if_true]
    rfl
  have differs : ∀ b : Basis, b.word ≠ basisWord (c :: rest) := by
    intro b same
    have first := congrArg (fun s => s.toList.head?) same
    rw [word] at first
    simp only [String.toList_ofList, List.head?_cons] at first
    cases b with
    | unknown => exact h.other.1 (Option.some.inj first).symm
    | utc => exact h.other.1 (Option.some.inj first).symm
    | localtime => exact h.other.2 (Option.some.inj first).symm
  rw [Basis.ofWord?, List.find?_eq_none]
  intro b _
  simpa using differs b

theorem BeginsNoWord.of_digit {c : Char} (digit : c.isDigit = true) : BeginsNoWord c := by
  simp only [Char.isDigit, Bool.and_eq_true, decide_eq_true_eq, UInt32.le_iff_toNat_le] at digit
  obtain ⟨low, high⟩ := digit
  change 48 ≤ c.toNat at low
  change c.toNat ≤ 57 at high
  have same : c.toLower = c := by
    unfold Char.toLower
    rw [dif_neg]
    intro upper
    have above : 65 ≤ c.toNat := upper.1
    omega
  refine ⟨by omega, ?_, ?_⟩
  · simp only [isBlank]
    simp only [Bool.or_eq_false_iff, Bool.and_eq_false_iff, decide_eq_false_iff_not,
      beq_eq_false_iff_ne]
    omega
  · rw [same]
    constructor
    · rintro rfl
      exact absurd high (by decide)
    · rintro rfl
      exact absurd high (by decide)

theorem BeginsNoWord.of_number {c : Char} (number : beginsNumber c) : BeginsNoWord c := by
  obtain digit | sign := number
  · exact .of_digit digit
  · simp only [List.mem_cons, List.not_mem_nil, or_false] at sign
    obtain rfl | rfl | rfl := sign <;> exact ⟨by decide, by decide, by decide⟩

/-- A plain value that counts as true and is no text begins like no word for a basis when it is
written. -/
theorem plain_begins {v : Value} (something : v.isTrue = true) (noText : v.text? = none) :
    v.isPlain = true → ∃ c rest, v.plain = c :: rest ∧ BeginsNoWord c := by
  have mark : ∀ {c : Char} {rest : List Char}, BeginsNoWord c →
      ∃ d more, c :: rest = d :: more ∧ BeginsNoWord d :=
    fun sound => ⟨_, _, rfl, sound⟩
  cases v with
  | null => cases something
  | bool b =>
    intro _
    cases b with
    | false => cases something
    | true => exact mark ⟨by decide, by decide, by decide⟩
  | int n =>
    intro _
    obtain ⟨c, rest, written, number⟩ := Integer.text_begins n
    exact ⟨c, rest, written, .of_number number⟩
  | float x =>
    intro _
    obtain ⟨c, rest, written, number⟩ := x.text_begins
    exact ⟨c, rest, written, .of_number number⟩
  | text s => cases noText
  | basis b => cases noText
  | bytes bs => exact fun _ => mark ⟨by decide, by decide, by decide⟩
  | list vs => exact fun _ => mark ⟨by decide, by decide, by decide⟩
  | tuple vs =>
    intro _
    have opening : BeginsNoWord '(' := ⟨by decide, by decide, by decide⟩
    match vs with
    | [v] => exact mark opening
    | [] => exact mark opening
    | v :: w :: rest => exact mark opening
  | dict entries => exact fun _ => mark ⟨by decide, by decide, by decide⟩
  | date | moment | set | woven | inner =>
    intro plain
    cases plain

end Typing
end MachineDescriptor
