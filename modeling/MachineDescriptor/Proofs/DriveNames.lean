import Mathlib.Data.Char
import Mathlib.Data.List.Induction
import Mathlib.Data.List.Shortlex
import Mathlib.Order.RelIso.Basic
import MachineDescriptor.Machine.Drive

/-!
# Names of positions

The letters of a position are its numeral to the base 26 without a zero: a counts one and z
twenty-six, and the first position is the number one.

* `value_letters` and `letters_value`: the numeral and the number give each other back;
* `shortlex_letters`: a later position has a later name, shorter names first;
* `letters_orderIso`: positions and words are one order, so that two disks have one target name only
  where one of them is named by itself.
-/
namespace MachineDescriptor.Drive

/-- Whether a text is a word of the letters from a to z. -/
def IsWord (cs : List Char) : Prop := cs ≠ [] ∧ ∀ c ∈ cs, 'a' ≤ c ∧ c ≤ 'z'

/-- The words of the letters from a to z. -/
def Word : Type := { cs : List Char // IsWord cs }

/-- Shorter words come first, and words of one length in the order of the alphabet. -/
def Word.Before (s t : Word) : Prop := List.Shortlex (· < ·) s.val t.val

/-- What a letter counts: a one, and so on to z, which counts twenty-six. -/
def worth (c : Char) : Nat := c.toNat - 'a'.toNat + 1

/-- The number that a word is the numeral of, to the base 26 with the digits from 1 to 26. -/
def value (cs : List Char) : Nat := cs.foldl (fun n c => n * 26 + worth c) 0

/-! ## Letters and digits -/

theorem toNat_letter : ∀ digit < 26, (letter digit).toNat = 97 + digit := by decide

theorem worth_letter {digit : Nat} (small : digit < 26) : worth (letter digit) = digit + 1 := by
  have first : 'a'.toNat = 97 := rfl
  rw [worth, toNat_letter digit small, first]
  omega

theorem letter_bounds {digit : Nat} (small : digit < 26) :
    'a' ≤ letter digit ∧ letter digit ≤ 'z' := by
  change 97 ≤ (letter digit).toNat ∧ (letter digit).toNat ≤ 122
  rw [toNat_letter digit small]
  omega

theorem letter_lt {d e : Nat} (less : d < e) (small : e < 26) : letter d < letter e := by
  change (letter d).toNat < (letter e).toNat
  rw [toNat_letter d (by omega), toNat_letter e small]
  omega

/-- Each letter is that of one digit. -/
theorem exists_letter {c : Char} (above : 'a' ≤ c) (below : c ≤ 'z') :
    ∃ digit, digit < 26 ∧ c = letter digit := by
  change 97 ≤ c.toNat at above
  change c.toNat ≤ 122 at below
  refine ⟨c.toNat - 97, by omega, ?_⟩
  have whole : 97 + (c.toNat - 97) = c.toNat := by omega
  change c = Char.ofNat (97 + (c.toNat - 97))
  rw [whole, Char.ofNat_toNat]

/-! ## Numerals -/

theorem letters_small {index : Nat} (small : index < 26) : letters index = [letter index] := by
  rw [letters, if_pos small]

/-- Past the letters, a name ends in the letter of the remainder, and what goes before it names an
earlier position. -/
theorem letters_large (index : Nat) (large : 26 ≤ index) :
    letters index = letters (index / 26 - 1) ++ [letter (index % 26)] := by
  rw [letters, if_neg (by omega)]

/-- What holds of the single letters, and of a name when it holds of the name without its last
letter, holds of all. -/
theorem letters_induction {P : Nat → Prop} (single : ∀ index, index < 26 → P index)
    (longer : ∀ front digit, digit < 26 → P front → P ((front + 1) * 26 + digit)) (index : Nat) :
    P index := by
  induction index using Nat.strong_induction_on with
  | _ index ih =>
    by_cases small : index < 26
    · exact single index small
    · have before : P (index / 26 - 1) := ih _ (by omega)
      have whole : (index / 26 - 1 + 1) * 26 + index % 26 = index := by omega
      rw [← whole]
      exact longer _ _ (Nat.mod_lt _ (by omega)) before

theorem letters_front {front digit : Nat} (small : digit < 26) :
    letters ((front + 1) * 26 + digit) = letters front ++ [letter digit] := by
  have quotient : ((front + 1) * 26 + digit) / 26 - 1 = front := by omega
  have remainder : ((front + 1) * 26 + digit) % 26 = digit := by omega
  rw [letters_large _ (by omega), quotient, remainder]

theorem letters_ne_nil (index : Nat) : letters index ≠ [] := by
  rw [letters]
  split <;> simp

theorem isWord_letters (index : Nat) : IsWord (letters index) := by
  refine ⟨letters_ne_nil index, ?_⟩
  induction index using letters_induction with
  | single index small =>
    intro c listed
    rw [letters_small small, List.mem_singleton] at listed
    exact listed ▸ letter_bounds small
  | longer front digit small ih =>
    intro c listed
    rw [letters_front small, List.mem_append, List.mem_singleton] at listed
    obtain before | rfl := listed
    · exact ih c before
    · exact letter_bounds small

theorem value_concat (cs : List Char) (c : Char) : value (cs ++ [c]) = value cs * 26 + worth c := by
  simp [value]

/-- The name of a position is the numeral of the number after it. -/
theorem value_letters (index : Nat) : value (letters index) = index + 1 := by
  induction index using letters_induction with
  | single index small =>
    rw [letters_small small]
    change 0 * 26 + worth (letter index) = index + 1
    rw [worth_letter small]
    omega
  | longer front digit small ih =>
    rw [letters_front small, value_concat, ih, worth_letter small]
    omega

/-- Each word names the position before its number. -/
theorem letters_value {cs : List Char} (word : IsWord cs) : letters (value cs - 1) = cs := by
  obtain ⟨filled, each⟩ := word
  induction cs using List.reverseRecOn with
  | nil => exact absurd rfl filled
  | append_singleton front c ih =>
    obtain ⟨above, below⟩ := each c (by simp)
    obtain ⟨digit, small, rfl⟩ := exists_letter above below
    rw [value_concat, worth_letter small]
    by_cases empty : front = []
    · subst empty
      change letters (0 * 26 + (digit + 1) - 1) = [letter digit]
      have same : 0 * 26 + (digit + 1) - 1 = digit := by omega
      rw [same, letters_small small]
    · have earlier : letters (value front - 1) = front :=
        ih empty fun d listed => each d (List.mem_append_left _ listed)
      have counted : value front = value front - 1 + 1 := by
        have number := value_letters (value front - 1)
        rw [earlier] at number
        exact number
      have whole : value front * 26 + (digit + 1) - 1 = (value front - 1 + 1) * 26 + digit := by
        omega
      rw [whole, letters_front small, earlier]

/-! ## Order -/

/-- A difference of two words of one length decides, whatever follows. -/
theorem lex_append {s t : List Char} (u v : List Char) (less : List.Lex (· < ·) s t)
    (even : s.length = t.length) : List.Lex (· < ·) (s ++ u) (t ++ v) := by
  induction less with
  | nil => simp at even
  | cons _ ih => exact .cons (ih (by simpa using even))
  | rel below => exact .rel below

theorem shortlex_concat {s t : List Char} (c d : Char) (less : List.Shortlex (· < ·) s t) :
    List.Shortlex (· < ·) (s ++ [c]) (t ++ [d]) := by
  obtain shorter | ⟨even, lex⟩ := List.shortlex_def.mp less
  · apply List.Shortlex.of_length_lt
    simpa using shorter
  · apply List.Shortlex.of_lex
    · simpa using even
    · exact lex_append [c] [d] lex even

/-- A later position has a later name. -/
theorem shortlex_letters {i j : Nat} (less : i < j) :
    List.Shortlex (· < ·) (letters i) (letters j) := by
  induction i using letters_induction generalizing j with
  | single i small =>
    rw [letters_small small]
    by_cases short : j < 26
    · rw [letters_small short, List.shortlex_singleton_iff]
      exact letter_lt less short
    · apply List.Shortlex.of_length_lt
      have filled := List.length_pos_iff.mpr (letters_ne_nil (j / 26 - 1))
      rw [letters_large j (by omega), List.length_append]
      simp only [List.length_singleton]
      omega
  | longer front digit small ih =>
    rw [letters_front small, letters_large j (by omega)]
    by_cases same : front = j / 26 - 1
    · -- the last letters differ
      have last : letter digit < letter (j % 26) := letter_lt (by omega) (by omega)
      rw [same]
      exact List.Shortlex.append_left ((List.shortlex_singleton_iff _ _).mpr last) _
    · exact shortlex_concat _ _ (ih (by omega))

/-- The positions and the words as one order. -/
def naming : ((· < ·) : Nat → Nat → Prop) ≃r Word.Before where
  toFun index := ⟨letters index, isWord_letters index⟩
  invFun word := value word.val - 1
  left_inv index := by
    change value (letters index) - 1 = index
    rw [value_letters, Nat.add_sub_cancel]
  right_inv word := Subtype.ext (letters_value word.property)
  map_rel_iff' := by
    intro i j
    change List.Shortlex (· < ·) (letters i) (letters j) ↔ i < j
    constructor
    · intro before
      by_contra late
      obtain same | less := Nat.eq_or_lt_of_le (Nat.le_of_not_lt late)
      · rw [same] at before
        exact Std.Irrefl.irrefl _ before
      · exact Std.Asymm.asymm _ _ before (shortlex_letters less)
    · exact shortlex_letters

theorem letters_injective : Function.Injective letters := by
  intro i j same
  have number := value_letters i
  rw [same, value_letters] at number
  omega

/-! ## The recursion -/

/-- The letters of a position as a recursion of a limited depth finds them. -/
def lettersWithin : Nat → Nat → Option (List Char)
  | 0, _ => none
  | depth + 1, index =>
    if index < 26 then some [letter index]
    else (lettersWithin depth (index / 26 - 1)).map (· ++ [letter (index % 26)])

/-- The recursion for a name goes as deep as the name is long. -/
theorem lettersWithin_eq (depth index : Nat) :
    lettersWithin depth index =
      if (letters index).length ≤ depth then some (letters index) else none := by
  induction depth generalizing index with
  | zero =>
    have filled := List.length_pos_iff.mpr (letters_ne_nil index)
    rw [lettersWithin, if_neg (by omega)]
  | succ depth ih =>
    rw [lettersWithin]
    by_cases small : index < 26
    · rw [if_pos small, letters_small small, if_pos (by simp)]
    · rw [if_neg small, ih, letters_large index (by omega)]
      simp only [List.length_append, List.length_singleton, Nat.add_le_add_iff_right]
      split <;> rfl

/-! ## Disks -/

/-- Whether a disk is named by its position: it begins with a slash, or has more than 63
characters. -/
def IsNamedByPosition (disk : List Char) : Prop := disk.head? = some '/' ∨ 63 < disk.length

theorem isPositional_iff (disk : List Char) :
    isPositional disk = true ↔ IsNamedByPosition disk := by
  rw [isPositional, Bool.or_eq_true, beq_iff_eq, decide_eq_true_eq]
  rfl

theorem targetsFrom_getElem? (start : Nat) (disks : List (List Char)) (i : Nat) :
    (targetsFrom start disks)[i]? = disks[i]?.map (target · (start + i)) := by
  induction disks generalizing start i with
  | nil => simp [targetsFrom]
  | cons disk rest ih =>
    cases i with
    | zero => simp [targetsFrom]
    | succ i =>
      simp only [targetsFrom, List.getElem?_cons_succ, ih]
      congr 2
      funext d
      congr 1
      omega

theorem target_of_position {disk : List Char} (named : IsNamedByPosition disk) (index : Nat) :
    target disk index = positional index := by
  rw [target, if_pos ((isPositional_iff disk).mpr named)]

theorem target_of_itself {disk : List Char} (named : ¬IsNamedByPosition disk) (index : Nat) :
    target disk index = disk := by
  rw [target, if_neg (mt (isPositional_iff disk).mp named)]

theorem positional_injective : Function.Injective positional := by
  intro i j same
  exact letters_injective (List.append_cancel_left same)

/-- **The names of positions are the words in their order, so that positions never share a target
name.** Each position has the word whose number comes after it, and the recursion that finds it ends,
as deep as the word is long. In a list of disks, two that are named by their positions have different
target names, and where two have one name, one of them is named by itself. -/
theorem letters_orderIso :
    (∃ iso : ((· < ·) : Nat → Nat → Prop) ≃r Word.Before,
      (∀ index, (iso index).val = letters index) ∧
      ∀ word, iso.symm word = value word.val - 1) ∧
    (∀ index : Nat, lettersAt index = .ok (letters index) ∧
      ∀ depth, lettersWithin depth index =
        if (letters index).length ≤ depth then some (letters index) else none) ∧
    ∀ (disks : List (List Char)) (i j : Nat) (a b : List Char), i ≠ j →
      disks[i]? = some a → disks[j]? = some b →
      (IsNamedByPosition a → IsNamedByPosition b →
        (targetsFrom 0 disks)[i]? ≠ (targetsFrom 0 disks)[j]?) ∧
      ((targetsFrom 0 disks)[i]? = (targetsFrom 0 disks)[j]? →
        ¬IsNamedByPosition a ∧ (targetsFrom 0 disks)[i]? = some a ∨
        ¬IsNamedByPosition b ∧ (targetsFrom 0 disks)[j]? = some b) := by
  refine ⟨⟨naming, fun _ => rfl, fun _ => rfl⟩, ?_, ?_⟩
  · intro index
    constructor
    · have natural : (0 : Int) ≤ index := Int.natCast_nonneg index
      rw [lettersAt, position, if_pos natural]
      rfl
    · exact fun depth => lettersWithin_eq depth index
  · intro disks i j a b apart first second
    have here : (targetsFrom 0 disks)[i]? = some (target a i) := by
      simp [targetsFrom_getElem?, first]
    have there : (targetsFrom 0 disks)[j]? = some (target b j) := by
      simp [targetsFrom_getElem?, second]
    rw [here, there]
    have positions : IsNamedByPosition a → IsNamedByPosition b →
        some (target a i) ≠ some (target b j) := by
      intro namedA namedB same
      rw [target_of_position namedA, target_of_position namedB] at same
      exact apart (positional_injective (Option.some.inj same))
    refine ⟨positions, fun same => ?_⟩
    by_cases namedA : IsNamedByPosition a
    · have namedB : ¬IsNamedByPosition b := fun namedB => positions namedA namedB same
      exact .inr ⟨namedB, congrArg some (target_of_itself namedB j)⟩
    · exact .inl ⟨namedA, congrArg some (target_of_itself namedA i)⟩

/-- Two paths around a disk that is named like the first position. -/
def threeDisks : List (List Char) :=
  ["/dev/foo".toList, "sda".toList, "/dev/bar".toList]

/-- The first two of three disks share a name, which one of them gave itself; the paths do not. -/
theorem targets_threeDisks :
    (targetsFrom 0 threeDisks)[0]? ≠ (targetsFrom 0 threeDisks)[2]? ∧
    (targetsFrom 0 threeDisks)[0]? = (targetsFrom 0 threeDisks)[1]? ∧
    (¬IsNamedByPosition "/dev/foo".toList ∧
        (targetsFrom 0 threeDisks)[0]? = some "/dev/foo".toList ∨
      ¬IsNamedByPosition "sda".toList ∧ (targetsFrom 0 threeDisks)[1]? = some "sda".toList) := by
  have path (disk : List Char) : disk.head? = some '/' → IsNamedByPosition disk := .inl
  have shared : (targetsFrom 0 threeDisks)[0]? = (targetsFrom 0 threeDisks)[1]? := by
    decide +kernel
  obtain ⟨-, -, apart⟩ := letters_orderIso
  have first : threeDisks[0]? = some "/dev/foo".toList := rfl
  refine ⟨?_, shared, ?_⟩
  · exact (apart threeDisks 0 2 _ _ (by decide) first rfl).1 (path _ (by decide +kernel))
      (path _ (by decide +kernel))
  · exact (apart threeDisks 0 1 _ _ (by decide) first rfl).2 shared

end MachineDescriptor.Drive
