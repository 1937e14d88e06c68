import MachineDescriptor.Proofs.SingleLines
import MachineDescriptor.Xml.Name

/-!
The grammar of names. A word is a seven-bit letter or underscore with letters, digits, underscores,
points and hyphens after it. What passes for a name is a word, but one line feed may follow it
(`isName_iff`); that line feed is the only line break that a name can have.
-/
namespace MachineDescriptor.Xml

/-- A word: a letter of the seven-bit alphabet or an underscore, and after it any number of such
letters, digits, underscores, points and hyphens. -/
def IsWord (s : String) : Prop :=
  ∃ first rest, s.toList = first :: rest ∧ (first.isAlpha = true ∨ first = '_') ∧
    ∀ c ∈ rest, c.isAlphanum = true ∨ c ∈ ['_', '.', '-']

/-- A word, with one line feed after it or with none. -/
def IsWordLine (s : String) : Prop := ∃ word, IsWord word ∧ (s = word ∨ s = word ++ "\n")

/-! ## Characters -/

theorem isLetter_eq_isAlpha (c : Char) : isLetter c = c.isAlpha := by
  have lower : ('a' ≤ c && c ≤ 'z') = c.isLower := rfl
  have upper : ('A' ≤ c && c ≤ 'Z') = c.isUpper := (Bool.decide_and _ _).symm
  rw [isLetter, lower, upper]
  exact Bool.or_comm _ _

theorem isNameStart_iff (c : Char) : isNameStart c = true ↔ c.isAlpha = true ∨ c = '_' := by
  rw [isNameStart, isLetter_eq_isAlpha, Bool.or_eq_true, beq_iff_eq]

theorem isNameChar_iff (c : Char) :
    isNameChar c = true ↔ c.isAlphanum = true ∨ c ∈ ['_', '.', '-'] := by
  have digit : ('0' ≤ c && c ≤ '9') = c.isDigit := rfl
  have either : c.isAlphanum = (c.isAlpha || c.isDigit) := rfl
  simp only [isNameChar, Bool.or_eq_true, isNameStart_iff, digit, either, beq_iff_eq,
    List.mem_cons, List.not_mem_nil, or_false]
  grind

theorem isNameChar_of_isNameStart {c : Char} (start : isNameStart c = true) :
    isNameChar c = true := by
  simp [isNameChar, start]

/-- The characters of names lie apart from all line breaks. -/
theorem isLineBreak_of_isNameChar {c : Char} (named : isNameChar c = true) :
    Text.isLineBreak c = false := by
  simp only [isNameChar, isNameStart, isLetter, Bool.or_eq_true, Bool.and_eq_true,
    decide_eq_true_eq, Char.le_def, beq_iff_eq, UInt32.le_iff_toNat_le] at named
  have apart : 0x2d ≤ c.toNat ∧ c.toNat ≤ 0x7a := by
    rcases named with ((((⟨low, high⟩ | ⟨low, high⟩) | rfl) | ⟨low, high⟩) | rfl) | rfl
    · exact ⟨Nat.le_trans (by decide) low, Nat.le_trans high (by decide)⟩
    · exact ⟨Nat.le_trans (by decide) low, Nat.le_trans high (by decide)⟩
    · decide
    · exact ⟨Nat.le_trans (by decide) low, Nat.le_trans high (by decide)⟩
    · decide
    · decide
  simp only [Text.isLineBreak, Bool.or_eq_false_iff, Bool.and_eq_false_iff,
    decide_eq_false_iff_not, beq_eq_false_iff_ne]
  omega

/-! ## Words -/

theorem isWord_iff (s : String) :
    IsWord s ↔ ∃ first rest, s.toList = first :: rest ∧ isNameStart first = true ∧
      ∀ c ∈ rest, isNameChar c = true := by
  simp only [IsWord, isNameStart_iff, isNameChar_iff]

theorem IsWord.isNameChar {s : String} (word : IsWord s) :
    ∀ c ∈ s.toList, isNameChar c = true := by
  obtain ⟨first, rest, chars, start, plain⟩ := (isWord_iff s).mp word
  rw [chars]
  exact List.forall_mem_cons.mpr ⟨isNameChar_of_isNameStart start, plain⟩

theorem IsWord.unbroken {s : String} (word : IsWord s) : Text.Unbroken s.toList := by
  intro c listed
  exact isLineBreak_of_isNameChar (word.isNameChar c listed)

/-- A name without a line break is a word. -/
theorem IsWordLine.unbroken_iff {s : String} (line : IsWordLine s) :
    Text.Unbroken s.toList ↔ IsWord s := by
  constructor
  · intro unbroken
    obtain ⟨word, isWord, rfl | rfl⟩ := line
    · exact isWord
    · have feed := unbroken '\n' (by simp)
      cases feed
  · exact IsWord.unbroken

/-- A name that does not end in a line feed is a word. -/
theorem IsWordLine.isWord {s : String} (line : IsWordLine s)
    (ending : s.toList.getLast? ≠ some '\n') : IsWord s := by
  obtain ⟨word, isWord, rfl | rfl⟩ := line
  · exact isWord
  · simp at ending

/-! ## Names -/

theorem isNameRest_cons (c : Char) (rest : List Char) :
    isNameRest (c :: rest) =
      if rest = [] then isNameChar c || c == '\n' else isNameChar c && isNameRest rest := by
  cases rest <;> rfl

theorem isNameRest_iff (cs : List Char) :
    isNameRest cs = true ↔
      ∃ rest, (∀ c ∈ rest, isNameChar c = true) ∧ (cs = rest ∨ cs = rest ++ ['\n']) := by
  constructor
  · intro named
    induction cs with
    | nil => exact ⟨[], List.forall_mem_nil _, .inl rfl⟩
    | cons c others ih =>
      rw [isNameRest_cons] at named
      split at named
      · next last =>
        subst last
        rw [Bool.or_eq_true, beq_iff_eq] at named
        rcases named with plain | rfl
        · exact ⟨[c], List.forall_mem_singleton.mpr plain, .inl rfl⟩
        · exact ⟨[], List.forall_mem_nil _, .inr rfl⟩
      · obtain ⟨first, later⟩ := (Bool.and_eq_true _ _).mp named
        obtain ⟨rest, plain, same⟩ := ih later
        refine ⟨c :: rest, List.forall_mem_cons.mpr ⟨first, plain⟩, ?_⟩
        exact same.imp (congrArg (c :: ·)) (congrArg (c :: ·))
  · rintro ⟨rest, plain, same⟩
    induction rest generalizing cs with
    | nil => rcases same with rfl | rfl <;> rfl
    | cons c rest ih =>
      obtain ⟨first, later⟩ := List.forall_mem_cons.mp plain
      have goesOn : ∀ others, (others = rest ∨ others = rest ++ ['\n']) →
          isNameRest (c :: others) = true := by
        intro others same
        have passes := ih others later same
        rw [isNameRest_cons, first, passes]
        split <;> rfl
      rcases same with rfl | rfl
      · exact goesOn rest (.inl rfl)
      · exact goesOn _ (.inr rfl)

/-- **What passes for a name is a word, with one line feed after it or with none.** -/
theorem isName_iff (s : String) : isName s.toList = true ↔ IsWordLine s := by
  constructor
  · intro named
    cases chars : s.toList with
    | nil =>
      rw [chars] at named
      cases named
    | cons first others =>
      rw [chars] at named
      obtain ⟨start, later⟩ := (Bool.and_eq_true _ _).mp named
      obtain ⟨rest, plain, same⟩ := (isNameRest_iff others).mp later
      refine ⟨String.ofList (first :: rest), ?_, ?_⟩
      · exact (isWord_iff _).mpr ⟨first, rest, String.toList_ofList, start, plain⟩
      · apply same.imp
        · rintro rfl
          rw [← chars, String.ofList_toList]
        · rintro rfl
          apply String.toList_inj.mp
          simp [chars]
  · rintro ⟨word, isWord, same⟩
    obtain ⟨first, rest, chars, start, plain⟩ := (isWord_iff word).mp isWord
    have passes : ∀ others, (others = rest ∨ others = rest ++ ['\n']) →
        isName (first :: others) = true := by
      intro others same
      exact (Bool.and_eq_true _ _).mpr ⟨start, (isNameRest_iff others).mpr ⟨rest, plain, same⟩⟩
    rcases same with rfl | rfl
    · rw [chars]
      exact passes rest (.inl rfl)
    · rw [String.toList_append, chars, List.cons_append]
      exact passes _ (.inr rfl)

end MachineDescriptor.Xml
