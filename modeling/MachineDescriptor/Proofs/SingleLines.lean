import MachineDescriptor.Report
import MachineDescriptor.Text.Line

/-!
Texts on one line. A text that is brought to one line keeps to the limit, has no line break of any
kind, because no word has a blank and every line break is one, and is the words of the text with
single spaces between them as far as these keep to the limit.
-/
namespace MachineDescriptor

namespace Text

/-- Whether a text has no line break. -/
def Unbroken (cs : List Char) : Prop := ∀ c ∈ cs, isLineBreak c = false

instance (cs : List Char) : Decidable (Unbroken cs) :=
  List.decidableBAll (fun c => isLineBreak c = false) cs

theorem Unbroken.append {cs ds : List Char} (first : Unbroken cs) (second : Unbroken ds) :
    Unbroken (cs ++ ds) := fun c listed =>
  (List.mem_append.mp listed).elim (first c) (second c)

theorem isBlank_of_isLineBreak {c : Char} (breaks : isLineBreak c = true) : isBlank c = true := by
  simp only [isLineBreak, isBlank, Bool.or_eq_true, Bool.and_eq_true, decide_eq_true_eq,
    beq_iff_eq] at breaks ⊢
  omega

/-! ## Words -/

theorem not_isBlank_of_mem_wordsAfter {begun cs : List Char}
    (inWord : ∀ c ∈ begun, isBlank c = false) {word : List Char}
    (found : word ∈ wordsAfter begun cs) : ∀ c ∈ word, isBlank c = false := by
  have ended : ∀ c ∈ begun.reverse, isBlank c = false := fun c listed =>
    inWord c (List.mem_reverse.mp listed)
  induction cs generalizing begun with
  | nil =>
    rw [wordsAfter] at found
    split at found
    · cases found
    · rwa [List.mem_singleton.mp found]
  | cons c rest ih =>
    rw [wordsAfter] at found
    split at found
    · split at found
      · exact ih (List.forall_mem_nil _) found (List.forall_mem_nil _)
      · obtain rfl | later := List.mem_cons.mp found
        · exact ended
        · exact ih (List.forall_mem_nil _) later (List.forall_mem_nil _)
    · next kept =>
      have more : ∀ d ∈ c :: begun, isBlank d = false :=
        List.forall_mem_cons.mpr ⟨Bool.eq_false_iff.mpr kept, inWord⟩
      exact ih more found fun d listed => more d (List.mem_reverse.mp listed)

/-- No word has a blank. -/
theorem not_isBlank_of_mem_words {cs word : List Char} (found : word ∈ words cs) :
    ∀ c ∈ word, isBlank c = false :=
  not_isBlank_of_mem_wordsAfter (List.forall_mem_nil _) found

theorem mem_joined {separator : List Char} {parts : List (List Char)} {c : Char}
    (found : c ∈ joined separator parts) : c ∈ separator ∨ ∃ part ∈ parts, c ∈ part := by
  induction parts with
  | nil => cases found
  | cons part rest ih =>
    by_cases last : rest = []
    · subst last
      exact .inr ⟨part, List.mem_singleton.mpr rfl, found⟩
    · rw [joined_cons _ _ last, List.append_assoc, List.mem_append, List.mem_append] at found
      obtain here | between | later := found
      · exact .inr ⟨part, List.mem_cons_self, here⟩
      · exact .inl between
      · obtain separates | ⟨other, listed, inside⟩ := ih later
        · exact .inl separates
        · exact .inr ⟨other, List.mem_cons_of_mem _ listed, inside⟩

theorem mem_joined_of_mem {separator part : List Char} {parts : List (List Char)}
    (listed : part ∈ parts) {c : Char} (inside : c ∈ part) : c ∈ joined separator parts := by
  induction parts with
  | nil => cases listed
  | cons first rest ih =>
    by_cases last : rest = []
    · subst last
      obtain rfl := List.mem_singleton.mp listed
      exact inside
    · rw [joined_cons _ _ last, List.append_assoc, List.mem_append, List.mem_append]
      obtain rfl | later := List.mem_cons.mp listed
      · exact .inl inside
      · exact .inr (.inr (ih later))

/-- The words of a text with single spaces between them. -/
def flattened (cs : List Char) : List Char := joined [' '] (words cs)

theorem unbroken_flattened (cs : List Char) : Unbroken (flattened cs) := by
  intro c found
  obtain space | ⟨word, listed, inside⟩ := mem_joined found
  · rw [List.mem_singleton.mp space]
    decide
  · have kept := not_isBlank_of_mem_words listed c inside
    refine Bool.eq_false_iff.mpr fun breaks => ?_
    rw [isBlank_of_isLineBreak breaks] at kept
    cases kept

/-! ## Texts that are cut -/

theorem oneLine_of_short {cs : List Char} (short : ((flattened cs).length : Int) ≤ lineLimit) :
    oneLine lineLimit cs = flattened cs := if_pos short

theorem oneLine_of_long {cs : List Char} (long : ¬ ((flattened cs).length : Int) ≤ lineLimit) :
    oneLine lineLimit cs = (flattened cs).take 597 ++ ['.', '.', '.'] := if_neg long

/-- A text on one line has no line break. -/
theorem unbroken_oneLine (cs : List Char) : Unbroken (oneLine lineLimit cs) := by
  by_cases short : ((flattened cs).length : Int) ≤ lineLimit
  · rw [oneLine_of_short short]
    exact unbroken_flattened cs
  · rw [oneLine_of_long short]
    exact Unbroken.append (fun c listed => unbroken_flattened cs c (List.mem_of_mem_take listed))
      (by decide)

theorem length_oneLine (cs : List Char) : (oneLine lineLimit cs).length ≤ 600 := by
  by_cases short : ((flattened cs).length : Int) ≤ lineLimit
  · rw [oneLine_of_short short]
    exact Int.ofNat_le.mp short
  · rw [oneLine_of_long short, List.length_append, List.length_take]
    exact Nat.add_le_add_right (Nat.min_le_left 597 _) 3

theorem linesAfter_of_unbroken {cs : List Char} (unbroken : Unbroken cs) (begun : List Char) :
    linesAfter begun cs =
      if (begun.reverse ++ cs).isEmpty then [] else [begun.reverse ++ cs] := by
  induction cs generalizing begun with
  | nil => simp [linesAfter]
  | cons c rest ih =>
    obtain ⟨kept, others⟩ := List.forall_mem_cons.mp unbroken
    have step : linesAfter begun (c :: rest) = linesAfter (c :: begun) rest := by
      rw [linesAfter, if_neg (Bool.eq_false_iff.mp kept)]
      rintro _ rfl
      cases kept
    rw [step, ih others]
    simp

end Text

/-! ## Lines -/

/-- A text that is one line: it is not empty and has no line break. -/
structure IsLine (s : String) : Prop where
  nonempty : s ≠ ""
  unbroken : Text.Unbroken s.toList

namespace IsLine

instance (s : String) : Decidable (IsLine s) :=
  decidable_of_iff (s ≠ "" ∧ Text.Unbroken s.toList)
    ⟨fun ⟨nonempty, unbroken⟩ => ⟨nonempty, unbroken⟩, fun ⟨nonempty, unbroken⟩ =>
      ⟨nonempty, unbroken⟩⟩

/-- The lines of a text that is one line are the text itself. -/
theorem lines_eq {s : String} (line : IsLine s) : Text.lines s.toList = [s.toList] := by
  have some : s.toList ≠ [] := fun none => line.nonempty (String.toList_eq_nil_iff.mp none)
  rw [Text.lines, Text.linesAfter_of_unbroken line.unbroken, List.reverse_nil, List.nil_append,
    if_neg (by simpa using some)]

theorem append {s t : String} (line : IsLine s) (unbroken : Text.Unbroken t.toList) :
    IsLine (s ++ t) := by
  refine ⟨fun none => line.nonempty (String.append_eq_empty_iff.mp none).1, ?_⟩
  rw [String.toList_append]
  exact line.unbroken.append unbroken

theorem ite {p : Prop} [Decidable p] {s t : String} (first : IsLine s) (second : IsLine t) :
    IsLine (if p then s else t) := by
  by_cases h : p
  · rwa [if_pos h]
  · rwa [if_neg h]

end IsLine

namespace Report

theorem toList_oneLine (s : String) :
    (oneLine s).toList = Text.oneLine Text.lineLimit s.toList := String.toList_ofList

theorem unbroken_oneLine (s : String) : Text.Unbroken (oneLine s).toList := by
  rw [toList_oneLine]
  exact Text.unbroken_oneLine s.toList

theorem length_oneLine (s : String) : (oneLine s).length ≤ 600 := by
  rw [← String.length_toList, toList_oneLine]
  exact Text.length_oneLine s.toList

/-- The words of a text with single spaces between them. -/
def flattened (s : String) : String := String.ofList (Text.flattened s.toList)

theorem oneLine_of_short {s : String} (short : (flattened s).length ≤ 600) :
    oneLine s = flattened s := by
  rw [flattened, String.length_ofList] at short
  unfold oneLine flattened
  rw [Text.oneLine_of_short (Int.ofNat_le.mpr short)]

end Report
end MachineDescriptor
