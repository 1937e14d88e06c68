/-!
Splitting a text at a character, and joining texts with a separator. No part holds the character
that the text was split at, and the parts joined again by it are the text.
-/
namespace MachineDescriptor.Text

/-- The parts of a text between the occurrences of a character, after the part begun so far, whose
last character comes first. -/
def splitAfter (separator : Char) (begun : List Char) : List Char → List (List Char)
  | [] => [begun.reverse]
  | c :: rest =>
    if c = separator then begun.reverse :: splitAfter separator [] rest
    else splitAfter separator (c :: begun) rest

/-- The parts of a text between the occurrences of a character. -/
def split (separator : Char) (cs : List Char) : List (List Char) := splitAfter separator [] cs

/-- The texts one after the other with a separator between neighbours. -/
def joined (separator : List Char) : List (List Char) → List Char
  | [] => []
  | [cs] => cs
  | cs :: rest => cs ++ separator ++ joined separator rest

theorem joined_cons (separator cs : List Char) {rest : List (List Char)} (h : rest ≠ []) :
    joined separator (cs :: rest) = cs ++ separator ++ joined separator rest := by
  cases rest with
  | nil => exact absurd rfl h
  | cons => rfl

theorem splitAfter_of_not_mem {separator : Char} {cs : List Char} (fresh : separator ∉ cs)
    (begun : List Char) : splitAfter separator begun cs = [begun.reverse ++ cs] := by
  induction cs generalizing begun with
  | nil => simp [splitAfter]
  | cons c rest ih =>
    rw [List.mem_cons, not_or] at fresh
    obtain ⟨other, later⟩ := fresh
    rw [splitAfter, if_neg (Ne.symm other), ih later]
    simp

theorem splitAfter_append {separator : Char} {cs : List Char} (fresh : separator ∉ cs)
    (begun rest : List Char) :
    splitAfter separator begun (cs ++ separator :: rest) =
      (begun.reverse ++ cs) :: split separator rest := by
  induction cs generalizing begun with
  | nil => simp [splitAfter, split]
  | cons c others ih =>
    rw [List.mem_cons, not_or] at fresh
    obtain ⟨other, later⟩ := fresh
    rw [List.cons_append, splitAfter, if_neg (Ne.symm other), ih later]
    simp

/-- Parts without the separator are found again. -/
theorem split_joined {separator : Char} {parts : List (List Char)} (some : parts ≠ [])
    (fresh : ∀ part ∈ parts, separator ∉ part) :
    split separator (joined [separator] parts) = parts := by
  induction parts with
  | nil => exact absurd rfl some
  | cons part rest ih =>
    obtain ⟨first, others⟩ := List.forall_mem_cons.mp fresh
    by_cases last : rest = []
    · subst last
      exact splitAfter_of_not_mem first []
    · rw [joined_cons _ _ last, List.append_assoc, List.singleton_append, split,
        splitAfter_append first, ih last others]
      rfl

theorem joined_eq_intercalate (separator : List Char) (parts : List (List Char)) :
    joined separator parts = separator.intercalate parts := by
  induction parts with
  | nil => rfl
  | cons part rest ih =>
    cases rest with
    | nil => rw [List.intercalate_singleton]; rfl
    | cons next rest =>
      rw [List.intercalate_cons_cons, ← ih]
      rfl

example : split ':' ['1', ':', ':', '2'] = [['1'], [], ['2']] := by decide

end MachineDescriptor.Text
