import MachineDescriptor.Xml.Name

/-!
Texts of comments. Two hyphens side by side are the only thing that keeps a text out of a comment
once it ends in a blank.
-/
namespace MachineDescriptor.Xml

theorem hasDoubleHyphen_cons (c : Char) (cs : List Char) :
    hasDoubleHyphen (c :: cs) = ((c == '-' && cs.head? == some '-') || hasDoubleHyphen cs) := by
  by_cases first : c = '-'
  · subst first
    cases cs with
    | nil => rfl
    | cons d rest =>
      by_cases second : d = '-'
      · subst second
        rfl
      · simp [hasDoubleHyphen, second]
  · simp [hasDoubleHyphen, first]

/-- A text has two hyphens side by side when these are somewhere in it. -/
theorem hasDoubleHyphen_iff (cs : List Char) :
    hasDoubleHyphen cs = true ↔ ['-', '-'] <:+: cs := by
  induction cs with
  | nil => simp [hasDoubleHyphen]
  | cons c rest ih =>
    rw [hasDoubleHyphen_cons, Bool.or_eq_true, ih, List.infix_cons_iff]
    apply or_congr_left
    cases rest with
    | nil => simp
    | cons d rest =>
      simp only [List.cons_prefix_cons, List.head?_cons, List.nil_prefix, and_true,
        Bool.and_eq_true, beq_iff_eq, Option.some.injEq]
      exact and_congr eq_comm eq_comm

theorem hasDoubleHyphen_append_cons {c : Char} (other : c ≠ '-') (as bs : List Char) :
    hasDoubleHyphen (as ++ c :: bs) = (hasDoubleHyphen as || hasDoubleHyphen bs) := by
  induction as with
  | nil => simp [hasDoubleHyphen_cons, hasDoubleHyphen, other]
  | cons a rest ih =>
    rw [List.cons_append, hasDoubleHyphen_cons, hasDoubleHyphen_cons, ih, Bool.or_assoc]
    cases rest <;> simp [other]

end MachineDescriptor.Xml
