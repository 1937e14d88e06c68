import MachineDescriptor.Json.Printer
import MachineDescriptor.Proofs.JsonTexts

/-!
What is printed for a value is a text of it: the one with the fewest escapes, and with a space after
each comma and colon and no other white space. It stands on one line.
-/
namespace MachineDescriptor.Json

/-- The characters that are printed with a letter after a backslash. -/
def printedShort : List Char := ['"', '\\', '\n', '\r', '\t', '\x0c', '\x08']

theorem charText_escapedChar (c : Char) : CharText c (escapedChar c) := by
  by_cases known : c ∈ printedShort
  · have all : (printedShort.all fun c =>
        shortEscapes.any fun e => e.2 == c && escapedChar c == ['\\', e.1]) = true := by decide
    obtain ⟨⟨letter, d⟩, listed, both⟩ := List.any_eq_true.mp (List.all_eq_true.mp all c known)
    obtain ⟨same, escaped⟩ := (Bool.and_eq_true _ _).mp both
    obtain rfl := eq_of_beq same
    rw [eq_of_beq escaped]
    exact .short listed
  · simp only [printedShort, List.mem_cons, List.not_mem_nil, or_false, not_or] at known
    simp only [escapedChar, known, if_false]
    split
    · next control =>
      have all : ∀ n < 0x20, Text.hexNumber? (Text.hex 4 n) = some n := by decide
      exact .unit ⟨Text.length_hex 4 c.toNat, all _ control⟩
    · next visible => exact .itself (by omega) known.1 known.2.1

theorem stringText_escaped (cs : List Char) : StringText cs (cs.flatMap escapedChar) := by
  induction cs with
  | nil => exact .nil
  | cons c rest ih => exact .cons (charText_escapedChar c) ih

mutual

/-- A value that has a text: no part of it is a fraction or of a kind that the format does not know,
and no two members of a mapping have one name. -/
def IsTree : Value → Prop
  | .null | .bool _ | .int _ | .text _ => True
  | .list vs => AreTrees vs
  | .dict es => AreMembers es
  | _ => False

def AreTrees : List Value → Prop
  | [] => True
  | v :: rest => IsTree v ∧ AreTrees rest

def AreMembers : List (Value × Value) → Prop
  | [] => True
  | (k, v) :: rest => (∃ name, k = .text name) ∧ (∀ e ∈ rest, e.1 ≠ k) ∧ IsTree v ∧ AreMembers rest

end

theorem isSpaces_nil : IsSpaces [] := List.forall_mem_nil _

theorem isSpaces_one : IsSpaces [' '] := .cons (by decide) isSpaces_nil

theorem memberText_print (name : String) {v : Value} {t : List Char} (text : ValueText v t) :
    MemberText (.text name, v) (quoted name.toList ++ [':', ' '] ++ t) := by
  have member := MemberText.mk (stringText_escaped name.toList) isSpaces_nil isSpaces_one text
  simp only [quoted, List.cons_append, List.append_assoc]
  exact member

mutual

/-- **What is printed for a value is a text of it.** -/
theorem valueText_print (v : Value) (tree : IsTree v) : ValueText v (print v) := by
  match v with
  | .null => exact .null
  | .bool b => exact .bool b
  | .int n => exact .int n
  | .text s => exact .text (stringText_escaped s.toList)
  | .list vs =>
    obtain rfl | elements := elementsText_print vs tree
    · exact .noElements isSpaces_nil
    · exact .list isSpaces_nil elements isSpaces_nil
  | .dict es =>
    obtain rfl | members := membersText_print es tree
    · exact .noMembers isSpaces_nil
    · exact .dict isSpaces_nil members isSpaces_nil
  | .float _ | .bytes _ | .basis _ | .date _ | .moment _ | .tuple _ | .set _ | .woven _ _
  | .inner _ => cases tree

theorem elementsText_print (vs : List Value) (trees : AreTrees vs) :
    vs = [] ∨ ElementsText vs (Text.joined [',', ' '] (printAll vs)) := by
  match vs with
  | [] => exact .inl rfl
  | v :: rest =>
    refine .inr ?_
    obtain ⟨tree, others⟩ := trees
    have value := valueText_print v tree
    obtain rfl | elements := elementsText_print rest others
    · exact .one value
    · have text := ElementsText.cons value isSpaces_nil isSpaces_one elements
      match rest, elements with
      | w :: more, _ =>
        change ElementsText _ (print v ++ [',', ' '] ++ Text.joined [',', ' '] (printAll (w :: more)))
        rw [List.append_assoc]
        exact text

theorem membersText_print (es : List (Value × Value)) (members : AreMembers es) :
    es = [] ∨ MembersText es (Text.joined [',', ' '] (printMembers es)) := by
  match es with
  | [] => exact .inl rfl
  | (k, v) :: rest =>
    refine .inr ?_
    obtain ⟨⟨name, rfl⟩, fresh, tree, others⟩ := members
    have member := memberText_print name (valueText_print v tree)
    obtain rfl | more := membersText_print rest others
    · exact .one member
    · have text := MembersText.cons member fresh isSpaces_nil isSpaces_one more
      match rest, more with
      | f :: tail, _ =>
        change MembersText _ (quoted name.toList ++ [':', ' '] ++ print v ++ [',', ' '] ++
          Text.joined [',', ' '] (printMembers (f :: tail)))
        rw [List.append_assoc _ [',', ' ']]
        exact text

end

/-! ## One line -/

/-- A text without control characters, and so without any line feed or carriage return. -/
def IsVisible (cs : List Char) : Prop := ∀ c ∈ cs, 0x20 ≤ c.toNat

instance (cs : List Char) : Decidable (IsVisible cs) := List.decidableBAll _ cs

theorem IsVisible.append {cs ds : List Char} (first : IsVisible cs) (second : IsVisible ds) :
    IsVisible (cs ++ ds) :=
  List.forall_mem_append.mpr ⟨first, second⟩

theorem isVisible_hexDigit {n : Nat} (digit : n < 16) : 0x20 ≤ (Text.hexDigit n).toNat := by
  have all : ∀ n < 16, 0x20 ≤ (Text.hexDigit n).toNat := by decide
  exact all n digit

theorem isVisible_hex (width n : Nat) : IsVisible (Text.hex width n) := by
  induction width generalizing n with
  | zero => exact List.forall_mem_nil _
  | succ width ih =>
    exact (ih (n / 16)).append
      (List.forall_mem_singleton.mpr (isVisible_hexDigit (Nat.mod_lt n (by omega))))

theorem isVisible_escapedChar (c : Char) : IsVisible (escapedChar c) := by
  by_cases known : c ∈ printedShort
  · have all : (printedShort.all fun c => decide (IsVisible (escapedChar c))) = true := by decide
    exact of_decide_eq_true (List.all_eq_true.mp all c known)
  · simp only [printedShort, List.mem_cons, List.not_mem_nil, or_false, not_or] at known
    simp only [escapedChar, known, if_false]
    split
    · exact IsVisible.append (by decide) (isVisible_hex 4 c.toNat)
    · next visible => exact List.forall_mem_singleton.mpr (by omega)

theorem isVisible_quoted (cs : List Char) : IsVisible (quoted cs) := by
  have mark : 0x20 ≤ '"'.toNat := by decide
  refine IsVisible.append (List.forall_mem_cons.mpr ⟨mark, ?_⟩) (List.forall_mem_singleton.mpr mark)
  intro d listed
  obtain ⟨c, -, escaped⟩ := List.mem_flatMap.mp listed
  exact isVisible_escapedChar c d escaped

theorem isVisible_text (n : Int) : IsVisible (Integer.text n) := by
  refine IsVisible.append ?_ fun c listed => ?_
  · split
    · exact List.forall_mem_singleton.mpr (by decide)
    · exact List.forall_mem_nil _
  · have digit := Nat.isDigit_of_mem_toDigits (by omega) (by omega) listed
    simp only [Char.isDigit, Bool.and_eq_true, decide_eq_true_eq, ge_iff_le] at digit
    have := digit.1
    rw [UInt32.le_iff_toNat_le] at this
    exact Nat.le_trans (by decide) this

theorem isVisible_joined {separator : List Char} (between : IsVisible separator)
    {parts : List (List Char)} (all : ∀ cs ∈ parts, IsVisible cs) :
    IsVisible (Text.joined separator parts) := by
  fun_induction Text.joined separator parts with
  | case1 => exact List.forall_mem_nil _
  | case2 cs => exact all cs List.mem_cons_self
  | case3 cs rest more ih =>
    obtain ⟨first, others⟩ := List.forall_mem_cons.mp all
    exact (first.append between).append (ih others)

theorem isVisible_separator : IsVisible [',', ' '] := by decide

mutual

/-- **What is printed for a value stands on one line.** -/
theorem isVisible_print (v : Value) (tree : IsTree v) : IsVisible (print v) := by
  match v with
  | .null => decide
  | .bool true => decide
  | .bool false => decide
  | .int n => exact isVisible_text n
  | .text s => exact isVisible_quoted s.toList
  | .list vs =>
    have inside := isVisible_joined isVisible_separator (isVisible_printAll vs tree)
    exact (IsVisible.append (by decide) inside).append (by decide)
  | .dict es =>
    have inside := isVisible_joined isVisible_separator (isVisible_printMembers es tree)
    exact (IsVisible.append (by decide) inside).append (by decide)
  | .float _ | .bytes _ | .basis _ | .date _ | .moment _ | .tuple _ | .set _ | .woven _ _
  | .inner _ => cases tree

theorem isVisible_printAll (vs : List Value) (trees : AreTrees vs) :
    ∀ cs ∈ printAll vs, IsVisible cs := by
  match vs with
  | [] => exact List.forall_mem_nil _
  | v :: rest =>
    obtain ⟨tree, others⟩ := trees
    exact List.forall_mem_cons.mpr ⟨isVisible_print v tree, isVisible_printAll rest others⟩

theorem isVisible_printMembers (es : List (Value × Value)) (members : AreMembers es) :
    ∀ cs ∈ printMembers es, IsVisible cs := by
  match es with
  | [] => exact List.forall_mem_nil _
  | (k, v) :: rest =>
    obtain ⟨-, -, tree, others⟩ := members
    have mark : IsVisible [':', ' '] := by decide
    exact List.forall_mem_cons.mpr
      ⟨((isVisible_quoted (memberName k)).append mark).append (isVisible_print v tree),
        isVisible_printMembers rest others⟩

end

end MachineDescriptor.Json
