import MachineDescriptor.Proofs.Bindings
import MachineDescriptor.Proofs.LogLines

/-!
The text of the fields in a log line. Every field has a piece of its own, with its name and value
escaped and cut, and the pieces stand in the order of the whole names: neither the order in which
the fields were bound nor what cutting leaves of their names has a say in it.
-/
namespace MachineDescriptor.Log

/-! ## Pieces -/

/-- The piece of a field is a blank and its name and value with a sign of equality between them,
each on one line and of bounded length. -/
def IsPiece (field : String × Value) (piece : List Char) : Prop :=
  ∃ name value, piece = [' '] ++ name ++ ['='] ++ value ∧ IsBrief 80 field.1.toList name ∧
    IsBrief 240 field.2.plain value

/-- What is written for a field. -/
def pieceOf (field : String × Value) : List Char :=
  [' '] ++ brief maxFieldName field.1.toList ++ ['='] ++ brief maxFieldValue field.2.plain

theorem isPiece_pieceOf (field : String × Value) : IsPiece field (pieceOf field) := by
  have name : IsBrief 80 field.1.toList (brief maxFieldName field.1.toList) :=
    isBrief_brief (by decide) field.1.toList
  have value : IsBrief 240 field.2.plain (brief maxFieldValue field.2.plain) :=
    isBrief_brief (by decide) field.2.plain
  exact ⟨_, _, rfl, name, value⟩

theorem IsPiece.ne_nil {field : String × Value} {piece : List Char} (h : IsPiece field piece) :
    piece ≠ [] := by
  obtain ⟨name, value, rfl, -⟩ := h
  simp

theorem IsPiece.unbroken {field : String × Value} {piece : List Char} (h : IsPiece field piece) :
    '\n' ∉ piece ∧ '\r' ∉ piece := by
  obtain ⟨name, value, rfl, shortName, shortValue⟩ := h
  obtain ⟨feed, back⟩ := shortName.unbroken
  obtain ⟨feed', back'⟩ := shortValue.unbroken
  constructor <;> simp [*]

/-! ## The text of a context -/

theorem fieldsText_of_isWritable {c : Context} (short : c.isWritable = true) :
    fieldsText c = .ok (c.sorted.map pieceOf).flatten := by
  have made : c.sorted.mapM fieldText = .ok (c.sorted.map pieceOf) := by
    apply mapM_of_ok
    intro e listed
    have known : e ∈ c.entries := c.sorted_perm.mem_iff.mp listed
    rw [fieldText, briefValue_of_isWritable (List.all_eq_true.mp short e known)]
    rfl
  rw [fieldsText, made]
  rfl

theorem flatten_pieces_eq_nil {fields : List (String × Value)} :
    (fields.map pieceOf).flatten = [] ↔ fields = [] := by
  rw [List.flatten_eq_nil_iff]
  constructor
  · intro empty
    cases fields with
    | nil => rfl
    | cons field rest =>
      exact absurd (empty _ List.mem_cons_self) (isPiece_pieceOf field).ne_nil
  · rintro rfl
    exact List.forall_mem_nil _

theorem not_mem_flatten_pieces (fields : List (String × Value)) :
    '\n' ∉ (fields.map pieceOf).flatten ∧ '\r' ∉ (fields.map pieceOf).flatten := by
  have inside : ∀ c ∈ (fields.map pieceOf).flatten, ∃ field, c ∈ pieceOf field := by
    intro c found
    obtain ⟨piece, listed, within⟩ := List.mem_flatten.mp found
    obtain ⟨field, -, rfl⟩ := List.mem_map.mp listed
    exact ⟨field, within⟩
  constructor
  · intro found
    obtain ⟨field, within⟩ := inside _ found
    exact (isPiece_pieceOf field).unbroken.1 within
  · intro found
    obtain ⟨field, within⟩ := inside _ found
    exact (isPiece_pieceOf field).unbroken.2 within

/-- **The fields of a context are written in the order of their names.** For a context in which
every value can be written, and for none, which counts as the empty one: every order of its bindings
gives the same text. It is one line, which is empty if there is no field, and has one piece for each
field in the ascending order of the names, code point by code point. -/
theorem fieldsText_sorted {context : Option Context}
    (short : ∀ c, context = some c → c.isWritable = true) :
    ∃ text, fieldsText (context.getD .empty) = .ok text ∧
      (∀ d : Context, d.entries.Perm (context.getD .empty).entries → fieldsText d = .ok text) ∧
      ('\n' ∉ text ∧ '\r' ∉ text) ∧
      (text = [] ↔ context = none ∨ ∃ c, context = some c ∧ c.entries = []) ∧
      ∃ fields pieces, fields.Perm (context.getD .empty).entries ∧
        (fields.Pairwise fun e e' => e.1.toList < e'.1.toList) ∧
        List.Forall₂ IsPiece fields pieces ∧ text = pieces.flatten := by
  have writable : (context.getD .empty).isWritable = true := by
    cases context with
    | none => rfl
    | some c => exact short c rfl
  have written := fieldsText_of_isWritable writable
  refine ⟨_, written, ?_, not_mem_flatten_pieces _, ?_, _, _, (context.getD .empty).sorted_perm,
    ?_, ?_, rfl⟩
  · intro d perm
    have sorted : d.sorted = (context.getD .empty).sorted :=
      Context.sorted_of_find? (Context.find?_of_perm perm)
    rw [fieldsText, sorted]
    exact written
  · have nothing : (context.getD .empty).sorted = [] ↔ (context.getD .empty).entries = [] := by
      rw [← List.length_eq_zero_iff, ← List.length_eq_zero_iff,
        (context.getD .empty).sorted_perm.length_eq]
    rw [flatten_pieces_eq_nil, nothing]
    cases context with
    | none => exact iff_of_true rfl (.inl rfl)
    | some c => simp
  · apply (context.getD .empty).sorted_lt.imp
    intro e e' low
    exact String.lt_iff.mp low
  · rw [List.forall₂_map_right_iff, List.forall₂_same]
    intro field _
    exact isPiece_pieceOf field

/-- A context whose names were bound in their order. -/
def forwards : Context := .ofList [("cpu", .null), ("disk", .text "a\nb")]

/-- The same context with its names bound against their order. -/
def backwards : Context := .ofList [("disk", .text "a\nb"), ("cpu", .null)]

theorem fieldsText_backwards :
    (∀ c, some backwards = some c → c.isWritable = true) ∧
    fieldsText backwards = .ok " cpu=None disk=a\\nb".toList ∧
    fieldsText forwards = .ok " cpu=None disk=a\\nb".toList := by
  have short : ∀ c, some backwards = some c → c.isWritable = true := by
    rintro _ ⟨⟩
    decide
  obtain ⟨text, written, orders, -⟩ := fieldsText_sorted short
  have same : fieldsText forwards = .ok text := orders forwards (List.Perm.swap _ _ _)
  have sorted : forwards.sorted = forwards.entries := by
    apply List.mergeSort_of_pairwise
    decide
  have pieces : (forwards.entries.map pieceOf).flatten = " cpu=None disk=a\\nb".toList := by decide
  have writable : forwards.isWritable = true := by decide
  have known := fieldsText_of_isWritable writable
  rw [sorted, pieces] at known
  rw [same] at known
  obtain rfl := Except.ok.inj known
  exact ⟨short, written, same⟩

end MachineDescriptor.Log
