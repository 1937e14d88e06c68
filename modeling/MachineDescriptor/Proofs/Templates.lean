import MachineDescriptor.Log.Record

/-!
Templates of the simple kind. A template that is made of plain runs, places for texts and places
for integers is filled piece by piece, whatever the texts and the integers are.
-/
namespace MachineDescriptor.Template

/-- A piece of a simple template, together with the value that goes into it. -/
inductive Piece where
  | plain (run : String)
  | text (s : String)
  | number (n : Int)

namespace Piece

/-- What a template holds for a piece. -/
def source : Piece → List Char
  | plain run => run.toList
  | text _ => ['%', 's']
  | number _ => ['%', 'd']

/-- The value that is given for a piece. -/
def values : Piece → List Value
  | plain _ => []
  | text s => [.text s]
  | number n => [.int n]

/-- What stands in the message for a piece. -/
def shown : Piece → List Char
  | plain run => run.toList
  | text s => s.toList
  | number n => Integer.text n

/-- A run has no percent sign, and an integer is not too long to be written. -/
def Fits : Piece → Prop
  | plain run => '%' ∉ run.toList
  | text _ => True
  | number n => Integer.isWritable n = true

end Piece

/-! ## One piece -/

theorem fillFrom_run (length fuel : Nat) (s : Supply) {run : List Char} (plain : '%' ∉ run)
    (rest : List Char) :
    fillFrom length (run.length + fuel) s (run ++ rest) =
      (fillFrom length fuel s rest).map (run ++ ·) := by
  induction run with
  | nil =>
    rw [List.length_nil, Nat.zero_add, List.nil_append]
    cases fillFrom length fuel s rest <;> rfl
  | cons c cs ih =>
    have other : c ≠ '%' := fun same => plain (same ▸ List.mem_cons_self)
    have others : '%' ∉ cs := fun later => plain (List.mem_cons_of_mem c later)
    rw [List.length_cons, Nat.succ_add, List.cons_append, fillFrom, if_neg other, ih others]
    cases fillFrom length fuel s rest <;> rfl

/-- A place with a letter only takes the next value. -/
theorem place_letter (length : Nat) {letter : Char} (simple : letter = 's' ∨ letter = 'd')
    (v : Value) (values : List Value) (rest : List Char) :
    place length ⟨v :: values, none⟩ (letter :: rest) =
      (fill .plain letter (length - rest.length - 1) v).bind
        fun text => .ok (text, ⟨values, none⟩, rest) := by
  rcases simple with rfl | rfl <;> rfl

theorem filled_plain (cs : List Char) : filled .plain cs = cs := by
  rw [filled, Place.plain, Nat.zero_sub]
  rfl

theorem fill_plain (letter : Char) (position : Nat) (v : Value) :
    fill .plain letter position v = written .plain letter position v :=
  if_neg (by decide)

theorem written_text (position : Nat) (t : String) :
    written .plain 's' position (.text t) = .ok t.toList := by
  have own : (Value.text t).written = .ok t.toList := rfl
  rw [written, if_pos rfl, own]
  exact congrArg Except.ok (filled_plain t.toList)

theorem written_int (position : Nat) {n : Int} (short : Integer.isWritable n = true) :
    written .plain 'd' position (.int n) = .ok (Integer.text n) := by
  have digits : precise .plain (Nat.toDigits 10 n.natAbs) = Nat.toDigits 10 n.natAbs := by
    rw [precise, Place.plain, Option.getD_none, Nat.zero_sub]
    rfl
  have number : filledNumber .plain (n < 0) [] (Nat.toDigits 10 n.natAbs) = Integer.text n := by
    rw [filledNumber, if_neg (by decide), filled_plain, List.append_nil]
    simp only [signOf, Place.plain, Integer.text, decide_eq_true_eq, Bool.false_eq_true, if_false]
  have room : ¬maxDigits < Place.plain.precision.getD 0 := by decide
  rw [written, if_neg (by decide), if_neg (by decide), if_neg (by decide), if_pos (.inl rfl)]
  simp only [decimal, Value.number?, Value.toInteger, room, if_false, short, if_true, digits,
    number]

theorem fillFrom_place (length fuel : Nat) {letter : Char} (simple : letter = 's' ∨ letter = 'd')
    {v : Value} {cs : List Char} (told : ∀ position, written .plain letter position v = .ok cs)
    (values : List Value) (rest : List Char) :
    fillFrom length (fuel + 1) ⟨v :: values, none⟩ ('%' :: letter :: rest) =
      (fillFrom length fuel ⟨values, none⟩ rest).map (cs ++ ·) := by
  rw [fillFrom, if_pos rfl, place_letter length simple, fill_plain, told]
  change (fillFrom length fuel ⟨values, none⟩ rest).bind (fun text => .ok (cs ++ text)) = _
  cases fillFrom length fuel ⟨values, none⟩ rest <;> rfl

/-! ## All pieces -/

theorem fillFrom_pieces (length : Nat) (pieces : List Piece) (fits : ∀ p ∈ pieces, p.Fits)
    {fuel : Nat} (enough : (pieces.flatMap Piece.source).length < fuel) :
    fillFrom length fuel ⟨pieces.flatMap Piece.values, none⟩ (pieces.flatMap Piece.source) =
      .ok (pieces.flatMap Piece.shown) := by
  induction pieces generalizing fuel with
  | nil =>
    obtain ⟨fuel, rfl⟩ := Nat.exists_eq_succ_of_ne_zero (Nat.ne_zero_of_lt enough)
    rfl
  | cons p rest ih =>
    obtain ⟨first, others⟩ := List.forall_mem_cons.mp fits
    rw [List.flatMap_cons, List.length_append] at enough
    rw [List.flatMap_cons, List.flatMap_cons, List.flatMap_cons]
    cases p with
    | plain run =>
      obtain ⟨more, rfl⟩ := Nat.exists_eq_add_of_le
        (Nat.le_trans (Nat.le_add_right _ _) (Nat.le_of_lt enough))
      refine (fillFrom_run length more _ first _).trans ?_
      rw [Piece.values, List.nil_append, ih others (Nat.lt_of_add_lt_add_left enough)]
      rfl
    | text t =>
      obtain ⟨more, rfl⟩ := Nat.exists_eq_succ_of_ne_zero (Nat.ne_zero_of_lt enough)
      have left : (rest.flatMap Piece.source).length < more := by
        simp only [Piece.source, List.length_cons] at enough
        omega
      refine (fillFrom_place length more (.inl rfl) (written_text · t) _ _).trans ?_
      exact congrArg (Except.map (t.toList ++ ·)) (ih others left)
    | number n =>
      obtain ⟨more, rfl⟩ := Nat.exists_eq_succ_of_ne_zero (Nat.ne_zero_of_lt enough)
      have left : (rest.flatMap Piece.source).length < more := by
        simp only [Piece.source, List.length_cons] at enough
        omega
      refine (fillFrom_place length more (.inr rfl) (written_int · first) _ _).trans ?_
      exact congrArg (Except.map (Integer.text n ++ ·)) (ih others left)

/-- **A simple template is filled piece by piece.** -/
theorem fillAll_pieces (pieces : List Piece) (fits : ∀ p ∈ pieces, p.Fits) :
    fillAll (pieces.flatMap Piece.source) (pieces.flatMap Piece.values) =
      .ok (pieces.flatMap Piece.shown) := by
  have filled := fillFrom_pieces (pieces.flatMap Piece.source).length pieces fits
    (Nat.lt_succ_self _)
  have single : ∀ v ∈ pieces.flatMap Piece.values, ∀ entries, v ≠ .dict entries := by
    intro v listed entries
    obtain ⟨p, -, value⟩ := List.mem_flatMap.mp listed
    cases p with
    | plain _ => exact absurd value List.not_mem_nil
    | text _ => exact List.mem_singleton.mp value ▸ nofun
    | number _ => exact List.mem_singleton.mp value ▸ nofun
  unfold fillAll
  split
  · next values => exact absurd rfl (single _ (values ▸ List.mem_singleton_self _) _)
  · exact filled

end MachineDescriptor.Template

namespace MachineDescriptor.Log.Record

open Template (Piece)

/-- The message of a record with a simple template and values in it. -/
theorem message_of_pieces {r : Record} {template : String} (pieces : List Piece)
    (made : r.template = .text template) (source : template.toList = pieces.flatMap Piece.source)
    (given : r.arguments = pieces.flatMap Piece.values) (some : r.arguments.isEmpty = false)
    (fits : ∀ p ∈ pieces, p.Fits) : r.message = .ok (pieces.flatMap Piece.shown) := by
  have own : (Value.text template).written = .ok template.toList := rfl
  rw [message, made, own]
  dsimp only
  rw [some, source, given, Template.fillAll_pieces pieces fits]
  rfl

end MachineDescriptor.Log.Record
