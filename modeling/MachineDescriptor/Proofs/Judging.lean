import MachineDescriptor.Proofs.WholeElements
import MachineDescriptor.Proofs.Words

/-!
Which names a writer accepts. Where an element may be opened or an attribute may be given, a call is
blamed for its name exactly if that is not a word with at most one line feed after it; and on a
stream that takes everything it succeeds with every other name, which stands in the text that it
puts.
-/
namespace MachineDescriptor.Xml

open Document.Outline (plainText)

variable {σ : Type}

/-- Where an element may be opened: in a document that has no root element yet, or in an element
without text. -/
structure Writer.AllowsElement (w : Writer σ) : Prop where
  started : w.started = true
  ended : w.ended = false
  single : w.stack = [] → w.hasRoot = false
  textless : ∀ e ∈ w.stack.head?, e.hasText = false

/-- Where an attribute may be given: the start tag of the innermost element is still open. -/
structure Writer.AllowsAttribute (w : Writer σ) : Prop where
  started : w.started = true
  ended : w.ended = false
  tagOpen : ∃ e ∈ w.stack.head?, e.tagOpen = true

/-- What comes of a call for the name that it is given: the report if the name is wrong, else the
text that is put to the stream and the names of the elements that are open then. -/
structure Judgement where
  blame : Failure
  put : String
  inside : List String

/-- What comes of opening an element. -/
def Writer.onElement (w : Writer σ) (name : String) : Judgement where
  blame := w.failure .startElement
    ("invalid element name " ++ String.ofList (Text.quoted name.toList)) none
  put := w.pending ++ (w.margin w.depth ++ "<" ++ name)
  inside := name :: w.names

/-- What comes of giving an attribute. -/
def Writer.onAttribute (w : Writer σ) (name : String) (value : Value) : Judgement where
  blame := w.failure .setAttribute
    ("invalid attribute name " ++ String.ofList (Text.quoted name.toList)) none
  put := " " ++ name ++ "=\"" ++ Node.escaped (plainText value) ++ "\""
  inside := w.names

/-- How a call judges the name that it is given. A name that is not accepted is blamed, and nothing
is changed; any other is never blamed, and where the stream takes everything the call succeeds,
unless there is a value that cannot be written. -/
structure Judges [Stream σ] (call : Action σ Unit) (writable : Bool) (comes : Judgement)
    (accepted : Prop) (w : Writer σ) : Prop where
  blamed : call w = .error comes.blame w ↔ ¬accepted
  made : ∀ (holds : σ → String → Prop) t, Faithful holds → holds w.stream t → writable = true →
    ((∃ v, call w = .ok () v ∧ holds v.stream (t ++ comes.put) ∧ v.names = comes.inside) ↔
      accepted)

variable {w : Writer σ}

theorem Writer.AllowsElement.refusal (allows : w.AllowsElement) (name : String) :
    (Stroke.startElement name).refusal? w = objectIf (!isName name.toList)
      ("invalid element name " ++ String.ofList (Text.quoted name.toList)) := by
  have within : w.outside? = none := Writer.outside?_eq_none.mpr ⟨allows.started, allows.ended⟩
  have single : (w.stack.isEmpty && w.hasRoot) = false := by
    cases stack : w.stack with
    | nil => exact allows.single stack
    | cons top rest => rfl
  have room : w.mixed? Open.hasText = none := by
    cases stack : w.stack with
    | nil => simp [Writer.mixed?, stack]
    | cons top rest =>
      have textless := allows.textless top (by simp [stack])
      simp [Writer.mixed?, stack, textless]
  simp [Stroke.refusal?, within, single, room, objectIf]

theorem Writer.AllowsAttribute.isTagOpen (allows : w.AllowsAttribute) : w.isTagOpen = true := by
  obtain ⟨e, innermost, tagOpen⟩ := allows.tagOpen
  cases stack : w.stack with
  | nil =>
    rw [stack] at innermost
    cases innermost
  | cons top rest =>
    rw [stack] at innermost
    cases innermost
    simp [Writer.isTagOpen, stack, tagOpen]

theorem Writer.AllowsAttribute.refusal (allows : w.AllowsAttribute) (name : String)
    (value : Value) :
    (Stroke.setAttribute name value).refusal? w = objectIf (!isName name.toList)
      ("invalid attribute name " ++ String.ofList (Text.quoted name.toList)) := by
  have within : w.outside? = none := Writer.outside?_eq_none.mpr ⟨allows.started, allows.ended⟩
  simp [Stroke.refusal?, within, allows.isTagOpen, objectIf]

variable [Stream σ] {op : Operation}

theorem not_isRejection_failure (v : Writer σ) (reason : String) :
    ¬IsRejection (w.failure op reason none) v := by
  rintro ⟨op', g, -, same⟩
  unfold Writer.rejection at same
  split at same
  · have causes : none = some g.asCause := congrArg Report.cause (Failure.report.inj same)
    cases causes
  · cases same

/-- A call whose other checks are passed judges names as its last check does. -/
theorem Judges.of_settles {call : Action σ Unit} {writable proper : Bool} {reason put : String}
    {inside : List String} {accepted : Prop} {stays : Writer σ → Prop}
    (check : proper = true ↔ accepted)
    (settles : Settles op w (objectIf (!proper) reason) stays writable (call w))
    (made : proper = true → ∀ (holds : σ → String → Prop) t, Faithful holds →
      holds w.stream t → writable = true →
      ∃ v, call w = .ok () v ∧ holds v.stream (t ++ put) ∧ v.names = inside) :
    Judges call writable ⟨w.failure op reason none, put, inside⟩ accepted w := by
  cases proper with
  | false =>
    have failed : call w = .error (w.failure op reason none) w := settles
    have wrong : ¬accepted := by
      intro right
      cases check.mpr right
    constructor
    · exact iff_of_true failed wrong
    · intro holds t _ _ _
      apply iff_of_false _ wrong
      rintro ⟨v, done, -⟩
      rw [failed] at done
      cases done
  | true =>
    have right := check.mp rfl
    have fares : Fares (fun _ => True) stays writable (call w) := settles
    constructor
    · apply iff_of_false
      · intro failed
        rw [failed] at fares
        rcases fares.2 with rejected | ⟨-, long⟩
        · exact not_isRejection_failure w reason rejected
        · cases long
      · exact not_not_intro right
    · intro holds t faithful held writable
      exact iff_of_true (made rfl holds t faithful held writable) right

theorem startElement_judges (allows : w.AllowsElement) (name : String) :
    Judges (startElement name) true (w.onElement name) (IsWordLine name) w := by
  have settles : Settles .startElement w _ _ true (startElement name w) :=
    startElement_settles w name
  rw [allows.refusal] at settles
  apply Judges.of_settles (isName_iff name) settles
  intro proper holds t faithful held _
  have clear : (Stroke.startElement name).refusal? w = none := by
    rw [allows.refusal, proper]
    rfl
  obtain ⟨stream, opened, held'⟩ := startElement_puts faithful clear held
  refine ⟨_, opened, ?_, ?_⟩
  · rwa [← String.append_assoc]
  · exact congrArg (name :: ·) w.names_parents

theorem setAttribute_puts {holds : σ → String → Prop} {t : String} (faithful : Faithful holds)
    {name : String} {value : Value}
    (clear : (Stroke.setAttribute name value).refusal? w = none) (held : holds w.stream t)
    (writable : value.isWritable = true) :
    ∃ stream, setAttribute name value w = .ok () { w with stream } ∧
      holds stream (t ++ (" " ++ name ++ "=\"" ++ Node.escaped (plainText value) ++ "\"")) := by
  simp only [Stroke.refusal?, Option.or_eq_none_iff, Writer.outside?_eq_none, objectIf_eq_none]
    at clear
  obtain ⟨⟨started, ended⟩, within, proper⟩ := clear
  obtain ⟨stream, put, held'⟩ := emit_of_holds faithful held .setAttribute
    (" " ++ name ++ "=\"" ++ Node.escaped (plainText value) ++ "\"")
  refine ⟨stream, ?_, held'⟩
  unfold setAttribute
  rw [bind_of_ok (requireDocument_of_started started ended _), get_bind]
  cases stack : w.stack with
  | nil => simp [Writer.isTagOpen, stack] at within
  | cons top rest =>
    simp only [Writer.isTagOpen, stack] at within
    simp only [within, proper, Bool.false_eq_true, if_false]
    rw [bind_of_ok (escaped_of_written (written_of_isWritable writable) w), ← stack]
    exact put

theorem setAttribute_judges (allows : w.AllowsAttribute) (name : String) (value : Value) :
    Judges (setAttribute name value) value.isWritable (w.onAttribute name value) (IsWordLine name)
      w := by
  have settles := setAttribute_settles w name value
  rw [allows.refusal] at settles
  apply Judges.of_settles (isName_iff name) settles
  intro proper holds t faithful held writable
  have clear : (Stroke.setAttribute name value).refusal? w = none := by
    rw [allows.refusal, proper]
    rfl
  obtain ⟨stream, put, held'⟩ := setAttribute_puts faithful clear held writable
  exact ⟨_, put, held', rfl⟩

end MachineDescriptor.Xml
