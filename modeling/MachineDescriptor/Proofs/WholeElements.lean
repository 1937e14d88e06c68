import MachineDescriptor.Proofs.Refusals

/-!
Elements with text only. Where no stream is in the way, such an element is written as a whole at the
place of the writer, after the end of the start tag around it if that is still open, or it is
refused and nothing is changed.
-/
namespace MachineDescriptor.Xml

open Document.Outline (plainText)

variable {σ : Type}

/-! ## Operations on a stream that never fails -/

namespace Writer

/-- What is still to be put on paper of the innermost start tag before a child. -/
def pending (w : Writer σ) : String := if w.isTagOpen then ">\n" else ""

/-- The open elements where the innermost one has a child. -/
def parents (w : Writer σ) : List Open :=
  match w.stack with
  | [] => []
  | top :: rest => { top with tagOpen := false, hasChildren := true } :: rest

theorem names_parents (w : Writer σ) : w.parents.map Open.name = w.names := by
  cases stack : w.stack <;> simp [parents, names, stack]

theorem length_parents (w : Writer σ) : w.parents.length = w.depth := by
  cases stack : w.stack <;> simp [parents, depth, stack]

end Writer

section

variable [Stream σ] {holds : σ → String → Prop} {w : Writer σ} {t : String}

omit [Stream σ] in
theorem Stroke.within_of_clear {name : String}
    (clear : (Stroke.startElement name).refusal? w = none) : w.started = true ∧ w.ended = false :=
  Writer.outside?_eq_none.mp (Option.or_eq_none_iff.mp clear).1

theorem beginChild_puts (faithful : Faithful holds) (op : Operation)
    (room : w.mixed? Open.hasText = none) (held : holds w.stream t) :
    ∃ stream, beginChild op w = .ok () { w with stream, stack := w.parents } ∧
      holds stream (t ++ w.pending) := by
  obtain ⟨stream, indent, path, stack, started, ended, hasRoot⟩ := w
  cases stack with
  | nil => exact ⟨stream, rfl, by simpa [Writer.pending, Writer.isTagOpen] using held⟩
  | cons top rest =>
    have untaken : top.hasText = false := objectIf_eq_none.mp room
    simp only [beginChild, get_bind, untaken, Bool.false_eq_true, if_false]
    cases tagOpen : top.tagOpen with
    | true =>
      obtain ⟨stream', tagEnded, held'⟩ := closeStartTag_of_open faithful op ">\n" rfl tagOpen held
      refine ⟨stream', ?_, by simpa [Writer.pending, Writer.isTagOpen, tagOpen] using held'⟩
      rw [bind_of_ok tagEnded]
      rfl
    | false =>
      refine ⟨stream, ?_, by simpa [Writer.pending, Writer.isTagOpen, tagOpen] using held⟩
      rw [bind_of_ok (closeStartTag_of_closed op ">\n" rfl tagOpen)]
      simp [modifyTop, modify_apply, Writer.parents, tagOpen]

theorem startElement_puts (faithful : Faithful holds) {name : String}
    (clear : (Stroke.startElement name).refusal? w = none) (held : holds w.stream t) :
    ∃ stream, startElement name w = .ok () { w with
        stream, stack := ⟨name, true, false, false⟩ :: w.parents, hasRoot := true } ∧
      holds stream (t ++ w.pending ++ (w.margin w.depth ++ "<" ++ name)) := by
  simp only [Stroke.refusal?, Option.or_eq_none_iff, Writer.outside?_eq_none, objectIf_eq_none]
    at clear
  obtain ⟨⟨started, ended⟩, proper, root, room⟩ := clear
  obtain ⟨stream, ready, held₁⟩ := beginChild_puts faithful .startElement room held
  obtain ⟨stream', put, held₂⟩ := emit_of_holds faithful
    (w := { w with stream, stack := w.parents }) held₁ .startElement
    (w.margin w.depth ++ "<" ++ name)
  refine ⟨stream', ?_, held₂⟩
  have depth : Writer.depth { w with stream, stack := w.parents } = w.depth := w.length_parents
  unfold startElement
  rw [bind_of_ok (requireDocument_of_started started ended _), get_bind]
  simp only [proper, root, Bool.false_eq_true, if_false]
  rw [bind_of_ok ready, get_bind, depth]
  exact bind_of_ok put

/-- What is done for a text before the text itself is put on paper. -/
theorem text_begins (faithful : Faithful holds) (value : Value) {name : String} {rest : List Open}
    (started : w.started = true) (ended : w.ended = false)
    (stack : w.stack = ⟨name, true, false, false⟩ :: rest) (held : holds w.stream t) :
    ∃ stream, text value w = (escaped value >>= emit .text)
        { w with stream, stack := ⟨name, false, true, false⟩ :: rest } ∧
      holds stream (t ++ ">") := by
  obtain ⟨stream, tagEnded, held'⟩ := closeStartTag_of_open faithful .text ">" stack rfl held
  refine ⟨stream, ?_, held'⟩
  have marked : modifyTop (fun e => { e with hasText := true })
      { w with stream, stack := ⟨name, false, false, false⟩ :: rest } =
      .ok () { w with stream, stack := ⟨name, false, true, false⟩ :: rest } := rfl
  unfold text
  rw [bind_of_ok (requireDocument_of_started started ended _), get_bind]
  simp only [stack, Bool.false_eq_true, if_false]
  rw [bind_of_ok tagEnded, bind_of_ok marked]

/-- Text at the beginning of an element. -/
theorem text_puts (faithful : Faithful holds) {value : Value} (writable : value.isWritable = true)
    {name : String} {rest : List Open} (started : w.started = true) (ended : w.ended = false)
    (stack : w.stack = ⟨name, true, false, false⟩ :: rest) (held : holds w.stream t) :
    ∃ stream, text value w =
        .ok () { w with stream, stack := ⟨name, false, true, false⟩ :: rest } ∧
      holds stream (t ++ ">" ++ Node.escaped (plainText value)) := by
  obtain ⟨stream, begun, held₁⟩ := text_begins faithful value started ended stack held
  obtain ⟨stream', put, held₂⟩ := emit_of_holds faithful
    (w := { w with stream, stack := ⟨name, false, true, false⟩ :: rest }) held₁ .text
    (Node.escaped (plainText value))
  refine ⟨stream', ?_, held₂⟩
  rw [begun, bind_of_ok (escaped_of_written (written_of_isWritable writable) _)]
  exact put

/-- The end of an element with text. -/
theorem endElement_puts (faithful : Faithful holds) {name : String} {rest : List Open}
    (started : w.started = true) (ended : w.ended = false)
    (stack : w.stack = ⟨name, false, true, false⟩ :: rest) (held : holds w.stream t) :
    ∃ stream, endElement w = .ok () { w with stream, stack := rest } ∧
      holds stream (t ++ ("</" ++ name ++ ">\n")) := by
  obtain ⟨stream, put, held'⟩ := emit_of_holds faithful held .endElement ("</" ++ name ++ ">\n")
  refine ⟨stream, ?_, held'⟩
  unfold endElement
  rw [bind_of_ok (requireDocument_of_started started ended _), get_bind]
  simp only [stack, Bool.false_eq_true, if_false, if_true]
  rw [bind_of_ok put, modify_apply, stack]
  rfl

theorem singleElement_puts (faithful : Faithful holds) {name : String} {value : Value}
    (clear : (Stroke.startElement name).refusal? w = none) (writable : value.isWritable = true)
    (held : holds w.stream t) :
    ∃ stream, singleElement name value w =
        .ok () { w with stream, stack := w.parents, hasRoot := true } ∧
      holds stream (t ++ w.pending ++
        Node.render w.indent w.depth (.labelled name [] (plainText value))) := by
  obtain ⟨started, ended⟩ := Stroke.within_of_clear clear
  obtain ⟨stream₁, opened, held₁⟩ := startElement_puts faithful clear held
  obtain ⟨stream₂, filled, held₂⟩ := text_puts faithful
    (w := { w with
      stream := stream₁, stack := ⟨name, true, false, false⟩ :: w.parents, hasRoot := true })
    writable started ended rfl held₁
  obtain ⟨stream₃, closed, held₃⟩ := endElement_puts faithful
    (w := { w with
      stream := stream₂, stack := ⟨name, false, true, false⟩ :: w.parents, hasRoot := true })
    started ended rfl held₂
  refine ⟨stream₃, ?_, ?_⟩
  · unfold singleElement
    rw [bind_of_ok opened, bind_of_ok filled]
    exact closed
  · simpa [Node.render, Node.startTag, Node.margin, Writer.margin, String.append_assoc] using held₃

/-- An integer that is too long to write leaves its element open. -/
theorem singleElement_of_not (faithful : Faithful holds) {name : String} {value : Value}
    (clear : (Stroke.startElement name).refusal? w = none) (long : value.isWritable = false)
    (held : holds w.stream t) :
    ∃ w', singleElement name value w = .error (.fault (.integer .tooLongToWrite)) w' ∧
      w'.names = name :: w.names ∧
      holds w'.stream (t ++ w.pending ++ (w.margin w.depth ++ "<" ++ name) ++ ">") := by
  obtain ⟨started, ended⟩ := Stroke.within_of_clear clear
  obtain ⟨stream, opened, held₁⟩ := startElement_puts faithful clear held
  obtain ⟨stream', filled, held₂⟩ := text_begins faithful value
    (w := { w with
      stream, stack := ⟨name, true, false, false⟩ :: w.parents, hasRoot := true })
    started ended rfl held₁
  refine ⟨{ w with
    stream := stream', stack := ⟨name, false, true, false⟩ :: w.parents, hasRoot := true },
    ?_, ?_, held₂⟩
  · unfold singleElement
    rw [bind_of_ok opened]
    apply bind_of_error
    rw [filled, bind_of_error (escaped_of_not long _)]
  · have same := w.names_parents
    simpa [Writer.names] using same

end

/-! ## Whole elements -/

/-- An element with text only is written as a whole at the place of the writer, or it is refused
and nothing is changed. -/
def WritesWhole [Stream σ] (holds : σ → String → Prop) (name : String) (value : Value)
    (w : Writer σ) (t : String) : Prop :=
  (∃ f, singleElement name value w = .error f w) ∨
    ∃ w', singleElement name value w = .ok () w' ∧
      holds w'.stream (t ++ w.pending ++
        Node.render w.indent w.depth (.labelled name [] (plainText value))) ∧
      w'.location = w.location ∧ w'.depth = w.depth

section

variable [Stream σ]

theorem singleElement_whole {holds : σ → String → Prop} (faithful : Faithful holds)
    (name : String) {value : Value} (writable : value.isWritable = true) {w : Writer σ} {t : String}
    (held : holds w.stream t) : WritesWhole holds name value w t := by
  have settles : Settles .startElement w _ _ true (startElement name w) :=
    startElement_settles w name
  cases refused : (Stroke.startElement name).refusal? w with
  | some reason =>
    rw [refused] at settles
    exact .inl ⟨_, bind_of_error settles⟩
  | none =>
    obtain ⟨stream, written, held'⟩ := singleElement_puts faithful refused writable held
    refine .inr ⟨_, written, held', ?_, w.length_parents⟩
    exact Writer.location_of_names w.names_parents

/-- **What a writer refuses changes nothing, and what the stream rejects leaves the writer at its
place.** At every writer and on every stream, a call fails in place; and where a stream never fails,
an element with text only is written as a whole or refused. -/
theorem calls_fail_in_place (w : Writer σ) :
    (∀ p op, p.call? = some op → FailsInPlace p op w) ∧
    ∀ (holds : σ → String → Prop) name value t, Faithful holds → value.isWritable = true →
      holds w.stream t → WritesWhole holds name value w t :=
  ⟨fun _ _ called => failsInPlace called w, fun _ name _ _ faithful writable held =>
    singleElement_whole faithful name writable held⟩

end

/-- A writer in memory whose root element was just opened. -/
def openedWriter : Writer Memory :=
  ⟨⟨declaration ++ "<a", none, false, false⟩, defaultIndent, none, [⟨"a", true, false, false⟩],
    true, false, true⟩

/-- A comment is refused there, and an element is written. -/
theorem calls_fail_in_place_opened :
    (∃ f, (Stroke.comment "x--y").run openedWriter = .error f openedWriter ∧
      Reports .comment openedWriter f) ∧
    ∃ w', singleElement "b" (.text "x<y") openedWriter = .ok () w' ∧
      w'.stream.text = declaration ++ "<a>\n  <b>x&lt;y</b>\n" ∧ w'.location = "/a" := by
  obtain ⟨calls, elements⟩ := calls_fail_in_place openedWriter
  constructor
  · have refused : (Stroke.comment "x--y").refusal? openedWriter =
        some "comment text may not contain '--' or end with '-'" := by decide
    have unasked := Stroke.failsUnasked_of_refusal rfl refused
    obtain ⟨-, reports⟩ := (calls (.comment "x--y") .comment rfl).refused _ _ unasked nofun
    exact ⟨_, unasked, reports⟩
  · have short : (Value.text "x<y").isWritable = true := rfl
    have clear : (Stroke.startElement "b").refusal? openedWriter = none := by decide
    rcases elements Memory.Holds "b" (.text "x<y") _ Memory.faithful short rfl with
      ⟨f, failed⟩ | ⟨w', written, held, place, -⟩
    · obtain ⟨stream, written, -⟩ := singleElement_puts Memory.faithful clear short
        (w := openedWriter) rfl
      rw [failed] at written
      cases written
    · refine ⟨w', written, ?_, place⟩
      rw [held]
      decide

/-- A writer in memory whose document was just started. -/
def startedWriter : Writer Memory :=
  ⟨⟨declaration, none, false, false⟩, defaultIndent, none, [], true, false, false⟩

/-- With an integer that is too long to write, an element is neither refused nor written as a
whole. -/
theorem not_writesWhole_long :
    startDocument (Writer.inMemory Memory.empty defaultIndent) = .ok () startedWriter ∧
    startedWriter.stream.Holds declaration ∧
    ¬WritesWhole Memory.Holds "a" (.int (Nat.pow 10 Integer.maxDigits)) startedWriter
      declaration := by
  refine ⟨rfl, rfl, ?_⟩
  have long : (Value.int (Nat.pow 10 Integer.maxDigits)).isWritable = false := by
    rw [Value.isWritable, Value.isWritableIn, Integer.isWritable, Int.natAbs_natCast]
    exact decide_eq_false (Nat.lt_irrefl _)
  have clear : (Stroke.startElement "a").refusal? startedWriter = none := by decide
  have held : startedWriter.stream.Holds declaration := rfl
  obtain ⟨w', failed, deeper, -⟩ := singleElement_of_not Memory.faithful clear long held
  rintro (⟨f, same⟩ | ⟨w'', written, -⟩)
  · rw [failed] at same
    obtain ⟨-, rfl⟩ := EStateM.Result.error.inj same
    cases deeper
  · rw [failed] at written
    cases written

end MachineDescriptor.Xml
