import MachineDescriptor.Document.Outline
import MachineDescriptor.Proofs.Following

/-!
Sections of a document. An action that writes a section is described by the nodes that it adds to
the open element, and by the faults that it would meet, the first of which ends it. Both add up when
actions follow each other, so that the nodes and the faults of a document are put together from
those of its sections.
-/
namespace MachineDescriptor.Xml

open Document.Outline (plainText)

variable {σ : Type} {holds : σ → String → Prop} {indent : String} {path : Option String}

/-- What an action comes to: without faults the writer gets as far as a scaffold, and else the
first fault comes out. -/
def Comes (holds : σ → String → Prop) (indent : String) (path : Option String)
    (faults : List Fault) (s : Scaffold) (r : EStateM.Result Failure (Writer σ) Unit) : Prop :=
  match faults with
  | [] => ∃ stream, r = .ok () (s.writer indent path stream) ∧ holds stream (s.text indent)
  | f :: _ => ∃ w t, r = .error (.fault f) w ∧ w.path = path ∧ holds w.stream t

theorem Comes.bind {a b : Action σ Unit} {w : Writer σ} {faults more : List Fault}
    {s s' : Scaffold} (first : Comes holds indent path faults s (a w))
    (second : ∀ stream, holds stream (s.text indent) →
      Comes holds indent path more s' (b (s.writer indent path stream))) :
    Comes holds indent path (faults ++ more) s' ((a >>= fun _ => b) w) := by
  cases faults with
  | nil =>
    obtain ⟨stream, done, held⟩ := first
    rw [bind_of_ok done]
    exact second stream held
  | cons f rest =>
    obtain ⟨v, t, failed, kept, held⟩ := first
    exact ⟨v, t, bind_of_error failed, kept, held⟩

theorem Comes.andThen {a b : Action σ Unit} {w : Writer σ} {more : List Fault} {s s' : Scaffold}
    (first : Comes holds indent path [] s (a w))
    (second : ∀ stream, holds stream (s.text indent) →
      Comes holds indent path more s' (b (s.writer indent path stream))) :
    Comes holds indent path more s' ((a >>= fun _ => b) w) :=
  first.bind second

/-- An action adds nodes to the innermost element, which has no text. -/
def Lays (holds : σ → String → Prop) (indent : String) (path : Option String)
    (a : Action σ Unit) (faults : List Fault) (nodes : List Node) : Prop :=
  ∀ (closed : List Node) (d : Draft) (outer : List Frame) (ns : List Node) (stream : σ),
    d.filling.nodes? = some ns →
    holds stream ((Scaffold.underway closed (.inside d outer)).text indent) →
    Comes holds indent path faults (.underway closed (.inside (d.laid nodes) outer))
      (a ((Scaffold.underway closed (.inside d outer)).writer indent path stream))

/-- An action gives attributes and a filling to the innermost element, which has nothing in it. -/
def Fills (holds : σ → String → Prop) (indent : String) (path : Option String)
    (a : Action σ Unit) (faults : List Fault) (attributes : List (String × String))
    (filling : Filling) : Prop :=
  ∀ (closed : List Node) (name : String) (as : List (String × String)) (outer : List Frame)
    (stream : σ),
    holds stream ((Scaffold.underway closed (.inside ⟨name, as, .nothing⟩ outer)).text indent) →
    Comes holds indent path faults
      (.underway closed (.inside ⟨name, as ++ attributes, filling⟩ outer))
      (a ((Scaffold.underway closed (.inside ⟨name, as, .nothing⟩ outer)).writer
        indent path stream))

theorem Lays.pure : Lays holds indent path (pure ()) [] [] :=
  fun _ _ _ _ stream _ held => ⟨stream, rfl, held⟩

theorem Lays.of_fault {a : Action σ Unit} {f : Fault} (failed : ∀ w, a w = .error (.fault f) w)
    (nodes : List Node) : Lays holds indent path a [f] nodes :=
  fun _ _ _ _ _ _ held => ⟨_, _, failed _, rfl, held⟩

theorem Lays.bind {a b : Action σ Unit} {faults more : List Fault} {as bs : List Node}
    (first : Lays holds indent path a faults as) (second : Lays holds indent path b more bs) :
    Lays holds indent path (a >>= fun _ => b) (faults ++ more) (as ++ bs) := by
  intro closed d outer ns stream room held
  rw [← Draft.laid_laid room]
  exact (first closed d outer ns stream room held).bind fun stream held =>
    second closed _ outer _ stream (Draft.nodes?_laid room as) held

theorem Fills.pure : Fills holds indent path (pure ()) [] [] .nothing := by
  intro closed name as outer stream held
  exact ⟨stream, by simp [Pure.pure, EStateM.pure], by simpa using held⟩

theorem Fills.bind {a b : Action σ Unit} {faults more : List Fault}
    {as bs : List (String × String)} {filling : Filling}
    (first : Fills holds indent path a faults as .nothing)
    (second : Fills holds indent path b more bs filling) :
    Fills holds indent path (a >>= fun _ => b) (faults ++ more) (as ++ bs) filling := by
  intro closed name given outer stream held
  rw [← List.append_assoc]
  exact (first closed name given outer stream held).bind fun stream held =>
    second closed name _ outer stream held

theorem Lays.forM {α : Type} {l : List α} {f : α → Action σ Unit} {faults : α → List Fault}
    {nodes : α → List Node} (each : ∀ a ∈ l, Lays holds indent path (f a) (faults a) (nodes a)) :
    Lays holds indent path (l.forM f) (l.flatMap faults) (l.flatMap nodes) := by
  induction l with
  | nil => exact Lays.pure
  | cons a rest ih =>
    obtain ⟨first, others⟩ := List.forall_mem_cons.mp each
    exact first.bind (ih others)

/-! ## Values -/

/-- The fault that a value meets where it is written. -/
@[irreducible]
def unwritable (v : Value) : List Fault :=
  if v.isWritable then [] else [.integer .tooLongToWrite]

theorem written_of_isWritable {v : Value} (h : v.isWritable = true) :
    v.written = .ok (plainText v).toList := by
  simp [Value.written, h, plainText]

theorem written_of_not {v : Value} (h : v.isWritable = false) :
    v.written = .error .tooLongToWrite := by
  simp [Value.written, h]

theorem unwritable_of_isWritable {v : Value} (h : v.isWritable = true) : unwritable v = [] := by
  rw [unwritable, if_pos h]

@[simp] theorem unwritable_text (s : String) : unwritable (.text s) = [] :=
  unwritable_of_isWritable rfl

theorem escaped_of_not {v : Value} (h : v.isWritable = false) (w : Writer σ) :
    escaped v w = .error (.fault (.integer .tooLongToWrite)) w := by
  simp only [escaped, escapeValue, written_of_not h, Except.map]

variable [Stream σ]

omit [Stream σ] in
theorem Comes.of_follows {op : Operation} {s s' : Scaffold} {stream : σ}
    {r : EStateM.Result Failure (Writer σ) Unit}
    (h : Follows holds op (s.writer indent path stream) (some s') r) :
    Comes holds indent path [] s' r := h.some

theorem setAttribute_fills (faithful : Faithful holds) {name : String}
    (proper : isName name.toList = true) (v : Value) :
    Fills holds indent path (setAttribute name v) (unwritable v) [(name, plainText v)]
      .nothing := by
  intro closed tag as outer stream held
  cases writable : v.isWritable with
  | true =>
    have follows := setAttribute_follows path faithful name
      (written_of_isWritable writable) held
    simp only [Scaffold.accept, Part.isProper, proper, if_true, Scaffold.take, Scaffold.mark]
      at follows
    simpa [unwritable, writable] using Comes.of_follows follows
  | false =>
    simp only [unwritable, writable, Bool.false_eq_true, if_false]
    refine ⟨(Scaffold.underway closed (.inside ⟨tag, as, .nothing⟩ outer)).writer indent path
      stream, _, ?_, rfl, held⟩
    unfold setAttribute
    rw [bind_of_ok (requireDocument_of_started rfl rfl _), get_bind]
    simp only [Scaffold.writer, Scaffold.stack, Place.stack, Draft.asOpen, Bool.not_true,
      Bool.false_eq_true, if_false, proper]
    exact bind_of_error (escaped_of_not writable _)

theorem text_fills (faithful : Faithful holds) (v : Value) :
    Fills holds indent path (text v) (unwritable v) [] (.text (plainText v)) := by
  intro closed tag as outer stream held
  rw [List.append_nil]
  cases writable : v.isWritable with
  | true =>
    have follows := text_follows path faithful (written_of_isWritable writable) held
    simp only [Scaffold.accept, Part.isProper, if_true, Scaffold.take, Scaffold.write,
      Filling.text?, Option.map_some, String.empty_append] at follows
    simpa [unwritable, writable] using Comes.of_follows follows
  | false =>
    obtain ⟨w, stream', tagEnded, marked, held'⟩ :=
      beginText_of_room path faithful (t := "") rfl held
    simp only [unwritable, writable, Bool.false_eq_true, if_false]
    refine ⟨(Scaffold.underway closed (.inside ⟨tag, as, .text ""⟩ outer)).writer indent path
      stream', _, ?_, rfl, held'⟩
    unfold text
    rw [bind_of_ok (requireDocument_of_started rfl rfl _), get_bind]
    simp only [Scaffold.writer, Scaffold.stack, Place.stack, Draft.asOpen, Bool.false_eq_true,
      if_false] at tagEnded marked ⊢
    rw [bind_of_ok tagEnded, bind_of_ok marked]
    exact bind_of_error (escaped_of_not writable _)

theorem attributes_fill (faithful : Faithful holds) {attributes : List (String × Value)}
    (proper : ∀ a ∈ attributes, isName a.1.toList = true) :
    Fills holds indent path (attributes.forM fun a => setAttribute a.1 a.2)
      (attributes.flatMap fun a => unwritable a.2)
      (attributes.map fun a => (a.1, plainText a.2)) .nothing := by
  induction attributes with
  | nil => exact Fills.pure
  | cons a rest ih =>
    obtain ⟨first, others⟩ := List.forall_mem_cons.mp proper
    exact (setAttribute_fills faithful first a.2).bind (ih others)

/-! ## Elements -/

/-- An element at a place that has room for it. -/
theorem element_comes (faithful : Faithful holds) {closed : List Node} {place : Place}
    {frames : List Frame} {name : String} {attributes : List (String × Value)}
    {body : Action σ Unit} {faults : List Fault} {more : List (String × String)}
    {filling : Filling} {stream : σ} (proper : isName name.toList = true)
    (named : ∀ a ∈ attributes, isName a.1.toList = true)
    (fills : Fills holds indent path body faults more filling)
    (fits : (Scaffold.underway closed place).enter name =
      some (.underway closed (.inside (.start name) frames)))
    (held : holds stream ((Scaffold.underway closed place).text indent)) :
    Comes holds indent path ((attributes.flatMap fun a => unwritable a.2) ++ faults)
      (.settle closed
        (⟨name, (attributes.map fun a => (a.1, plainText a.2)) ++ more, filling⟩ : Draft).node
        frames)
      (element name attributes body
        ((Scaffold.underway closed place).writer indent path stream)) := by
  have begun := startElement_follows path faithful name held
  simp only [Scaffold.accept, Part.isProper, proper, if_true, Scaffold.take, fits] at begun
  refine Comes.andThen (Comes.of_follows begun) fun stream₁ held₁ => ?_
  refine Comes.bind (attributes_fill faithful named closed name [] frames stream₁ held₁)
    fun stream₂ held₂ => ?_
  rw [← List.append_nil faults]
  refine Comes.bind (fills closed name _ frames stream₂ held₂) fun stream₃ held₃ => ?_
  have ended := endElement_follows path faithful held₃
  simp only [Scaffold.accept, Part.isProper, if_true, Scaffold.take, Scaffold.leave] at ended
  exact Comes.of_follows ended

theorem element_lays (faithful : Faithful holds) {name : String}
    {attributes : List (String × Value)} {body : Action σ Unit} {faults : List Fault}
    {more : List (String × String)} {filling : Filling} (proper : isName name.toList = true)
    (named : ∀ a ∈ attributes, isName a.1.toList = true)
    (fills : Fills holds indent path body faults more filling) :
    Lays holds indent path (element name attributes body)
      ((attributes.flatMap fun a => unwritable a.2) ++ faults)
      [(⟨name, (attributes.map fun a => (a.1, plainText a.2)) ++ more, filling⟩ : Draft).node] := by
  intro closed d outer ns stream room held
  have fits : (Scaffold.underway closed (.inside d outer)).enter name =
      some (.underway closed (.inside (.start name) (d.frame ns :: outer))) := by
    simp [Scaffold.enter, Place.frames?, Place.isOutside, room]
  have comes := element_comes faithful proper named fills fits held
  simpa [Scaffold.settle, Frame.resume, Draft.frame, Draft.laid, room] using comes

/-- What nodes fill an element with. -/
def Filling.ofNodes (nodes : List Node) : Filling :=
  if nodes.isEmpty then .nothing else .nodes nodes

omit [Stream σ] in
theorem Lays.fills {a : Action σ Unit} {faults : List Fault} {nodes : List Node}
    (h : Lays holds indent path a faults nodes) :
    Fills holds indent path a faults [] (.ofNodes nodes) := by
  intro closed name as outer stream held
  have comes := h closed ⟨name, as, .nothing⟩ outer [] stream rfl held
  cases nodes <;> simpa [Draft.laid, Filling.ofNodes] using comes

theorem Node.frame_eq (name : String) (attributes : List (String × String))
    (nodes : List Node) :
    (⟨name, attributes, .ofNodes nodes⟩ : Draft).node = .frame name attributes nodes := by
  cases nodes <;> rfl

end MachineDescriptor.Xml
