import MachineDescriptor.Proofs.Keeping

/-!
The strokes of a script. Whatever a writer in memory does in a step it does by calls of its single
operations one after the other, up to the first that fails; a stretch after which the writer is
closed is no exception, since closing such a writer does nothing.
-/
namespace MachineDescriptor.Xml

/-- A call of a single operation of a writer. -/
inductive Stroke where
  | startDocument
  | endElement
  | endDocument
  | close
  | value
  | comment (text : String)
  | startElement (name : String)
  | setAttribute (name : String) (value : Value)
  | text (value : Value)

/-- The strokes that give attributes to a start tag. -/
def attributeStrokes (attributes : List (String × Value)) : List Stroke :=
  attributes.map fun a => .setAttribute a.1 a.2

/-- The strokes of an element around those of its body. -/
def elementStrokes (name : String) (attributes : List (String × Value)) (body : List Stroke) :
    List Stroke :=
  .startElement name :: (attributeStrokes attributes ++ (body ++ [.endElement]))

mutual

/-- The strokes of a step that goes through the writer. -/
def Step.strokes : Step → List Stroke
  | .startDocument => [.startDocument]
  | .endElement => [.endElement]
  | .endDocument => [.endDocument]
  | .close => [.close]
  | .value => [.value]
  | .comment s => [.comment s]
  | .startElement name => [.startElement name]
  | .setAttribute name v => [.setAttribute name v]
  | .text v => [.text v]
  | .singleElement name v => [.startElement name, .text v, .endElement]
  | .emptyElement name attributes => elementStrokes name attributes.entries []
  | .element name attributes body =>
    elementStrokes name attributes.entries (Step.allStrokes body)
  | .closing body => Step.allStrokes body ++ [.close]
  | .closeStream => []

def Step.allStrokes : List Step → List Stroke
  | [] => []
  | s :: rest => s.strokes ++ Step.allStrokes rest

end

mutual

/-- Whether a step leaves the stream to the writer. -/
def Step.isOwn : Step → Bool
  | .closeStream => false
  | .element _ _ body | .closing body => Step.allOwn body
  | _ => true

def Step.allOwn : List Step → Bool
  | [] => true
  | s :: rest => s.isOwn && Step.allOwn rest

end

variable {σ : Type} [Stream σ]

def Stroke.run : Stroke → Action σ (Option String)
  | .startDocument => silently Xml.startDocument
  | .endElement => silently Xml.endElement
  | .endDocument => silently Xml.endDocument
  | .close => silently Xml.close
  | .value => do
    let s ← contents
    pure (some s)
  | .comment s => silently (Xml.comment s)
  | .startElement name => silently (Xml.startElement name)
  | .setAttribute name v => silently (Xml.setAttribute name v)
  | .text v => silently (Xml.text v)

/-- Makes strokes up to the first that fails. The answer is that of the last stroke. -/
def runStrokes (strokes : List Stroke) (answer : Option String) : Action σ (Option String) :=
  strokes.foldlM (fun _ p => p.run) answer

theorem runStrokes_nil (answer : Option String) :
    (runStrokes [] answer : Action σ (Option String)) = pure answer := rfl

theorem runStrokes_single (p : Stroke) (answer : Option String) :
    (runStrokes [p] answer : Action σ (Option String)) = p.run := by
  simp only [runStrokes, List.foldlM_cons]
  exact bind_pure _

theorem runStrokes_cons (p : Stroke) (rest : List Stroke) (answer : Option String) :
    (runStrokes (p :: rest) answer : Action σ (Option String)) = p.run >>= runStrokes rest := by
  simp only [runStrokes, List.foldlM_cons]
  rfl

theorem runStrokes_append (ps qs : List Stroke) (answer : Option String) :
    (runStrokes (ps ++ qs) answer : Action σ (Option String)) =
      runStrokes ps answer >>= runStrokes qs := by
  simp only [runStrokes, List.foldlM_append]
  rfl

/-! ## What strokes keep -/

variable {keeps : σ → Prop} {fails : Failure → σ → Prop}

theorem close_of_no_path {w : Writer σ} (memory : w.path = none) : close w = .ok () w := by
  simp only [close, get_bind, memory]
  rfl

theorem Stroke.run_keeps (guards : Guards keeps fails none)
    (told : Keeps keeps fails none (contents : Action σ String)) (p : Stroke) :
    Keeps keeps fails none (p.run : Action σ (Option String)) := by
  have composes := guards.composes
  cases p with
  | startDocument => exact Keeps.silently (startDocument_composes composes)
  | endElement => exact Keeps.silently (endElement_composes composes)
  | endDocument => exact Keeps.silently (endDocument_composes composes)
  | close =>
    refine Keeps.silently fun w memory kept => ?_
    rw [close_of_no_path memory]
    exact ⟨kept, memory⟩
  | value => exact Keeps.bind told fun s => Keeps.pure _
  | comment s => exact Keeps.silently (comment_composes composes s)
  | startElement name => exact Keeps.silently (startElement_composes composes name)
  | setAttribute name v => exact Keeps.silently (setAttribute_composes composes name v)
  | text v => exact Keeps.silently (text_composes composes v)

theorem runStrokes_keeps (guards : Guards keeps fails none)
    (told : Keeps keeps fails none (contents : Action σ String)) (strokes : List Stroke)
    (answer : Option String) :
    Keeps keeps fails none (runStrokes strokes answer : Action σ (Option String)) := by
  induction strokes generalizing answer with
  | nil => exact Keeps.pure _
  | cons p rest ih =>
    rw [runStrokes_cons]
    exact Keeps.bind (p.run_keeps guards told) ih

/-! ## Steps are strokes -/

/-- Two actions do the same at a writer that did not open a file. -/
def Alike {α : Type} (a b : Action σ α) : Prop := ∀ w, w.path = none → a w = b w

/-- An action that does not turn a writer into one that opened a file. -/
def StaysInMemory {α : Type} (a : Action σ α) : Prop :=
  Keeps (fun _ => True) (fun _ _ => True) none a

theorem guards_anything : Guards (fun _ : σ => True) (fun _ _ => True) none where
  write op u w memory _ := by
    unfold onStream
    cases (Stream.write u : EStateM Fault σ Unit) w.stream <;> exact ⟨trivial, memory⟩
  flush op w memory _ := by
    unfold onStream
    cases (Stream.flush : EStateM Fault σ Unit) w.stream <;> exact ⟨trivial, memory⟩
  refuse op reason w memory _ := ⟨trivial, memory⟩
  fault _ _ := trivial

theorem contents_stays : StaysInMemory (contents : Action σ String) := by
  intro w memory _
  unfold contents
  cases Stream.value w.stream <;> exact ⟨trivial, memory⟩

theorem Stroke.run_stays (p : Stroke) : StaysInMemory (p.run : Action σ (Option String)) :=
  p.run_keeps guards_anything contents_stays

theorem runStrokes_stays (strokes : List Stroke) (answer : Option String) :
    StaysInMemory (runStrokes strokes answer : Action σ (Option String)) :=
  runStrokes_keeps guards_anything contents_stays strokes answer

omit [Stream σ] in
theorem Alike.bind {α β : Type} {a b : Action σ α} {f g : α → Action σ β} (first : Alike a b)
    (stays : StaysInMemory b) (rest : ∀ x, Alike (f x) (g x)) :
    Alike (a >>= f) (b >>= g) := by
  intro w memory
  have left := stays w memory trivial
  have same := first w memory
  cases result : b w with
  | ok x v =>
    rw [result] at same left
    rw [bind_of_ok same, bind_of_ok result]
    exact rest x v left.2
  | error e v =>
    rw [result] at same
    rw [bind_of_error same, bind_of_error result]

theorem attributeStrokes_alike {β : Type} (attributes : List (String × Value)) {f : Action σ β}
    {g : Option String → Action σ β} (rest : ∀ answer, Alike f (g answer))
    (answer : Option String) :
    Alike (attributes.forM (fun a => setAttribute a.1 a.2) >>= fun _ => f)
      (runStrokes (attributeStrokes attributes) answer >>= g) := by
  induction attributes generalizing answer with
  | nil => exact rest answer
  | cons a others ih =>
    simp only [attributeStrokes, List.map_cons, runStrokes_cons, List.forM, Stroke.run, silently,
      bind_assoc, pure_bind] at ih ⊢
    have stays : StaysInMemory (setAttribute a.1 a.2 : Action σ Unit) :=
      setAttribute_composes guards_anything.composes a.1 a.2
    exact Alike.bind (fun _ _ => rfl) stays fun _ => ih none

/-- An action that is strokes, and one more stroke. -/
theorem last_alike {body : Action σ Unit} {inner : List Stroke}
    (same : ∀ answer, Alike body (runStrokes inner answer >>= fun _ => pure ())) (last : Stroke)
    (answer : Option String) :
    Alike (body >>= fun _ => last.run) (runStrokes (inner ++ [last]) answer) := by
  have ending : runStrokes [last] = fun _ => (last.run : Action σ (Option String)) :=
    funext (runStrokes_single last)
  have stays : StaysInMemory (runStrokes inner answer >>= fun _ => (pure () : Action σ Unit)) :=
    Keeps.bind (runStrokes_stays inner answer) fun _ => Keeps.pure ()
  have both := (same answer).bind stays (f := fun _ => last.run) fun _ _ _ => rfl
  rw [runStrokes_append, ending]
  simpa only [bind_assoc, pure_bind] using both

theorem elementStrokes_alike (name : String) (attributes : List (String × Value))
    {body : Action σ Unit} {inner : List Stroke}
    (same : ∀ answer, Alike body (runStrokes inner answer >>= fun _ => pure ()))
    (answer : Option String) :
    Alike (silently (element name attributes body))
      (runStrokes (elementStrokes name attributes inner) answer) := by
  simp only [elementStrokes, runStrokes_cons, Stroke.run, element, silently, bind_assoc, pure_bind]
  have stays : StaysInMemory (startElement name : Action σ Unit) :=
    startElement_composes guards_anything.composes name
  refine Alike.bind (fun _ _ => rfl) stays fun _ => ?_
  rw [runStrokes_append]
  exact attributeStrokes_alike attributes (last_alike same .endElement) none

theorem closing_alike {body : Action σ Unit} (stays : StaysInMemory body) :
    Alike (silently (closing body)) (body >>= fun _ => silently close) := by
  intro w memory
  have left := stays w memory trivial
  cases result : body w with
  | ok x v =>
    rw [result] at left
    have closed : close v = .ok () v := close_of_no_path left.2
    have whole : closing body w = .ok () v := by simp only [closing, result, closed]
    rw [silently, bind_of_ok whole, bind_of_ok result, silently, bind_of_ok closed]
  | error e v =>
    rw [result] at left
    have closed : close v = .ok () v := close_of_no_path left.2
    have whole : closing body w = .error e v := by simp only [closing, result, closed]
    rw [silently, bind_of_error whole, bind_of_error result]

theorem closingStrokes_alike {body : Action σ Unit} {inner : List Stroke}
    (same : ∀ answer, Alike body (runStrokes inner answer >>= fun _ => pure ()))
    (answer : Option String) :
    Alike (silently (closing body)) (runStrokes (inner ++ [.close]) answer) := by
  have stays : StaysInMemory body := fun w memory _ => by
    rw [same answer w memory]
    exact Keeps.bind (runStrokes_stays inner answer) (fun _ => Keeps.pure ()) w memory trivial
  intro w memory
  rw [closing_alike stays w memory]
  exact last_alike same .close answer w memory

mutual

/-- **A step is its strokes.** At a writer in memory a step that goes through the writer does what
its strokes do one after the other. -/
theorem run_strokes : (s : Step) → (own : s.isOwn = true) → (answer : Option String) →
    Alike (s.run : Action σ (Option String)) (runStrokes s.strokes answer)
  | .startDocument, _, _ | .endElement, _, _ | .endDocument, _, _ | .close, _, _ | .value, _, _
  | .comment _, _, _ | .startElement _, _, _ | .setAttribute _ _, _, _ | .text _, _, _ => by
    intro w _
    simp only [Step.strokes, runStrokes_single, Step.run, Stroke.run]
  | .singleElement name v, _, _ => by
    intro w _
    simp only [Step.run, Step.strokes, runStrokes_cons, runStrokes_nil, Stroke.run, singleElement,
      silently, bind_assoc, pure_bind]
  | .emptyElement name attributes, _, answer =>
    elementStrokes_alike name attributes.entries (fun _ _ _ => rfl) answer
  | .element name attributes body, own, answer =>
    elementStrokes_alike name attributes.entries (runAll_strokes body own) answer
  | .closing body, own, answer => closingStrokes_alike (runAll_strokes body own) answer

theorem runAll_strokes : (body : List Step) → (own : Step.allOwn body = true) →
    (answer : Option String) →
    Alike (Step.runAll body : Action σ Unit)
      (runStrokes (Step.allStrokes body) answer >>= fun _ => pure ())
  | [], _, _ => fun _ _ => rfl
  | s :: rest, own, answer => by
    obtain ⟨first, others⟩ := (Bool.and_eq_true _ _).mp own
    simp only [Step.runAll, Step.allStrokes, runStrokes_append, bind_assoc]
    exact Alike.bind (run_strokes s first answer) (runStrokes_stays _ _) fun next =>
      runAll_strokes rest others next

end

end MachineDescriptor.Xml
