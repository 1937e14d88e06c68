import MachineDescriptor.Proofs.Nesting

/-!
What scripts preserve. A property of writers is preserved by an action when it is never lost, also
where the action fails. What is preserved by each stroke of a script, and by the ends of the stream,
is preserved by the whole script, whichever of its steps fail.
-/
namespace MachineDescriptor.Xml

variable {σ α β : Type} {inv : Writer σ → Prop}

/-- A property of writers that an action keeps, where it succeeds and where it fails. -/
def Preserves (inv : Writer σ → Prop) (a : Action σ α) : Prop := ∀ w, inv w → Turns inv inv (a w)

theorem Preserves.after {a : Action σ α} (kept : Preserves inv a) {w : Writer σ} (here : inv w) :
    inv (writerAfter (a w)) := (kept w here).after

theorem turns_of_after {r : EStateM.Result Failure (Writer σ) α} (after : inv (writerAfter r)) :
    Turns inv inv r := by
  cases r <;> exact after

theorem Preserves.pure (x : α) : Preserves inv (pure x : Action σ α) := fun _ here => here

theorem Preserves.bind {a : Action σ α} {f : α → Action σ β} (first : Preserves inv a)
    (second : ∀ x, Preserves inv (f x)) : Preserves inv (a >>= f) := by
  intro w here
  exact (first w here).bind fun x v kept => second x v kept

theorem Preserves.silently {a : Action σ Unit} (kept : Preserves inv a) :
    Preserves inv (silently a) :=
  kept.bind fun _ => .pure none

/-- The answer of a call does not matter. -/
theorem Preserves.of_silently {a : Action σ Unit} (kept : Preserves inv (Xml.silently a)) :
    Preserves inv a := by
  intro w here
  apply turns_of_after
  rw [← writerAfter_silently]
  exact kept.after here

theorem Preserves.forM {γ : Type} {l : List γ} {f : γ → Action σ Unit}
    (each : ∀ x ∈ l, Preserves inv (f x)) : Preserves inv (l.forM f) := by
  induction l with
  | nil => exact .pure _
  | cons x rest ih =>
    obtain ⟨first, others⟩ := List.forall_mem_cons.mp each
    exact first.bind fun _ => ih others

variable [Stream σ]

/-- The writer is closed whatever became of the body. -/
theorem writerAfter_closing (body : Action σ α) (w : Writer σ) :
    writerAfter (closing body w) = writerAfter (close (writerAfter (body w))) := by
  unfold closing
  cases body w with
  | ok x v =>
    dsimp only [writerAfter]
    cases close v <;> rfl
  | error f v =>
    dsimp only [writerAfter]
    cases close v <;> rfl

theorem Preserves.closing {body : Action σ α} (kept : Preserves inv body)
    (shut : Preserves inv (close : Action σ Unit)) : Preserves inv (closing body) := by
  intro w here
  apply turns_of_after
  rw [writerAfter_closing]
  exact shut.after (kept.after here)

/-- Each of the strokes preserves a property. -/
abbrev AllPreserve (inv : Writer σ → Prop) (strokes : List Stroke) : Prop :=
  ∀ p ∈ strokes, Preserves inv (p.run : Action σ (Option String))

theorem element_preserves {name : String} {attributes : List (String × Value)}
    {body : Action σ Unit} {inner : List Stroke}
    (strokes : AllPreserve inv (elementStrokes name attributes inner))
    (kept : Preserves inv body) : Preserves inv (element name attributes body) := by
  obtain ⟨start, others⟩ := List.forall_mem_cons.mp strokes
  obtain ⟨given, later⟩ := List.forall_mem_append.mp others
  have attributes : ∀ a ∈ attributes, Preserves inv (setAttribute a.1 a.2) := by
    intro a listed
    exact Preserves.of_silently (given _ (List.mem_map_of_mem listed))
  have ending : Preserves inv (endElement : Action σ Unit) :=
    Preserves.of_silently (later _ (List.mem_append_right inner List.mem_cons_self))
  apply Preserves.bind
  · exact Preserves.of_silently start
  · intro _
    apply (Preserves.forM attributes).bind
    exact fun _ => kept.bind fun _ => ending

theorem singleElement_preserves {name : String} {value : Value}
    (strokes : AllPreserve inv [.startElement name, .text value, .endElement]) :
    Preserves inv (singleElement name value) := by
  obtain ⟨start, others⟩ := List.forall_mem_cons.mp strokes
  obtain ⟨filled, last⟩ := List.forall_mem_cons.mp others
  have ending := List.forall_mem_singleton.mp last
  apply Preserves.bind
  · exact Preserves.of_silently start
  · intro _
    apply (Preserves.of_silently filled).bind
    exact fun _ => Preserves.of_silently ending

/-- The stream may be ended, by the writer or beside it. -/
structure EndsPreserve (inv : Writer σ → Prop) : Prop where
  shut : Preserves inv (close : Action σ Unit)
  cut : Preserves inv (closeStream : Action σ Unit)

mutual

/-- What the strokes of a step preserve is preserved by the step. -/
theorem Step.run_preserves (ends : EndsPreserve inv) : (s : Step) → AllPreserve inv s.strokes →
    Preserves inv (s.run : Action σ (Option String))
  | .startDocument, strokes | .endElement, strokes | .endDocument, strokes | .close, strokes
  | .value, strokes | .comment _, strokes | .startElement _, strokes
  | .setAttribute _ _, strokes | .text _, strokes => strokes _ List.mem_cons_self
  | .singleElement _ _, strokes => (singleElement_preserves strokes).silently
  | .emptyElement _ _, strokes => (element_preserves strokes (.pure ())).silently
  | .element _ _ body, strokes => by
    obtain ⟨-, others⟩ := List.forall_mem_cons.mp strokes
    obtain ⟨inner, -⟩ := List.forall_mem_append.mp (List.forall_mem_append.mp others).2
    exact (element_preserves strokes (Step.runAll_preserves ends body inner)).silently
  | .closing body, strokes => by
    obtain ⟨inner, -⟩ := List.forall_mem_append.mp strokes
    exact ((Step.runAll_preserves ends body inner).closing ends.shut).silently
  | .closeStream, _ => ends.cut.silently

theorem Step.runAll_preserves (ends : EndsPreserve inv) : (body : List Step) →
    AllPreserve inv (Step.allStrokes body) → Preserves inv (Step.runAll body : Action σ Unit)
  | [], _ => .pure ()
  | s :: rest, strokes => by
    obtain ⟨first, others⟩ := List.forall_mem_append.mp strokes
    exact (Step.run_preserves ends s first).bind fun _ => Step.runAll_preserves ends rest others

end

/-- What the strokes of a script preserve is preserved by the script. -/
theorem perform_preserves (ends : EndsPreserve inv) {script : List Step}
    (strokes : AllPreserve inv (Step.allStrokes script)) {w : Writer σ} (here : inv w) :
    inv (perform script w).2 := by
  induction script generalizing w with
  | nil => exact here
  | cons s rest ih =>
    obtain ⟨first, others⟩ := List.forall_mem_append.mp strokes
    have kept : inv (outcomeOf s.run w).2 := by
      rw [outcomeOf_snd]
      exact (Step.run_preserves ends s first).after here
    exact ih others kept

end MachineDescriptor.Xml
