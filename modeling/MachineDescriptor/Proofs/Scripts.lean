import MachineDescriptor.Proofs.Following
import MachineDescriptor.Xml.Script

/-!
Runs of a writer in memory. Calls are made one after the other, also after one that was refused, and
a call that consists of several parts stops at the first part that is refused. What is on paper at
the end of the document is the written form of the forest that the accepted parts describe.
-/
namespace MachineDescriptor.Xml

/-- A call of a writer: a single part, an element with a text, or an element with attributes. -/
inductive Call where
  | part (p : Part)
  | singleElement (name text : String)
  | emptyElement (name : String) (attributes : List (String × String))
    (distinct : (attributes.map Prod.fst).Nodup)

/-- The parts that a call consists of. -/
def Call.parts : Call → List Part
  | .part p => [p]
  | .singleElement name text => [.startElement name, .text text, .endElement]
  | .emptyElement name attributes _ =>
    .startElement name :: (attributes.map fun a => .setAttribute a.1 a.2) ++ [.endElement]

def Part.step : Part → Step
  | .startDocument => .startDocument
  | .comment s => .comment s
  | .startElement name => .startElement name
  | .setAttribute name value => .setAttribute name (.text value)
  | .text s => .text (.text s)
  | .endElement => .endElement
  | .endDocument => .endDocument

/-- The step of a script that makes a call. -/
def Call.step : Call → Step
  | .part p => p.step
  | .singleElement name text => .singleElement name (.text text)
  | .emptyElement name attributes distinct =>
    .emptyElement name ⟨attributes.map fun a => (a.1, .text a.2), by
      simpa [List.map_map, Function.comp_def] using distinct⟩

variable {σ : Type} [Stream σ]

/-- The parts that are accepted when parts are put on paper up to the first that fails. -/
def acceptedParts : List Part → Writer σ → List Part
  | [], _ => []
  | p :: rest, w =>
    match p.run w with
    | .ok _ w => p :: acceptedParts rest w
    | .error _ _ => []

/-- The parts that are accepted when calls are made one after the other. -/
def accepted : List Call → Writer σ → List Part
  | [], _ => []
  | c :: rest, w => acceptedParts c.parts w ++ accepted rest (outcomeOf c.step.run w).2

/-- Puts parts on paper up to the first that fails. -/
def runParts : List Part → Action σ Unit
  | [] => pure ()
  | p :: rest => do
    p.run
    runParts rest

theorem runParts_append (ps qs : List Part) :
    (runParts (ps ++ qs) : Action σ Unit) = runParts ps >>= fun _ => runParts qs := by
  induction ps with
  | nil => simp [runParts]
  | cons p rest ih => simp [runParts, ih]

theorem runParts_attributes (attributes : List (String × String)) :
    (runParts (attributes.map fun a => .setAttribute a.1 a.2) : Action σ Unit) =
      (attributes.map fun a => (a.1, Value.text a.2)).forM fun a => setAttribute a.1 a.2 := by
  induction attributes with
  | nil => rfl
  | cons a rest ih =>
    simp only [List.map_cons, runParts, ih, Part.run]
    rfl

/-- A call is the same as its parts. -/
theorem run_step (c : Call) :
    (c.step.run : Action σ (Option String)) = silently (runParts c.parts) := by
  cases c with
  | part p => cases p <;> simp [Call.step, Part.step, Step.run, Call.parts, runParts, Part.run]
  | singleElement name text =>
    simp [Call.step, Step.run, Call.parts, runParts, Part.run, singleElement]
  | emptyElement name attributes distinct =>
    simp only [Call.step, Step.run, Call.parts, List.cons_append, runParts, runParts_append,
      runParts_attributes, emptyElement, element]
    simp [Part.run]

theorem Scaffold.take_of_accept {s s' : Scaffold} {p : Part} (h : s.accept p = some s') :
    s.take p = some s' := by
  unfold accept at h
  split at h
  · exact h
  · cases h

variable {holds : σ → String → Prop} {indent : String} (path : Option String)

/-- Parts that are put on paper up to the first that fails bring the writer as far as the accepted
ones among them say. -/
theorem runParts_follow (faithful : Faithful holds) (ps : List Part) {s : Scaffold} {stream : σ}
    (h : holds stream (s.text indent)) :
    ∃ s' stream', s.takeAll (acceptedParts ps (s.writer indent path stream)) = some s' ∧
      holds stream' (s'.text indent) ∧
      (runParts ps (s.writer indent path stream) = .ok () (s'.writer indent path stream') ∨
        ∃ r, runParts ps (s.writer indent path stream) =
          .error (.report r) (s'.writer indent path stream') ∧ r.kind = .writer) := by
  induction ps generalizing s stream with
  | nil => exact ⟨s, stream, rfl, h, .inl rfl⟩
  | cons p rest ih =>
    cases run_follows path faithful p h with
    | put s₁ stream₁ fits written held =>
      obtain ⟨s', stream', taken, held', outcome⟩ := ih held
      refine ⟨s', stream', ?_, held', ?_⟩
      · simpa [acceptedParts, written, Scaffold.takeAll, Scaffold.take_of_accept fits] using taken
      · simpa [runParts, bind_of_ok written] using outcome
    | refused reason misfit failed =>
      refine ⟨s, stream, ?_, h, .inr ⟨_, bind_of_error failed, rfl⟩⟩
      simp [acceptedParts, failed, Scaffold.takeAll]

omit [Stream σ] in
theorem outcomeOf_silently_of_ok {a : Action σ Unit} {w v : Writer σ} (h : a w = .ok () v) :
    outcomeOf (silently a) w = (.ok none, v) := by
  simp only [outcomeOf, silently, bind_of_ok h]
  rfl

omit [Stream σ] in
theorem outcomeOf_silently_of_error {a : Action σ Unit} {w v : Writer σ} {f : Failure}
    (h : a w = .error f v) : outcomeOf (silently a) w = (.error f, v) := by
  simp only [outcomeOf, silently, bind_of_error h]

/-- A run brings the writer as far as its accepted parts say, and fails at no call in another way
than by a report of the writer. -/
theorem perform_follows (faithful : Faithful holds) (calls : List Call) {s : Scaffold} {stream : σ}
    (h : holds stream (s.text indent)) :
    ∃ s' stream', s.takeAll (accepted calls (s.writer indent path stream)) = some s' ∧
      holds stream' (s'.text indent) ∧
      (perform (calls.map Call.step) (s.writer indent path stream)).2 =
        s'.writer indent path stream' ∧
      ∀ sight ∈ (perform (calls.map Call.step) (s.writer indent path stream)).1,
        ∀ f, sight.outcome = .error f → ∃ r, f = .report r ∧ r.kind = .writer := by
  induction calls generalizing s stream with
  | nil => exact ⟨s, stream, rfl, h, rfl, by simp [perform]⟩
  | cons c rest ih =>
    obtain ⟨s₁, stream₁, taken₁, held₁, outcome⟩ := runParts_follow path faithful c.parts h
    obtain ⟨answer, stepped, reported⟩ : ∃ answer,
        outcomeOf c.step.run (s.writer indent path stream) =
          (answer, s₁.writer indent path stream₁) ∧
        ∀ f, answer = .error f → ∃ r, f = .report r ∧ r.kind = .writer := by
      rw [run_step]
      rcases outcome with done | ⟨r, failed, kind⟩
      · exact ⟨_, outcomeOf_silently_of_ok done, by simp⟩
      · refine ⟨_, outcomeOf_silently_of_error failed, ?_⟩
        rintro f ⟨⟩
        exact ⟨r, rfl, kind⟩
    obtain ⟨s₂, stream₂, taken₂, held₂, last, reports⟩ := ih held₁
    refine ⟨s₂, stream₂, ?_, held₂, ?_, ?_⟩
    · simp [accepted, stepped, Scaffold.takeAll_append, taken₁, taken₂]
    · simp [perform, stepped, last]
    · simp only [List.map_cons, perform, stepped]
      exact List.forall_mem_cons.mpr ⟨reported, reports⟩

/-- **What a writer in memory puts on paper is a forest.** If the end of the document was accepted
in a run, the text is the declaration and the written form of the nodes that the accepted parts
describe. At most one of them is an element, and every element in them has a text, or nodes, or
nothing. No call fails in another way than by a report of the writer. -/
theorem contents_of_ended (indent : String) (calls : List Call)
    (ended : .endDocument ∈ accepted calls (Writer.inMemory Memory.empty indent)) :
    ∃ nodes, forest (accepted calls (Writer.inMemory Memory.empty indent)) = some nodes ∧
      (outcomeOf contents
        (perform (calls.map Call.step) (Writer.inMemory Memory.empty indent)).2).1 =
        .ok (declaration ++ Node.renderAll indent 0 nodes) ∧
      nodes.countP Node.isElement ≤ 1 ∧ allFilled nodes = true ∧
      ∀ sight ∈ (perform (calls.map Call.step) (Writer.inMemory Memory.empty indent)).1,
        ∀ f, sight.outcome = .error f → ∃ r, f = .report r ∧ r.kind = .writer := by
  have start : Writer.inMemory Memory.empty indent =
      Scaffold.blank.writer indent none Memory.empty := rfl
  rw [start] at ended ⊢
  have empty : Memory.Holds Memory.empty (Scaffold.blank.text indent) := Memory.empty_holds
  obtain ⟨s, stream, taken, held, last, reports⟩ :=
    perform_follows none Memory.faithful calls empty
  obtain ⟨nodes, rfl⟩ := Scaffold.ended_of_mem taken ended
  obtain ⟨filled, single⟩ := Scaffold.isSound_takeAll (s := .blank) trivial taken
  refine ⟨nodes, by simp [forest, taken, Scaffold.nodes?], ?_, single, filled, reports⟩
  rw [last]
  simp only [outcomeOf, contents, Stream.value, Scaffold.writer, Memory.value_of_holds held]
  rfl

/-- Calls of which some are refused, one of them half-way, and which leave two elements open. -/
def someCalls : List Call :=
  [.part .endElement, .part .startDocument, .part (.comment "a--b"), .part (.comment " x "),
    .part (.startElement "a"), .part (.setAttribute "k" "<v>"),
    .emptyElement "b" [("c", "1"), ("d", "2")] (by decide), .part (.text "no"),
    .part (.startElement "t"), .part (.text ""), .part (.text "x&"), .singleElement "u" "v",
    .part .endDocument, .part (.comment "late")]

theorem contents_of_someCalls :
    .endDocument ∈ accepted someCalls (Writer.inMemory Memory.empty "  ") ∧
    ∃ nodes, forest (accepted someCalls (Writer.inMemory Memory.empty "  ")) = some nodes ∧
      (outcomeOf contents
        (perform (someCalls.map Call.step) (Writer.inMemory Memory.empty "  ")).2).1 =
        .ok (declaration ++ Node.renderAll "  " 0 nodes) := by
  have ended : .endDocument ∈ accepted someCalls (Writer.inMemory Memory.empty "  ") := by decide
  obtain ⟨nodes, described, written, -⟩ := contents_of_ended "  " someCalls ended
  exact ⟨ended, nodes, described, written⟩

end MachineDescriptor.Xml
