import MachineDescriptor.Proofs.Scripts
import MachineDescriptor.Proofs.Sections
import MachineDescriptor.Proofs.Strokes
import MachineDescriptor.Proofs.Tags

/-!
Which finished documents are well-formed. A writer refuses a second root element, a text beside
nodes and every name that is none, but it ends a document without a root element, and it puts an
attribute on a tag that has one of that name. So a document that is ended without a failure is
well-formed if an element was opened and no tag was given a name twice, and only then.
-/
namespace MachineDescriptor.Xml

/-! ## Proper parts make proper nodes -/

def attributesProper (attributes : List (String × String)) : Bool :=
  attributes.all fun a => isName a.1.toList

def Filling.isProper : Filling → Bool
  | .nodes ns => allProper ns
  | _ => true

def Draft.isProper (d : Draft) : Bool :=
  isName d.name.toList && attributesProper d.attributes && d.filling.isProper

def Frame.isProper (f : Frame) : Bool :=
  isName f.name.toList && attributesProper f.attributes && allProper f.children

def Place.isProper : Place → Bool
  | .outside => true
  | .inside d outer => d.isProper && outer.all Frame.isProper

/-- Whether all that a scaffold holds can be read back. -/
def Scaffold.isProper : Scaffold → Bool
  | .blank => true
  | .underway closed place => allProper closed && place.isProper
  | .ended nodes => allProper nodes

theorem Draft.isProper_node {d : Draft} (sound : d.filling.IsSound) (proper : d.isProper = true) :
    d.node.isProper = true := by
  obtain ⟨name, attributes, filling⟩ := d
  obtain ⟨named, inner⟩ := (Bool.and_eq_true _ _).mp proper
  cases filling with
  | nothing | text => exact named
  | nodes ns =>
    have some : (!ns.isEmpty) = true := by simpa using sound.1
    have filled : (!ns.isEmpty && allProper ns) = true := by rw [some]; exact inner
    exact (Bool.and_eq_true _ _).mpr ⟨named, filled⟩

theorem Frame.isProper_resume {f : Frame} {child : Node} (proper : f.isProper = true)
    (inner : child.isProper = true) : (f.resume child).isProper = true := by
  obtain ⟨named, children⟩ := (Bool.and_eq_true _ _).mp proper
  have all : allProper (f.children ++ [child]) = true := by
    simp [allProper_append, children, allProper, inner]
  exact (Bool.and_eq_true _ _).mpr ⟨named, all⟩

theorem isProper_closeAll {d : Draft} {outer : List Frame} (sound : d.filling.IsSound)
    (around : ∀ f ∈ outer, allFilled f.children = true) (proper : d.isProper = true)
    (framed : outer.all Frame.isProper = true) : (closeAll d outer).isProper = true := by
  induction outer generalizing d with
  | nil => exact d.isProper_node sound proper
  | cons f outer ih =>
    obtain ⟨first, others⟩ := List.forall_mem_cons.mp around
    rw [List.all_cons, Bool.and_eq_true] at framed
    have filled := d.isFilled_node sound
    have inner := d.isProper_node sound proper
    exact ih (f.isSound_resume first filled) others (f.isProper_resume framed.1 inner) framed.2

theorem Place.isProper_frames {place : Place} {frames : List Frame}
    (proper : place.isProper = true) (room : place.frames? = some frames) :
    frames.all Frame.isProper = true := by
  cases place with
  | outside =>
    obtain rfl : [] = frames := Option.some.inj room
    rfl
  | inside d outer =>
    obtain ⟨name, attributes, filling⟩ := d
    obtain ⟨ns, has, rfl⟩ := Option.map_eq_some_iff.mp room
    obtain ⟨here, around⟩ := (Bool.and_eq_true _ _).mp proper
    obtain ⟨named, inner⟩ := (Bool.and_eq_true _ _).mp here
    have children : allProper ns = true := by
      cases filling with
      | nothing =>
        obtain rfl : [] = ns := Option.some.inj has
        rfl
      | text => cases has
      | nodes ms =>
        obtain rfl : ms = ns := Option.some.inj has
        exact inner
    have first : (Draft.frame ⟨name, attributes, filling⟩ ns).isProper = true :=
      (Bool.and_eq_true _ _).mpr ⟨named, children⟩
    rw [List.all_cons, first, around]
    rfl

theorem Scaffold.isProper_settle {closed : List Node} {n : Node} {frames : List Frame}
    (proper : allProper closed = true) (inner : n.isProper = true)
    (framed : frames.all Frame.isProper = true) : (settle closed n frames).isProper = true := by
  cases frames with
  | nil => simp [settle, isProper, Place.isProper, allProper_append, proper, allProper, inner]
  | cons f outer =>
    rw [List.all_cons, Bool.and_eq_true] at framed
    simp [settle, isProper, Place.isProper, proper, f.isProper_resume framed.1 inner, framed.2]

/-- A proper part keeps all proper. -/
theorem Scaffold.isProper_take {s s' : Scaffold} {p : Part} (sound : s.IsSound)
    (proper : s.isProper = true) (legal : p.isProper = true) (fits : s.take p = some s') :
    s'.isProper = true := by
  cases s with
  | blank =>
    cases p with
    | startDocument =>
      obtain rfl := Option.some.inj fits
      rfl
    | _ => cases fits
  | ended => simp [take_ended] at fits
  | underway closed place =>
    obtain ⟨-, filled, -⟩ := sound
    obtain ⟨before, here⟩ := (Bool.and_eq_true _ _).mp proper
    cases p with
    | startDocument => cases fits
    | comment text =>
      obtain ⟨frames, room, rfl⟩ := Option.map_eq_some_iff.mp fits
      exact isProper_settle before legal (place.isProper_frames here room)
    | startElement name =>
      simp only [take, enter] at fits
      split at fits
      · cases fits
      · obtain ⟨frames, room, rfl⟩ := Option.map_eq_some_iff.mp fits
        have framed := place.isProper_frames here room
        have named : isName name.toList = true := legal
        simp [isProper, before, Place.isProper, Draft.isProper, Draft.start, named,
          attributesProper, Filling.isProper, framed]
    | setAttribute name value =>
      rcases place with _ | ⟨⟨tag, attributes, filling⟩, outer⟩
      · cases fits
      · cases filling with
        | text | nodes => cases fits
        | nothing =>
          obtain rfl := Option.some.inj fits
          have named : isName name.toList = true := legal
          simp only [Place.isProper, Draft.isProper, attributesProper, Bool.and_eq_true] at here
          simp [isProper, before, Place.isProper, Draft.isProper, attributesProper, here, named,
            List.all_append]
    | text t =>
      cases place with
      | outside => cases fits
      | inside d outer =>
        obtain ⟨begun, room, rfl⟩ := Option.map_eq_some_iff.mp fits
        simp only [Place.isProper, Draft.isProper, Bool.and_eq_true] at here
        simp [isProper, before, Place.isProper, Draft.isProper, here, Filling.isProper]
    | endElement =>
      cases place with
      | outside => cases fits
      | inside d outer =>
        obtain rfl := Option.some.inj fits
        obtain ⟨draft, framed⟩ := (Bool.and_eq_true _ _).mp here
        exact isProper_settle before (d.isProper_node filled.1 draft) framed
    | endDocument =>
      cases place with
      | outside =>
        obtain rfl := Option.some.inj fits
        exact before
      | inside d outer =>
        obtain rfl := Option.some.inj fits
        obtain ⟨draft, framed⟩ := (Bool.and_eq_true _ _).mp here
        have root := isProper_closeAll filled.1 filled.2 draft framed
        simp [isProper, allProper_append, before, allProper, root]

theorem Scaffold.isProper_takeAll {s s' : Scaffold} {ps : List Part} (sound : s.IsSound)
    (proper : s.isProper = true) (legal : ∀ p ∈ ps, p.isProper = true)
    (fits : s.takeAll ps = some s') : s'.isProper = true := by
  induction ps generalizing s with
  | nil =>
    obtain rfl := Option.some.inj fits
    exact proper
  | cons p rest ih =>
    obtain ⟨s₁, first, others⟩ := Option.bind_eq_some_iff.mp fits
    obtain ⟨here, later⟩ := List.forall_mem_cons.mp legal
    exact ih (isSound_take sound first) (isProper_take sound proper here first) later others

/-! ## Strokes -/

open Document.Outline (plainText)

/-- The part that a stroke puts into a document. -/
def Stroke.part? : Stroke → Option Part
  | .startDocument => some .startDocument
  | .endElement => some .endElement
  | .endDocument => some .endDocument
  | .close | .value => none
  | .comment s => some (.comment s)
  | .startElement name => some (.startElement name)
  | .setAttribute name v => some (.setAttribute name (plainText v))
  | .text v => some (.text (plainText v))

variable {σ : Type} [Stream σ]

/-- The parts that are put into a document when strokes are made up to the first that fails. -/
def partsOf : List Stroke → Writer σ → List Part
  | [], _ => []
  | p :: rest, w =>
    match p.run w with
    | .ok _ w => p.part?.toList ++ partsOf rest w
    | .error _ _ => []

/-- The parts that are put into a document when the steps of a script are taken. -/
def partsIn : List Step → Writer σ → List Part
  | [], _ => []
  | s :: rest, w => partsOf s.strokes w ++ partsIn rest (outcomeOf s.run w).2

/-- A run from one scaffold to another by proper parts, which begin the same tags as those that
were accepted. -/
structure Moves (s s' : Scaffold) (accepted : List Part) : Prop where
  parts : ∃ ps, s.takeAll ps = some s' ∧ (∀ p ∈ ps, p.isProper = true) ∧
    ∀ tags, ps.foldl Part.tagged tags = accepted.foldl Part.tagged tags

theorem Moves.refl (s : Scaffold) : Moves s s [] := ⟨[], rfl, List.forall_mem_nil _, fun _ => rfl⟩

theorem Moves.trans {s s' s'' : Scaffold} {as bs : List Part} (first : Moves s s' as)
    (second : Moves s' s'' bs) : Moves s s'' (as ++ bs) := by
  obtain ⟨ps, taken, legal, tagged⟩ := first
  obtain ⟨qs, taken', legal', tagged'⟩ := second
  refine ⟨ps ++ qs, ?_, ?_, ?_⟩
  · rw [Scaffold.takeAll_append, taken]
    exact taken'
  · intro p listed
    rcases List.mem_append.mp listed with here | later
    · exact legal p here
    · exact legal' p later
  · intro tags
    rw [List.foldl_append, List.foldl_append, tagged, tagged']

/-- A scaffold moves on by a part that it accepts. -/
theorem Moves.of_accept {s s' : Scaffold} {p : Part} (fits : s.accept p = some s') :
    Moves s s' [p] := by
  have taken := Scaffold.take_of_accept fits
  have legal : p.isProper = true := by
    cases legal : p.isProper with
    | true => rfl
    | false => simp [Scaffold.accept, legal] at fits
  refine ⟨[p], ?_, ?_, fun _ => rfl⟩
  · rw [Scaffold.takeAll_of_some taken]
    rfl
  · intro q listed
    obtain rfl := List.mem_singleton.mp listed
    exact legal

/-- A writer in memory has come from a scaffold to another one by what was accepted. -/
def Reaches (holds : σ → String → Prop) (indent : String) (s : Scaffold) (accepted : List Part)
    (w : Writer σ) : Prop :=
  ∃ s' stream, w = s'.writer indent none stream ∧ holds stream (s'.text indent) ∧
    Moves s s' accepted

/-- Where a stroke leaves the writer: if it succeeds then past its part, and else where no tag is
another. -/
def Lands {α : Type} (holds : σ → String → Prop) (indent : String) (s : Scaffold)
    (part : Option Part) : EStateM.Result Failure (Writer σ) α → Prop
  | .ok _ w => Reaches holds indent s part.toList w
  | .error _ w => Reaches holds indent s [] w

variable {holds : σ → String → Prop} {indent : String} {s : Scaffold} {stream : σ}

omit [Stream σ] in
theorem Lands.silently {a : Action σ Unit} {w : Writer σ} {part : Option Part}
    (h : Lands holds indent s part (a w)) : Lands holds indent s part (silently a w) := by
  unfold Xml.silently
  cases result : a w with
  | ok x v =>
    rw [bind_of_ok result]
    rw [result] at h
    exact h
  | error f v =>
    rw [bind_of_error result]
    rw [result] at h
    exact h

omit [Stream σ] in
theorem Lands.of_unchanged {α : Type} (held : holds stream (s.text indent)) (part : Option Part)
    {r : EStateM.Result Failure (Writer σ) α} {f : Failure}
    (failed : r = .error f (s.writer indent none stream)) : Lands holds indent s part r := by
  subst failed
  exact ⟨s, stream, rfl, held, .refl s⟩

omit [Stream σ] in
theorem Lands.of_follows {op : Operation} {p : Part} {r : EStateM.Result Failure (Writer σ) Unit}
    (held : holds stream (s.text indent))
    (follows : Follows holds op (s.writer indent none stream) (s.accept p) r) :
    Lands holds indent s (some p) r := by
  cases follows with
  | put s' stream' fits written held' =>
    subst written
    exact ⟨s', stream', rfl, held', .of_accept fits⟩
  | refused reason misfit failed => exact .of_unchanged held _ failed

/-- A value that cannot be written never gets to a tag. -/
theorem setAttribute_of_not {v : Value} (long : v.isWritable = false) (name : String)
    (w : Writer σ) : ∃ f, setAttribute name v w = .error f w := by
  unfold setAttribute
  by_cases begun : w.started = true ∧ w.ended = false
  · rw [bind_of_ok (requireDocument_of_started begun.1 begun.2 _), get_bind]
    obtain ⟨stream, indent, path, stack, started, ended, hasRoot⟩ := w
    rcases stack with _ | ⟨⟨tag, tagOpen, hasText, hasChildren⟩, outer⟩
    · exact ⟨_, rfl⟩
    · cases tagOpen with
      | false => exact ⟨_, rfl⟩
      | true =>
        cases named : isName name.toList with
        | false => exact ⟨_, by simp only [Bool.not_true]; rfl⟩
        | true =>
          simp only [Bool.not_true, Bool.false_eq_true, if_false]
          exact ⟨_, bind_of_error (escaped_of_not long _)⟩
  · have outside : w.started = false ∨ w.ended = true := by
      rw [Decidable.not_and_iff_or_not] at begun
      simpa using begun
    obtain ⟨reason, failed⟩ := requireDocument_of_not outside .setAttribute
    exact ⟨_, bind_of_error failed⟩

/-- A text that cannot be written ends the start tag all the same. -/
theorem text_lands_of_not (faithful : Faithful holds) {v : Value} (long : v.isWritable = false)
    (held : holds stream (s.text indent)) :
    Lands holds indent s (some (.text (plainText v))) (text v (s.writer indent none stream)) := by
  unfold text
  cases s with
  | blank =>
    obtain ⟨reason, failed⟩ :=
      requireDocument_of_not (w := Scaffold.blank.writer indent none stream) (.inl rfl) .text
    exact .of_unchanged held _ (bind_of_error failed)
  | ended nodes =>
    obtain ⟨reason, failed⟩ :=
      requireDocument_of_not (w := (Scaffold.ended nodes).writer indent none stream) (.inr rfl) .text
    exact .of_unchanged held _ (bind_of_error failed)
  | underway closed place =>
    rw [bind_of_ok (requireDocument_of_started rfl rfl _), get_bind]
    rcases place with _ | ⟨d, outer⟩
    · exact .of_unchanged held _ rfl
    · have top : ((Scaffold.underway closed (.inside d outer)).writer indent none stream).stack =
          d.asOpen :: outer.map Frame.asOpen := rfl
      simp only [top]
      cases room : d.filling.text? with
      | none =>
        obtain ⟨name, attributes, filling⟩ := d
        cases filling with
        | nothing | text => cases room
        | nodes ns => exact .of_unchanged held _ rfl
      | some begun =>
        have noNodes : d.asOpen.hasChildren = false := by
          obtain ⟨name, attributes, filling⟩ := d
          cases filling with
          | nothing | text => rfl
          | nodes => cases room
        simp only [noNodes, Bool.false_eq_true, if_false]
        obtain ⟨w, stream', tagEnded, marked, held'⟩ := beginText_of_room none faithful room held
        rw [bind_of_ok tagEnded, bind_of_ok marked, bind_of_error (escaped_of_not long _)]
        refine ⟨_, stream', rfl, held', [.text ""], ?_, ?_, fun _ => rfl⟩
        · simp [Scaffold.takeAll, Scaffold.take, Scaffold.write, room]
        · intro p listed
          obtain rfl := List.mem_singleton.mp listed
          rfl

/-- **A stroke moves the scaffold by its part or leaves the tags alone.** -/
theorem Stroke.run_lands (faithful : Faithful holds) (p : Stroke)
    (held : holds stream (s.text indent)) :
    Lands holds indent s p.part? (p.run (s.writer indent none stream)) := by
  cases p with
  | startDocument => exact (Lands.of_follows held (startDocument_follows none faithful held)).silently
  | endElement => exact (Lands.of_follows held (endElement_follows none faithful held)).silently
  | endDocument => exact (Lands.of_follows held (endDocument_follows none faithful held)).silently
  | close =>
    have closed : Xml.close (s.writer indent none stream) = .ok () (s.writer indent none stream) :=
      close_of_no_path rfl
    refine Lands.silently ?_
    rw [closed]
    exact ⟨s, stream, rfl, held, .refl s⟩
  | value =>
    have same : Reaches holds indent s [] (s.writer indent none stream) :=
      ⟨s, stream, rfl, held, .refl s⟩
    unfold Stroke.run contents
    simp only [bind, EStateM.bind]
    cases Stream.value (s.writer indent none stream).stream with
    | ok text => exact same
    | error f => exact same
  | comment t => exact (Lands.of_follows held (comment_follows none faithful t held)).silently
  | startElement name =>
    exact (Lands.of_follows held (startElement_follows none faithful name held)).silently
  | setAttribute name v =>
    refine Lands.silently ?_
    cases writable : v.isWritable with
    | true =>
      exact .of_follows held
        (setAttribute_follows none faithful name (written_of_isWritable writable) held)
    | false =>
      obtain ⟨f, failed⟩ := setAttribute_of_not writable name (s.writer indent none stream)
      exact .of_unchanged held _ failed
  | text v =>
    refine Lands.silently ?_
    cases writable : v.isWritable with
    | true =>
      exact .of_follows held (text_follows none faithful (written_of_isWritable writable) held)
    | false => exact text_lands_of_not faithful writable held

/-! ## Runs -/

omit [Stream σ] in
theorem Reaches.trans {s' : Scaffold} {as bs : List Part} {w : Writer σ} (first : Moves s s' as)
    (second : Reaches holds indent s' bs w) : Reaches holds indent s (as ++ bs) w := by
  obtain ⟨s'', stream', rfl, held, moves⟩ := second
  exact ⟨s'', stream', rfl, held, first.trans moves⟩

theorem runStrokes_reach (faithful : Faithful holds) (strokes : List Stroke)
    (held : holds stream (s.text indent)) (answer : Option String) :
    Reaches holds indent s (partsOf strokes (s.writer indent none stream))
      (writerAfter (runStrokes strokes answer (s.writer indent none stream))) := by
  induction strokes generalizing s stream answer with
  | nil => exact ⟨s, stream, rfl, held, .refl s⟩
  | cons p rest ih =>
    have lands := p.run_lands faithful held
    rw [runStrokes_cons, partsOf]
    cases result : p.run (s.writer indent none stream) with
    | ok x v =>
      rw [result] at lands
      obtain ⟨s', stream', rfl, held', moves⟩ := lands
      rw [bind_of_ok result]
      exact .trans moves (ih held' x)
    | error f v =>
      rw [result] at lands
      rw [bind_of_error result]
      exact lands

/-- A script brings the writer as far as its accepted parts say. -/
theorem perform_reaches (faithful : Faithful holds) {steps : List Step}
    (own : Step.allOwn steps = true) (held : holds stream (s.text indent)) :
    Reaches holds indent s (partsIn steps (s.writer indent none stream))
      (perform steps (s.writer indent none stream)).2 := by
  induction steps generalizing s stream with
  | nil => exact ⟨s, stream, rfl, held, .refl s⟩
  | cons step rest ih =>
    obtain ⟨first, others⟩ := (Bool.and_eq_true _ _).mp own
    have same := run_strokes step first none (s.writer indent none stream) rfl
    have reached := runStrokes_reach faithful step.strokes held none
    rw [← same, ← outcomeOf_snd] at reached
    obtain ⟨s', stream', after, held', moves⟩ := reached
    have later := ih others held'
    rw [← after] at later
    exact .trans moves later

/-- One root element, and in no start tag the same name twice. -/
def IsWellFormed (nodes : List Node) : Prop :=
  nodes.countP Node.isElement = 1 ∧ ∀ tag ∈ allTags nodes, tag.Nodup

instance (nodes : List Node) : Decidable (IsWellFormed nodes) :=
  inferInstanceAs (Decidable (_ ∧ _))

/-- **A document that was ended is well-formed if and only if its parts are.** After a script whose
last call ended the document without a failure, nodes are on the stream, and they are what is read
from it. Their start tags are those that were begun, with the names that were given to each; there
is one root element if any element was opened, and none otherwise. -/
theorem wellFormed_iff_of_ended (faithful : Faithful holds) {start : σ} (empty : holds start "")
    (indent : String) {steps : List Step} (own : Step.allOwn steps = true) {last : Writer σ}
    (ended : endDocument (perform steps (Writer.inMemory start indent)).2 = .ok () last) :
    ∃ nodes, holds last.stream (declaration ++ Node.renderAll indent 0 nodes) ∧
      ((∀ c ∈ indent.toList, c.isWhitespace = true) →
        readDocument (declaration ++ Node.renderAll indent 0 nodes) = some nodes) ∧
      allTags nodes = tagsGiven (partsIn steps (Writer.inMemory start indent)) ∧
      nodes.countP Node.isElement ≤ 1 ∧
      (IsWellFormed nodes ↔
        (∃ name, .startElement name ∈ partsIn steps (Writer.inMemory start indent)) ∧
        ∀ tag ∈ tagsGiven (partsIn steps (Writer.inMemory start indent)), tag.Nodup) := by
  have held : holds start (Scaffold.blank.text indent) := empty
  obtain ⟨s, stream, after, held', ⟨ps, taken, legal, tagged⟩⟩ :=
    perform_reaches (s := .blank) faithful own held
  change (perform steps (Writer.inMemory start indent)).2 = s.writer indent none stream at after
  change ∀ tags, ps.foldl Part.tagged tags =
    (partsIn steps (Writer.inMemory start indent)).foldl Part.tagged tags at tagged
  rw [after] at ended
  have sound := Scaffold.isSound_takeAll (s := .blank) trivial taken
  have proper := Scaffold.isProper_takeAll (s := .blank) trivial rfl legal taken
  have begun : s.tags = tagsGiven (partsIn steps (Writer.inMemory start indent)) :=
    (Scaffold.tags_takeAll taken).trans (tagged [])
  have follows := endDocument_follows none faithful held'
  rw [ended] at follows
  cases follows with
  | refused reason misfit failed => cases failed
  | put s' stream' fits written held'' =>
    have closes := Scaffold.take_of_accept fits
    have takes : s.takeAll [.endDocument] = some s' := Scaffold.takeAll_of_some closes []
    obtain ⟨nodes, rfl⟩ := Scaffold.ended_of_mem takes List.mem_cons_self
    obtain ⟨-, single⟩ := Scaffold.isSound_take sound closes
    have legible : allProper nodes = true := Scaffold.isProper_take sound proper rfl closes
    have same : allTags nodes = tagsGiven (partsIn steps (Writer.inMemory start indent)) :=
      (Scaffold.tags_take closes).trans begun
    have held : holds last.stream (declaration ++ Node.renderAll indent 0 nodes) := by
      cases written
      exact held''
    refine ⟨nodes, held, fun blank => readDocument_render blank legible single, same, single, ?_⟩
    have opened : nodes.countP Node.isElement = 1 ↔
        ∃ name, .startElement name ∈ partsIn steps (Writer.inMemory start indent) := by
      rw [← tagsGiven_ne_nil_iff, ← same, Ne, allTags_eq_nil_iff]
      omega
    rw [IsWellFormed, opened, same]

/-- A document without a root element is ended too. -/
example : ∃ last, endDocument (perform [.startDocument] (Writer.inMemory Memory.empty "  ")).2 =
    .ok () last ∧ last.stream.text = declaration :=
  ⟨_, rfl, String.empty_append⟩

/-- A script in which an element gets an attribute twice, and a comment is refused. -/
def doubledScript : List Step :=
  [.startDocument, .startElement "a", .setAttribute "k" (.text "1"), .comment "x-",
    .setAttribute "k" (.text "2"), .singleElement "b" (.text "")]

/-- The document with a doubled attribute is ended, read back, and not well-formed. -/
theorem not_wellFormed_doubled :
    ∃ last nodes, endDocument (perform doubledScript (Writer.inMemory Memory.empty "  ")).2 =
        .ok () last ∧
      Memory.Holds last.stream (declaration ++ Node.renderAll "  " 0 nodes) ∧
      readDocument (declaration ++ Node.renderAll "  " 0 nodes) = some nodes ∧
      allTags nodes = [["k", "k"], []] ∧ ¬IsWellFormed nodes := by
  obtain ⟨last, ended⟩ : ∃ last,
      endDocument (perform doubledScript (Writer.inMemory Memory.empty "  ")).2 = .ok () last :=
    ⟨_, rfl⟩
  have given : tagsGiven (partsIn doubledScript (Writer.inMemory Memory.empty "  ")) =
      [["k", "k"], []] := by decide +kernel
  obtain ⟨nodes, held, read, tags, -, iff⟩ :=
    wellFormed_iff_of_ended Memory.faithful Memory.empty_holds "  " (by decide) ended
  rw [given] at tags iff
  have doubled : ¬IsWellFormed nodes := fun well =>
    absurd ((iff.mp well).2 ["k", "k"] List.mem_cons_self) (by simp)
  exact ⟨last, nodes, ended, held, read (List.all_eq_true.mp (by decide)), tags, doubled⟩

end MachineDescriptor.Xml
