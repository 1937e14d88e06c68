import MachineDescriptor.Proofs.Sections
import MachineDescriptor.Proofs.Strokes

/-!
Calls that fail. A call is checked before the stream is asked for anything: what the checks refuse
is reported and changes nothing at all. What the stream rejects afterwards is reported with the
fault as its cause, and the writer stays at its place in the document.
-/
namespace MachineDescriptor.Xml

variable {σ α β : Type}

/-! ## Checks -/

/-- The operation that a stroke calls. To close a writer and to ask for its text are no calls of
the document. -/
def Stroke.call? : Stroke → Option Operation
  | .startDocument => some .startDocument
  | .endElement => some .endElement
  | .endDocument => some .endDocument
  | .comment _ => some .comment
  | .startElement _ => some .startElement
  | .setAttribute .. => some .setAttribute
  | .text _ => some .text
  | .close | .value => none

/-- Whether the value that a stroke puts on paper, if there is one, can be written. -/
def Stroke.isWritable : Stroke → Bool
  | .setAttribute _ v | .text v => v.isWritable
  | _ => true

/-- A reason to refuse something if a condition holds. -/
def objectIf (c : Bool) (reason : String) : Option String := if c then some reason else none

@[simp] theorem objectIf_eq_none {c : Bool} {reason : String} :
    objectIf c reason = none ↔ c = false := by
  cases c <;> simp [objectIf]

namespace Writer

/-- Why nothing can be done outside of the document. -/
def outside? (w : Writer σ) : Option String :=
  (objectIf (!w.started) "document not started").or (objectIf w.ended "document already ended")

@[simp] theorem outside?_eq_none {w : Writer σ} :
    w.outside? = none ↔ w.started = true ∧ w.ended = false := by
  simp [outside?]

/-- Why the innermost element may not have text and children. -/
def mixed? (w : Writer σ) (taken : Open → Bool) : Option String :=
  match w.stack with
  | [] => none
  | top :: _ => objectIf (taken top) ("mixed content is not supported in <" ++ top.name ++ ">")

/-- Whether the start tag of the innermost element is still open. -/
def isTagOpen (w : Writer σ) : Bool :=
  match w.stack with
  | top :: _ => top.tagOpen
  | [] => false

end Writer

/-- Why a stroke is refused at a writer, if it is: the first check that fails. -/
def Stroke.refusal? (p : Stroke) (w : Writer σ) : Option String :=
  match p with
  | .startDocument => objectIf w.started "document already started"
  | .comment s => w.outside?.or
      ((objectIf (!isComment s.toList) "comment text may not contain '--' or end with '-'").or
        (w.mixed? Open.hasText))
  | .startElement name => w.outside?.or
      ((objectIf (!isName name.toList)
          ("invalid element name " ++ String.ofList (Text.quoted name.toList))).or
        ((objectIf (w.stack.isEmpty && w.hasRoot) "document already has a root element").or
          (w.mixed? Open.hasText)))
  | .setAttribute name _ => w.outside?.or
      ((objectIf (!w.isTagOpen)
          ("attribute " ++ String.ofList (Text.quoted name.toList) ++ " outside of a start tag")).or
        (objectIf (!isName name.toList)
          ("invalid attribute name " ++ String.ofList (Text.quoted name.toList))))
  | .text _ => w.outside?.or
      ((objectIf w.stack.isEmpty "text outside of the root element").or
        (w.mixed? Open.hasChildren))
  | .endElement => w.outside?.or (objectIf w.stack.isEmpty "no open element")
  | .endDocument => w.outside?
  | .close | .value => none

/-! ## What comes of a call -/

namespace Writer

/-- The names of the open elements. -/
def names (w : Writer σ) : List String := w.stack.map Open.name

theorem location_of_names {v w : Writer σ} (same : v.names = w.names) :
    v.location = w.location := by
  unfold names at same
  simp only [location, List.map_reverse, same]

theorem depth_of_names {v w : Writer σ} (same : v.names = w.names) : v.depth = w.depth := by
  have lengths := congrArg List.length same
  simpa [names, depth] using lengths

end Writer

/-- The failure of a value that cannot be written. -/
abbrev tooLong : Failure := .fault (.integer .tooLongToWrite)

section

variable [Stream σ]

/-- A fault that a stream answers a text with, or the wish to hand on what it holds back. -/
def Rejects (σ : Type) [Stream σ] (g : Fault) : Prop :=
  ∃ s s' : σ, (∃ u, (Stream.write u : EStateM Fault σ Unit) s = .error g s') ∨
    (Stream.flush : EStateM Fault σ Unit) s = .error g s'

/-- A failure over such a fault: the report of it, or the fault itself where an operation does not
expect it. -/
def IsRejection (f : Failure) (w : Writer σ) : Prop :=
  ∃ op g, Rejects σ g ∧ f = w.rejection op g

/-- How an action fares: something holds of the writer after it, or it fails where the writer stays
in some way, and it fails for the stream or for a value that cannot be written. -/
def Fares (post stays : Writer σ → Prop) (writable : Bool) :
    EStateM.Result Failure (Writer σ) α → Prop
  | .ok _ v => post v
  | .error f v => stays v ∧ (IsRejection f v ∨ writable = false ∧ f = tooLong)

variable {mid post stays : Writer σ → Prop} {writable : Bool}

theorem Fares.bind {a : Action σ α} {f : α → Action σ β} {w : Writer σ}
    (first : Fares mid stays writable (a w))
    (second : ∀ x v, mid v → Fares post stays writable (f x v)) :
    Fares post stays writable ((a >>= f) w) := by
  cases result : a w with
  | ok x v =>
    rw [result] at first
    rw [bind_of_ok result]
    exact second x v first
  | error e v =>
    rw [result] at first
    rw [bind_of_error result]
    exact first

theorem Fares.mono {r : EStateM.Result Failure (Writer σ) α} (fares : Fares mid stays writable r)
    (weaker : ∀ v, mid v → post v) : Fares post stays writable r := by
  cases r with
  | ok x v => exact weaker v fares
  | error f v => exact fares

/-- A step on the stream is done or rejected, and changes nothing but the stream. -/
theorem onStream_fares (op : Operation) {step : EStateM Fault σ Unit}
    (rejects : ∀ s g s', step s = .error g s' → Rejects σ g) {w : Writer σ}
    (kept : ∀ stream, stays { w with stream }) :
    Fares (fun v => ∃ stream, v = { w with stream }) stays writable (onStream op step w) := by
  unfold onStream
  cases result : step w.stream with
  | ok u stream => exact ⟨stream, rfl⟩
  | error g stream => exact ⟨kept stream, .inl ⟨op, g, rejects _ g stream result, rfl⟩⟩

theorem emit_fares (op : Operation) (u : String) {w : Writer σ}
    (kept : ∀ stream, stays { w with stream }) :
    Fares (fun v => ∃ stream, v = { w with stream }) stays writable (emit op u w) := by
  apply onStream_fares op _ kept
  intro s g s' failed
  exact ⟨s, s', .inl ⟨u, failed⟩⟩

/-- What comes of a call: it is refused and nothing is changed, or it fares on. -/
def Settles (op : Operation) (w : Writer σ) (refusal : Option String) (stays : Writer σ → Prop)
    (writable : Bool) (r : EStateM.Result Failure (Writer σ) α) : Prop :=
  match refusal with
  | some reason => r = .error (w.failure op reason none) w
  | none => Fares (fun _ => True) stays writable r

variable {op : Operation} {w : Writer σ} {refusal : Option String}

/-- A check between others. -/
theorem Settles.check {c : Bool} {reason : String} {a : Action σ Unit}
    (rest : c = false → Settles op w refusal stays writable (a w)) :
    Settles op w ((objectIf c reason).or refusal) stays writable
      ((if c = true then refuse op reason else a) w) := by
  cases c with
  | true => rfl
  | false => exact rest rfl

/-- The last check. -/
theorem Settles.lastCheck {c : Bool} {reason : String} {a : Action σ Unit}
    (rest : c = false → Fares (fun _ => True) stays writable (a w)) :
    Settles op w (objectIf c reason) stays writable
      ((if c = true then refuse op reason else a) w) := by
  cases c with
  | true => rfl
  | false => exact rest rfl

/-- What is done within the document. -/
theorem Settles.within {f : Unit → Action σ Unit}
    (rest : w.started = true → w.ended = false →
      Settles op w refusal stays writable (f () w)) :
    Settles op w (w.outside?.or refusal) stays writable ((requireDocument op >>= f) w) := by
  cases started : w.started with
  | false =>
    have refused : requireDocument op w =
        .error (w.failure op "document not started" none) w := by
      simp [requireDocument, get_bind, started, refuse]
    rw [bind_of_error refused]
    simp [Settles, Writer.outside?, objectIf, started]
  | true =>
    cases ended : w.ended with
    | true =>
      have refused : requireDocument op w =
          .error (w.failure op "document already ended" none) w := by
        simp [requireDocument, get_bind, started, ended, refuse]
      rw [bind_of_error refused]
      simp [Settles, Writer.outside?, objectIf, started, ended]
    | false =>
      rw [bind_of_ok (requireDocument_of_started started ended op)]
      simpa [Writer.outside?, objectIf, started, ended] using rest started ended

/-! ## Calls -/

section

variable {names : List String}

omit [Stream σ] in
theorem modifyTop_names {f : Open → Open} (named : ∀ e, (f e).name = e.name) (v : Writer σ) :
    ∃ v', modifyTop f v = .ok () v' ∧ v'.names = v.names := by
  refine ⟨_, modify_apply _ _, ?_⟩
  cases stack : v.stack with
  | nil => rfl
  | cons top rest => simp [Writer.names, stack, named]

/-- The writer stays within the same elements. -/
abbrev FaresWithin (names : List String) (writable : Bool)
    (r : EStateM.Result Failure (Writer σ) α) : Prop :=
  Fares (fun v => v.names = names) (fun v => v.names = names) writable r

theorem modifyTop_within {f : Open → Open} (named : ∀ e, (f e).name = e.name) {v : Writer σ}
    (here : v.names = names) : FaresWithin names writable (modifyTop f v) := by
  obtain ⟨v', done, same⟩ := modifyTop_names named v
  rw [done]
  exact same.trans here

theorem emit_within (op : Operation) (u : String) {v : Writer σ} (here : v.names = names) :
    FaresWithin names writable (emit op u v) := by
  have emitted : Fares (fun v' => ∃ stream, v' = { v with stream }) (fun v' => v'.names = names)
      writable (emit op u v) := emit_fares op u fun stream => here
  apply emitted.mono
  rintro v' ⟨stream, rfl⟩
  exact here

theorem closeStartTag_within (op : Operation) (ending : String) {v : Writer σ}
    (here : v.names = names) : FaresWithin names writable (closeStartTag op ending v) := by
  unfold closeStartTag
  rw [get_bind]
  cases v.stack with
  | nil => exact here
  | cons top rest =>
    by_cases tagOpen : top.tagOpen = true
    · simp only [tagOpen, if_true]
      apply Fares.bind (modifyTop_within _ here)
      · intro x v' here'
        exact emit_within op ending here'
      · intro e
        rfl
    · simp only [tagOpen]
      exact here

theorem escaped_within (value : Value) {v : Writer σ} (here : v.names = names) :
    FaresWithin names value.isWritable (escaped value v) := by
  cases writable : value.isWritable with
  | true =>
    rw [escaped_of_written (written_of_isWritable writable)]
    exact here
  | false =>
    rw [escaped_of_not writable]
    exact ⟨here, .inr ⟨rfl, rfl⟩⟩

/-- Something is put into the innermost element after the check that it has no text. -/
theorem Settles.child {f : Unit → Action σ Unit}
    (rest : ∀ v, v.names = w.names →
      Fares (fun _ => True) (fun v => v.names = w.names) writable (f () v)) :
    Settles op w (w.mixed? Open.hasText) (fun v => v.names = w.names) writable
      ((beginChild op >>= f) w) := by
  cases stack : w.stack with
  | nil =>
    have begun : beginChild op w = .ok () w := by
      simp only [beginChild, get_bind, stack]
      rfl
    rw [bind_of_ok begun]
    simpa only [Settles, Writer.mixed?, stack] using rest w rfl
  | cons parent outer =>
    cases taken : parent.hasText with
    | true =>
      have refused : beginChild op w = .error (w.failure op
          ("mixed content is not supported in <" ++ parent.name ++ ">") none) w := by
        simp only [beginChild, get_bind, stack, taken, if_true]
        rfl
      rw [bind_of_error refused]
      simp only [Settles, Writer.mixed?, stack, taken, objectIf, if_true]
    | false =>
      simp only [Settles, Writer.mixed?, stack, taken, objectIf, Bool.false_eq_true, if_false]
      have begun : FaresWithin w.names writable (beginChild op w) := by
        simp only [beginChild, get_bind, stack, taken, Bool.false_eq_true, if_false]
        apply Fares.bind (closeStartTag_within op ">\n" rfl)
        intro x v same
        apply modifyTop_within _ same
        intro e
        rfl
      exact begun.bind fun x v same => rest v same

/-- The last step of a call that puts something on paper. -/
theorem emit_ends (op : Operation) (u : String) {v : Writer σ} (here : v.names = names) :
    Fares (fun _ => True) (fun v => v.names = names) writable (emit op u v) :=
  (emit_within op u here).mono fun _ _ => trivial

end

theorem startDocument_settles (w : Writer σ) :
    Settles .startDocument w (Stroke.startDocument.refusal? w) (fun v => v.names = w.names)
      writable (startDocument w) := by
  unfold startDocument
  rw [get_bind]
  apply Settles.lastCheck
  intro fresh
  rw [bind_of_ok (modify_apply _ _)]
  exact emit_ends _ _ rfl

theorem comment_settles (w : Writer σ) (s : String) :
    Settles .comment w ((Stroke.comment s).refusal? w) (fun v => v.names = w.names) writable
      (comment s w) := by
  unfold comment
  apply Settles.within
  intro started ended
  apply Settles.check
  intro proper
  apply Settles.child
  intro v same
  rw [get_bind]
  exact emit_ends _ _ same

theorem startElement_settles (w : Writer σ) (name : String) :
    Settles .startElement w ((Stroke.startElement name).refusal? w) (fun v => v.names = w.names)
      writable (startElement name w) := by
  unfold startElement
  apply Settles.within
  intro started ended
  rw [get_bind]
  apply Settles.check
  intro proper
  apply Settles.check
  intro root
  apply Settles.child
  intro v same
  rw [get_bind]
  -- the name of the element comes to the others only after it is on paper
  apply Fares.bind (emit_within _ _ same)
  intro x v' same'
  trivial

theorem setAttribute_settles (w : Writer σ) (name : String) (value : Value) :
    Settles .setAttribute w ((Stroke.setAttribute name value).refusal? w)
      (fun v => v.names = w.names) value.isWritable (setAttribute name value w) := by
  unfold setAttribute
  apply Settles.within
  intro started ended
  rw [get_bind]
  apply Settles.check
  intro tagOpen
  apply Settles.lastCheck
  intro proper
  apply Fares.bind (escaped_within value rfl)
  intro text v same
  exact emit_ends _ _ same

theorem text_settles (w : Writer σ) (value : Value) :
    Settles .text w ((Stroke.text value).refusal? w) (fun v => v.names = w.names)
      value.isWritable (text value w) := by
  unfold text
  apply Settles.within
  intro started ended
  rw [get_bind]
  cases stack : w.stack with
  | nil =>
    simp only [Writer.mixed?, stack]
    rfl
  | cons top rest =>
    simp only [Writer.mixed?, stack]
    apply Settles.lastCheck
    intro room
    apply Fares.bind (closeStartTag_within _ _ rfl)
    intro x v same
    apply Fares.bind (modifyTop_within _ same)
    · intro x' v' same'
      apply Fares.bind (escaped_within value same')
      intro text v'' same''
      exact emit_ends _ _ same''
    · intro e
      rfl

theorem endElement_settles (w : Writer σ) :
    Settles .endElement w (Stroke.endElement.refusal? w) (fun v => v.names = w.names)
      writable (endElement w) := by
  unfold endElement
  apply Settles.within
  intro started ended
  rw [get_bind]
  cases stack : w.stack with
  | nil => rfl
  | cons top rest =>
    -- the name of the element leaves the others only after its end is on paper
    apply Fares.bind (emit_within _ _ rfl)
    intro x v same
    trivial

/-- Where there is an open element, closing it fails for the stream only. -/
theorem endElement_fares {v : Writer σ} {top : Open} {rest : List Open}
    (started : v.started = true) (ended : v.ended = false) (stack : v.stack = top :: rest) :
    Fares (fun v' => ∃ stream, v' = { v with stream, stack := rest }) (fun _ => True) writable
      (endElement v) := by
  unfold endElement
  rw [bind_of_ok (requireDocument_of_started started ended _), get_bind]
  simp only [stack]
  apply Fares.bind (emit_fares _ _ fun stream => trivial)
  rintro x v' ⟨stream, rfl⟩
  exact ⟨stream, by rw [stack]; rfl⟩

/-- Closing all elements fails for the stream only. -/
theorem endElements_fares (n : Nat) {v : Writer σ} (started : v.started = true)
    (ended : v.ended = false) (deep : v.stack.length = n) :
    Fares (fun _ => True) (fun _ => True) writable (endElements n v) := by
  induction n generalizing v with
  | zero => trivial
  | succ n ih =>
    obtain ⟨top, rest, stack⟩ := List.exists_cons_of_length_eq_add_one deep
    unfold endElements
    apply Fares.bind (endElement_fares started ended stack)
    rintro x v' ⟨stream, rfl⟩
    rw [stack] at deep
    exact ih started ended (Nat.succ.inj deep)

theorem endDocument_settles (w : Writer σ) :
    Settles .endDocument w (Stroke.endDocument.refusal? w) (fun _ => True)
      writable (endDocument w) := by
  have only : Stroke.endDocument.refusal? w = w.outside?.or none := Option.or_none.symm
  rw [only]
  unfold endDocument
  apply Settles.within
  intro started ended
  rw [get_bind]
  apply Fares.bind (endElements_fares w.stack.length started ended rfl)
  intro x v _
  rw [bind_of_ok (modify_apply _ _)]
  refine (onStream_fares _ ?_ fun stream => trivial).mono fun _ _ => trivial
  intro s g s' failed
  exact ⟨s, s', .inr failed⟩

/-! ## Strokes -/

theorem Settles.silently {a : Action σ Unit} {stays' : Writer σ → Prop}
    (settles : Settles op w refusal stays writable (a w)) (weaker : ∀ v, stays v → stays' v) :
    Settles op w refusal stays' writable (silently a w) := by
  cases refusal with
  | some reason => exact bind_of_error settles
  | none =>
    unfold Xml.silently
    cases result : a w with
    | ok x v =>
      rw [bind_of_ok result]
      trivial
    | error f v =>
      simp only [Settles, result] at settles
      rw [bind_of_error result]
      exact ⟨weaker v settles.1, settles.2⟩

/-- **A call is refused by the first of its checks that fails, or only the stream makes it fail.** -/
theorem Stroke.run_settles (p : Stroke) (called : p.call? = some op) (w : Writer σ) :
    Settles op w (p.refusal? w) (fun v => p ≠ .endDocument → v.names = w.names) p.isWritable
      (p.run w) := by
  cases p with
  | close | value => cases called
  | endDocument =>
    cases called
    exact (endDocument_settles w).silently fun v _ other => absurd rfl other
  | startDocument =>
    cases called
    exact (startDocument_settles w).silently fun v same _ => same
  | endElement =>
    cases called
    exact (endElement_settles w).silently fun v same _ => same
  | comment s =>
    cases called
    exact (comment_settles w s).silently fun v same _ => same
  | startElement name =>
    cases called
    exact (startElement_settles w name).silently fun v same _ => same
  | setAttribute name value =>
    cases called
    exact (setAttribute_settles w name value).silently fun v same _ => same
  | text value =>
    cases called
    exact (text_settles w value).silently fun v same _ => same

/-- A call that fails is refused and changes nothing, or it stays at its place. -/
theorem Stroke.fails_cases (p : Stroke) (called : p.call? = some op) {w w' : Writer σ}
    {f : Failure} (failed : p.run w = .error f w') :
    (∃ reason, p.refusal? w = some reason ∧ f = w.failure op reason none ∧ w' = w) ∨
      (IsRejection f w' ∨ p.isWritable = false ∧ f = tooLong) ∧
        (p ≠ .endDocument → w'.names = w.names) := by
  have settles := p.run_settles called w
  rw [failed] at settles
  cases refused : p.refusal? w with
  | some reason =>
    rw [refused] at settles
    obtain ⟨rfl, rfl⟩ := EStateM.Result.error.inj settles
    exact .inl ⟨reason, rfl, rfl, rfl⟩
  | none =>
    rw [refused] at settles
    exact .inr ⟨settles.2, settles.1⟩

end

/-- A stroke fails in some way whatever the stream would answer, so that it is not even asked. -/
def Stroke.FailsUnasked (p : Stroke) (w : Writer σ) (f : Failure) (w' : Writer σ) : Prop :=
  ∀ [Stream σ], p.run w = .error f w'

/-- A stream that takes everything and changes nothing. -/
abbrev idleStream (σ : Type) : Stream σ :=
  ⟨fun _ => pure (), pure (), pure (), fun _ => false, fun _ => .ok ""⟩

theorem not_rejects_idle (g : Fault) : ¬@Rejects σ (idleStream σ) g := by
  rintro ⟨s, s', ⟨u, failed⟩ | failed⟩ <;> cases failed

theorem Stroke.failsUnasked_of_refusal {p : Stroke} {op : Operation} (called : p.call? = some op)
    {w : Writer σ} {reason : String} (refused : p.refusal? w = some reason) :
    p.FailsUnasked w (w.failure op reason none) w := by
  intro stream
  have settles := p.run_settles called w
  rw [refused] at settles
  exact settles

/-- What fails without the stream is what the checks refuse, or a value cannot be written. -/
theorem Stroke.refusal_of_failsUnasked {p : Stroke} {op : Operation} (called : p.call? = some op)
    {w w' : Writer σ} {f : Failure} (unasked : p.FailsUnasked w f w') (other : f ≠ tooLong) :
    ∃ reason, p.refusal? w = some reason ∧ f = w.failure op reason none ∧ w' = w := by
  let idle := idleStream σ
  rcases p.fails_cases called unasked with refused | ⟨⟨-, g, rejects, -⟩ | ⟨-, long⟩, -⟩
  · exact refused
  · exact absurd rejects (not_rejects_idle g)
  · exact absurd long other

/-! ## Failures in place -/

/-- A failure that the writer reports about an operation: its kind, its exit code, the name of the
operation and the place in the document. -/
def Reports (op : Operation) (w : Writer σ) (f : Failure) : Prop :=
  ∃ r, f = .report r ∧ r.kind = .writer ∧ r.code = 3 ∧
    r.context.entries.lookup "op" = some (.text op.name) ∧
    r.context.entries.lookup "where" = some (.text w.location)

theorem reports_failure (w : Writer σ) (op : Operation) (reason : String)
    (cause : Option Report.Cause) : Reports op w (w.failure op reason cause) := by
  refine ⟨_, rfl, rfl, rfl, ?_, ?_⟩
  · simp only [Report.ofMessage, Writer.contextOf]
    cases w.path <;> rfl
  · simp only [Report.ofMessage, Writer.contextOf]
    cases w.path <;> rfl

/-- What the failures of a call are like: where the stream is not asked, the call is reported and
nothing is changed, unless a value cannot be written; else the failure tells what the stream
rejected. Only the end of the document may leave the place where it was called. -/
structure FailsInPlace [Stream σ] (p : Stroke) (op : Operation) (w : Writer σ) : Prop where
  refused : ∀ f w', p.FailsUnasked w f w' → f ≠ tooLong → w' = w ∧ Reports op w f
  rejected : ∀ f w', p.run w = .error f w' →
    p.FailsUnasked w f w' ∨ IsRejection f w' ∨ p.isWritable = false ∧ f = tooLong
  stays : p ≠ .endDocument → ∀ f w', p.run w = .error f w' →
    w'.location = w.location ∧ w'.depth = w.depth

theorem failsInPlace [Stream σ] {p : Stroke} {op : Operation} (called : p.call? = some op)
    (w : Writer σ) : FailsInPlace p op w where
  refused f w' unasked other := by
    obtain ⟨reason, -, rfl, rfl⟩ := Stroke.refusal_of_failsUnasked called unasked other
    exact ⟨rfl, reports_failure _ op reason none⟩
  rejected f w' failed := by
    rcases p.fails_cases called failed with ⟨reason, refused, rfl, rfl⟩ | ⟨others, -⟩
    · exact .inl (Stroke.failsUnasked_of_refusal called refused)
    · exact .inr others
  stays other f w' failed := by
    rcases p.fails_cases called failed with ⟨reason, -, -, rfl⟩ | ⟨-, stays⟩
    · exact ⟨rfl, rfl⟩
    · have same := stays other
      exact ⟨Writer.location_of_names same, Writer.depth_of_names same⟩

end MachineDescriptor.Xml
