import Mathlib.Logic.Relation
import MachineDescriptor.Proofs.WholeElements

/-!
The open elements of a writer. `Change` says what a single call can do to a writer, also when a
write fails in the middle of it; the state of the open elements (`Sound`) is kept by each change and
so by every course of calls, on every stream. A script of steps comes to a course of calls, because
each of its steps is made of calls up to the first that fails.
-/
namespace MachineDescriptor.Xml

variable {σ α β : Type}

/-! ## The state of the open elements -/

/-- How many of the three marks an open element has. -/
def Open.marks (e : Open) : Nat := e.tagOpen.toNat + e.hasText.toNat + e.hasChildren.toNat

/-- The state of a writer between two calls. An element has at most one mark, and exactly one as
long as the stream is intact; the elements around the innermost one are those that have children. -/
structure Sound (intact : σ → Prop) (w : Writer σ) : Prop where
  marks : ∀ e ∈ w.stack, e.marks ≤ 1
  marked : intact w.stream → ∀ e ∈ w.stack, e.marks = 1
  outer : ∀ e ∈ w.stack.tail, e.hasChildren = true ∧ e.tagOpen = false
  named : ∀ e ∈ w.stack, isName e.name.toList = true
  within : w.stack ≠ [] → w.started = true ∧ w.ended = false ∧ w.hasRoot = true
  ended : w.ended = true → w.stack = []

/-- What a call can do to a writer. The stream may change, but is not intact again once it was not;
a start tag that is closed although the element got nothing is left by a write that failed. -/
inductive Change (intact : σ → Prop) : Writer σ → Writer σ → Prop
  | stream {w} (s : σ) (calm : intact s → intact w.stream) : Change intact w (w.on s)
  | start {w} (fresh : w.started = false) : Change intact w { w with started := true }
  | torn {w} {top : Open} {rest : List Open} (stack : w.stack = top :: rest)
      (broken : ¬intact w.stream) :
      Change intact w { w with stack := { top with tagOpen := false } :: rest }
  | child {w} (room : w.mixed? Open.hasText = none) : Change intact w { w with stack := w.parents }
  | opened {w} {name : String} (started : w.started = true) (ended : w.ended = false)
      (proper : isName name.toList = true) (root : w.stack = [] → w.hasRoot = false)
      (parent : ∀ e ∈ w.stack.head?, e.hasChildren = true ∧ e.tagOpen = false) :
      Change intact w { w with stack := ⟨name, true, false, false⟩ :: w.stack, hasRoot := true }
  | filled {w} {top : Open} {rest : List Open} (stack : w.stack = top :: rest)
      (room : top.hasChildren = false) :
      Change intact w { w with stack := ⟨top.name, false, true, false⟩ :: rest }
  | closed {w} {top : Open} {rest : List Open} (stack : w.stack = top :: rest) :
      Change intact w { w with stack := rest }
  | finish {w} (empty : w.stack = []) : Change intact w { w with ended := true }

variable {intact : σ → Prop} {w v : Writer σ}

/-- The innermost element may be marked anew. -/
theorem Sound.replace (sound : Sound intact w) {top top' : Open} {rest : List Open}
    (stack : w.stack = top :: rest) (named : top'.name = top.name) (few : top'.marks ≤ 1)
    (one : intact w.stream → top'.marks = 1) :
    Sound intact { w with stack := top' :: rest } := by
  obtain ⟨stream, indent, path, _, started, ended, hasRoot⟩ := w
  obtain rfl := stack
  constructor
  · exact List.forall_mem_cons.mpr ⟨few, (List.forall_mem_cons.mp sound.marks).2⟩
  · intro still
    exact List.forall_mem_cons.mpr ⟨one still, (List.forall_mem_cons.mp (sound.marked still)).2⟩
  · exact sound.outer
  · obtain ⟨first, others⟩ := List.forall_mem_cons.mp sound.named
    exact List.forall_mem_cons.mpr ⟨named ▸ first, others⟩
  · intro _
    exact sound.within (List.cons_ne_nil top rest)
  · intro past
    cases sound.ended past

/-- An element that has no text may get a child. -/
theorem Sound.parents (sound : Sound intact w) (room : w.mixed? Open.hasText = none) :
    Sound intact { w with stack := w.parents } := by
  cases stack : w.stack with
  | nil =>
    have same : { w with stack := w.parents } = w := by
      simp only [Writer.parents, stack]
      rw [← stack]
    rwa [same]
  | cons top rest =>
    have parents : w.parents = { top with tagOpen := false, hasChildren := true } :: rest := by
      simp only [Writer.parents, stack]
    have untaken : top.hasText = false := by
      rw [Writer.mixed?, stack] at room
      exact objectIf_eq_none.mp room
    have one : Open.marks { top with tagOpen := false, hasChildren := true } = 1 := by
      simp [Open.marks, untaken]
    rw [parents]
    apply sound.replace stack
    · rfl
    · exact Nat.le_of_eq one
    · intro _
      exact one

/-- An element may be opened in one that has children. -/
theorem Sound.push (sound : Sound intact w) {name : String} (started : w.started = true)
    (ended : w.ended = false) (proper : isName name.toList = true)
    (parent : ∀ e ∈ w.stack.head?, e.hasChildren = true ∧ e.tagOpen = false) :
    Sound intact { w with stack := ⟨name, true, false, false⟩ :: w.stack, hasRoot := true } := by
  constructor
  · exact List.forall_mem_cons.mpr ⟨Nat.le_refl 1, sound.marks⟩
  · intro still
    exact List.forall_mem_cons.mpr ⟨rfl, sound.marked still⟩
  · have outer := sound.outer
    change ∀ e ∈ w.stack, _
    cases stack : w.stack with
    | nil => exact List.forall_mem_nil _
    | cons top rest =>
      rw [stack] at parent outer
      exact List.forall_mem_cons.mpr ⟨parent top rfl, outer⟩
  · exact List.forall_mem_cons.mpr ⟨proper, sound.named⟩
  · intro _
    exact ⟨started, ended, rfl⟩
  · intro past
    rw [ended] at past
    cases past

/-- The innermost element may be closed. -/
theorem Sound.pop (sound : Sound intact w) {top : Open} {rest : List Open}
    (stack : w.stack = top :: rest) : Sound intact { w with stack := rest } := by
  have inner : ∀ e ∈ rest, e ∈ w.stack := by
    intro e listed
    rw [stack]
    exact List.mem_cons_of_mem top listed
  constructor
  · intro e listed
    exact sound.marks e (inner e listed)
  · intro still e listed
    exact sound.marked still e (inner e listed)
  · intro e listed
    apply sound.outer
    rw [stack]
    exact List.mem_of_mem_tail listed
  · intro e listed
    exact sound.named e (inner e listed)
  · intro _
    apply sound.within
    rw [stack]
    exact List.cons_ne_nil top rest
  · intro past
    have empty := sound.ended past
    rw [stack] at empty
    cases empty

/-- **Every change keeps the state of the open elements.** -/
theorem Sound.change (sound : Sound intact w) (change : Change intact w v) : Sound intact v := by
  cases change with
  | stream s calm =>
    exact ⟨sound.marks, fun still => sound.marked (calm still), sound.outer, sound.named,
      sound.within, sound.ended⟩
  | start fresh =>
    refine ⟨sound.marks, sound.marked, sound.outer, sound.named, ?_, sound.ended⟩
    intro inside
    exact ⟨rfl, (sound.within inside).2⟩
  | @torn top rest stack broken =>
    have few : top.marks ≤ 1 := sound.marks top (stack ▸ List.mem_cons_self)
    apply sound.replace stack
    · rfl
    · apply Nat.le_trans _ few
      simp [Open.marks]
    · intro still
      exact absurd still broken
  | child room => exact sound.parents room
  | opened started ended proper _ parent => exact sound.push started ended proper parent
  | filled stack room =>
    apply sound.replace stack
    · rfl
    · exact Nat.le_refl 1
    · intro _
      rfl
  | closed stack => exact sound.pop stack
  | finish empty =>
    refine ⟨sound.marks, sound.marked, sound.outer, sound.named, ?_, fun _ => empty⟩
    intro inside
    exact absurd empty inside

theorem Change.hasRoot (change : Change intact w v) (root : w.hasRoot = true) :
    v.hasRoot = true := by
  cases change with
  | opened => rfl
  | _ => exact root

/-- Outside of the root element no second one is opened. -/
theorem Change.rootless (change : Change intact w v) (root : w.hasRoot = true)
    (outside : w.stack = []) : v.stack = [] := by
  cases change with
  | stream | start | finish => exact outside
  | child => simp only [Writer.parents, outside]
  | opened _ _ _ first _ =>
    rw [first outside] at root
    cases root
  | torn stack | filled stack | closed stack =>
    rw [outside] at stack
    cases stack

/-! ## Changes one after the other -/

/-- A course of changes. -/
abbrev Course (intact : σ → Prop) : Writer σ → Writer σ → Prop :=
  Relation.ReflTransGen (Change intact)

theorem Sound.course (sound : Sound intact w) (course : Course intact w v) : Sound intact v := by
  induction course with
  | refl => exact sound
  | tail _ change ih => exact ih.change change

theorem hasRoot_course (course : Course intact w v) (root : w.hasRoot = true) :
    v.hasRoot = true := by
  induction course with
  | refl => exact root
  | tail _ change ih => exact change.hasRoot ih

theorem rootless_course (course : Course intact w v) (root : w.hasRoot = true)
    (outside : w.stack = []) : v.stack = [] := by
  induction course with
  | refl => exact outside
  | tail before change ih => exact change.rootless (hasRoot_course before root) ih

theorem Course.stream (course : Course intact w v) {s : σ} (calm : intact s → intact v.stream) :
    Course intact w (v.on s) := course.tail (.stream s calm)

/-- What comes of an action, where it succeeds and where it fails. -/
def Turns (good bad : Writer σ → Prop) : EStateM.Result Failure (Writer σ) α → Prop
  | .ok _ v => good v
  | .error _ v => bad v

variable {good mid bad : Writer σ → Prop}

theorem Turns.bind {a : Action σ α} {f : α → Action σ β} (first : Turns mid bad (a w))
    (second : ∀ x v, mid v → Turns good bad (f x v)) : Turns good bad ((a >>= f) w) := by
  cases result : a w with
  | ok x v =>
    rw [result] at first
    rw [bind_of_ok result]
    exact second x v first
  | error e v =>
    rw [result] at first
    rw [bind_of_error result]
    exact first

theorem Turns.imp {good' bad' : Writer σ → Prop} {r : EStateM.Result Failure (Writer σ) α}
    (turns : Turns good bad r) (put : ∀ v, good v → good' v) (failed : ∀ v, bad v → bad' v) :
    Turns good' bad' r := by
  cases r with
  | ok x v => exact put v turns
  | error f v => exact failed v turns

theorem Turns.after {r : EStateM.Result Failure (Writer σ) α} (turns : Turns good good r) :
    good (writerAfter r) := by
  cases r <;> exact turns

/-- A check that refuses an operation. -/
theorem Turns.check {op : Operation} {c : Bool} {reason : String} {a : Action σ Unit}
    (refused : bad w) (rest : c = false → Turns good bad (a w)) :
    Turns good bad ((if c = true then refuse op reason else a) w) := by
  cases c with
  | true => exact refused
  | false => exact rest rfl

/-- What is done within the document only. -/
theorem Turns.within {op : Operation} {f : Unit → Action σ Unit} (refused : bad w)
    (rest : w.started = true → w.ended = false → Turns good bad (f () w)) :
    Turns good bad ((requireDocument op >>= f) w) := by
  by_cases running : w.started = true ∧ w.ended = false
  · obtain ⟨started, ended⟩ := running
    rw [bind_of_ok (requireDocument_of_started started ended op)]
    exact rest started ended
  · have outside : w.started = false ∨ w.ended = true := by
      cases started : w.started <;> simp_all
    obtain ⟨reason, failed⟩ := requireDocument_of_not outside op
    rw [bind_of_error failed]
    exact refused

variable [Stream σ]

/-- The state after a step on a stream. -/
def streamAfter : EStateM.Result Fault σ Unit → σ
  | .ok _ s => s
  | .error _ s => s

/-- A property of streams that tells of rejected texts: it is lost when a text is rejected and does
not come back. -/
structure Remembers (intact : σ → Prop) : Prop where
  wrote : ∀ {u s s'}, (Stream.write u : EStateM Fault σ Unit) s = .ok () s' → intact s' → intact s
  rejected : ∀ {u s f s'}, (Stream.write u : EStateM Fault σ Unit) s = .error f s' → ¬intact s'
  flushed : ∀ s, intact (streamAfter ((Stream.flush : EStateM Fault σ Unit) s)) → intact s
  shut : ∀ s, intact (streamAfter ((Stream.close : EStateM Fault σ Unit) s)) → intact s

theorem emit_turns (remembers : Remembers intact) (op : Operation) (u : String)
    (put : ∀ s, (intact s → intact w.stream) → good (w.on s))
    (rejected : ∀ s, ¬intact s → bad (w.on s)) : Turns good bad (emit op u w) := by
  unfold emit onStream
  cases result : (Stream.write u : EStateM Fault σ Unit) w.stream with
  | ok x s => exact put s (remembers.wrote result)
  | error f s => exact rejected s (remembers.rejected result)

/-- A text that is put at the end of a course changes nothing but the stream. -/
theorem emit_course (remembers : Remembers intact) (op : Operation) (u : String)
    (course : Course intact w v) :
    Turns (fun v' => ∃ s, v' = v.on s ∧ Course intact w v') (Course intact w) (emit op u v) := by
  apply emit_turns remembers
  · intro s calm
    exact ⟨s, rfl, course.stream calm⟩
  · intro s broken
    exact course.stream fun still => absurd still broken

/-- The last text of a call. -/
theorem emit_ends_course (remembers : Remembers intact) (op : Operation) (u : String)
    (course : Course intact w v) :
    Turns (Course intact w) (Course intact w) (emit op u v) := by
  apply (emit_course remembers op u course).imp
  · rintro v' ⟨s, -, course'⟩
    exact course'
  · exact fun _ course' => course'

omit [Stream σ] in
/-- A step on the stream other than a write, at the end of a course. -/
theorem onStream_course (op : Operation) {step : EStateM Fault σ Unit}
    (calm : ∀ s, intact (streamAfter (step s)) → intact s) (course : Course intact w v) :
    Turns (Course intact w) (Course intact w) (onStream op step v) := by
  have kept := calm v.stream
  unfold onStream
  cases result : step v.stream with
  | ok x s =>
    rw [result] at kept
    exact course.stream kept
  | error f s =>
    rw [result] at kept
    exact course.stream kept

/-! ## What the calls change -/

theorem closeStartTag_turns (remembers : Remembers intact) (op : Operation) (ending : String)
    {top : Open} {rest : List Open} (stack : w.stack = top :: rest) :
    Turns (fun v => ∃ s, (intact s → intact w.stream) ∧
        v = { w with stream := s, stack := { top with tagOpen := false } :: rest })
      (Course intact w) (closeStartTag op ending w) := by
  cases tagOpen : top.tagOpen with
  | false =>
    have same : { top with tagOpen := false } = top := by rw [← tagOpen]
    rw [closeStartTag_of_closed op ending stack tagOpen]
    refine ⟨w.stream, id, ?_⟩
    rw [same, ← stack]
  | true =>
    have closed : modifyTop (fun e => { e with tagOpen := false }) w =
        .ok () { w with stack := { top with tagOpen := false } :: rest } := by
      simp only [modifyTop, modify_apply, stack]
    simp only [closeStartTag, get_bind, stack, tagOpen, if_true]
    rw [bind_of_ok closed]
    apply emit_turns remembers
    · intro s calm
      exact ⟨s, calm, rfl⟩
    · intro s broken
      have silent : Course intact w (w.on s) :=
        Relation.ReflTransGen.single (.stream s fun still => absurd still broken)
      exact silent.tail (.torn stack broken)

theorem beginChild_turns (remembers : Remembers intact) (op : Operation) :
    Turns (fun v => ∃ s, v = { w with stream := s, stack := w.parents } ∧ Course intact w v)
      (Course intact w) (beginChild op w) := by
  unfold beginChild
  rw [get_bind]
  cases stack : w.stack with
  | nil =>
    refine ⟨w.stream, ?_, .refl⟩
    simp only [Writer.parents, stack]
    rw [← stack]
  | cons parent rest =>
    refine Turns.check .refl ?_
    intro untaken
    have room : w.mixed? Open.hasText = none := by
      rw [Writer.mixed?, stack]
      exact objectIf_eq_none.mpr untaken
    have begun : Course intact w { w with stack := w.parents } := .single (.child room)
    apply (closeStartTag_turns remembers op ">\n" stack).bind
    rintro x v ⟨s, calm, rfl⟩
    refine ⟨s, ?_, ?_⟩
    · simp only [Writer.parents, stack]
    · have put := begun.stream calm
      simp only [Writer.on, Writer.parents, stack] at put
      exact put

theorem startDocument_course (remembers : Remembers intact) (w : Writer σ) :
    Turns (Course intact w) (Course intact w) (startDocument w) := by
  unfold startDocument
  rw [get_bind]
  apply Turns.check
  · exact .refl
  · intro fresh
    rw [bind_of_ok (modify_apply _ _)]
    exact emit_ends_course remembers _ _ (.single (.start fresh))

theorem comment_course (remembers : Remembers intact) (w : Writer σ) (s : String) :
    Turns (Course intact w) (Course intact w) (comment s w) := by
  unfold comment
  apply Turns.within
  · exact .refl
  · intro started ended
    apply Turns.check
    · exact .refl
    · intro proper
      apply (beginChild_turns remembers .comment).bind
      rintro x v ⟨s', -, course⟩
      rw [get_bind]
      exact emit_ends_course remembers _ _ course

/-- An element is opened where the elements around it have children only, and as the root only
once. -/
theorem startElement_course (remembers : Remembers intact) (w : Writer σ) (name : String) :
    Turns (Course intact w) (Course intact w) (startElement name w) := by
  unfold startElement
  apply Turns.within
  · exact .refl
  · intro started ended
    rw [get_bind]
    apply Turns.check
    · exact .refl
    · intro proper
      apply Turns.check
      · exact .refl
      · intro taken
        apply (beginChild_turns remembers .startElement).bind
        rintro x v ⟨s, rfl, course⟩
        rw [get_bind]
        apply (emit_course remembers _ _ course).bind
        rintro x' v' ⟨s', rfl, course'⟩
        rw [modify_apply]
        refine course'.tail (.opened started ended ?_ ?_ ?_)
        · simpa using proper
        · intro flat
          have depth : w.depth = 0 := by
            rw [← w.length_parents]
            exact List.length_eq_zero_iff.mpr flat
          rw [List.length_eq_zero_iff.mp depth] at taken
          exact taken
        · intro e innermost
          cases stack : w.stack with
          | nil =>
            simp only [Writer.on, Writer.parents, stack] at innermost
            cases innermost
          | cons top rest =>
            simp only [Writer.on, Writer.parents, stack] at innermost
            cases innermost
            exact ⟨rfl, rfl⟩

theorem setAttribute_course (remembers : Remembers intact) (w : Writer σ) (name : String)
    (value : Value) : Turns (Course intact w) (Course intact w) (setAttribute name value w) := by
  unfold setAttribute
  apply Turns.within
  · exact .refl
  · intro started ended
    rw [get_bind]
    apply Turns.check
    · exact .refl
    · intro tagOpen
      apply Turns.check
      · exact .refl
      · intro proper
        cases writable : value.isWritable with
        | false =>
          rw [bind_of_error (escaped_of_not writable w)]
          exact .refl
        | true =>
          rw [bind_of_ok (escaped_of_written (written_of_isWritable writable) w)]
          exact emit_ends_course remembers _ _ .refl

theorem text_course (remembers : Remembers intact) (w : Writer σ) (value : Value) :
    Turns (Course intact w) (Course intact w) (text value w) := by
  unfold text
  apply Turns.within
  · exact .refl
  · intro started ended
    rw [get_bind]
    cases stack : w.stack with
    | nil => exact .refl
    | cons top rest =>
      apply Turns.check
      · exact .refl
      · intro room
        apply (closeStartTag_turns remembers .text ">" stack).bind
        rintro x v ⟨s, calm, rfl⟩
        have marked : modifyTop (fun e => { e with hasText := true })
            { w with stream := s, stack := { top with tagOpen := false } :: rest } =
            .ok () { w with stream := s, stack := ⟨top.name, false, true, false⟩ :: rest } := by
          rw [modifyTop, modify_apply, room]
        have filled : Course intact w
            { w with stream := s, stack := ⟨top.name, false, true, false⟩ :: rest } :=
          Course.stream (.single (.filled stack room)) calm
        rw [bind_of_ok marked]
        cases writable : value.isWritable with
        | false =>
          rw [bind_of_error (escaped_of_not writable _)]
          exact filled
        | true =>
          rw [bind_of_ok (escaped_of_written (written_of_isWritable writable) _)]
          exact emit_ends_course remembers _ _ filled

theorem endElement_course (remembers : Remembers intact) (w : Writer σ) :
    Turns (fun v => Course intact w v ∧ v.stack = w.stack.tail) (Course intact w)
      (endElement w) := by
  unfold endElement
  apply Turns.within
  · exact .refl
  · intro started ended
    rw [get_bind]
    cases stack : w.stack with
    | nil => exact .refl
    | cons top rest =>
      apply (emit_course remembers _ _ .refl).bind
      rintro x v ⟨s, rfl, course⟩
      rw [modify_apply]
      have tail : w.stack.tail = rest := by rw [stack]; rfl
      refine ⟨?_, tail⟩
      have closed := course.tail (.closed stack)
      simpa [Writer.on, tail] using closed

theorem endElements_course (remembers : Remembers intact) (n : Nat) (w : Writer σ) :
    Turns (fun v => Course intact w v ∧ v.stack = w.stack.drop n) (Course intact w)
      (endElements n w) := by
  induction n generalizing w with
  | zero => exact ⟨.refl, rfl⟩
  | succ n ih =>
    apply (endElement_course remembers w).bind
    rintro x v ⟨course, stack⟩
    apply (ih v).imp
    · rintro v' ⟨course', dropped⟩
      refine ⟨course.trans course', ?_⟩
      rw [dropped, stack, List.drop_tail]
    · intro v' course'
      exact course.trans course'

theorem endDocument_course (remembers : Remembers intact) (w : Writer σ) :
    Turns (Course intact w) (Course intact w) (endDocument w) := by
  unfold endDocument
  apply Turns.within
  · exact .refl
  · intro started ended
    rw [get_bind]
    apply (endElements_course remembers _ w).bind
    rintro x v ⟨course, dropped⟩
    rw [bind_of_ok (modify_apply _ _)]
    apply onStream_course _ remembers.flushed
    apply course.tail
    apply Change.finish
    rw [dropped]
    exact List.drop_length

theorem close_course (remembers : Remembers intact) (w : Writer σ) :
    Turns (Course intact w) (Course intact w) (close w) := by
  unfold close
  rw [get_bind]
  split
  · exact onStream_course _ remembers.shut .refl
  · exact .refl

theorem closeStream_course (remembers : Remembers intact) (w : Writer σ) :
    Turns (Course intact w) (Course intact w) (closeStream w) := by
  have kept := remembers.shut w.stream
  unfold closeStream
  cases result : (Stream.close : EStateM Fault σ Unit) w.stream with
  | ok x s =>
    rw [result] at kept
    exact Course.stream .refl kept
  | error f s =>
    rw [result] at kept
    exact Course.stream .refl kept

theorem contents_course (w : Writer σ) :
    Turns (Course intact w) (Course intact w) (contents w) := by
  unfold contents
  cases Stream.value w.stream <;> exact .refl

omit [Stream σ] in
theorem writerAfter_silently (a : Action σ Unit) (w : Writer σ) :
    writerAfter (silently a w) = writerAfter (a w) := by
  cases result : a w with
  | ok x v => rw [silently, bind_of_ok result]; rfl
  | error f v => rw [silently, bind_of_error result]; rfl

/-- Every call of a writer is a course of changes, also one that fails. -/
theorem Stroke.run_course (remembers : Remembers intact) (p : Stroke) (w : Writer σ) :
    Course intact w (writerAfter (p.run w)) := by
  have quiet : ∀ a : Action σ Unit, Turns (Course intact w) (Course intact w) (a w) →
      Course intact w (writerAfter (silently a w)) := by
    intro a turns
    rw [writerAfter_silently]
    exact turns.after
  cases p with
  | startDocument => exact quiet _ (startDocument_course remembers w)
  | endElement =>
    apply quiet
    apply (endElement_course remembers w).imp
    · exact fun _ turned => turned.1
    · exact fun _ course => course
  | endDocument => exact quiet _ (endDocument_course remembers w)
  | close => exact quiet _ (close_course remembers w)
  | value =>
    apply Turns.after
    apply (contents_course w).bind
    exact fun _ _ course => course
  | comment s => exact quiet _ (comment_course remembers w s)
  | startElement name => exact quiet _ (startElement_course remembers w name)
  | setAttribute name v => exact quiet _ (setAttribute_course remembers w name v)
  | text v => exact quiet _ (text_course remembers w v)

end MachineDescriptor.Xml
