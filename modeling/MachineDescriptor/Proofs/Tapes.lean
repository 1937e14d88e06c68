import MachineDescriptor.Proofs.Keeping

/-!
A writer on a stream that runs out, beside the same writer on one that does not. A tape accepts
every text and keeps the texts apart; the limited stream of a tape has got only the first of them.
As long as its texts fit, an action does the same on both streams. From the text on that does not
fit, the limited stream stays as it is, and the action fails with a report about that text.
-/
namespace MachineDescriptor.Xml

/-- A stream that accepts every write and keeps the texts apart. -/
structure Tape (flushFails : Bool) where
  texts : List String

namespace Tape

variable {flushFails : Bool}

def put (t : Tape flushFails) (s : String) : Tape flushFails := ⟨t.texts ++ [s]⟩

def flush : EStateM Fault (Tape flushFails) Unit := fun t =>
  if flushFails then .error (.refused .inputOutput) t else .ok () t

instance : Stream (Tape flushFails) where
  write s := modify (put · s)
  flush := flush
  close := pure ()
  isClosed _ := false
  value t := .ok (String.join t.texts)

/-- The stream in memory that accepts so many writes and was given the texts of a tape. -/
def limited (n : Nat) (t : Tape flushFails) : Memory :=
  ⟨String.join (t.texts.take n), some (n - t.texts.length), flushFails, false⟩

/-- Texts that do not fit change nothing. -/
theorem limited_of_prefix {n : Nat} {t u : Tape flushFails} (full : n ≤ t.texts.length)
    (grown : t.texts <+: u.texts) : u.limited n = t.limited n := by
  obtain ⟨more, texts⟩ := grown
  have longer : n ≤ u.texts.length := by
    rw [← texts, List.length_append]
    omega
  simp only [limited, Nat.sub_eq_zero_of_le full, Nat.sub_eq_zero_of_le longer]
  rw [← texts, List.take_append_of_le_length full]

theorem write_limited {n : Nat} {t : Tape flushFails} {s : String}
    (room : (t.put s).texts.length ≤ n) :
    Memory.write s (t.limited n) = .ok () ((t.put s).limited n) := by
  simp only [put, List.length_append, List.length_singleton] at room
  obtain ⟨k, left⟩ : ∃ k, n - t.texts.length = k + 1 := ⟨n - t.texts.length - 1, by omega⟩
  have fewer : n - (t.texts.length + 1) = k := by omega
  have before : t.texts.take n = t.texts := List.take_of_length_le (by omega)
  have whole : (t.texts ++ [s]).take n = t.texts ++ [s] := List.take_of_length_le (by simpa)
  simp [Memory.write, limited, put, left, fewer, before, whole]

theorem write_limited_of_full {n : Nat} {t : Tape flushFails} (full : n ≤ t.texts.length)
    (s : String) :
    Memory.write s (t.limited n) = .error (.refused .noSpace) (t.limited n) := by
  simp only [Memory.write, limited, Nat.sub_eq_zero_of_le full]

theorem value_limited {n : Nat} {t : Tape flushFails} (room : t.texts.length ≤ n) :
    Stream.value (t.limited n) = Stream.value t := by
  simp [Stream.value, Memory.value, limited, List.take_of_length_le room]

end Tape

variable {flushFails : Bool}

/-- The writer with the limited stream in the place of its tape. -/
def Writer.limited (n : Nat) (w : Writer (Tape flushFails)) : Writer Memory :=
  ⟨w.stream.limited n, w.indent, w.path, w.stack, w.started, w.ended, w.hasRoot⟩

@[simp] theorem stream_limited (n : Nat) (w : Writer (Tape flushFails)) :
    (w.limited n).stream = w.stream.limited n := rfl

/-! ## Two runs -/

section

variable {σ α : Type}

/-- The same outcome at a writer on the limited stream. -/
def limitedResult (n : Nat) :
    EStateM.Result Failure (Writer (Tape flushFails)) α → EStateM.Result Failure (Writer Memory) α
  | .ok x w => .ok x (w.limited n)
  | .error f w => .error f (w.limited n)

/-- The failure of an operation for whose text there is no more space. -/
def Writer.overrun (w : Writer σ) (op : Operation) : Failure :=
  w.failure op (Fault.refused .noSpace).message (some (Fault.refused .noSpace).asCause)

/-- An action on a limited stream comes to the same as on the tape if all its texts fit, and else it
fails at the operation that is to blame. In either case the stream has got the texts that fit. -/
inductive Mirrored (n : Nat) (blamed : Operation → Prop)
    (free : EStateM.Result Failure (Writer (Tape flushFails)) α)
    (tight : EStateM.Result Failure (Writer Memory) α) : Prop
  | fits (room : (writerAfter free).stream.texts.length ≤ n) (same : tight = limitedResult n free)
  | rejected (full : n < (writerAfter free).stream.texts.length) (op : Operation)
      (blame : blamed op) (w : Writer Memory)
      (stream : w.stream = (writerAfter free).stream.limited n)
      (failed : tight = .error (w.overrun op) w)

/-- An action whose texts are all put by one operation, on a tape and on a stream in memory. -/
structure Mirrors (n : Nat) (op : Operation) (free : Action (Tape flushFails) α)
    (tight : Action Memory α) : Prop where
  grows : ∀ w, w.stream.texts <+: (writerAfter (free w)).stream.texts
  mirrored : ∀ w, w.stream.texts.length ≤ n →
    Mirrored n (· = op) (free w) (tight (w.limited n))

end

variable {α β : Type} {n : Nat} {op : Operation}

theorem Mirrored.imp {blamed blamed' : Operation → Prop}
    {free : EStateM.Result Failure (Writer (Tape flushFails)) α}
    {tight : EStateM.Result Failure (Writer Memory) α} (h : Mirrored n blamed free tight)
    (weaker : n < (writerAfter free).stream.texts.length → ∀ op, blamed op → blamed' op) :
    Mirrored n blamed' free tight := by
  cases h with
  | fits room same => exact .fits room same
  | rejected full op blame w stream failed =>
    exact .rejected full op (weaker full op blame) w stream failed

theorem grows_bind {a : Action (Tape flushFails) α} {f : α → Action (Tape flushFails) β}
    {w : Writer (Tape flushFails)}
    (first : w.stream.texts <+: (writerAfter (a w)).stream.texts)
    (second : ∀ x v, v.stream.texts <+: (writerAfter (f x v)).stream.texts) :
    w.stream.texts <+: (writerAfter ((a >>= f) w)).stream.texts := by
  cases result : a w with
  | ok x v =>
    rw [result] at first
    rw [bind_of_ok result]
    exact first.trans (second x v)
  | error e v =>
    rw [result] at first
    rw [bind_of_error result]
    exact first

theorem Mirrored.bind {a : Action (Tape flushFails) α} {b : Action Memory α}
    {f : α → Action (Tape flushFails) β} {g : α → Action Memory β} {w : Writer (Tape flushFails)}
    {blamed : Operation → Prop} (first : Mirrored n blamed (a w) (b (w.limited n)))
    (grows : ∀ x v, a w = .ok x v → v.stream.texts <+: (writerAfter (f x v)).stream.texts)
    (second : ∀ x v, a w = .ok x v → v.stream.texts.length ≤ n →
      Mirrored n blamed (f x v) (g x (v.limited n))) :
    Mirrored n blamed ((a >>= f) w) ((b >>= g) (w.limited n)) := by
  cases result : a w with
  | ok x v =>
    rw [bind_of_ok result]
    rcases result ▸ first with ⟨room, same⟩ | ⟨full, op, blame, v', stream, failed⟩
    · rw [bind_of_ok same]
      exact second x v result room
    · rw [bind_of_error failed]
      -- the run on the tape goes on, but what it adds does not fit either
      have grown := grows x v result
      refine .rejected (Nat.lt_of_lt_of_le full grown.length_le) op blame v' ?_ rfl
      rw [stream, Tape.limited_of_prefix (Nat.le_of_lt full) grown]
  | error e v =>
    rw [bind_of_error result]
    rcases result ▸ first with ⟨room, same⟩ | ⟨full, op, blame, v', stream, failed⟩
    · rw [bind_of_error same]
      exact .fits room rfl
    · rw [bind_of_error failed]
      exact .rejected full op blame v' stream rfl

theorem Mirrors.pure (x : α) :
    Mirrors n op (pure x : Action (Tape flushFails) α) (pure x) where
  grows _ := List.prefix_rfl
  mirrored _ room := .fits room rfl

theorem Mirrors.bind {a : Action (Tape flushFails) α} {b : Action Memory α}
    {f : α → Action (Tape flushFails) β} {g : α → Action Memory β} (first : Mirrors n op a b)
    (second : ∀ x, Mirrors n op (f x) (g x)) : Mirrors n op (a >>= f) (b >>= g) where
  grows w := grows_bind (first.grows w) fun x => (second x).grows
  mirrored w room :=
    (first.mirrored w room).bind (fun x v _ => (second x).grows v)
      fun x v _ => (second x).mirrored v

theorem Mirrors.get {f : Writer (Tape flushFails) → Action (Tape flushFails) β}
    {g : Writer Memory → Action Memory β} (each : ∀ w, Mirrors n op (f w) (g (w.limited n))) :
    Mirrors n op (get >>= f) (get >>= g) where
  grows w := (each w).grows w
  mirrored w room := (each w).mirrored w room

theorem Mirrors.ite {c : Prop} [Decidable c] {a a' : Action (Tape flushFails) α}
    {b b' : Action Memory α} (yes : Mirrors n op a b) (no : Mirrors n op a' b') :
    Mirrors n op (if c then a else a') (if c then b else b') := by
  split
  · exact yes
  · exact no

theorem Mirrors.modify {f : Writer (Tape flushFails) → Writer (Tape flushFails)}
    {g : Writer Memory → Writer Memory} (beside : ∀ w, (f w).stream = w.stream)
    (same : ∀ w, g (w.limited n) = (f w).limited n) :
    Mirrors n op (modify f : Action (Tape flushFails) Unit) (modify g) where
  grows w := by
    rw [modify_apply]
    simp only [writerAfter, beside]
    exact List.prefix_rfl
  mirrored w room := by
    rw [modify_apply, modify_apply, same]
    exact .fits (by simpa only [writerAfter, beside] using room) rfl

theorem refuse_mirrors {refused : Operation} (reason : String) :
    Mirrors n op (refuse refused reason : Action (Tape flushFails) Unit)
      (refuse refused reason) where
  grows _ := List.prefix_rfl
  mirrored _ room := .fits room rfl

theorem emit_mirrors (s : String) :
    Mirrors n op (emit op s : Action (Tape flushFails) Unit) (emit op s) where
  grows w := List.prefix_append ..
  mirrored w room := by
    by_cases fits : (w.stream.put s).texts.length ≤ n
    · refine .fits fits ?_
      simp only [emit, onStream, Stream.write, Writer.limited, Tape.write_limited fits]
      rfl
    · have full : n ≤ w.stream.texts.length := by
        simp only [Tape.put, List.length_append, List.length_singleton] at fits
        omega
      refine .rejected (Nat.lt_of_not_le fits) op rfl (w.limited n) ?_ ?_
      · exact (Tape.limited_of_prefix full (List.prefix_append ..)).symm
      · simp only [emit, onStream, Stream.write, Writer.limited,
          Tape.write_limited_of_full full]
        rfl

theorem flush_mirrors {flushed : Operation} :
    Mirrors n op (onStream flushed Stream.flush : Action (Tape flushFails) Unit)
      (onStream flushed Stream.flush) where
  grows w := by
    cases flushFails <;> exact List.prefix_rfl
  mirrored w room := by
    cases flushFails <;> exact .fits room rfl

theorem modifyTop_mirrors (f : Open → Open) :
    Mirrors n op (modifyTop f : Action (Tape flushFails) Unit) (modifyTop f) := by
  refine Mirrors.modify (fun w => ?_) fun w => ?_
  · cases w.stack <;> rfl
  · obtain ⟨_, _, _, stack, _⟩ := w
    cases stack <;> rfl

/-! ## Operations -/

theorem requireDocument_mirrors {required : Operation} :
    Mirrors n op (requireDocument required : Action (Tape flushFails) Unit)
      (requireDocument required) := by
  unfold requireDocument
  refine Mirrors.get fun w => ?_
  exact Mirrors.ite (refuse_mirrors _) (Mirrors.ite (refuse_mirrors _) (Mirrors.pure _))

theorem closeStartTag_mirrors (ending : String) :
    Mirrors n op (closeStartTag op ending : Action (Tape flushFails) Unit)
      (closeStartTag op ending) := by
  unfold closeStartTag
  refine Mirrors.get fun w => ?_
  simp only [Writer.limited]
  cases w.stack with
  | nil => exact Mirrors.pure _
  | cons top rest =>
    exact Mirrors.ite (Mirrors.bind (modifyTop_mirrors _) fun _ => emit_mirrors ending)
      (Mirrors.pure _)

theorem beginChild_mirrors :
    Mirrors n op (beginChild op : Action (Tape flushFails) Unit) (beginChild op) := by
  unfold beginChild
  refine Mirrors.get fun w => ?_
  simp only [Writer.limited]
  cases w.stack with
  | nil => exact Mirrors.pure _
  | cons parent rest =>
    refine Mirrors.ite (refuse_mirrors _) ?_
    exact Mirrors.bind (closeStartTag_mirrors _) fun _ => modifyTop_mirrors _

theorem escaped_mirrors (v : Value) :
    Mirrors n op (escaped v : Action (Tape flushFails) String) (escaped v) where
  grows w := by
    unfold escaped
    cases escapeValue v <;> exact List.prefix_rfl
  mirrored w room := by
    unfold escaped
    cases escapeValue v <;> exact .fits room rfl

theorem startDocument_mirrors :
    Mirrors n .startDocument (startDocument : Action (Tape flushFails) Unit) startDocument := by
  unfold startDocument
  refine Mirrors.get fun w => Mirrors.ite (refuse_mirrors _) ?_
  exact Mirrors.bind (Mirrors.modify (fun w => rfl) fun w => rfl) fun _ => emit_mirrors _

theorem comment_mirrors (s : String) :
    Mirrors n .comment (comment s : Action (Tape flushFails) Unit) (comment s) := by
  unfold comment
  refine Mirrors.bind requireDocument_mirrors fun _ => Mirrors.ite (refuse_mirrors _) ?_
  exact Mirrors.bind beginChild_mirrors fun _ => Mirrors.get fun w => emit_mirrors _

theorem startElement_mirrors (name : String) :
    Mirrors n .startElement (startElement name : Action (Tape flushFails) Unit)
      (startElement name) := by
  unfold startElement
  refine Mirrors.bind requireDocument_mirrors fun _ => Mirrors.get fun w => ?_
  refine Mirrors.ite (refuse_mirrors _) (Mirrors.ite (refuse_mirrors _) ?_)
  refine Mirrors.bind beginChild_mirrors fun _ => Mirrors.get fun w => ?_
  exact Mirrors.bind (emit_mirrors _) fun _ => Mirrors.modify (fun w => rfl) fun w => rfl

theorem setAttribute_mirrors (name : String) (v : Value) :
    Mirrors n .setAttribute (setAttribute name v : Action (Tape flushFails) Unit)
      (setAttribute name v) := by
  unfold setAttribute
  refine Mirrors.bind requireDocument_mirrors fun _ => Mirrors.get fun w => ?_
  refine Mirrors.ite (refuse_mirrors _) (Mirrors.ite (refuse_mirrors _) ?_)
  exact Mirrors.bind (escaped_mirrors v) fun _ => emit_mirrors _

theorem text_mirrors (v : Value) :
    Mirrors n .text (text v : Action (Tape flushFails) Unit) (text v) := by
  unfold text
  refine Mirrors.bind requireDocument_mirrors fun _ => Mirrors.get fun w => ?_
  simp only [Writer.limited]
  cases w.stack with
  | nil => exact refuse_mirrors _
  | cons top rest =>
    refine Mirrors.ite (refuse_mirrors _) ?_
    refine Mirrors.bind (closeStartTag_mirrors _) fun _ => ?_
    refine Mirrors.bind (modifyTop_mirrors _) fun _ => ?_
    exact Mirrors.bind (escaped_mirrors v) fun _ => emit_mirrors _

theorem endElement_mirrors :
    Mirrors n .endElement (endElement : Action (Tape flushFails) Unit) endElement := by
  unfold endElement
  refine Mirrors.bind requireDocument_mirrors fun _ => Mirrors.get fun w => ?_
  obtain ⟨_, _, _, stack, _⟩ := w
  cases stack with
  | nil => exact refuse_mirrors _
  | cons top rest =>
    exact Mirrors.bind (emit_mirrors _) fun _ => Mirrors.modify (fun w => rfl) fun w => rfl

theorem endElements_mirrors (count : Nat) :
    Mirrors n .endElement (endElements count : Action (Tape flushFails) Unit)
      (endElements count) := by
  induction count with
  | zero => exact Mirrors.pure _
  | succ count ih => exact Mirrors.bind endElement_mirrors fun _ => ih

/-- The end of a document puts no text of its own, only those of the elements that it closes. -/
theorem endDocument_mirrors :
    Mirrors n .endElement (endDocument : Action (Tape flushFails) Unit) endDocument := by
  unfold endDocument
  refine Mirrors.bind requireDocument_mirrors fun _ => Mirrors.get fun w => ?_
  refine Mirrors.bind (endElements_mirrors _) fun _ => ?_
  exact Mirrors.bind (Mirrors.modify (fun w => rfl) fun w => rfl) fun _ => flush_mirrors

theorem contents_mirrors :
    Mirrors n op (contents : Action (Tape flushFails) String) contents where
  grows _ := List.prefix_rfl
  mirrored w room := by
    refine .fits room ?_
    simp only [contents, Writer.limited, Tape.value_limited room]
    rfl

theorem silently_mirrors {a : Action (Tape flushFails) Unit} {b : Action Memory Unit}
    (h : Mirrors n op a b) : Mirrors n op (silently a) (silently b) :=
  Mirrors.bind h fun _ => Mirrors.pure _

end MachineDescriptor.Xml
