import MachineDescriptor.Proofs.Composing
import MachineDescriptor.Xml.Script

/-!
What every action of a writer keeps. A property of the stream that writing and flushing keep is kept
by all that the writer does, whichever of its steps fail, and with it what is known of the failures:
each is a refusal of the writer, a report about the stream, or a fault that stops no run.
-/
namespace MachineDescriptor.Xml

variable {σ α β : Type} {keeps : σ → Prop} {fails : Failure → σ → Prop} {path : Option String}

/-- An action leaves the stream with a property, or it fails in a way that is known; the file that
is written stays the same. -/
def Leaves (keeps : σ → Prop) (fails : Failure → σ → Prop) (path : Option String) :
    EStateM.Result Failure (Writer σ) α → Prop
  | .ok _ w => keeps w.stream ∧ w.path = path
  | .error f w => fails f w.stream ∧ w.path = path

/-- The writer after an action, whether or not the action failed. -/
def writerAfter : EStateM.Result Failure (Writer σ) α → Writer σ
  | .ok _ w => w
  | .error _ w => w

theorem outcomeOf_snd (a : Action σ α) (w : Writer σ) :
    (outcomeOf a w).2 = writerAfter (a w) := by
  unfold outcomeOf
  cases a w <;> rfl

/-- What an action leaves of every writer whose stream has a property. -/
def Keeps (keeps : σ → Prop) (fails : Failure → σ → Prop) (path : Option String)
    (a : Action σ α) : Prop :=
  ∀ w, w.path = path → keeps w.stream → Leaves keeps fails path (a w)

theorem Keeps.path_eq {a : Action σ α} (h : Keeps keeps fails path a) {w : Writer σ}
    (named : w.path = path) (kept : keeps w.stream) : (writerAfter (a w)).path = path := by
  have left := h w named kept
  cases result : a w <;> rw [result] at left <;> exact left.2

/-- Writing and flushing keep a property of the stream or fail in a known way, and so does what the
writer refuses by itself. -/
structure Guards [Stream σ] (keeps : σ → Prop) (fails : Failure → σ → Prop)
    (path : Option String) : Prop where
  write : ∀ op u, Keeps keeps fails path (onStream op (Stream.write u) : Action σ Unit)
  flush : ∀ op, Keeps keeps fails path (onStream op Stream.flush : Action σ Unit)
  refuse : ∀ op reason, Keeps keeps fails path (refuse op reason : Action σ Unit)
  fault : ∀ {f : Fault} {s : σ}, f.isStop = false → keeps s → fails (.fault f) s

/-! ## Actions one after the other -/

theorem Keeps.pure (x : α) : Keeps keeps fails path (pure x : Action σ α) :=
  fun _ named kept => ⟨kept, named⟩

theorem Leaves.bind {a : Action σ α} {f : α → Action σ β} {w : Writer σ}
    (first : Leaves keeps fails path (a w)) (second : ∀ x, Keeps keeps fails path (f x)) :
    Leaves keeps fails path ((a >>= f) w) := by
  cases result : a w with
  | ok x v =>
    rw [result] at first
    rw [bind_of_ok result]
    exact second x v first.2 first.1
  | error e v =>
    rw [result] at first
    rw [bind_of_error result]
    exact first

theorem Keeps.bind {a : Action σ α} {f : α → Action σ β} (first : Keeps keeps fails path a)
    (second : ∀ x, Keeps keeps fails path (f x)) : Keeps keeps fails path (a >>= f) :=
  fun w named kept => (first w named kept).bind second

theorem Keeps.get {f : Writer σ → Action σ β} (each : ∀ w, Keeps keeps fails path (f w)) :
    Keeps keeps fails path (get >>= f) :=
  fun w named kept => each w w named kept

theorem Keeps.modify {f : Writer σ → Writer σ}
    (beside : ∀ w, (f w).stream = w.stream ∧ (f w).path = w.path) :
    Keeps keeps fails path (modify f : Action σ Unit) := by
  intro w named kept
  obtain ⟨stream, same⟩ := beside w
  rw [modify_apply]
  refine ⟨?_, ?_⟩
  · rw [stream]
    exact kept
  · rw [same]
    exact named

theorem Keeps.silently {a : Action σ Unit} (h : Keeps keeps fails path a) :
    Keeps keeps fails path (silently a) :=
  Keeps.bind h fun _ => Keeps.pure _

/-! ## Operations -/

variable [Stream σ]

theorem escaped_keeps (guards : Guards keeps fails path) (v : Value) :
    Keeps keeps fails path (escaped v : Action σ String) := by
  intro w named kept
  unfold escaped
  split
  · exact ⟨kept, named⟩
  · next f _ =>
    refine ⟨guards.fault ?_ kept, named⟩
    cases f <;> simp [Fault.isStop, Fault.kind, Integer.Fault.kind, Fault.stopKinds]

/-- What the steps of a writer keep is kept by all its operations. -/
theorem Guards.composes (guards : Guards keeps fails path) :
    Composes fun {α : Type} (a _ : Action σ α) => Keeps keeps fails path a where
  answer x := Keeps.pure x
  follow first second := Keeps.bind first second
  look each := Keeps.get fun w => each w w.stream w.path
  change beside _ := Keeps.modify beside
  refuse := guards.refuse
  escape := escaped_keeps guards
  write op u _ := guards.write op u
  flush op _ := guards.flush op

theorem close_keeps (shuts : Keeps keeps fails path (onStream .closing Stream.close)) :
    Keeps keeps fails path (close : Action σ Unit) := by
  refine Keeps.get fun w => ?_
  split
  · exact shuts
  · exact Keeps.pure _

/-- What is kept also where an action fails is kept when the writer is closed after it. -/
theorem closing_keeps {body : Action σ α} (inner : Keeps keeps (fun _ => keeps) path body)
    (shuts : Keeps keeps (fun _ => keeps) path (onStream .closing Stream.close)) :
    Keeps keeps (fun _ => keeps) path (closing body) := by
  intro w named kept
  have left := inner w named kept
  unfold closing
  cases result : body w with
  | ok a v =>
    rw [result] at left
    have shut := close_keeps shuts v left.2 left.1
    dsimp only
    cases last : close v <;> rw [last] at shut <;> exact shut
  | error e v =>
    rw [result] at left
    have shut := close_keeps shuts v left.2 left.1
    dsimp only
    cases last : close v <;> rw [last] at shut <;> exact shut

end MachineDescriptor.Xml
