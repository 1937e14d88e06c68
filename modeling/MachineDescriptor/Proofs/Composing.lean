import MachineDescriptor.Proofs.Streams
import MachineDescriptor.Xml.Writer

/-!
What passes from the steps of a writer to all that is made of them. A statement about the same action
at two writers, whose streams need not be of one kind, holds of each operation as soon as it holds of
every single step and passes to two actions one after the other. A statement about one writer is the
case in which nothing is said of the second.
-/
namespace MachineDescriptor.Xml

variable {σ τ : Type}

/-- The writer with another stream. -/
def Writer.on (w : Writer σ) (s : σ) : Writer σ := { w with stream := s }

/-- A writer of another stream and file at the same point of its document. -/
def Writer.onto (w : Writer σ) (s : τ) (path : Option String) : Writer τ :=
  ⟨s, w.indent, path, w.stack, w.started, w.ended, w.hasRoot⟩

/-- A statement that passes from the steps of two writers to all that is made of them. The steps look
at the point of the document and change it; the stream is written and flushed, and closing it is none
of them. -/
structure Composes [Stream σ] [Stream τ]
    (holds : ∀ {α : Type}, Action σ α → Action τ α → Prop) : Prop where
  answer : ∀ {α : Type} (x : α), holds (pure x) (pure x)
  follow : ∀ {α β : Type} {a : Action σ α} {b : Action τ α} {f : α → Action σ β}
    {g : α → Action τ β}, holds a b → (∀ x, holds (f x) (g x)) → holds (a >>= f) (b >>= g)
  look : ∀ {α : Type} {f : Writer σ → Action σ α} {g : Writer τ → Action τ α},
    (∀ w s path, holds (f w) (g (w.onto s path))) → holds (get >>= f) (get >>= g)
  change : ∀ {f : Writer σ → Writer σ} {g : Writer τ → Writer τ},
    (∀ w, (f w).stream = w.stream ∧ (f w).path = w.path) →
    (∀ w s path, g (w.onto s path) = (f w).onto s path) → holds (modify f) (modify g)
  refuse : ∀ op reason, holds (refuse op reason) (refuse op reason)
  escape : ∀ v, holds (escaped v) (escaped v)
  write : ∀ op u, op ≠ .closing →
    holds (onStream op (Stream.write u)) (onStream op (Stream.write u))
  flush : ∀ op, op ≠ .closing → holds (onStream op Stream.flush) (onStream op Stream.flush)

/-- A choice between two actions does what one of them does. -/
theorem holds_ite {α : Type} {holds : Action σ α → Action τ α → Prop} {c : Prop} [Decidable c]
    {a a' : Action σ α} {b b' : Action τ α} (yes : holds a b) (no : holds a' b') :
    holds (if c then a else a') (if c then b else b') := by
  split
  · exact yes
  · exact no

variable [Stream σ] [Stream τ] {holds : ∀ {α : Type}, Action σ α → Action τ α → Prop}
  (composes : Composes holds)

include composes

theorem forM_composes {β : Type} {l : List β} {f : β → Action σ Unit} {g : β → Action τ Unit}
    (each : ∀ x ∈ l, holds (f x) (g x)) : holds (l.forM f) (l.forM g) := by
  induction l with
  | nil => exact composes.answer _
  | cons x rest ih =>
    obtain ⟨first, others⟩ := List.forall_mem_cons.mp each
    exact composes.follow first fun _ => ih others

theorem modifyTop_composes (f : Open → Open) : holds (modifyTop f) (modifyTop f) := by
  refine composes.change (fun w => ?_) fun w s path => ?_
  · cases w.stack <;> exact ⟨rfl, rfl⟩
  · cases stack : w.stack <;> simp only [Writer.onto, stack]

theorem requireDocument_composes (op : Operation) :
    holds (requireDocument op) (requireDocument op) := by
  unfold requireDocument
  refine composes.look fun w s path => ?_
  refine holds_ite (composes.refuse op _) ?_
  exact holds_ite (composes.refuse op _) (composes.answer _)

theorem closeStartTag_composes {op : Operation} (writes : op ≠ .closing) (ending : String) :
    holds (closeStartTag op ending) (closeStartTag op ending) := by
  unfold closeStartTag
  refine composes.look fun w s path => ?_
  simp only [Writer.onto]
  cases w.stack with
  | nil => exact composes.answer _
  | cons top rest =>
    refine holds_ite ?_ (composes.answer _)
    exact composes.follow (modifyTop_composes composes _) fun _ => composes.write op ending writes

theorem beginChild_composes {op : Operation} (writes : op ≠ .closing) :
    holds (beginChild op) (beginChild op) := by
  unfold beginChild
  refine composes.look fun w s path => ?_
  simp only [Writer.onto]
  cases w.stack with
  | nil => exact composes.answer _
  | cons parent rest =>
    refine holds_ite (composes.refuse op _) ?_
    exact composes.follow (closeStartTag_composes composes writes _) fun _ =>
      modifyTop_composes composes _

theorem startDocument_composes : holds startDocument startDocument := by
  unfold startDocument
  refine composes.look fun w s path => holds_ite (composes.refuse _ _) ?_
  refine composes.follow (composes.change (fun _ => ⟨rfl, rfl⟩) fun _ _ _ => rfl) fun _ => ?_
  exact composes.write _ _ (by decide)

theorem comment_composes (s : String) : holds (comment s) (comment s) := by
  unfold comment
  refine composes.follow (requireDocument_composes composes _) fun _ => ?_
  refine holds_ite (composes.refuse _ _) ?_
  refine composes.follow (beginChild_composes composes (by decide)) fun _ => ?_
  exact composes.look fun w s path => composes.write _ _ (by decide)

theorem startElement_composes (name : String) : holds (startElement name) (startElement name) := by
  unfold startElement
  refine composes.follow (requireDocument_composes composes _) fun _ => ?_
  refine composes.look fun w s path => ?_
  refine holds_ite (composes.refuse _ _) (holds_ite (composes.refuse _ _) ?_)
  refine composes.follow (beginChild_composes composes (by decide)) fun _ => ?_
  refine composes.look fun w s path => ?_
  refine composes.follow (composes.write _ _ (by decide)) fun _ => ?_
  exact composes.change (fun _ => ⟨rfl, rfl⟩) fun _ _ _ => rfl

theorem setAttribute_composes (name : String) (v : Value) :
    holds (setAttribute name v) (setAttribute name v) := by
  unfold setAttribute
  refine composes.follow (requireDocument_composes composes _) fun _ => ?_
  refine composes.look fun w s path => ?_
  refine holds_ite (composes.refuse _ _) (holds_ite (composes.refuse _ _) ?_)
  exact composes.follow (composes.escape v) fun _ => composes.write _ _ (by decide)

theorem text_composes (v : Value) : holds (text v) (text v) := by
  unfold text
  refine composes.follow (requireDocument_composes composes _) fun _ => ?_
  refine composes.look fun w s path => ?_
  simp only [Writer.onto]
  cases w.stack with
  | nil => exact composes.refuse _ _
  | cons top rest =>
    refine holds_ite (composes.refuse _ _) ?_
    refine composes.follow (closeStartTag_composes composes (by decide) _) fun _ => ?_
    refine composes.follow (modifyTop_composes composes _) fun _ => ?_
    exact composes.follow (composes.escape v) fun _ => composes.write _ _ (by decide)

theorem endElement_composes : holds endElement endElement := by
  unfold endElement
  refine composes.follow (requireDocument_composes composes _) fun _ => ?_
  refine composes.look fun w s path => ?_
  obtain ⟨_, _, _, stack, _⟩ := w
  cases stack with
  | nil => exact composes.refuse _ _
  | cons top rest =>
    refine composes.follow (composes.write _ _ (by decide)) fun _ => ?_
    exact composes.change (fun _ => ⟨rfl, rfl⟩) fun _ _ _ => rfl

theorem endElements_composes (n : Nat) : holds (endElements n) (endElements n) := by
  induction n with
  | zero => exact composes.answer _
  | succ n ih => exact composes.follow (endElement_composes composes) fun _ => ih

theorem endDocument_composes : holds endDocument endDocument := by
  unfold endDocument
  refine composes.follow (requireDocument_composes composes _) fun _ => ?_
  refine composes.look fun w s path => ?_
  refine composes.follow (endElements_composes composes _) fun _ => ?_
  refine composes.follow (composes.change (fun _ => ⟨rfl, rfl⟩) fun _ _ _ => rfl) fun _ => ?_
  exact composes.flush _ (by decide)

theorem element_composes (name : String) (attributes : List (String × Value))
    {a : Action σ Unit} {b : Action τ Unit} (inner : holds a b) :
    holds (element name attributes a) (element name attributes b) := by
  refine composes.follow (startElement_composes composes name) fun _ => ?_
  refine composes.follow
    (forM_composes composes fun a _ => setAttribute_composes composes a.1 a.2) fun _ => ?_
  exact composes.follow inner fun _ => endElement_composes composes

theorem singleElement_composes (name : String) (v : Value) :
    holds (singleElement name v) (singleElement name v) :=
  composes.follow (startElement_composes composes name) fun _ =>
    composes.follow (text_composes composes v) fun _ => endElement_composes composes

theorem emptyElement_composes (name : String) (attributes : List (String × Value)) :
    holds (emptyElement name attributes) (emptyElement name attributes) :=
  element_composes composes name attributes (composes.answer _)

end MachineDescriptor.Xml
