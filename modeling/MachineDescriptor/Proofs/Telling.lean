import MachineDescriptor.Command.Running
import MachineDescriptor.Proofs.Journals

/-!
Failures that a run can tell. A report whose context and cause can be put into words is told in the
journal and gives the exit code of its kind; a fault gives the exit code one. Telling a failure
leaves the tree and the standard output alone.
-/
namespace MachineDescriptor

/-! ## Contexts -/

theorem Context.isWritable_put {c : Context} (all : c.isWritable = true) (name : String)
    {value : Value} (writable : value.isWritable = true) :
    (c.put name value).isWritable = true := by
  have each : ∀ es : List (String × Value), (es.all fun e => e.2.isWritable) = true →
      ((putEntry name value es).all fun e => e.2.isWritable) = true := by
    intro es
    induction es with
    | nil => simp [putEntry, writable]
    | cons e rest ih =>
      intro all
      simp only [List.all_cons, Bool.and_eq_true] at all
      simp only [putEntry]
      split
      · simp [writable, all.2]
      · simp only [List.all_cons, Bool.and_eq_true]
        exact ⟨all.1, ih all.2⟩
  exact each c.entries all

theorem Context.isWritable_puts {pairs : List (String × Value)}
    (writable : ∀ e ∈ pairs, e.2.isWritable = true) {c : Context} (all : c.isWritable = true) :
    (pairs.foldl (fun c e => c.put e.1 e.2) c).isWritable = true := by
  induction pairs generalizing c with
  | nil => exact all
  | cons e rest ih =>
    obtain ⟨first, others⟩ := List.forall_mem_cons.mp writable
    exact ih others (isWritable_put all e.1 first)

theorem Context.isWritable_ofList {pairs : List (String × Value)}
    (writable : ∀ e ∈ pairs, e.2.isWritable = true) : (ofList pairs).isWritable = true :=
  isWritable_puts writable rfl

theorem Context.isWritable_merge {c d : Context} (first : c.isWritable = true)
    (second : d.isWritable = true) : (c.merge d).isWritable = true :=
  isWritable_puts (List.all_eq_true.mp second) first

/-! ## Failures -/

/-- A report of a kind, with its exit code, that can be put into words in full. -/
structure Report.IsPlain (kind : Report.Kind) (r : Report) : Prop where
  sort : r.kind = kind
  code : r.code = kind.ownCode.toNat
  context : r.context.isWritable = true
  cause : ∀ c, r.cause = some c → ∃ text, c.text = .ok text

theorem Report.isPlain_ofMessage (kind : Report.Kind) (message : String)
    {cause : Option Report.Cause} (told : ∀ c, cause = some c → ∃ text, c.text = .ok text)
    {context : Context} (writable : context.isWritable = true) :
    (Report.ofMessage kind message cause context).IsPlain kind :=
  ⟨rfl, rfl, writable, told⟩

/-- A failure of the work in hand: a report of a kind that can be put into words, or a fault that
does not stop the run. -/
def Failure.IsPlain (kind : Report.Kind) : Failure → Prop
  | .report r => r.IsPlain kind
  | .fault f => f.isStop = false

/-- The exit code for a failure. -/
def Failure.exitCode : Failure → Nat
  | .report r => r.code
  | .fault _ => 1

theorem Report.userMessage_of_isPlain {kind : Report.Kind} {r : Report} (plain : r.IsPlain kind)
    (withContext withCause : Bool) : ∃ line, r.userMessage withContext withCause = .ok line := by
  have context : ∃ text, Report.contextText r.context = .ok text := by
    simp only [Report.contextText, plain.context, if_true]
    exact ⟨_, rfl⟩
  obtain ⟨text, written⟩ := context
  unfold Report.userMessage
  simp only [written]
  cases given : r.cause with
  | none => split <;> exact ⟨_, rfl⟩
  | some c =>
    obtain ⟨why, said⟩ := plain.cause c given
    simp only [said]
    split <;> split <;> exact ⟨_, rfl⟩

/-- A failure of a writer can be put into words. -/
theorem Xml.Writer.isPlain_failure {σ : Type} (w : Xml.Writer σ) (op : Xml.Operation)
    (reason : String) {cause : Option Report.Cause}
    (told : ∀ c, cause = some c → ∃ text, c.text = .ok text) :
    (w.failure op reason cause).IsPlain .writer := by
  refine Report.isPlain_ofMessage .writer _ told (Context.isWritable_ofList ?_)
  cases w.path <;> simp [Value.isWritable, Value.isWritableIn]

/-- A fault of a stream that can be put into words, and does not stop the run, makes an operation
fail in such a way. -/
theorem Xml.Writer.isPlain_rejection {σ : Type} (w : Xml.Writer σ) (op : Xml.Operation) {f : Fault}
    (told : ∃ text, f.written = .ok text) (goesOn : f.isStop = false) :
    (w.rejection op f).IsPlain .writer := by
  unfold Xml.Writer.rejection
  split
  · refine w.isPlain_failure op _ ?_
    rintro c ⟨⟩
    exact told
  · exact goesOn

/-- What the system refuses is a fault of the system. -/
theorem Fault.isOfSystem_refused (r : Files.Refusal) : (Fault.refused r).isOfSystem = true := by
  have either : ∀ {c : Prop} [Decidable c] {a b : String}, Foreign.systemKinds.contains a = true →
      Foreign.systemKinds.contains b = true →
      Foreign.systemKinds.contains (if c then a else b) = true := by
    intro c _ a b yes no
    by_cases h : c
    · rw [if_pos h, yes]
    · rw [if_neg h, no]
  unfold Fault.isOfSystem Fault.kind Files.Refusal.kind Files.Refusal.kindOf
  repeat refine either (by decide) ?_
  decide

/-- A fault of the system does not stop the run. -/
theorem Fault.isStop_of_isOfSystem {f : Fault} (ofSystem : f.isOfSystem = true) :
    f.isStop = false := by
  have apart : ∀ kind ∈ Foreign.systemKinds, Fault.stopKinds.contains kind = false := by decide
  exact apart _ (List.contains_iff_mem.mp ofSystem)

theorem Fault.isStop_refused (r : Files.Refusal) : (Fault.refused r).isStop = false :=
  isStop_of_isOfSystem (isOfSystem_refused r)

/-- What the system refuses to the stream of a writer is reported. -/
theorem Xml.Writer.rejection_refused {σ : Type} (w : Xml.Writer σ) (op : Xml.Operation)
    (r : Files.Refusal) :
    ∃ report : Report, w.rejection op (.refused r) = .report report ∧ report.IsPlain .writer := by
  have expected : op.expects (.refused r) = true := by
    rw [Xml.Operation.expects, Fault.isOfSystem_refused, Bool.true_or]
  have plain : (w.failure op r.message (some (Fault.refused r).asCause)).IsPlain .writer := by
    refine w.isPlain_failure op _ ?_
    rintro c ⟨⟩
    exact ⟨_, rfl⟩
  exact ⟨_, if_pos expected, plain⟩

namespace Command

open Log.Journal (Quiet say_quiet)

variable {tree : Files.Tree}

/-- A failure that can be put into words is told in the journal, and its exit code comes out. -/
theorem tell_says (scene : Scene) (r : Request) {kind : Report.Kind}
    (fatal : kind.isFatal = true) {f : Failure} (plain : f.IsPlain kind) :
    ∃ step : Log.Journal.Placed → Log.Journal.Placed,
      (∀ s, tell scene r f s = .ok f.exitCode { s with placed := step s.placed }) ∧
      ∀ tree p, Quiet tree p → Quiet tree (step p) := by
  cases f with
  | report report =>
    obtain ⟨line, told⟩ := Report.userMessage_of_isPlain plain (decide (1 ≤ (r.verbose : Int)))
      (decide (2 ≤ (r.verbose : Int)))
    have isFatal : report.kind.isFatal = true := by rw [plain.sort, fatal]
    refine ⟨Log.Journal.fail speaker line Context.empty, fun s => ?_,
      fun tree p quiet => say_quiet quiet _ _ _ _ _⟩
    simp only [tell, isFatal, if_true, Failure.line, told]
    rfl
  | fault f =>
    have goesOn : f ≠ .interrupted := by
      rintro rfl
      simp [Failure.IsPlain, Fault.isStop, Fault.kind, Fault.stopKinds] at plain
    refine ⟨fun p => Log.Journal.say speaker Log.debug (scene.trace (.fault f)) [] none
      (Log.Journal.say speaker Log.error "💥 UNHANDLED %s: %s" [.text f.kind, .text f.message]
        none p), fun s => ?_, fun tree p quiet => say_quiet (say_quiet quiet _ _ _ _ _) _ _ _ _ _⟩
    cases f with
    | interrupted => exact absurd rfl goesOn
    | _ => rfl

/-- **A failure that can be put into words is told**, and its exit code comes out. -/
theorem tell_of_isPlain (scene : Scene) (r : Request) {kind : Report.Kind}
    (fatal : kind.isFatal = true) {f : Failure} (plain : f.IsPlain kind) {s : State}
    (quiet : Quiet tree s.placed) :
    ∃ s', tell scene r f s = .ok f.exitCode s' ∧ Quiet tree s'.placed ∧ s'.output = s.output := by
  obtain ⟨step, told, calm⟩ := tell_says scene r fatal plain
  exact ⟨_, told s, calm tree s.placed quiet, rfl⟩

end Command
end MachineDescriptor
