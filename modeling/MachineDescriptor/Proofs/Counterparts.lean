import MachineDescriptor.Document.Saving
import MachineDescriptor.Proofs.StraightWalks
import MachineDescriptor.Proofs.Working

/-!
Two runs of the same work. A writer asks its stream for nothing but to take a text, so that two
writers whose streams behave alike go on doing the same; and so do two desks at which a document is
written, as long as their trees give the same addresses whatever lines the journal adds to both. A
journal that keeps no log files is of no account at all.
-/
namespace MachineDescriptor

namespace Xml

variable {σ α β : Type} {alike : σ → σ → Prop}

/-- Two actions end in the same answer or the same failure, with writers that differ in streams that
are alike. -/
inductive SameEnd (alike : σ → σ → Prop) :
    EStateM.Result Failure (Writer σ) α → EStateM.Result Failure (Writer σ) α → Prop
  | ok (x : α) (w : Writer σ) (s : σ) (like : alike w.stream s) :
    SameEnd alike (.ok x w) (.ok x (w.on s))
  | error (f : Failure) (w : Writer σ) (s : σ) (like : alike w.stream s) :
    SameEnd alike (.error f w) (.error f (w.on s))

/-- An action does at a stream what another one does at a stream that is alike. -/
def Blind (alike : σ → σ → Prop) (a b : Action σ α) : Prop :=
  ∀ w s, alike w.stream s → SameEnd alike (a w) (b (w.on s))

theorem Blind.bind {a b : Action σ α} {f g : α → Action σ β} (first : Blind alike a b)
    (second : ∀ x, Blind alike (f x) (g x)) : Blind alike (a >>= f) (b >>= g) := by
  intro w s like
  have same := first w s like
  generalize one : a w = r at same
  generalize other : b (w.on s) = r' at same
  cases same with
  | ok x v s' like' =>
    rw [bind_of_ok one, bind_of_ok other]
    exact second x v s' like'
  | error e v s' like' =>
    rw [bind_of_error one, bind_of_error other]
    exact .error e v s' like'

/-- What writing and flushing do at streams that are alike, all operations of a writer do. -/
theorem blind_composes [Stream σ]
    (write : ∀ op u, Blind alike (onStream op (Stream.write u)) (onStream op (Stream.write u)))
    (flush : ∀ op, Blind alike (onStream op Stream.flush) (onStream op Stream.flush)) :
    Composes fun {α : Type} (a b : Action σ α) => Blind alike a b where
  answer x := fun w s like => .ok x w s like
  follow first second := first.bind second
  look each := fun w s like => each w s w.path w s like
  change {f g} beside same := by
    intro w s like
    obtain ⟨stream, path⟩ := beside w
    have moved : g (w.on s) = (f w).on s :=
      calc g (w.on s) = (f w).onto s w.path := same w s w.path
        _ = (f w).on s := by
          rw [← path]
          rfl
    rw [← stream] at like
    rw [modify_apply, modify_apply, moved]
    exact .ok () (f w) s like
  refuse op reason := fun w s like => .error _ w s like
  escape v := by
    intro w s like
    unfold escaped
    split
    · exact .ok _ w s like
    · exact .error _ w s like
  write op u _ := write op u
  flush op _ := flush op

/-- A writer that is closed after its body closes its stream as one with a stream that is alike. -/
theorem closing_blind [Stream σ] {a b : Action σ α} (body : Blind alike a b)
    (shut : Blind alike (close : Action σ Unit) close) :
    Blind alike (closing a) (closing b) := by
  intro w s like
  have same := body w s like
  unfold closing
  generalize a w = r at same ⊢
  generalize b (w.on s) = r' at same ⊢
  cases same with
  | ok x v s' like' =>
    have last := shut v s' like'
    dsimp only
    generalize close v = c at last ⊢
    generalize close (v.on s') = c' at last ⊢
    cases last with
    | ok u v' s'' like'' => exact .ok x v' s'' like''
    | error f v' s'' like'' => exact .error f v' s'' like''
  | error e v s' like' =>
    have last := shut v s' like'
    dsimp only
    generalize close v = c at last ⊢
    generalize close (v.on s') = c' at last ⊢
    cases last with
    | ok u v' s'' like'' => exact .error e v' s'' like''
    | error f v' s'' like'' => exact .error f v' s'' like''

theorem outcomeOf_blind {a b : Action σ α} (blind : Blind alike a b) {w : Writer σ} {s : σ}
    (like : alike w.stream s) : (outcomeOf b (w.on s)).1 = (outcomeOf a w).1 := by
  have same := blind w s like
  unfold outcomeOf
  generalize a w = r at same ⊢
  generalize b (w.on s) = r' at same ⊢
  cases same <;> rfl

end Xml

namespace Document

open Xml

section

variable {κ : Type} {files : List Files.Location} {directory : Files.Path} {home : Files.Location}

/-- Two desks that differ only in their trees, which are twins in all that the directory of
interfaces tells. -/
structure Desk.Alike (files : List Files.Location) (directory : Files.Path)
    (home : Files.Location) (d d' : Desk κ) : Prop where
  paper : d'.paper = d.paper
  journal : d'.journal = d.journal
  logged : d.journal.files = files
  trees : Files.Tree.Twins files directory home d.tree d'.tree

/-- A step on a stream in memory is the same at both desks. -/
theorem onPaper_blind (op : Operation) (step : EStateM Fault Memory Unit) :
    Blind (Desk.Alike files directory home) (onStream op (Desk.onPaper (besideTree step)))
      (onStream op (Desk.onPaper (besideTree step))) := by
  rintro w ⟨paper, tree, journal⟩ ⟨same, told, logged, trees⟩
  dsimp only at same told
  subst same told
  simp only [onStream, Desk.onPaper, besideTree, Writer.on]
  cases step w.stream.paper with
  | ok u m =>
    have like : Desk.Alike files directory home ⟨m, w.stream.tree, w.stream.journal⟩
        ⟨m, tree, w.stream.journal⟩ := ⟨rfl, rfl, logged, trees⟩
    exact .ok u (w.on _) _ like
  | error f m =>
    have like : Desk.Alike files directory home ⟨m, w.stream.tree, w.stream.journal⟩
        ⟨m, tree, w.stream.journal⟩ := ⟨rfl, rfl, logged, trees⟩
    exact .error _ (w.on _) _ like

theorem twins_withLines {lines : List (Files.Location × List UInt8)}
    (within : ∀ line ∈ lines, line.1 ∈ files) {t t' : Files.Tree}
    (twins : Files.Tree.Twins files directory home t t') :
    Files.Tree.Twins files directory home (Log.Journal.withLines t lines)
      (Log.Journal.withLines t' lines) := by
  induction lines generalizing t t' with
  | nil => exact twins
  | cons line rest ih =>
    obtain ⟨first, others⟩ := List.forall_mem_cons.mp within
    exact ih others (twins.append first line.2)

/-- What is said at both desks adds the same lines to their trees. -/
theorem say_blind (speaker : Log.Speaker) (level : Log.Level) (template : String)
    (arguments : List Value) :
    Blind (Desk.Alike files directory home) (say speaker level template arguments : Work κ Unit)
      (say speaker level template arguments) := by
  rintro w ⟨paper, tree, journal⟩ ⟨same, told, logged, trees⟩
  dsimp only at same told trees
  subst same told
  obtain ⟨journal', lines, kept, within, said⟩ :=
    Log.Journal.say_adds speaker level template arguments none w.stream.journal
  rw [logged] at within
  have logged' : journal'.files = files := by
    rw [← logged, Log.Journal.files, kept]
    rfl
  simp only [say, onJournal, modify_apply, Writer.on, said]
  have like : Desk.Alike files directory home
      ⟨w.stream.paper, Log.Journal.withLines w.stream.tree lines, journal'⟩
      ⟨w.stream.paper, Log.Journal.withLines tree lines, journal'⟩ :=
    ⟨rfl, rfl, logged', twins_withLines within trees⟩
  exact .ok () (w.on _) _ like

/-- What is found out about an interface that stays in the directory is the same at both desks. -/
theorem lookUpAddress_blind (letters : Text.Letters) {interface : String}
    (stays : Network.StaysIn home interface) :
    Blind (Desk.Alike files directory home)
      (lookUpAddress letters directory interface : Work κ (Option String))
      (lookUpAddress letters directory interface) := by
  intro w s like
  have same := Network.lookUp_of_twins like.trees letters stays
  unfold lookUpAddress theTree
  simp only [bind_assoc, pure_bind, get_bind, Writer.on, same]
  cases Network.lookUp letters w.stream.tree directory interface with
  | error f => exact .error _ w s like
  | ok found =>
    cases found with
    | address text => exact .ok _ w s like
    | unreadable path why =>
      have answers : Blind (Desk.Alike files directory home)
          (pure none : Work κ (Option String)) (pure none) := fun w s like => .ok none w s like
      exact (say_blind _ _ _ _).bind (fun _ => answers) w s like

theorem contents_blind :
    Blind (Desk.Alike files directory home) (contents : Work Memory String) contents := by
  rintro w ⟨paper, tree, journal⟩ like
  obtain rfl : paper = w.stream.paper := like.paper
  simp only [contents, Stream.value, Writer.on]
  cases Memory.value w.stream.paper with
  | ok text => exact .ok text w _ like
  | error f => exact .error _ w _ like

/-- All the work on a document is the same at both desks. -/
theorem write_blind {o : Order}
    (stay : ∀ i ∈ o.machine.interfaces.getD [], Network.StaysIn home i) :
    Blind (Desk.Alike files o.interfaces home) (write o : Work Memory Unit) (write o) := by
  have pervades : Pervades o fun {α : Type} (a b : Work Memory α) =>
      Blind (Desk.Alike files o.interfaces home) a b :=
    { blind_composes (fun op u => onPaper_blind op (Memory.write u))
        (fun op => onPaper_blind op Memory.flush) with
      say := say_blind
      lookUp := fun i listed => lookUpAddress_blind o.letters (stay i listed)
      missingPort := fun w s like => .error _ w s like }
  exact write_pervaded pervades

/-- A document is the same for twins. -/
theorem render_of_twins {o : Order} {tree tree' : Files.Tree} {journal : Log.Journal}
    (twins : Files.Tree.Twins journal.files o.interfaces home tree tree')
    (stay : ∀ i ∈ o.machine.interfaces.getD [], Network.StaysIn home i) :
    (render o tree' journal).1 = (render o tree journal).1 := by
  have blind : Blind (Desk.Alike journal.files o.interfaces home)
      (write o >>= fun _ => contents : Work Memory String) (write o >>= fun _ => contents) :=
    (write_blind stay).bind fun _ => contents_blind
  have like : Desk.Alike journal.files o.interfaces home ⟨Memory.empty, tree, journal⟩
      ⟨Memory.empty, tree', journal⟩ := ⟨rfl, rfl, rfl, twins⟩
  exact outcomeOf_blind blind (w := .inMemory ⟨Memory.empty, tree, journal⟩ defaultIndent) like

end

/-! ## Journals without log files -/

section

variable {κ : Type} [Stream (κ × Files.Tree)]

/-- Two desks that differ only in their journals, which have no log files. -/
structure Desk.Unlogged (d d' : Desk κ) : Prop where
  paper : d'.paper = d.paper
  tree : d'.tree = d.tree
  here : d.journal.files = []
  there : d'.journal.files = []

omit [Xml.Stream (κ × Files.Tree)] in
theorem onPaper_unlogged (op : Operation) (step : EStateM Fault (κ × Files.Tree) Unit) :
    Blind Desk.Unlogged (onStream op (Desk.onPaper step)) (onStream op (Desk.onPaper step)) := by
  rintro w ⟨paper, tree, journal⟩ ⟨same, beside, here, there⟩
  dsimp only at same beside
  subst same beside
  simp only [onStream, Desk.onPaper, Writer.on]
  cases step (w.stream.paper, w.stream.tree) with
  | ok u s =>
    have like : Desk.Unlogged ⟨s.1, s.2, w.stream.journal⟩ ⟨s.1, s.2, journal⟩ :=
      ⟨rfl, rfl, here, there⟩
    exact .ok u (w.on _) _ like
  | error f s =>
    have like : Desk.Unlogged ⟨s.1, s.2, w.stream.journal⟩ ⟨s.1, s.2, journal⟩ :=
      ⟨rfl, rfl, here, there⟩
    exact .error _ (w.on _) _ like

omit [Xml.Stream (κ × Files.Tree)] in
theorem say_unlogged (speaker : Log.Speaker) (level : Log.Level) (template : String)
    (arguments : List Value) :
    Blind Desk.Unlogged (say speaker level template arguments : Work κ Unit)
      (say speaker level template arguments) := by
  rintro w d ⟨paper, beside, here, there⟩
  have quiet := Log.Journal.say_quiet (p := (w.stream.journal, w.stream.tree)) ⟨here, rfl⟩ speaker
    level template arguments none
  have quiet' := Log.Journal.say_quiet (p := (d.journal, d.tree)) ⟨there, rfl⟩ speaker level
    template arguments none
  exact .ok () (w.on _) _ ⟨paper, (quiet'.2.trans beside).trans quiet.2.symm, quiet.1, quiet'.1⟩

omit [Xml.Stream (κ × Files.Tree)] in
theorem lookUpAddress_unlogged (letters : Text.Letters) (directory : Files.Path)
    (interface : String) :
    Blind Desk.Unlogged (lookUpAddress letters directory interface : Work κ (Option String))
      (lookUpAddress letters directory interface) := by
  intro w d like
  unfold lookUpAddress theTree
  simp only [bind_assoc, pure_bind, get_bind, Writer.on, like.tree]
  cases Network.lookUp letters w.stream.tree directory interface with
  | error f => exact .error _ w d like
  | ok found =>
    cases found with
    | address text => exact .ok _ w d like
    | unreadable path why =>
      have answers : Blind Desk.Unlogged (pure none : Work κ (Option String)) (pure none) :=
        fun w d like => .ok none w d like
      exact (say_unlogged _ _ _ _).bind (fun _ => answers) w d like

theorem close_unlogged : Blind Desk.Unlogged (close : Work κ Unit) close := by
  rintro w ⟨paper, tree, journal⟩ like
  have same := like.paper
  have beside := like.tree
  dsimp only at same beside
  subst same beside
  have closed : Stream.isClosed (w.on ⟨w.stream.paper, w.stream.tree, journal⟩).stream =
      Stream.isClosed w.stream := rfl
  have shut : Blind Desk.Unlogged
      (if w.path.isSome && !Stream.isClosed w.stream then onStream .closing Stream.close
        else pure () : Work κ Unit)
      (if w.path.isSome && !Stream.isClosed w.stream then onStream .closing Stream.close
        else pure ()) := by
    split
    · exact onPaper_unlogged .closing Stream.close
    · exact fun w s like => .ok () w s like
  unfold close
  rw [get_bind, get_bind, closed]
  exact shut w _ like

/-- What the work on a document comes to is not for the journal to tell when there are no log
files. -/
theorem closing_unlogged (o : Order) :
    Blind Desk.Unlogged (closing (write o) : Work κ Unit) (closing (write o)) := by
  have pervades : Pervades o fun {α : Type} (a b : Work κ α) => Blind Desk.Unlogged a b :=
    { blind_composes (fun op u => onPaper_unlogged op (Stream.write u))
        (fun op => onPaper_unlogged op Stream.flush) with
      say := say_unlogged
      lookUp := fun i _ => lookUpAddress_unlogged o.letters o.interfaces i
      missingPort := fun w s like => .error _ w s like }
  exact closing_blind (write_pervaded pervades) close_unlogged

end

end Document

end MachineDescriptor
