import MachineDescriptor.Proofs.Rendering
import MachineDescriptor.Proofs.Working

/-!
What work on a document enters in the journal. Every action adds records at the end of the journal;
which ones, is told for an action that succeeds and for one that fails for want of a port. The
operations of the writer add none and never fail in that way, so that only what is said counts.
-/
namespace MachineDescriptor

/-! ## What is said -/

namespace Log.Journal

theorem putLine_records (sink : Sink) (line : List Char) (p : Placed) :
    (putLine sink line p).1.records = p.1.records ∧
      (putLine sink line p).1.surroundings = p.1.surroundings := by
  cases sink <;> exact ⟨rfl, rfl⟩

theorem handTo_records (r : Record) (p : Placed) (o : Outlet) :
    (handTo r p o).1.records = p.1.records ∧
      (handTo r p o).1.surroundings = p.1.surroundings := by
  unfold handTo
  split
  · exact putLine_records o.sink _ p
  · exact ⟨rfl, rfl⟩

theorem foldl_handTo_records (r : Record) (outlets : List Outlet) (p : Placed) :
    (outlets.foldl (handTo r) p).1.records = p.1.records ∧
      (outlets.foldl (handTo r) p).1.surroundings = p.1.surroundings := by
  induction outlets generalizing p with
  | nil => exact ⟨rfl, rfl⟩
  | cons o rest ih =>
    obtain ⟨records, surroundings⟩ := handTo_records r p o
    obtain ⟨records', surroundings'⟩ := ih (handTo r p o)
    exact ⟨records'.trans records, surroundings'.trans surroundings⟩

/-- A record that is entered stands at the end of the journal. -/
theorem enter_records (r : Record) (p : Placed) :
    (enter r p).1.records = p.1.records ++ [r] ∧
      (enter r p).1.surroundings = p.1.surroundings := by
  unfold enter
  dsimp only
  split
  · split
    · exact foldl_handTo_records r _ _
    · exact ⟨rfl, rfl⟩
  · split
    · split
      · exact putLine_records _ _ _
      · exact ⟨rfl, rfl⟩
    · exact ⟨rfl, rfl⟩

theorem say_records (speaker : Speaker) (level : Level) (template : String)
    (arguments : List Value) (context : Option Context) (p : Placed) :
    (say speaker level template arguments context p).1.records = p.1.records ++
        [recordOf p.1.surroundings speaker level (.text template) arguments context] ∧
      (say speaker level template arguments context p).1.surroundings = p.1.surroundings :=
  enter_records _ p

end Log.Journal

namespace Document

open Xml
open Log (Record)

/-- A desk as all work on a document finds it and leaves it: with the surroundings and the log files
of its journal, and with a tree in which nothing but these files was written. -/
structure Steady (s : Log.Surroundings) (tree : Files.Tree) (files : List Files.Location)
    (d : Desk Memory) : Prop where
  surroundings : d.journal.surroundings = s
  logs : d.journal.files = files
  tree : tree.Overlays files d.tree

variable {s : Log.Surroundings} {tree : Files.Tree} {files : List Files.Location} {α β : Type}

/-- What a result leaves in a journal that had some records before. -/
def Left (s : Log.Surroundings) (tree : Files.Tree) (files : List Files.Location)
    (tells : α → List Record → Prop) (stops : List Record → Prop) (before : List Record) :
    EStateM.Result Failure (Writer (Desk Memory)) α → Prop
  | .ok x w => Steady s tree files w.stream ∧
      ∃ added, w.stream.journal.records = before ++ added ∧ tells x added
  | .error f w => f = .fault .missingPort →
      ∃ added, w.stream.journal.records = before ++ added ∧ stops added

/-- What an action enters in the journal when it succeeds, and when it fails for want of a port. -/
def Enters (s : Log.Surroundings) (tree : Files.Tree) (files : List Files.Location)
    (a : Work Memory α) (tells : α → List Record → Prop) (stops : List Record → Prop) : Prop :=
  ∀ w, Steady s tree files w.stream →
    Left s tree files tells stops w.stream.journal.records (a w)

/-- An action that enters nothing and fails for other reasons only. -/
def Silent (s : Log.Surroundings) (tree : Files.Tree) (files : List Files.Location)
    (a : Work Memory α) : Prop :=
  Enters s tree files a (fun _ added => added = []) fun _ => False

/-! ## Actions one after the other -/

theorem Enters.mono {a : Work Memory α} {tells tells' : α → List Record → Prop}
    {stops stops' : List Record → Prop} (enters : Enters s tree files a tells stops)
    (said : ∀ x added, tells x added → tells' x added) (stopped : ∀ added, stops added → stops' added) :
    Enters s tree files a tells' stops' := by
  intro w stands
  have left := enters w stands
  cases result : a w with
  | ok x v =>
    rw [result] at left
    obtain ⟨stands', added, records, told⟩ := left
    exact ⟨stands', added, records, said x added told⟩
  | error f v =>
    rw [result] at left
    intro missing
    obtain ⟨added, records, told⟩ := left missing
    exact ⟨added, records, stopped added told⟩

theorem Enters.bind {a : Work Memory α} {f : α → Work Memory β}
    {tells : α → List Record → Prop} {tells' : α → β → List Record → Prop}
    {stops : List Record → Prop} {stops' : α → List Record → Prop}
    (first : Enters s tree files a tells stops)
    (second : ∀ x, Enters s tree files (f x) (tells' x) (stops' x)) :
    Enters s tree files (a >>= f)
      (fun y added => ∃ x l l', added = l ++ l' ∧ tells x l ∧ tells' x y l')
      fun added => stops added ∨ ∃ x l l', added = l ++ l' ∧ tells x l ∧ stops' x l' := by
  intro w stands
  have left := first w stands
  cases result : a w with
  | error f v =>
    rw [result] at left
    rw [bind_of_error result]
    intro missing
    obtain ⟨added, records, told⟩ := left missing
    exact ⟨added, records, .inl told⟩
  | ok x v =>
    rw [result] at left
    obtain ⟨stands', l, records, told⟩ := left
    have left' := second x v stands'
    rw [bind_of_ok result]
    cases result' : f x v with
    | error f u =>
      rw [result'] at left'
      intro missing
      obtain ⟨l', records', told'⟩ := left' missing
      refine ⟨l ++ l', ?_, .inr ⟨x, l, l', rfl, told, told'⟩⟩
      rw [records', records, List.append_assoc]
    | ok y u =>
      rw [result'] at left'
      obtain ⟨stands'', l', records', told'⟩ := left'
      refine ⟨stands'', l ++ l', ?_, x, l, l', rfl, told, told'⟩
      rw [records', records, List.append_assoc]

/-- Two actions of which neither fails for want of a port. -/
theorem Enters.follow {a : Work Memory α} {f : α → Work Memory β}
    {tells : α → List Record → Prop} {tells' : α → β → List Record → Prop}
    (first : Enters s tree files a tells fun _ => False)
    (second : ∀ x, Enters s tree files (f x) (tells' x) fun _ => False) :
    Enters s tree files (a >>= f)
      (fun y added => ∃ x l l', added = l ++ l' ∧ tells x l ∧ tells' x y l') fun _ => False := by
  refine (first.bind second).mono (fun _ _ told => told) ?_
  rintro _ (none | ⟨_, _, _, _, _, none⟩)
  · exact none
  · exact none

theorem Enters.pure (x : α) : Enters s tree files (pure x : Work Memory α)
    (fun y added => y = x ∧ added = []) fun _ => False := fun _ stands =>
  ⟨stands, [], (List.append_nil _).symm, rfl, rfl⟩

theorem Silent.pure (x : α) : Silent s tree files (pure x : Work Memory α) :=
  (Enters.pure x).mono (fun _ _ answered => answered.2) fun _ none => none

theorem Silent.then_enters {a : Work Memory α} {f : α → Work Memory β}
    {tells : β → List Record → Prop} {stops : List Record → Prop} (silent : Silent s tree files a)
    (second : ∀ x, Enters s tree files (f x) tells stops) :
    Enters s tree files (a >>= f) tells stops := by
  refine (Enters.bind silent second).mono ?_ ?_
  · rintro y _ ⟨x, l, l', rfl, rfl, told⟩
    exact told
  · rintro _ (none | ⟨x, l, l', rfl, rfl, told⟩)
    · exact none.elim
    · exact told

theorem Enters.then_silent {a : Work Memory Unit} {b : Work Memory Unit}
    {tells : List Record → Prop} {stops : List Record → Prop}
    (enters : Enters s tree files a (fun _ => tells) stops) (silent : Silent s tree files b) :
    Enters s tree files (a >>= fun _ => b) (fun _ => tells) stops := by
  refine (Enters.bind enters fun _ => silent).mono ?_ ?_
  · rintro y _ ⟨x, l, l', rfl, told, rfl⟩
    rwa [List.append_nil]
  · rintro _ (told | ⟨x, l, l', rfl, -, none⟩)
    · exact told
    · exact none.elim

/-! ## Operations of the writer -/

theorem silent_of_keeping {a : Work Memory α}
    (keeping : ∀ w, match a w with
      | .ok _ w' => w'.stream.journal = w.stream.journal ∧ w'.stream.tree = w.stream.tree
      | .error f _ => f ≠ .fault .missingPort) : Silent s tree files a := by
  intro w stands
  have kept := keeping w
  cases result : a w with
  | error f v =>
    rw [result] at kept
    exact fun missing => absurd missing kept
  | ok x v =>
    rw [result] at kept
    obtain ⟨journal, tree'⟩ := kept
    refine ⟨⟨?_, ?_, ?_⟩, [], ?_, rfl⟩
    · rw [journal, stands.surroundings]
    · rw [journal, stands.logs]
    · rw [tree']
      exact stands.tree
    · rw [journal, List.append_nil]

/-- A step on paper in memory keeps the journal and the tree. -/
theorem onStream_silent (op : Operation) {step : EStateM Fault Memory Unit}
    (spared : ∀ m m', step m ≠ .error .missingPort m') :
    Silent s tree files (onStream op (Desk.onPaper (besideTree step)) : Work Memory Unit) := by
  refine silent_of_keeping fun w => ?_
  simp only [onStream, Desk.onPaper, besideTree]
  cases result : step w.stream.paper with
  | ok u m => exact ⟨rfl, rfl⟩
  | error f m =>
    refine Writer.rejection_ne_fault _ op ?_
    rintro rfl
    exact spared _ _ result

theorem Memory.write_spares (u : String) (m m' : Memory) :
    Memory.write u m ≠ .error .missingPort m' := by
  unfold Memory.write
  split
  · nofun
  · split <;> nofun

theorem Memory.flush_spares (m m' : Memory) : Memory.flush m ≠ .error .missingPort m' := by
  unfold Memory.flush
  split <;> nofun

/-- **The operations of the writer enter nothing.** -/
theorem silent_composes (s : Log.Surroundings) (tree : Files.Tree) (files : List Files.Location) :
    Composes fun {α : Type} (a _ : Work Memory α) => Silent s tree files a where
  answer x := Silent.pure x
  follow first second := first.then_enters second
  look each := fun w stands => each w w.stream w.path w stands
  change beside _ := silent_of_keeping fun w => by
    rw [modify_apply]
    obtain ⟨same, -⟩ := beside w
    exact ⟨congrArg Desk.journal same, congrArg Desk.tree same⟩
  refuse op reason := silent_of_keeping fun w same => by cases same
  escape v := silent_of_keeping fun w => by
    unfold escaped
    cases escapeValue v with
    | ok cs => exact ⟨rfl, rfl⟩
    | error f =>
      intro same
      cases same
  write op u _ := onStream_silent op (Memory.write_spares u)
  flush op _ := onStream_silent op Memory.flush_spares

/-- What is said is entered. -/
theorem say_enters (room : tree.HasRoom files) (speaker : Log.Speaker) (level : Log.Level)
    (template : String) (arguments : List Value) :
    Enters s tree files (say speaker level template arguments : Work Memory Unit)
      (fun _ added => added =
        [Log.Journal.recordOf s speaker level (.text template) arguments none])
      fun _ => False := by
  intro w stands
  have bears : Log.Journal.Bears (fun tree' => tree.Overlays files tree')
      w.stream.journal.files := by
    rw [stands.logs]
    exact fun _ listed _ _ held => held.set (room.ne_nil listed) listed _
  have spares := Log.Journal.say_spares (p := (w.stream.journal, w.stream.tree)) bears speaker
    level template arguments none stands.tree
  obtain ⟨records, surroundings⟩ := Log.Journal.say_records speaker level template arguments none
    (w.stream.journal, w.stream.tree)
  refine ⟨⟨surroundings.trans stands.surroundings, (Log.Journal.files_of_spares spares).trans
    stands.logs, spares.2⟩, _, records, ?_⟩
  rw [stands.surroundings]

end Document
end MachineDescriptor
