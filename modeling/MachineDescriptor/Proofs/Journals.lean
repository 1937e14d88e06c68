import MachineDescriptor.Log.Journal

/-!
What a journal does to the tree of files. A journal only ever puts lines at the ends of its log
files, so that whatever such lines leave alone is left alone by all that is said.
-/
namespace MachineDescriptor.Log

/-- The file that a sink is. -/
def Sink.file? : Sink → Option Files.Location
  | .file place => some place
  | _ => none

/-- The log files of a journal. -/
def Journal.files (j : Journal) : List Files.Location := j.outlets.filterMap fun o => o.sink.file?

namespace Journal

/-! ## What is said -/

/-- The tree with bytes put at the ends of files, one line after the other. -/
def withLines (t : Files.Tree) (lines : List (Files.Location × List UInt8)) : Files.Tree :=
  lines.foldl (fun t line => t.append line.1 line.2) t

/-- A step that a journal alone decides: it leaves a journal with the same outlets, and it adds the
same lines to some files whatever the tree is. -/
def Adds (files : List Files.Location) (j : Journal) (step : Placed → Placed) : Prop :=
  ∃ j' lines, j'.outlets = j.outlets ∧ (∀ line ∈ lines, line.1 ∈ files) ∧
    ∀ t, step (j, t) = (j', withLines t lines)

variable {files : List Files.Location}

theorem putLine_adds {sink : Sink} (listed : ∀ l, sink.file? = some l → l ∈ files)
    (line : List Char) (j : Journal) : Adds files j (putLine sink line) := by
  cases sink with
  | errorStream =>
    refine ⟨{ j with errorText := j.errorText ++ String.ofList line ++ "\n" }, [], rfl, by simp, ?_⟩
    exact fun _ => rfl
  | device => exact ⟨j, [], rfl, by simp, fun _ => rfl⟩
  | file place =>
    refine ⟨j, [(place, Text.Utf8.encode (line ++ ['\n']))], rfl, ?_, fun _ => rfl⟩
    intro line here
    obtain rfl := List.mem_singleton.mp here
    exact listed place rfl

theorem handTo_adds {o : Outlet} (listed : ∀ l, o.sink.file? = some l → l ∈ files) (r : Record)
    (j : Journal) : Adds files j fun p => handTo r p o := by
  unfold handTo Adds
  dsimp only
  cases layOut j.surroundings o.layout r with
  | ok line => exact putLine_adds listed line j
  | error _ => exact ⟨j, [], rfl, by simp, fun _ => rfl⟩

theorem foldl_handTo_adds {outlets : List Outlet}
    (listed : ∀ o ∈ outlets, ∀ l, o.sink.file? = some l → l ∈ files) (r : Record) (j : Journal) :
    Adds files j fun p => outlets.foldl (handTo r) p := by
  induction outlets generalizing j with
  | nil => exact ⟨j, [], rfl, by simp, fun _ => rfl⟩
  | cons o rest ih =>
    obtain ⟨first, others⟩ := List.forall_mem_cons.mp listed
    obtain ⟨j₁, lines₁, kept₁, within₁, adds₁⟩ := handTo_adds first r j
    obtain ⟨j₂, lines₂, kept₂, within₂, adds₂⟩ := ih others j₁
    refine ⟨j₂, lines₁ ++ lines₂, kept₂.trans kept₁, ?_, fun t => ?_⟩
    · intro line here
      exact (List.mem_append.mp here).elim (within₁ line) (within₂ line)
    · simp only [List.foldl_cons, adds₁, adds₂, withLines, List.foldl_append]

theorem enter_adds (r : Record) (j : Journal) : Adds j.files j (enter r) := by
  have listed : ∀ o ∈ j.outlets, ∀ l, o.sink.file? = some l → l ∈ j.files :=
    fun o outlet l file => List.mem_filterMap.mpr ⟨o, outlet, file⟩
  let noted : Journal := { j with records := j.records ++ [r] }
  have only : Adds j.files noted fun p => p := ⟨noted, [], rfl, by simp, fun _ => rfl⟩
  have stream : ∀ l, Sink.errorStream.file? = some l → l ∈ j.files := by simp [Sink.file?]
  unfold enter Adds
  dsimp only
  split
  · split
    · exact foldl_handTo_adds listed r noted
    · exact only
  · split
    · split
      · exact putLine_adds stream _ noted
      · exact only
    · exact only

/-- What is said depends on the journal alone, and adds lines to its log files. -/
theorem say_adds (speaker : Speaker) (level : Level) (template : String) (arguments : List Value)
    (context : Option Context) (j : Journal) :
    Adds j.files j (say speaker level template arguments context) :=
  enter_adds (recordOf j.surroundings speaker level (.text template) arguments context) j

/-! ## What is left alone -/

/-- A step that keeps the outlets, and whatever lines in log files leave alone in the tree. -/
def Spares (holds : Files.Tree → Prop) (p q : Placed) : Prop :=
  q.1.outlets = p.1.outlets ∧ holds q.2

variable {holds : Files.Tree → Prop}

/-- Lines at the ends of some files leave a property of the tree alone. -/
def Bears (holds : Files.Tree → Prop) (files : List Files.Location) : Prop :=
  ∀ l ∈ files, ∀ t bytes, holds t → holds (t.append l bytes)

theorem Bears.withLines (bears : Bears holds files) {lines : List (Files.Location × List UInt8)}
    (within : ∀ line ∈ lines, line.1 ∈ files) {t : Files.Tree} (h : holds t) :
    holds (withLines t lines) := by
  induction lines generalizing t with
  | nil => exact h
  | cons line rest ih =>
    obtain ⟨first, others⟩ := List.forall_mem_cons.mp within
    exact ih others (bears line.1 first t line.2 h)

/-- All that is said leaves alone what lines at the ends of log files leave alone. -/
theorem say_spares {p : Placed} (bears : Bears holds p.1.files) (speaker : Speaker) (level : Level)
    (template : String) (arguments : List Value) (context : Option Context) (h : holds p.2) :
    Spares holds p (say speaker level template arguments context p) := by
  obtain ⟨j, t⟩ := p
  obtain ⟨j', lines, kept, within, said⟩ := say_adds speaker level template arguments context j
  rw [said t]
  exact ⟨kept, bears.withLines within h⟩

theorem files_of_spares {p q : Placed} (spares : Spares holds p q) : q.1.files = p.1.files := by
  rw [files, files, spares.1]

/-- Nothing that is said changes which log files there are. -/
theorem say_files (speaker : Speaker) (level : Level) (template : String) (arguments : List Value)
    (context : Option Context) (p : Placed) :
    (say speaker level template arguments context p).1.files = p.1.files := by
  have bears : Bears (fun _ => True) p.1.files := fun _ _ _ _ _ => trivial
  exact files_of_spares (say_spares bears speaker level template arguments context trivial)

/-- A journal without log files, in a given tree. -/
def Quiet (tree : Files.Tree) (p : Placed) : Prop := p.1.files = [] ∧ p.2 = tree

/-- Without log files, all that is said leaves the tree as it is. -/
theorem say_quiet {tree : Files.Tree} {p : Placed} (quiet : Quiet tree p) (speaker : Speaker)
    (level : Level) (template : String) (arguments : List Value) (context : Option Context) :
    Quiet tree (say speaker level template arguments context p) := by
  obtain ⟨none, rfl⟩ := quiet
  have bears : Bears (fun t => t = p.2) p.1.files := by
    intro l listed
    rw [none] at listed
    cases listed
  have spares := say_spares bears speaker level template arguments context rfl
  exact ⟨(files_of_spares spares).trans none, spares.2⟩

end Journal
end MachineDescriptor.Log
