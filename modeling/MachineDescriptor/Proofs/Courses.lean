import MachineDescriptor.Proofs.Loading
import MachineDescriptor.Proofs.Openings

/-!
The courses that a run can take: its configuration is loaded or not, and its document is printed or
saved or fails to be. Each step of a run is told by what it leaves, and every run takes one of the
courses.
-/
namespace MachineDescriptor.Command

open Document (Saved Stands render save)
open Log (Journal)
open Log.Journal (Quiet say_quiet)

variable {scene : Scene} {r : Request} {letters : Text.Letters} {tree : Files.Tree}

/-! ## The course of a run -/

/-- The course of a run: the configuration is not loaded, or the document is printed or saved or
fails to be, or it is saved and its summary cannot be shown. -/
inductive Course (scene : Scene) (r : Request) (letters : Text.Letters) (tree : Files.Tree) :
    Nat → State → Prop
  | unread {f : Failure} {s : State} (failed : r.loaded letters tree = .error f)
      (plain : f.IsPlain .config) (same : s.placed.2 = tree) (silent : s.output = "") :
      Course scene r letters tree f.exitCode s
  | printed {m : Machine} {ports : List Int} {text : String} {s : State}
      (loaded : r.loaded letters tree = .ok (m, ports)) (here : r.destination = .standardOutput)
      (outcome : (order scene r m ports letters).outcome none
        ((order scene r m ports letters).found tree) = .ok text)
      (same : s.placed.2 = tree) (output : s.output = text) : Course scene r letters tree 0 s
  | unprinted {m : Machine} {ports : List Int} {f : Failure} {s : State}
      (loaded : r.loaded letters tree = .ok (m, ports)) (here : r.destination = .standardOutput)
      (outcome : (order scene r m ports letters).outcome none
        ((order scene r m ports letters).found tree) = .error f)
      (plain : f.IsPlain .writer) (same : s.placed.2 = tree) (silent : s.output = "") :
      Course scene r letters tree f.exitCode s
  | saved {m : Machine} {ports : List Int} {path : String} {answer : String}
      {placed : Journal.Placed} {s : State}
      (loaded : r.loaded letters tree = .ok (m, ports)) (there : r.destination = .file path)
      (done : Saved (order scene r m ports letters) (Files.Path.ofString path) tree
        (.ok answer, placed))
      (same : s.placed.2 = placed.2)
      (shown : scene.terminal = true → ∃ text,
        panel (order scene r m ports letters) (Files.Path.ofString path).toString = .ok text) :
      Course scene r letters tree 0 s
  | unshown {m : Machine} {ports : List Int} {path : String} {answer : String}
      {placed : Journal.Placed} {f : Failure} {s : State}
      (loaded : r.loaded letters tree = .ok (m, ports)) (there : r.destination = .file path)
      (done : Saved (order scene r m ports letters) (Files.Path.ofString path) tree
        (.ok answer, placed))
      (same : s.placed.2 = placed.2) (terminal : scene.terminal = true)
      (failed : panel (order scene r m ports letters) (Files.Path.ofString path).toString = .error f)
      (silent : s.output = "") : Course scene r letters tree 1 s
  | unsaved {m : Machine} {ports : List Int} {path : String} {f : Failure}
      {placed : Journal.Placed} {s : State}
      (loaded : r.loaded letters tree = .ok (m, ports)) (there : r.destination = .file path)
      (left : Saved (order scene r m ports letters) (Files.Path.ofString path) tree
        (.error f, placed))
      (same : s.placed.2 = placed.2) (silent : s.output = "") :
      Course scene r letters tree f.exitCode s

/-! ## Steps of a run -/

/-- A step on the journal and the tree, and what comes after it. -/
theorem onPlaced_bind {α β : Type} (step : Journal.Placed → Except Failure α × Journal.Placed)
    (f : α → Running β) (s : State) :
    (onPlaced step >>= f) s =
      match (step s.placed).1 with
      | .ok a => f a { s with placed := (step s.placed).2 }
      | .error e => .error e { s with placed := (step s.placed).2 } := by
  have first : onPlaced step s =
      ofExcept (step s.placed).1 { s with placed := (step s.placed).2 } := rfl
  cases outcome : (step s.placed).1 with
  | ok a =>
    rw [outcome] at first
    exact bind_of_ok first
  | error e =>
    rw [outcome] at first
    exact bind_of_error first

/-- Printing prints the document as a whole or nothing of it. -/
theorem printDocument_apply (o : Document.Order) {s : State} (quiet : Quiet tree s.placed) :
    ∃ s', Quiet tree s'.placed ∧
      match o.outcome none (o.found tree) with
      | .ok text => printDocument o s = .ok () s' ∧ s'.output = s.output ++ text
      | .error f => printDocument o s = .error f s' ∧ s'.output = s.output ∧ f.IsPlain .writer := by
  obtain ⟨⟨journal, tree'⟩, output⟩ := s
  obtain ⟨unlogged, rfl⟩ : journal.files = [] ∧ tree' = tree := quiet
  obtain ⟨quiet', plain⟩ := Document.render_quiet o tree' unlogged
  rw [← Document.render_of_no_files o tree' unlogged]
  unfold printDocument
  rw [onPlaced_bind]
  dsimp only
  cases rendered : render o tree' journal with
  | mk outcome desk =>
    rw [rendered] at quiet' plain
    cases outcome with
    | ok text => exact ⟨_, say_quiet quiet' _ _ _ _ _, rfl, rfl⟩
    | error f => exact ⟨_, quiet', rfl, rfl, plain f rfl⟩

/-- A failure with the exit code one that does not stop the run. -/
def IsLesser (f : Failure) : Prop := f.IsPlain .writer ∧ f.exitCode = 1

/-- A panel that cannot be shown is no reason to stop the run. -/
theorem panel_isLesser {o : Document.Order} {path : String} {f : Failure}
    (failed : panel o path = .error f) : IsLesser f := by
  unfold panel at failed
  cases summed : summary o.machine path o.architecture with
  | error g =>
    rw [summed] at failed
    obtain rfl := Except.error.inj failed
    exact ⟨Typing.integerFault_isStop g, rfl⟩
  | ok text =>
    rw [summed] at failed
    simp only [mapError_ok, bind, Except.bind] at failed
    cases framed : Terminal.panel Terminal.usualColumns "physical.xml".toList text with
    | error g =>
      rw [framed] at failed
      obtain rfl := Except.error.inj failed
      exact ⟨by simp [Failure.IsPlain, Fault.isStop, Fault.kind, Fault.stopKinds], rfl⟩
    | ok text' =>
      rw [framed] at failed
      cases failed

theorem finish_quiet {placed : Journal.Placed} (quiet : Quiet tree placed) (description : String)
    (seconds : Binary64) (failure : Option Failure) :
    Quiet tree (Journal.finish speaker description seconds failure placed) := by
  cases failure with
  | none => exact say_quiet quiet _ _ _ _ _
  | some f =>
    simp only [Journal.finish]
    split
    · exact quiet
    · exact say_quiet quiet _ _ _ _ _

/-- What is said of a stage leaves its outcome and the tree alone. -/
theorem staged_bind {α β : Type} (description : String)
    (step : Journal.Placed → Except Failure α × Journal.Placed) (f : α → Running β) {s : State}
    (quiet : Quiet tree s.placed) :
    ∃ journal : Journal, journal.files = [] ∧
      ((step (journal, tree)).2.1.files = [] →
        ∃ placed, Quiet (step (journal, tree)).2.2 placed ∧
          (staged description step >>= f) s =
            match (step (journal, tree)).1 with
            | .ok a => f a { s with placed }
            | .error e => .error e { s with placed }) := by
  obtain ⟨files, same⟩ : Quiet tree (Journal.begin speaker description s.placed) :=
    say_quiet quiet _ _ _ _ _
  have begun : Journal.begin speaker description s.placed =
      ((Journal.begin speaker description s.placed).1, tree) := by
    rw [← same]
  refine ⟨_, files, fun unlogged => ?_⟩
  rw [← begun] at unlogged ⊢
  unfold staged
  rw [onPlaced_bind]
  exact ⟨_, finish_quiet ⟨unlogged, rfl⟩ _ _ _, rfl⟩

/-- Saving a document saves it, and on a terminal a panel is shown afterwards. -/
theorem saveDocument_apply (scene : Scene) (o : Document.Order) (path : String) {s : State}
    (quiet : Quiet tree s.placed)
    (settles : ∀ journal : Journal, journal.files = [] →
      Saved o (Files.Path.ofString path) tree
        (save o (Files.Path.ofString path) (journal, tree))) :
    ∃ result, Saved o (Files.Path.ofString path) tree result ∧
      ∃ s', s'.placed.1.files = [] ∧ s'.placed.2 = result.2.2 ∧
        match result.1 with
        | .error f => saveDocument scene o path s = .error f s' ∧ s'.output = s.output
        | .ok _ =>
          (saveDocument scene o path s = .ok () s' ∧ (scene.terminal = true → ∃ text,
            panel o (Files.Path.ofString path).toString = .ok text)) ∨
          ∃ f, scene.terminal = true ∧
            panel o (Files.Path.ofString path).toString = .error f ∧
            saveDocument scene o path s = .error f s' ∧ s'.output = s.output := by
  unfold saveDocument
  obtain ⟨journal, files, staged⟩ := staged_bind ("Writing " ++ path)
    (save o (Files.Path.ofString path))
    (fun shown => if scene.terminal then ofExcept (panel o shown) >>= print else pure ()) quiet
  have saved := settles journal files
  obtain ⟨placed, ⟨unlogged, same⟩, applied⟩ := staged saved.unlogged
  refine ⟨_, saved, ?_⟩
  cases outcome : (save o (Files.Path.ofString path) (journal, tree)).1 with
  | error f =>
    rw [outcome] at applied
    exact ⟨_, unlogged, same, applied, rfl⟩
  | ok shown =>
    obtain rfl := saved.answer shown outcome
    rw [outcome] at applied
    cases terminal : scene.terminal with
    | false =>
      rw [terminal] at applied
      exact ⟨_, unlogged, same, .inl ⟨applied, nofun⟩⟩
    | true =>
      rw [terminal] at applied
      cases framed : panel o (Files.Path.ofString path).toString with
      | ok text =>
        simp only [framed] at applied
        exact ⟨_, unlogged, same, .inl ⟨applied, fun _ => ⟨text, rfl⟩⟩⟩
      | error f =>
        simp only [framed] at applied
        exact ⟨_, unlogged, same, .inr ⟨f, rfl, rfl, applied, rfl⟩⟩

/-- A journal that is set up without a log file leaves the tree as it is. -/
theorem setUp_quiet (unlogged : r.logFile = none) (journal : Journal) (tree : Files.Tree) :
    ∃ placed, Journal.setUp r.setup (journal, tree) = .ok () placed ∧ Quiet tree placed := by
  have none : r.setup.file = none := unlogged
  unfold Journal.setUp
  simp only [none]
  exact ⟨_, rfl, say_quiet (say_quiet ⟨rfl, rfl⟩ _ _ _ _ _) _ _ _ _ _⟩

/-! ## Runs -/

/-- What a request is assumed to find: there is no log file, what it loads can be counted, nothing
is a link, files may be removed, and no address is read from the file that the document goes to. -/
structure Request.Fits (r : Request) (letters : Text.Letters) (tree : Files.Tree) : Prop where
  unlogged : r.logFile = none
  countable : r.IsCountable letters tree
  straight : ∀ l target, tree.find? l ≠ some (.link target)
  allowed : tree.mayRemove = true
  away : ∀ m ports path place, r.loaded letters tree = .ok (m, ports) → r.destination = .file path →
    tree.Opens (Files.Path.ofString path) place → ∀ i ∈ m.interfaces.getD [],
      ¬tree.LeadsTo [place] (Network.addressPath (Files.Path.ofString r.interfaces) i)

theorem work_of_unloaded (calm : scene.interrupted = false) {s : State} {f : Failure}
    (failed : r.loaded letters s.placed.2 = .error f) : work scene r letters s = .error f s := by
  have loading := load_apply calm r letters s
  rw [failed] at loading
  exact bind_of_error loading

/-- A run whose configuration is loaded goes on with a note and the document. -/
theorem work_of_loaded (calm : scene.interrupted = false) {s : State} {m : Machine}
    {ports : List Int} (loaded : r.loaded letters tree = .ok (m, ports))
    (quiet : Quiet tree s.placed) :
    ∃ placed, Quiet tree placed ∧
      (r.destination = .standardOutput →
        work scene r letters s = printDocument (order scene r m ports letters) { s with placed }) ∧
      ∀ path, r.destination = .file path →
        work scene r letters s =
          saveDocument scene (order scene r m ports letters) path { s with placed } := by
  have loading := load_apply calm r letters s
  rw [quiet.2, loaded] at loading
  obtain ⟨placed, quiet', noted⟩ : ∃ placed, Quiet tree placed ∧
      noteLoaded (order scene r m ports letters) s = .ok () { s with placed } :=
    ⟨_, say_quiet quiet _ _ _ _ _, modify_apply _ _⟩
  refine ⟨placed, quiet', ?_⟩
  unfold work
  rw [bind_of_ok loading]
  dsimp only
  rw [bind_of_ok noted]
  refine ⟨fun here => ?_, fun path there => ?_⟩
  · rw [here]
  · rw [there]

/-- What the work comes to after the journal was set up. -/
theorem run_apply (unlogged : r.logFile = none) (scene : Scene) (journal : Journal)
    (tree : Files.Tree) :
    ∃ placed, Quiet tree placed ∧
      (∀ s, work scene r letters ⟨placed, ""⟩ = .ok () s →
        r.run scene letters ⟨(journal, tree), ""⟩ = .ok 0 s) ∧
      ∀ f s, work scene r letters ⟨placed, ""⟩ = .error f s →
        r.run scene letters ⟨(journal, tree), ""⟩ = tell scene r f s := by
  obtain ⟨placed, ready, quiet⟩ := setUp_quiet unlogged journal tree
  refine ⟨placed, quiet, fun s worked => ?_, fun f s worked => ?_⟩ <;>
    simp only [Request.run, ready, worked]

/-- A request whose configuration is not loaded is told why. -/
theorem run_unread (calm : scene.interrupted = false) (fits : r.Fits letters tree)
    (journal : Journal)
    {f : Failure} (failed : r.loaded letters tree = .error f) :
    ∃ code s', r.run scene letters ⟨(journal, tree), ""⟩ = .ok code s' ∧
      Course scene r letters tree code s' := by
  obtain ⟨placed, quiet, -, stops⟩ := run_apply fits.unlogged scene journal tree
  have plain := Request.loaded_yields fits.countable
  rw [failed] at plain
  have worked := work_of_unloaded calm (s := ⟨placed, ""⟩) (by rw [quiet.2]; exact failed)
  obtain ⟨s', told, ⟨-, same⟩, silent⟩ := tell_of_isPlain scene r rfl plain (s := ⟨placed, ""⟩) quiet
  exact ⟨_, s', (stops _ _ worked).trans told, .unread failed plain same silent⟩

/-- A request for the standard output prints the document or is told why not. -/
theorem run_printing (calm : scene.interrupted = false) (fits : r.Fits letters tree)
    (journal : Journal)
    {m : Machine} {ports : List Int} (loaded : r.loaded letters tree = .ok (m, ports))
    (here : r.destination = .standardOutput) :
    ∃ code s', r.run scene letters ⟨(journal, tree), ""⟩ = .ok code s' ∧
      Course scene r letters tree code s' := by
  obtain ⟨placed, quiet, ends, stops⟩ := run_apply fits.unlogged scene journal tree
  obtain ⟨placed', quiet', prints, -⟩ := work_of_loaded calm (s := ⟨placed, ""⟩) loaded quiet
  obtain ⟨s₁, quiet₁, printed⟩ := printDocument_apply (order scene r m ports letters)
    (s := ⟨placed', ""⟩) quiet'
  cases outcome : (order scene r m ports letters).outcome none
      ((order scene r m ports letters).found tree) with
  | ok text =>
    rw [outcome] at printed
    obtain ⟨done, output⟩ := printed
    exact ⟨0, s₁, ends _ ((prints here).trans done),
      .printed loaded here outcome quiet₁.2 (by simpa using output)⟩
  | error f =>
    rw [outcome] at printed
    obtain ⟨failed, output, plain⟩ := printed
    obtain ⟨s', told, ⟨-, same⟩, silent⟩ := tell_of_isPlain scene r rfl plain quiet₁
    exact ⟨_, s', (stops _ _ ((prints here).trans failed)).trans told,
      .unprinted loaded here outcome plain same (silent.trans output)⟩

/-- A request for a file saves the document, and shows a summary of it, or is told why not. -/
theorem run_saving (calm : scene.interrupted = false) (fits : r.Fits letters tree)
    (journal : Journal)
    {m : Machine} {ports : List Int} {path : String} (loaded : r.loaded letters tree = .ok (m, ports))
    (there : r.destination = .file path) :
    ∃ code s', r.run scene letters ⟨(journal, tree), ""⟩ = .ok code s' ∧
      Course scene r letters tree code s' := by
  obtain ⟨placed, quiet, ends, stops⟩ := run_apply fits.unlogged scene journal tree
  obtain ⟨placed', quiet', -, saves⟩ := work_of_loaded calm (s := ⟨placed, ""⟩) loaded quiet
  obtain ⟨⟨outcome, left⟩, saved, s₁, unlogged, same, course⟩ :=
    saveDocument_apply scene (order scene r m ports letters) path (s := ⟨placed', ""⟩) quiet'
      fun journal unlogged => Document.save_settles _ _ unlogged fits.straight fits.allowed
        fun place opens => fits.away m ports path place loaded there opens
  cases outcome with
  | error f =>
    obtain ⟨failed, output⟩ := course
    obtain ⟨s', told, ⟨-, same'⟩, silent⟩ :=
      tell_of_isPlain scene r rfl (saved.plain f rfl) ⟨unlogged, rfl⟩
    exact ⟨_, s', (stops _ _ ((saves path there).trans failed)).trans told,
      .unsaved loaded there saved (same'.trans same) (silent.trans output)⟩
  | ok answer =>
    rcases course with ⟨done, shown⟩ | ⟨f, terminal, unshown, failed, output⟩
    · exact ⟨0, s₁, ends _ ((saves path there).trans done),
        .saved loaded there saved same shown⟩
    · obtain ⟨plain, one⟩ := panel_isLesser unshown
      obtain ⟨s', told, ⟨-, same'⟩, silent⟩ := tell_of_isPlain scene r rfl plain ⟨unlogged, rfl⟩
      rw [one] at told
      exact ⟨1, s', (stops _ _ ((saves path there).trans failed)).trans told,
        .unshown loaded there saved (same'.trans same) terminal unshown (silent.trans output)⟩

/-- **Every run takes one of its courses**, and the exit code tells how it ends. -/
theorem run_course (calm : scene.interrupted = false) (fits : r.Fits letters tree)
    (journal : Journal) :
    ∃ code s', r.run scene letters ⟨(journal, tree), ""⟩ = .ok code s' ∧
      Course scene r letters tree code s' := by
  cases loaded : r.loaded letters tree with
  | error f => exact run_unread calm fits journal loaded
  | ok p =>
    obtain ⟨m, ports⟩ := p
    cases destination : r.destination with
    | standardOutput => exact run_printing calm fits journal loaded destination
    | file path => exact run_saving calm fits journal loaded destination

end MachineDescriptor.Command
