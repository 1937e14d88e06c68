import MachineDescriptor.Proofs.Exits
import MachineDescriptor.Proofs.Working

/-!
Which calls end with an exit code. Whatever log files there are and whatever stands in the tree, all
that goes wrong while a configuration is loaded and its document is written can be told, and so it
comes to an exit code. Only the log file is opened before anything can be told: where that fails,
the fault comes out of the call.
-/
namespace MachineDescriptor

/-! ## Streams whose faults can be told -/

/-- Every fault of a step can be put into words and does not stop the run. -/
def Speaks {τ : Type} (step : EStateM Fault τ Unit) : Prop :=
  ∀ s f s', step s = .error f s' → (∃ text, f.written = .ok text) ∧ f.isStop = false

namespace Document

open Xml

theorem besideTree_speaks {step : EStateM Fault Memory Unit} (speaks : Speaks step) :
    Speaks (besideTree step) := by
  rintro ⟨m, tree⟩ f s' failed
  unfold besideTree at failed
  dsimp only at failed
  cases result : step m with
  | ok u m' =>
    rw [result] at failed
    cases failed
  | error g m' =>
    rw [result] at failed
    cases failed
    exact speaks m f m' result

theorem memory_write_speaks (u : String) : Speaks (Memory.write u) := by
  intro m f m' failed
  unfold Memory.write at failed
  split at failed
  · cases failed
    exact ⟨⟨_, rfl⟩, Fault.isStop_refused _⟩
  · split at failed
    · cases failed
      exact ⟨⟨_, rfl⟩, rfl⟩
    · cases failed

theorem memory_flush_speaks : Speaks Memory.flush := by
  intro m f m' failed
  unfold Memory.flush at failed
  split at failed
  · cases failed
    exact ⟨⟨_, rfl⟩, Fault.isStop_refused _⟩
  · cases failed

theorem onOpenFile_speaks (step : EStateM Files.Refusal Files.Handle.Placed Unit) :
    Speaks (onOpenFile step) := by
  intro s f s' failed
  unfold onOpenFile at failed
  split at failed
  · cases failed
    exact ⟨⟨_, rfl⟩, rfl⟩
  · split at failed
    · cases failed
    · cases failed
      exact ⟨⟨_, rfl⟩, Fault.isStop_refused _⟩

theorem writeToFile_speaks (u : String) : Speaks (writeToFile u) := by
  intro s f s' failed
  unfold writeToFile at failed
  split at failed
  · exact onOpenFile_speaks _ s f s' failed
  · cases failed
    split
    · exact ⟨⟨_, rfl⟩, rfl⟩
    · exact ⟨⟨_, rfl⟩, rfl⟩

theorem close_speaks : Speaks (Stream.close : EStateM Fault Files.Handle.Placed Unit) := by
  intro s f s' failed
  simp only [Stream.close] at failed
  split at failed
  · cases failed
  · exact onOpenFile_speaks _ s f s' failed

/-! ## Work whose failures can be told -/

section

variable {κ α : Type} {path : Option String}

/-- Every failure of a piece of work can be put into words. -/
abbrev Explains (path : Option String) (a : Work κ α) : Prop :=
  Keeps (fun _ : Desk κ => True) (fun f _ => f.IsPlain .writer) path a

theorem onStream_explains (op : Operation) {step : EStateM Fault (κ × Files.Tree) Unit}
    (speaks : Speaks step) : Explains path (onStream op (Desk.onPaper step)) := by
  intro w named _
  simp only [onStream, Desk.onPaper]
  cases result : step (w.stream.paper, w.stream.tree) with
  | ok u s => exact ⟨trivial, named⟩
  | error f s =>
    obtain ⟨told, goesOn⟩ := speaks _ f s result
    exact ⟨Writer.isPlain_rejection _ op told goesOn, named⟩

theorem explains_bides [Stream (κ × Files.Tree)]
    (write : ∀ u, Speaks (Stream.write u : EStateM Fault (κ × Files.Tree) Unit))
    (flush : Speaks (Stream.flush : EStateM Fault (κ × Files.Tree) Unit)) (path : Option String) :
    Bides (fun _ : Desk κ => True) (fun f _ => f.IsPlain .writer) path where
  write op u := onStream_explains op (write u)
  flush op := onStream_explains op flush
  refuse op reason := fun w named _ => ⟨w.isPlain_failure op reason nofun, named⟩
  fault goesOn _ := goesOn
  say _ _ _ _ := fun _ named _ => ⟨trivial, named⟩

theorem Explains.plain_outcome {a : Work κ α} (explains : Explains path a) {w : Writer (Desk κ)}
    (named : w.path = path) {f : Failure} (failed : (outcomeOf a w).1 = .error f) :
    f.IsPlain .writer := by
  have left := explains w named trivial
  unfold outcomeOf at failed
  cases result : a w with
  | ok x v =>
    rw [result] at failed
    cases failed
  | error e v =>
    rw [result] at failed left
    cases failed
    exact left.1

/-- A body and the closing after it fail in ways that can be told. -/
theorem closing_explains [Stream (κ × Files.Tree)] {body : Work κ α} (inner : Explains path body)
    (shuts : Explains path (onStream .closing Stream.close : Work κ Unit)) :
    Explains path (closing body) := by
  have close : Explains path (close : Work κ Unit) := close_keeps shuts
  intro w named _
  have left := inner w named trivial
  unfold closing
  cases result : body w with
  | ok a v =>
    rw [result] at left
    have shut := close v left.2 trivial
    dsimp only
    cases last : Xml.close v <;> rw [last] at shut <;> exact shut
  | error e v =>
    rw [result] at left
    have shut := close v left.2 trivial
    dsimp only
    cases last : Xml.close v with
    | ok u v' =>
      rw [last] at shut
      exact ⟨left.1, shut.2⟩
    | error e' v' =>
      rw [last] at shut
      exact shut

end

/-- The text in memory can be told, or that the stream is closed. -/
theorem contents_explains (path : Option String) :
    Explains path (contents : Work Memory String) := by
  intro w named _
  have value : Stream.value w.stream = w.stream.paper.value := rfl
  unfold contents
  rw [value, Memory.value]
  split
  · next last =>
    split at last
    · cases last
    · exact ⟨trivial, named⟩
  · next f last =>
    split at last
    · cases last
      exact ⟨(by decide : Fault.closedMemory.isStop = false), named⟩
    · cases last

/-- **What goes wrong where a document is rendered can be told.** -/
theorem render_plain {o : Order} {tree : Files.Tree} {journal : Log.Journal} {f : Failure}
    (failed : (render o tree journal).1 = .error f) : f.IsPlain .writer := by
  have bides := explains_bides (fun u => besideTree_speaks (memory_write_speaks u))
    (besideTree_speaks memory_flush_speaks) none
  have explains : Explains none (write o >>= fun _ => contents : Work Memory String) :=
    Keeps.bind (write_keeps bides o) fun _ => contents_explains none
  unfold render at failed
  exact explains.plain_outcome rfl failed

theorem openFile_plain {path : Files.Path} {tree tree' : Files.Tree} {f : Failure}
    (failed : openFile path tree = .error f tree') : f.IsPlain .writer := by
  cases clear : path.hasNull with
  | true =>
    rw [openFile_of_hasNull clear] at failed
    cases failed
    exact (by decide : Fault.nullInPath.isStop = false)
  | false =>
    cases opened : tree.openTo true path with
    | error why =>
      obtain ⟨r, refused, plain⟩ := openFile_of_refusal clear opened
      rw [refused] at failed
      cases failed
      exact plain
    | ok found =>
      simp only [openFile, clear, opened, Bool.false_eq_true, if_false] at failed
      cases failed

theorem filed_plain {o : Order} {path : Files.Path} {d : Desk Files.Handle} {f : Failure}
    (failed : (filed o path d).1 = .error f) : f.IsPlain .writer := by
  have bides := explains_bides (κ := Files.Handle) writeToFile_speaks
    (onOpenFile_speaks _) (some path.toString)
  have explains : Explains (some path.toString) (closing (write o) : Work Files.Handle Unit) :=
    closing_explains (write_keeps bides o) (onStream_explains _ close_speaks)
  unfold filed at failed
  exact explains.plain_outcome rfl failed

/-- **What goes wrong where a document is saved can be told.** -/
theorem save_plain {o : Order} {path : Files.Path} {p : Log.Journal.Placed} {f : Failure}
    (failed : (save o path p).1 = .error f) : f.IsPlain .writer := by
  cases opened : openedAt o path p with
  | ok d =>
    rw [save_of_opened opened] at failed
    cases outcome : (filed o path d).1 with
    | ok u =>
      rw [outcome] at failed
      cases failed
    | error e =>
      rw [outcome] at failed
      cases failed
      exact filed_plain outcome
  | error e =>
    unfold openedAt at opened
    unfold save at failed
    dsimp only at opened failed
    cases found : openFile path
        (Log.Journal.say o.speaker Log.trace "writing %s" [.text path.toString] none p).2 with
    | ok handle tree =>
      rw [found] at opened
      cases opened
    | error g tree =>
      rw [found] at failed
      cases failed
      exact openFile_plain found

end Document

namespace Command

open Document (render save)
open Log (Journal)

variable {scene : Scene} {r : Request} {letters : Text.Letters}

/-! ## Documents that were written -/

/-- The journal and the tree after it was noted that a configuration was loaded. -/
def noted (o : Document.Order) (p : Journal.Placed) : Journal.Placed :=
  Journal.say speaker Log.trace "config loaded" [] (some (Context.ofList
    [("guest", .text o.machine.name), ("disks", .int o.machine.disks.length),
      ("arch", .text o.architecture)])) p

/-- Whether a run writes the document of what its request loads: its text is rendered and added to
the standard output, or it is saved in the file. -/
def Request.Writes (r : Request) (scene : Scene) (letters : Text.Letters) (p : Journal.Placed)
    (before after : String) : Prop :=
  ∃ m ports, r.loaded letters p.2 = .ok (m, ports) ∧
    let o := order scene r m ports letters
    match r.destination with
    | .standardOutput => ∃ text, (render o (noted o p).2 (noted o p).1).1 = .ok text ∧
        after = before ++ text
    | .file path => ∃ answer, (save o (Files.Path.ofString path)
        (Journal.begin speaker ("Writing " ++ path) (noted o p))).1 = .ok answer

/-- A failure that a run has an exit code for. -/
def IsTellable (f : Failure) : Prop :=
  f = .fault .interrupted ∨ ∃ kind, kind.isFatal = true ∧ kind.ownCode.toNat ≠ 0 ∧ f.IsPlain kind

theorem isTellable_of_config {f : Failure} (plain : f.IsPlain .config) : IsTellable f :=
  .inr ⟨.config, rfl, by decide, plain⟩

theorem isTellable_of_writer {f : Failure} (plain : f.IsPlain .writer) : IsTellable f :=
  .inr ⟨.writer, rfl, by decide, plain⟩

/-- Every failure that can be told comes to an exit code that is not zero. -/
theorem tell_of_isTellable (scene : Scene) (r : Request) {f : Failure} (tellable : IsTellable f)
    (s : State) :
    ∃ code s', tell scene r f s = .ok code s' ∧ code ≠ 0 := by
  rcases tellable with rfl | ⟨kind, fatal, nonzero, plain⟩
  · exact ⟨130, _, rfl, by decide⟩
  · obtain ⟨step, told, -⟩ := tell_says scene r fatal plain
    refine ⟨f.exitCode, _, told s, ?_⟩
    rcases exitCode_of_isPlain plain with ⟨report, -, -, own⟩ | ⟨g, -, one⟩
    · rw [own]
      exact nonzero
    · rw [one]
      decide

/-! ## Steps of a run -/

/-- What a step of a run gives: what is expected of it, or a failure that can be told. -/
def Gives {α : Type} (post : α → State → Prop) : EStateM.Result Failure State α → Prop
  | .ok a s => post a s
  | .error f _ => IsTellable f

theorem Gives.mono {α : Type} {post post' : α → State → Prop}
    {result : EStateM.Result Failure State α} (gives : Gives post result)
    (weaker : ∀ a s, post a s → post' a s) : Gives post' result := by
  cases result with
  | ok a s => exact weaker a s gives
  | error f s => exact gives

theorem load_gives (scene : Scene) {s : State} (countable : r.IsCountable letters s.placed.2) :
    Gives (fun given s' => r.loaded letters s.placed.2 = .ok given ∧ s' = s)
      (load scene r letters s) := by
  cases calm : scene.interrupted with
  | true =>
    have stopped : load scene r letters s = .error (.fault .interrupted) s := by
      unfold load
      rw [calm]
      rfl
    rw [stopped]
    exact .inl rfl
  | false =>
    rw [load_apply calm]
    have plain := Request.loaded_yields countable
    cases loaded : r.loaded letters s.placed.2 with
    | ok given => exact ⟨rfl, rfl⟩
    | error f =>
      rw [loaded] at plain
      exact isTellable_of_config plain

theorem printDocument_gives (o : Document.Order) (s : State) :
    Gives (fun _ s' => ∃ text, (render o s.placed.2 s.placed.1).1 = .ok text ∧
      s'.output = s.output ++ text) (printDocument o s) := by
  unfold printDocument
  rw [onPlaced_bind]
  dsimp only
  cases rendered : (render o s.placed.2 s.placed.1).1 with
  | ok text => exact ⟨text, rfl, rfl⟩
  | error f => exact isTellable_of_writer (Document.render_plain rendered)

theorem saveDocument_gives (scene : Scene) (o : Document.Order) (path : String) (s : State) :
    Gives (fun _ _ => ∃ answer, (save o (Files.Path.ofString path)
      (Journal.begin speaker ("Writing " ++ path) s.placed)).1 = .ok answer)
      (saveDocument scene o path s) := by
  unfold saveDocument staged
  rw [onPlaced_bind]
  dsimp only
  cases saved : (save o (Files.Path.ofString path)
      (Journal.begin speaker ("Writing " ++ path) s.placed)).1 with
  | error f => exact isTellable_of_writer (Document.save_plain saved)
  | ok shown =>
    dsimp only
    cases scene.terminal with
    | false => exact ⟨shown, rfl⟩
    | true =>
      cases framed : panel o shown with
      | ok text =>
        rw [if_pos rfl]
        exact ⟨shown, rfl⟩
      | error f => exact isTellable_of_writer (panel_isLesser framed).1

/-- **The work of a run writes the document, or it fails in a way that can be told.** -/
theorem work_gives (scene : Scene) {s : State} (countable : r.IsCountable letters s.placed.2) :
    Gives (fun _ s' => r.Writes scene letters s.placed s.output s'.output)
      (work scene r letters s) := by
  have loading := load_gives scene countable
  unfold work
  cases came : load scene r letters s with
  | error f s' =>
    rw [came] at loading
    rw [bind_of_error came]
    exact loading
  | ok given s' =>
    obtain ⟨m, ports⟩ := given
    rw [came] at loading
    obtain ⟨loaded, rfl⟩ := loading
    have noting : noteLoaded (order scene r m ports letters) s' =
        .ok () { s' with placed := noted (order scene r m ports letters) s'.placed } := modify_apply _ _
    rw [bind_of_ok came]
    dsimp only
    rw [bind_of_ok noting]
    cases sent : r.destination with
    | standardOutput =>
      refine (printDocument_gives (order scene r m ports letters) _).mono fun _ s' printed => ?_
      refine ⟨m, ports, loaded, ?_⟩
      rw [sent]
      exact printed
    | file path =>
      refine (saveDocument_gives scene (order scene r m ports letters) path _).mono fun _ s' saved => ?_
      refine ⟨m, ports, loaded, ?_⟩
      rw [sent]
      exact saved

/-! ## Log files -/

/-- The fault of the log file that a request asks for, if it asks for one that cannot be opened. -/
def Request.logFault? (r : Request) (tree : Files.Tree) : Option Fault :=
  match r.logFile with
  | none => none
  | some path =>
    if path.isEmpty then none
    else
      match Journal.openFile path tree with
      | .error f => some f
      | .ok _ => none

/-- A log file that cannot be opened is an error of the work in hand. -/
theorem isStop_of_openFile {path : String} {tree : Files.Tree} {f : Fault}
    (failed : Journal.openFile path tree = .error f) : f.isStop = false := by
  unfold Journal.openFile at failed
  dsimp only at failed
  split at failed
  · cases failed
    split <;> decide
  · split at failed
    · cases failed
      decide
    · split at failed
      · cases failed
        rfl
      · split at failed
        · cases failed
          exact Fault.isStop_refused _
        · split at failed
          · cases failed
            exact Fault.isStop_refused _
          · cases failed
          · cases failed

theorem logFault?_isStop {tree : Files.Tree} {f : Fault} (fault : r.logFault? tree = some f) :
    f.isStop = false := by
  unfold Request.logFault? at fault
  split at fault
  · cases fault
  · split at fault
    · cases fault
    · split at fault
      · next failed =>
        cases fault
        exact isStop_of_openFile failed
      · cases fault

/-- The journal is set up unless there is a fault of the log file. -/
theorem setUp_apply (r : Request) (p : Journal.Placed) :
    match r.logFault? p.2 with
    | some f => ∃ q, Journal.setUp r.setup p = .error f q
    | none => ∃ q, Journal.setUp r.setup p = .ok () q := by
  obtain ⟨journal, tree⟩ := p
  have asked : r.setup.file = r.logFile := rfl
  unfold Journal.setUp Request.logFault?
  simp only [asked]
  cases r.logFile with
  | none => exact ⟨_, rfl⟩
  | some path =>
    dsimp only
    by_cases empty : path.isEmpty = true
    · simp only [empty, if_true]
      exact ⟨_, rfl⟩
    · simp only [empty, if_false, Bool.false_eq_true]
      cases Journal.openFile path tree with
      | error f => exact ⟨_, rfl⟩
      | ok opened => exact ⟨_, rfl⟩

/-- **A call comes to an exit code unless its log file cannot be opened.** The exit code is zero
only where the document was written; a log file that cannot be opened is a fault that comes out of
the call. -/
theorem call_returns (scene : Scene) {words : List String} (accepted : Request.read words = .ok r)
    (s : State)
    (countable : ∀ p, Journal.setUp r.setup s.placed = .ok () p → r.IsCountable letters p.2) :
    match r.logFault? s.placed.2 with
    | some f => f.isStop = false ∧ ∃ s', call scene words s letters = (.failed (.fault f), s')
    | none => ∃ p code s', Journal.setUp r.setup s.placed = .ok () p ∧
        call scene words s letters = (.ran code, s') ∧
        (code = 0 → r.Writes scene letters p s.output s'.output) := by
  have ready := setUp_apply r s.placed
  cases fault : r.logFault? s.placed.2 with
  | some f =>
    rw [fault] at ready
    obtain ⟨q, failed⟩ := ready
    refine ⟨logFault?_isStop fault, { s with placed := q }, ?_⟩
    simp only [call, accepted, Request.run, failed]
  | none =>
    rw [fault] at ready
    obtain ⟨p, done⟩ := ready
    have worked := work_gives (s := { s with placed := p }) scene (countable p done)
    cases came : work scene r letters { s with placed := p } with
    | ok u s' =>
      rw [came] at worked
      refine ⟨p, 0, s', done, ?_, fun _ => worked⟩
      simp only [call, accepted, Request.run, done, came]
    | error f s' =>
      rw [came] at worked
      obtain ⟨code, s'', told, nonzero⟩ := tell_of_isTellable scene r worked s'
      refine ⟨p, code, s'', done, ?_, fun zero => absurd zero nonzero⟩
      simp only [call, accepted, Request.run, done, came, told]

/-- A request with a log file in the home directory of nobody. -/
def homelessRequest : Request := { bracketedRequest with logFile := some "~nobody-at-all/log" }

theorem read_homeless : Request.read
    ["--config", "m.json", "--log-file", "~nobody-at-all/log", "-o", "out.xml"] =
      .ok homelessRequest :=
  eq_ok_of_toOption (by decide +kernel)

theorem logFault_homeless (tree : Files.Tree) : homelessRequest.logFault? tree = some .noHome := by
  have expanded : (Files.Path.ofString "~nobody-at-all/log").expandHome = none := rfl
  have clear : (Files.Path.ofString "~nobody-at-all/log").userHasNull = false := rfl
  have failed : Journal.openFile "~nobody-at-all/log" tree = .error .noHome := by
    simp only [Journal.openFile, expanded, clear, Bool.false_eq_true, if_false]
  have nonempty : "~nobody-at-all/log".isEmpty = false := by decide
  simp only [Request.logFault?, homelessRequest, nonempty, failed, Bool.false_eq_true, if_false]

/-- A call without a log file has an exit code, and the same call with that log file has none. -/
theorem call_homeless :
    (∃ code s', call calmTerminal ["--config", "m.json", "-o", "out.xml"]
      ⟨(Document.smallJournal, bracketedTree), ""⟩ = (.ran code, s')) ∧
    ∃ s', call calmTerminal
      ["--config", "m.json", "--log-file", "~nobody-at-all/log", "-o", "out.xml"]
      ⟨(Document.smallJournal, bracketedTree), ""⟩ = (.failed (.fault .noHome), s') := by
  constructor
  · obtain ⟨p, ready, -, same⟩ := setUp_quiet (r := bracketedRequest) rfl Document.smallJournal
      bracketedTree
    have returns := call_returns calmTerminal read_bracketed
      ⟨(Document.smallJournal, bracketedTree), ""⟩ fun q ready' => by
        obtain rfl : p = q := by
          rw [ready] at ready'
          cases ready'
          rfl
        rw [same]
        exact bracketed_fits.countable
    obtain ⟨-, code, s', -, ran, -⟩ := returns
    exact ⟨code, s', ran⟩
  · have fault := logFault_homeless bracketedTree
    have returns := @call_returns homelessRequest .plain calmTerminal _ read_homeless
      ⟨(Document.smallJournal, bracketedTree), ""⟩ fun q ready => by
        have unready := setUp_apply homelessRequest (Document.smallJournal, bracketedTree)
        rw [fault] at unready
        obtain ⟨q', failed⟩ := unready
        rw [failed] at ready
        cases ready
    rw [fault] at returns
    exact returns.2

end Command
end MachineDescriptor
