import MachineDescriptor.Proofs.Counterparts
import MachineDescriptor.Proofs.Devices

/-!
Documents of a run without log files. What becomes of a document depends on where its path leads: to
nothing that can be opened, to one of the devices, or to a file. Whichever it is, the document is
complete or there is a failure that can be told, and then no file holds any of it.
-/
namespace MachineDescriptor

namespace Files.Tree

variable {t : Tree} {p : Path}

/-- A path leads to a file, to a device, or to nothing that can be opened. -/
theorem opens_cases (clear : p.hasNull = false) :
    (∃ place, t.Opens p place) ∨ (∃ d, t.openTo true p = .ok (.device d, t)) ∨
      ∃ r, t.openTo true p = .error r := by
  cases arrives : t.resolve true p with
  | error o => exact .inr (.inr ⟨_, by rw [openTo, arrives]⟩)
  | ok a =>
    cases a with
    | free place => exact .inl ⟨place, clear, .inl arrives⟩
    | entry place e =>
      cases e with
      | file bytes => exact .inl ⟨place, clear, .inr ⟨bytes, arrives⟩⟩
      | device d => exact .inr (.inl ⟨d, by rw [openTo, arrives]⟩)
      | directory | link => exact .inr (.inr ⟨_, by rw [openTo, arrives]⟩)

/-- A path leads to one file. -/
theorem Opens.unique {place place' : Location} (opens : t.Opens p place)
    (opens' : t.Opens p place') : place = place' := by
  have same := opens.openTo.symm.trans opens'.openTo
  obtain ⟨target, -⟩ := Prod.mk.inj (Except.ok.inj same)
  exact Target.file.inj target

/-- Without links, whatever can be opened is removed as it was opened. -/
theorem Opens.admits {place : Location} (opens : t.Opens p place)
    (straight : ∀ l target, t.find? l ≠ some (.link target)) : t.Admits p place := by
  rcases opens.admits_or_link with admits | ⟨l, target, ends⟩
  · exact admits
  · exact absurd (find?_of_resolve ends) (straight l target)

theorem resolve_of_device {d : Device} (opened : t.openTo true p = .ok (.device d, t)) :
    ∃ place, t.resolve true p = .ok (.entry place (.device d)) := by
  unfold openTo at opened
  cases arrives : t.resolve true p with
  | error o =>
    rw [arrives] at opened
    cases opened
  | ok a =>
    rw [arrives] at opened
    cases a with
    | free place => cases opened
    | entry place e =>
      cases e with
      | device d' =>
        obtain ⟨same, -⟩ := Prod.mk.inj (Except.ok.inj opened)
        obtain rfl := Target.device.inj same
        exact ⟨place, rfl⟩
      | file | directory | link => cases opened

/-- A device is no file. -/
theorem isFile_of_device {d : Device} (opened : t.openTo true p = .ok (.device d, t)) :
    t.isFile p = .ok false := by
  obtain ⟨place, arrives⟩ := resolve_of_device opened
  unfold isFile
  split
  · rfl
  · rw [arrives]

end Files.Tree

namespace Document

open Xml
open Log.Journal (Quiet say_quiet)
open Files.Handle (Faces)

variable {tree : Files.Tree} {journal : Log.Journal} {o : Order} {path : Files.Path}

/-! ## In memory -/

/-- The text in memory, beside a tree that is left as it is. -/
def OnMemoryBeside (tree : Files.Tree) (s : Memory × Files.Tree) (t : String) : Prop :=
  s.1.Holds t ∧ s.2 = tree

theorem OnMemoryBeside.faithful : Faithful (OnMemoryBeside tree) where
  write := by
    rintro ⟨m, tree'⟩ t ⟨held, same⟩ u
    obtain ⟨m', put, held'⟩ := Memory.faithful.write held u
    refine ⟨(m', tree'), ?_, held', same⟩
    simp only [Stream.write, besideTree] at put ⊢
    rw [put]
  flush := by
    rintro ⟨m, tree'⟩ t ⟨held, same⟩
    obtain ⟨m', flushed, held'⟩ := Memory.faithful.flush held
    refine ⟨(m', tree'), ?_, held', same⟩
    simp only [Stream.flush, besideTree] at flushed ⊢
    rw [flushed]

/-- Paper that holds a text goes on holding it when there are no log files. -/
theorem holds_of_no_files {κ : Type} {paper : κ × Files.Tree → String → Prop} {d : Desk κ}
    {t : String} (held : paper (d.paper, d.tree) t) (unlogged : d.journal.files = []) :
    Desk.Holds paper d t := by
  refine ⟨held, fun p t l listed => ?_⟩
  rw [unlogged] at listed
  cases listed

/-- Rendering leaves everything as it is, and its failures can be told. -/
theorem render_quiet (o : Order) (tree : Files.Tree) (unlogged : journal.files = []) :
    Quiet tree ((render o tree journal).2.journal, (render o tree journal).2.tree) ∧
      ∀ f, (render o tree journal).1 = .error f → f.IsPlain .writer := by
  have held : Desk.Holds (OnMemoryBeside tree) ⟨Memory.empty, tree, journal⟩ "" :=
    holds_of_no_files ⟨Memory.empty_holds, rfl⟩ unlogged
  have left := write_begun defaultIndent none OnMemoryBeside.faithful.encodes o held
  have files := write_keeps (files_bides [] none) o
    (Writer.fresh ⟨Memory.empty, tree, journal⟩ defaultIndent none) rfl unlogged
  unfold render outcomeOf
  rw [Writer.inMemory]
  cases result : (write o : Work Memory Unit)
      (Writer.fresh ⟨Memory.empty, tree, journal⟩ defaultIndent none) with
  | ok x w =>
    rw [result] at left files
    obtain ⟨⟨text, ⟨⟨held, same⟩, -⟩, -⟩, -⟩ := left
    have value : Stream.value w.stream = .ok text := Memory.value_of_holds held
    rw [bind_of_ok result]
    simp only [contents, value]
    exact ⟨⟨files.1, same⟩, fun f failed => by cases failed⟩
  | error f w =>
    rw [result] at left files
    obtain ⟨⟨⟨text, ⟨⟨-, same⟩, -⟩, -⟩, plain⟩, -⟩ := left
    rw [bind_of_error result]
    refine ⟨⟨files.1, same⟩, ?_⟩
    rintro _ ⟨⟩
    exact plain

/-- Without log files nothing is disturbed. -/
theorem undisturbed_of_no_files (o : Order) (tree : Files.Tree) (unlogged : journal.files = []) :
    o.Undisturbed tree journal.files := by
  refine ⟨fun l listed => ?_, fun i _ ⟨a, _, listed⟩ => ?_⟩
  · rw [unlogged] at listed
    cases listed
  · rw [unlogged] at listed
    cases listed

/-- Without log files, rendering is told by the machine, the ports and the addresses alone. -/
theorem render_of_no_files (o : Order) (tree : Files.Tree) (unlogged : journal.files = []) :
    (render o tree journal).1 = o.outcome none (o.found tree) :=
  render_outcome (undisturbed_of_no_files o tree unlogged)

/-! ## On open files -/

/-- What saving comes to once the file is open and the work on it is done: what could not be
finished is removed. -/
def concluded (o : Order) (path : Files.Path) (d : Except Failure Unit × Desk Files.Handle) :
    Except Failure String × Log.Journal.Placed :=
  match d.1 with
  | .ok _ => (.ok path.toString, (d.2.journal, d.2.tree))
  | .error f => (.error f, removeBegun o.speaker path (d.2.journal, d.2.tree))

/-- Saving opens the file, writes the document, and removes what could not be finished. -/
theorem save_apply (o : Order) (path : Files.Path) (tree : Files.Tree)
    (unlogged : journal.files = []) : ∃ journal' : Log.Journal, journal'.files = [] ∧
      save o path (journal, tree) =
        match openFile path tree with
        | .error f tree => (.error f, (journal', tree))
        | .ok handle tree =>
          concluded o path (filed o path ⟨{ handle with letters := o.letters }, tree, journal'⟩) := by
  obtain ⟨files, same⟩ := say_quiet (p := (journal, tree)) ⟨unlogged, rfl⟩ o.speaker Log.trace
    "writing %s" [.text path.toString] none
  unfold save concluded filed
  generalize Log.Journal.say o.speaker Log.trace "writing %s" [.text path.toString] none
    (journal, tree) = said at files same ⊢
  obtain ⟨journal', tree'⟩ := said
  obtain rfl : tree' = tree := same
  refine ⟨journal', files, ?_⟩
  cases opened : openFile path tree' with
  | error f t => simp only [opened]
  | ok handle t =>
    cases written : outcomeOf (closing (write o))
        (Writer.onFile ⟨{ handle with letters := o.letters }, t, journal'⟩ path defaultIndent) with
    | mk outcome w => cases outcome <;> simp only [opened, written]

theorem filed_files (o : Order) (path : Files.Path) (d : Desk Files.Handle) :
    (filed o path d).2.journal.files = d.journal.files := by
  have kept := closing_keeps (write_keeps (files_bides d.journal.files (some path.toString)) o)
    (onStream_files d.journal.files .closing _) (Writer.onFile d path defaultIndent) rfl rfl
  unfold filed outcomeOf
  cases result : closing (write o) (Writer.onFile d path defaultIndent) with
  | ok x w =>
    rw [result] at kept
    exact kept.1
  | error f w =>
    rw [result] at kept
    exact kept.1

theorem removeBegun_files (speaker : Log.Speaker) (path : Files.Path) (p : Log.Journal.Placed) :
    (removeBegun speaker path p).1.files = p.1.files := by
  unfold removeBegun
  split
  · split
    · rfl
    · exact Log.Journal.say_files _ _ _ _ _ p
  · rfl

section

variable {o : Order} {d : Except Failure Unit × Desk Files.Handle}

theorem concluded_of_ok {u : Unit} (done : d.1 = .ok u) :
    concluded o path d = (.ok path.toString, (d.2.journal, d.2.tree)) := by
  rw [concluded, done]

theorem concluded_of_error {f : Failure} (failed : d.1 = .error f) :
    concluded o path d = (.error f, removeBegun o.speaker path (d.2.journal, d.2.tree)) := by
  rw [concluded, failed]

/-- Removing what was begun is no failure of its own. -/
theorem error_of_concluded {f : Failure} (failed : (concluded o path d).1 = .error f) :
    d.1 = .error f := by
  cases outcome : d.1 with
  | ok u =>
    rw [concluded_of_ok outcome] at failed
    cases failed
  | error e =>
    rw [concluded_of_error outcome] at failed
    exact congrArg _ (Except.error.inj failed)

theorem concluded_ok_iff : (∃ s, (concluded o path d).1 = .ok s) ↔ d.1 = .ok () := by
  cases outcome : d.1 with
  | ok u =>
    rw [concluded_of_ok outcome]
    exact ⟨fun _ => rfl, fun _ => ⟨_, rfl⟩⟩
  | error e =>
    rw [concluded_of_error outcome]
    exact ⟨nofun, nofun⟩

/-- Saving answers the path. -/
theorem answer_of_concluded {s : String} (done : (concluded o path d).1 = .ok s) :
    s = path.toString := by
  rw [concluded_of_ok (concluded_ok_iff.mp ⟨s, done⟩)] at done
  exact (Except.ok.inj done).symm

theorem concluded_files : (concluded o path d).2.1.files = d.2.journal.files := by
  cases outcome : d.1 with
  | ok u => rw [concluded_of_ok outcome]
  | error e =>
    rw [concluded_of_error outcome]
    exact removeBegun_files _ _ _

end

/-! ## Saving -/

/-- What saving comes to is not for the journal to tell when there are no log files. -/
theorem save_unlogged (o : Order) (path : Files.Path) (tree : Files.Tree)
    {journal' : Log.Journal} (here : journal.files = []) (there : journal'.files = []) :
    (save o path (journal', tree)).1 = (save o path (journal, tree)).1 := by
  obtain ⟨first, files, applied⟩ := save_apply o path tree here
  obtain ⟨other, files', applied'⟩ := save_apply o path tree there
  rw [applied, applied']
  cases openFile path tree with
  | error f t => rfl
  | ok handle t =>
    have same : (filed o path ⟨{ handle with letters := o.letters }, t, other⟩).1 =
        (filed o path ⟨{ handle with letters := o.letters }, t, first⟩).1 :=
      outcomeOf_blind (closing_unlogged o) (w := Writer.onFile _ path defaultIndent)
        ⟨rfl, rfl, files, files'⟩
    simp only [concluded, same]
    cases (filed o path ⟨{ handle with letters := o.letters }, t, first⟩).1 <;> rfl

/-- A text stands at the end of a path as a file, or it was swallowed there. -/
def Stands (tree : Files.Tree) (path : Files.Path) (letters : Text.Letters) (text : String)
    (left : Files.Tree) : Prop :=
  (∃ place, tree.Opens path place ∧
      left.find? place = some (.file (Text.Utf8.encode text.toList))) ∨
    path.hasNull = false ∧ tree.openTo true path = .ok (.device .null, tree) ∧
      letters.fault? text.toList = none

/-- A document is written in full: its text can be encoded, and its path can be opened and does not
lead to the device that is full. -/
def Accepts (o : Order) (path : Files.Path) (tree : Files.Tree) : Prop :=
  path.hasNull = false ∧
    (∃ target tree', tree.openTo true path = .ok (target, tree') ∧ target ≠ .device .full) ∧
    ∃ text, o.outcome none (o.found tree) = .ok text ∧ o.letters.fault? text.toList = none

/-- What is left of saving a document in a tree. -/
structure Saved (o : Order) (path : Files.Path) (tree : Files.Tree)
    (result : Except Failure String × Log.Journal.Placed) : Prop where
  unlogged : result.2.1.files = []
  plain : ∀ f, result.1 = .error f → f.IsPlain .writer
  answer : ∀ s, result.1 = .ok s → s = path.toString
  complete : (∃ s, result.1 = .ok s) ↔ ∃ text,
    o.outcome none (o.found tree) = .ok text ∧ Stands tree path o.letters text result.2.2
  accepted : (∃ s, result.1 = .ok s) ↔ Accepts o path tree
  same : ∀ journal : Log.Journal, journal.files = [] →
    (save o path (journal, tree)).1 = result.1
  cleared : ∀ f, result.1 = .error f → ∀ place, tree.Opens path place →
    result.2.2.find? place = none
  elsewhere : ∀ l, ¬tree.Opens path l → result.2.2.find? l = tree.find? l

theorem openFile_of_hasNull (null : path.hasNull = true) :
    openFile path tree = .error (.fault .nullInPath) tree := by
  simp only [openFile, null, if_true]

theorem openFile_of_device (clear : path.hasNull = false) {device : Files.Device}
    (opened : tree.openTo true path = .ok (.device device, tree)) :
    openFile path tree = .ok (Files.Handle.atStart (.device device)) tree := by
  simp only [openFile, clear, opened, Bool.false_eq_true, if_false]

theorem openFile_of_refusal (clear : path.hasNull = false) {why : Files.Refusal}
    (refused : tree.openTo true path = .error why) :
    ∃ r : Report, openFile path tree = .error (.report r) tree ∧ r.IsPlain .writer := by
  simp only [openFile, clear, refused, Bool.false_eq_true, if_false]
  refine ⟨_, rfl, Report.isPlain_ofMessage .writer _ ?_ (Context.isWritable_ofList ?_)⟩
  · rintro c ⟨⟩
    exact ⟨_, rfl⟩
  · simp [Value.isWritable, Value.isWritableIn]

/-- A path with a null character is a fault before anything is done. -/
theorem saved_of_hasNull (o : Order) (null : path.hasNull = true)
    (unlogged : journal.files = []) : Saved o path tree (save o path (journal, tree)) := by
  have same := fun journal' (files : Log.Journal.files journal' = []) =>
    save_unlogged o path tree unlogged files
  obtain ⟨journal', files, applied⟩ := save_apply o path tree unlogged
  rw [openFile_of_hasNull null] at applied
  have stuck : ∀ {p : Prop}, path.hasNull = false → p := fun clear => by
    rw [null] at clear
    cases clear
  rw [applied]
  exact
    { unlogged := files
      plain := by
        rintro f ⟨⟩
        exact (by decide : Fault.nullInPath.isStop = false)
      answer := nofun
      complete := by
        refine ⟨nofun, ?_⟩
        rintro ⟨text, -, ⟨place, opens, -⟩ | ⟨clear, -⟩⟩
        · exact stuck opens.clear
        · exact stuck clear
      accepted := ⟨nofun, fun accepted => stuck accepted.1⟩
      same := by
        rw [applied] at same
        exact same
      cleared := fun _ _ place opens => stuck opens.clear
      elsewhere := fun _ _ => rfl }

/-- A path that cannot be opened is reported, and nothing is done. -/
theorem saved_of_refusal (o : Order) (clear : path.hasNull = false) {why : Files.Refusal}
    (refused : tree.openTo true path = .error why) (unlogged : journal.files = []) :
    Saved o path tree (save o path (journal, tree)) := by
  have same := fun journal' (files : Log.Journal.files journal' = []) =>
    save_unlogged o path tree unlogged files
  obtain ⟨journal', files, applied⟩ := save_apply o path tree unlogged
  obtain ⟨r, failed, plain⟩ := openFile_of_refusal clear refused
  rw [failed] at applied
  have closed : ∀ {p : Prop} {place : Files.Location}, tree.Opens path place → p := by
    intro p place opens
    rw [opens.openTo] at refused
    cases refused
  rw [applied]
  exact
    { unlogged := files
      plain := by
        rintro f ⟨⟩
        exact plain
      answer := nofun
      complete := by
        refine ⟨nofun, ?_⟩
        rintro ⟨text, -, ⟨place, opens, -⟩ | ⟨-, swallowed, -⟩⟩
        · exact closed opens
        · rw [swallowed] at refused
          cases refused
      accepted := by
        refine ⟨nofun, ?_⟩
        rintro ⟨-, ⟨target, tree', opened, -⟩, -⟩
        rw [opened] at refused
        cases refused
      same := by
        rw [applied] at same
        exact same
      cleared := fun _ _ place opens => closed opens
      elsewhere := fun _ _ => rfl }

/-- On an open file a document is complete if it is rendered and can be encoded, and only then. -/
theorem filed_ok_iff {paper : Files.Handle × Files.Tree → String → Prop}
    {done : Desk Files.Handle → String → Prop} (encodes : Encodes o.letters paper)
    (closes : Closes paper done) (path : Files.Path) (unlogged : journal.files = [])
    (sees : Sees paper o (o.found tree)) {d : Desk Files.Handle} (held : Desk.Holds paper d "") :
    ((filed o path d).1 = .ok () ↔ ∃ text, o.outcome none (o.found tree) = .ok text ∧
      o.letters.fault? text.toList = none) ∧
    ∃ t, done (filed o path d).2 t ∧
      ((filed o path d).1 = .ok () → o.outcome none (o.found tree) = .ok t) := by
  obtain ⟨t, finished, clean, stray⟩ := filed_transcribes encodes closes path
    (undisturbed_of_no_files o tree unlogged) sees held
  have rendered := render_of_no_files o tree unlogged
  have completes : (filed o path d).1 = .ok () → o.outcome none (o.found tree) = .ok t ∧
      o.letters.fault? t.toList = none := by
    intro complete
    by_cases encodable : o.letters.fault? (draft o tree journal).toList = none
    · obtain ⟨succeeds, fails⟩ := clean encodable
      rw [← rendered]
      cases outcome : (render o tree journal).1 with
      | ok text =>
        obtain ⟨-, rfl⟩ := succeeds text outcome
        rw [draft_of_rendered outcome] at encodable
        exact ⟨rfl, encodable⟩
      | error f =>
        rw [fails f outcome] at complete
        cases complete
    · obtain ⟨op, spot, codes, reported⟩ := stray encodable
      rw [reported] at complete
      cases complete
  refine ⟨⟨fun complete => ⟨t, completes complete⟩, ?_⟩, t, finished, fun complete =>
    (completes complete).1⟩
  rintro ⟨text, outcome, encodable⟩
  rw [← rendered] at outcome
  rw [← draft_of_rendered outcome] at encodable
  exact ((clean encodable).1 text outcome).1

/-- Where a path leads to something that is not always full, only the text decides. -/
theorem accepts_iff {target : Files.Tree.Target} {tree' : Files.Tree}
    (clear : path.hasNull = false) (opened : tree.openTo true path = .ok (target, tree'))
    (room : target ≠ .device .full) :
    Accepts o path tree ↔ ∃ text, o.outcome none (o.found tree) = .ok text ∧
      o.letters.fault? text.toList = none :=
  ⟨fun accepts => accepts.2.2, fun text => ⟨clear, ⟨target, tree', opened, room⟩, text⟩⟩

/-- A device is left alone. -/
theorem removeBegun_of_device {device : Files.Device}
    (opened : tree.openTo true path = .ok (.device device, tree)) (speaker : Log.Speaker)
    (journal : Log.Journal) : removeBegun speaker path (journal, tree) = (journal, tree) := by
  simp only [removeBegun, Files.Tree.isFile_of_device opened]

/-- No file is opened where a path leads to a device. -/
theorem not_opens_of_device {device : Files.Device}
    (opened : tree.openTo true path = .ok (.device device, tree)) (place : Files.Location) :
    ¬tree.Opens path place := by
  intro opens
  rw [opens.openTo] at opened
  cases opened

/-- The desk at which a document is put on a device. -/
def onDevice (device : Files.Device) (letters : Text.Letters) (tree : Files.Tree)
    (journal : Log.Journal) : Desk Files.Handle :=
  ⟨startOn (.device device) letters, tree, journal⟩

theorem onDevice_faces (device : Files.Device) (letters : Text.Letters) (tree : Files.Tree)
    (journal : Log.Journal) :
    Faces device letters tree ((onDevice device letters tree journal).paper,
      (onDevice device letters tree journal).tree) :=
  ⟨rfl, rfl, rfl, rfl⟩

/-- A device is not removed. -/
theorem concluded_of_device {device : Files.Device}
    (opened : tree.openTo true path = .ok (.device device, tree))
    {d : Except Failure Unit × Desk Files.Handle} (same : d.2.tree = tree) :
    (concluded o path d).2.2 = tree := by
  cases outcome : d.1 with
  | ok u => rw [concluded_of_ok outcome, same]
  | error e => rw [concluded_of_error outcome, same, removeBegun_of_device opened]

theorem save_on_device (o : Order) (clear : path.hasNull = false) {device : Files.Device}
    (opened : tree.openTo true path = .ok (.device device, tree)) (unlogged : journal.files = []) :
    ∃ journal' : Log.Journal, journal'.files = [] ∧
      save o path (journal, tree) =
        concluded o path (filed o path (onDevice device o.letters tree journal')) := by
  obtain ⟨journal', files, applied⟩ := save_apply o path tree unlogged
  rw [openFile_of_device clear opened] at applied
  exact ⟨journal', files, applied⟩

theorem saved_on_null (o : Order) (clear : path.hasNull = false)
    (opened : tree.openTo true path = .ok (.device .null, tree)) (unlogged : journal.files = []) :
    Saved o path tree (save o path (journal, tree)) := by
  obtain ⟨journal', files, applied⟩ := save_on_device o clear opened unlogged
  have held : Desk.Holds (OnNull o.letters tree) (onDevice .null o.letters tree journal') "" :=
    holds_of_no_files (onDevice_faces .null o.letters tree journal') files
  have sees : Sees (OnNull o.letters tree) o (o.found tree) := by
    intro i listed p tree' t faces
    obtain rfl : tree' = tree := faces.same
    rfl
  obtain ⟨completes, t, same, -⟩ :=
    filed_ok_iff OnNull.encodes OnNull.closes path unlogged sees held
  obtain ⟨-, plain⟩ := filed_begun OnNull.encodes OnNull.closes o path held
  have kept := (filed_files o path (onDevice .null o.letters tree journal')).trans files
  have left := concluded_of_device (o := o) opened same
  rw [applied]
  refine
    { unlogged := concluded_files.trans kept
      plain := fun f failed => plain f (error_of_concluded failed)
      answer := fun s done => answer_of_concluded done
      complete := ?_
      accepted := by rw [concluded_ok_iff, completes, accepts_iff clear opened nofun]
      same := fun other files' => by rw [← applied, save_unlogged o path tree unlogged files']
      cleared := fun _ _ place opens => absurd opens (not_opens_of_device opened place)
      elsewhere := fun l _ => by rw [left] }
  rw [concluded_ok_iff, completes]
  refine exists_congr fun text => and_congr_right fun _ => ⟨fun encodable => ?_, ?_⟩
  · exact .inr ⟨clear, opened, encodable⟩
  · rintro (⟨place, opens, -⟩ | ⟨-, -, encodable⟩)
    · exact absurd opens (not_opens_of_device opened place)
    · exact encodable

theorem saved_on_full (o : Order) (clear : path.hasNull = false)
    (opened : tree.openTo true path = .ok (.device .full, tree)) (unlogged : journal.files = []) :
    Saved o path tree (save o path (journal, tree)) := by
  have same := fun journal' (files : Log.Journal.files journal' = []) =>
    save_unlogged o path tree unlogged files
  obtain ⟨journal', files, applied⟩ := save_on_device o clear opened unlogged
  obtain ⟨r, failed, plain, left⟩ :=
    filed_full o path (onDevice_faces .full o.letters tree journal') files
  have kept := (filed_files o path (onDevice .full o.letters tree journal')).trans files
  have none := not_opens_of_device opened
  rw [concluded_of_error failed, left, removeBegun_of_device opened] at applied
  rw [applied] at same ⊢
  exact
    { unlogged := kept
      plain := by
        rintro f ⟨⟩
        exact plain
      answer := nofun
      complete := by
        refine ⟨nofun, ?_⟩
        rintro ⟨text, -, ⟨place, opens, -⟩ | ⟨-, swallowed, -⟩⟩
        · exact absurd opens (none place)
        · rw [opened] at swallowed
          cases swallowed
      accepted := by
        refine ⟨nofun, ?_⟩
        rintro ⟨-, ⟨target, tree', opened', room⟩, -⟩
        rw [opened] at opened'
        exact absurd (Prod.mk.inj (Except.ok.inj opened')).1.symm room
      same := same
      cleared := fun _ _ place opens => absurd opens (none place)
      elsewhere := fun _ _ => rfl }

/-- The desk at which a document is put in a file. -/
def inFile (place : Files.Location) (letters : Text.Letters) (tree : Files.Tree)
    (journal : Log.Journal) : Desk Files.Handle :=
  ⟨startOn (.file place) letters, tree.set place (.file []), journal⟩

/-- Where no link is in the way and no address is read from the file, the file holds the document or
is gone. -/
theorem saved_in_file {place : Files.Location} (opens : tree.Opens path place)
    (straight : ∀ l target, tree.find? l ≠ some (.link target)) (allowed : tree.mayRemove = true)
    (away : ∀ i ∈ o.machine.interfaces.getD [],
      ¬tree.LeadsTo [place] (Network.addressPath o.interfaces i))
    (unlogged : journal.files = []) : Saved o path tree (save o path (journal, tree)) := by
  have room : tree.HasRoom [place] := opens.hasRoom fun l listed => by cases listed
  have root : place ≠ [] := room.ne_nil List.mem_cons_self
  have sees : Sees (OnFile tree [] place o.letters) o (o.found tree) := OnFile.sees ⟨room, away⟩
  obtain ⟨journal', files, applied⟩ := save_apply o path tree unlogged
  rw [openFile_of_opens opens] at applied
  replace applied : save o path (journal, tree) =
      concluded o path (filed o path (inFile place o.letters tree journal')) := applied
  have held : Desk.Holds (OnFile tree [] place o.letters) (inFile place o.letters tree journal') "" :=
    holds_of_no_files (OnFile.start root (.refl _ _)) files
  obtain ⟨completes, t, finished, told⟩ :=
    filed_ok_iff (OnFile.encodes root) (close_finishes root) path unlogged sees held
  obtain ⟨-, plain⟩ := filed_begun (OnFile.encodes root) (close_finishes root) o path held
  obtain ⟨gone, elsewhere⟩ :=
    removeBegun_of_finished (opens.admits straight) room o.speaker finished
  have kept := (filed_files o path (inFile place o.letters tree journal')).trans files
  have cleared : ∀ f, (concluded o path (filed o path (inFile place o.letters tree journal'))).1 =
      .error f → ∀ place', tree.Opens path place' →
      (concluded o path (filed o path (inFile place o.letters tree journal'))).2.2.find? place' =
        none := by
    intro f failed place' opens'
    obtain rfl := opens.unique opens'
    rw [concluded_of_error (error_of_concluded failed)]
    exact gone allowed
  rw [applied]
  refine
    { unlogged := concluded_files.trans kept
      plain := fun f failed => plain f (error_of_concluded failed)
      answer := fun s done => answer_of_concluded done
      complete := ⟨fun done => ?_, ?_⟩
      accepted := by rw [concluded_ok_iff, completes, accepts_iff opens.clear opens.openTo nofun]
      same := fun other files' => by rw [← applied, save_unlogged o path tree unlogged files']
      cleared := cleared
      elsewhere := fun l closed => ?_ }
  · have complete := concluded_ok_iff.mp done
    rw [concluded_of_ok complete]
    exact ⟨t, told complete, .inl ⟨place, opens, finished.file⟩⟩
  · rintro ⟨text, -, ⟨place', opens', stands⟩ | ⟨-, swallowed, -⟩⟩
    · cases outcome : (concluded o path (filed o path (inFile place o.letters tree journal'))).1 with
      | ok s => exact ⟨s, rfl⟩
      | error f =>
        rw [cleared f outcome place' opens'] at stands
        cases stands
    · rw [opens.openTo] at swallowed
      cases swallowed
  · have differs : l ≠ place := by
      rintro rfl
      exact closed opens
    cases outcome : (filed o path (inFile place o.letters tree journal')).1 with
    | ok u =>
      rw [concluded_of_ok outcome]
      exact elsewhere_of_overlays finished.overlays l differs (by simp)
    | error f =>
      rw [concluded_of_error outcome]
      exact elsewhere l differs (by simp)

/-- **Wherever a path leads, a document is complete there, or it is told why not** and no file holds
any of it. -/
theorem save_settles (o : Order) (path : Files.Path) (unlogged : journal.files = [])
    (straight : ∀ l target, tree.find? l ≠ some (.link target)) (allowed : tree.mayRemove = true)
    (away : ∀ place, tree.Opens path place → ∀ i ∈ o.machine.interfaces.getD [],
      ¬tree.LeadsTo [place] (Network.addressPath o.interfaces i)) :
    Saved o path tree (save o path (journal, tree)) := by
  cases clear : path.hasNull with
  | true => exact saved_of_hasNull o clear unlogged
  | false =>
    rcases Files.Tree.opens_cases clear with ⟨place, opens⟩ | ⟨device, opened⟩ | ⟨why, refused⟩
    · exact saved_in_file opens straight allowed (away place opens) unlogged
    · cases device with
      | null => exact saved_on_null o clear opened unlogged
      | full => exact saved_on_full o clear opened unlogged
    · exact saved_of_refusal o clear refused unlogged

end Document
end MachineDescriptor
