import MachineDescriptor.Proofs.Destinations
import MachineDescriptor.Proofs.Handles
import MachineDescriptor.Proofs.Transcripts

/-!
The document in a file. It comes to the same as the document as a text, as far as that can be
encoded, and a file that could not be finished is removed again.
-/
namespace MachineDescriptor

namespace Document

open Xml
open Files.Handle (Lies Content write_lies flush_lies close_lies)

variable {base : Files.Tree} {files : List Files.Location} {place : Files.Location}
  {letters : Text.Letters}

/-! ## Paper in a file -/

/-- An open file that was given a text, in a tree where nothing else was written but log files. -/
def OnFile (base : Files.Tree) (files : List Files.Location) (place : Files.Location)
    (letters : Text.Letters) (s : Files.Handle × Files.Tree) (t : String) : Prop :=
  ∃ c, Lies base (place :: files) place letters c s ∧ c.all = Text.Utf8.encode t.toList

theorem isOpen_of_lies {places : List Files.Location} {c : Content} {s : Files.Handle × Files.Tree}
    (lies : Lies base places place letters c s) : s.1.closed = false := by
  rw [lies.handle]
  rfl

theorem encode_append (t u : String) :
    Text.Utf8.encode (t ++ u).toList = Text.Utf8.encode t.toList ++ Text.Utf8.encode u.toList := by
  rw [String.toList_append, Text.Utf8.encode, List.flatMap_append]
  rfl

theorem letters_of_lies {places : List Files.Location} {c : Content}
    {s : Files.Handle × Files.Tree} (lies : Lies base places place letters c s) :
    s.1.letters = letters := by
  rw [lies.handle]
  rfl

/-- On an open file, a text that can be encoded is written. -/
theorem write_of_clean {s : Files.Handle × Files.Tree} {u : String}
    (clean : s.1.letters.fault? u.toList = none) :
    (Stream.write u : EStateM Fault (Files.Handle × Files.Tree) Unit) s =
      onOpenFile (Files.Handle.write u) s := by
  simp only [Stream.write, writeToFile, clean]

/-- On an open file, a text that cannot be encoded is refused. -/
theorem write_of_stray {s : Files.Handle × Files.Tree} {u : String} {codes : Text.Unencodable}
    (isOpen : s.1.closed = false) (stray : s.1.letters.fault? u.toList = some codes) :
    (Stream.write u : EStateM Fault (Files.Handle × Files.Tree) Unit) s =
      .error (.unencodable codes) s := by
  simp only [Stream.write, writeToFile, stray, isOpen, Bool.false_eq_true, if_false]

theorem OnFile.encodes (root : place ≠ []) : Encodes letters (OnFile base files place letters) where
  write := by
    rintro s t ⟨c, lies, all⟩ u clean
    obtain ⟨c', s', put, lies', all'⟩ := write_lies root List.mem_cons_self lies u
    refine ⟨s', ?_, c', lies', ?_⟩
    · rw [write_of_clean (by rw [letters_of_lies lies, clean])]
      simp only [onOpenFile, isOpen_of_lies lies, put]
      rfl
    · rw [all', all, encode_append]
  refuse := by
    rintro s t ⟨c, lies, all⟩ u codes stray
    exact write_of_stray (isOpen_of_lies lies) (by rw [letters_of_lies lies, stray])
  flush := by
    rintro s t ⟨c, lies, all⟩
    obtain ⟨s', flushed, lies'⟩ := flush_lies root List.mem_cons_self lies
    refine ⟨s', ?_, _, lies', ?_⟩
    · simp only [Stream.flush, onOpenFile, isOpen_of_lies lies, flushed]
      rfl
    · simpa [Content.all] using all

/-- A handle at the start of what was opened, for texts with such letters. -/
def startOn (target : Files.Tree.Target) (letters : Text.Letters) : Files.Handle :=
  { Files.Handle.atStart target with letters }

/-- A file that was just opened holds nothing. -/
theorem OnFile.start (root : place ≠ []) {tree : Files.Tree} (overlays : base.Overlays files tree) :
    OnFile base files place letters
      (startOn (.file place) letters, tree.set place (.file [])) "" :=
  ⟨⟨[], [], []⟩, ⟨rfl, Files.Tree.find?_set_self tree root _,
    (overlays.mono fun _ listed => List.mem_cons_of_mem place listed).set root
      List.mem_cons_self _⟩, rfl⟩

theorem OnFile.sees {o : Order} {tree : Files.Tree}
    (undisturbed : o.Undisturbed tree (place :: files)) :
    Sees (OnFile tree files place o.letters) o (o.found tree) := by
  apply sees_of_undisturbed undisturbed
  rintro h tree' t ⟨c, lies, all⟩
  exact lies.overlays

/-- Lines in log files leave an open file alone. -/
theorem OnFile.bears (room : base.HasRoom (place :: files)) (apart : place ∉ files)
    (h : Files.Handle) (t : String) :
    Log.Journal.Bears (fun tree => OnFile base files place letters (h, tree) t) files := by
  rintro l listed tree bytes ⟨c, lies, all⟩
  have listed' : l ∈ place :: files := List.mem_cons_of_mem place listed
  have differs : place ≠ l := by
    rintro rfl
    exact apart listed
  exact ⟨c, lies.around (tree.find?_set_of_ne differs _)
    (lies.overlays.set (room.ne_nil listed') listed' _), all⟩

/-! ## Closing -/

/-- A desk whose file is closed and holds a text. -/
structure Finished (base : Files.Tree) (files : List Files.Location) (place : Files.Location)
    (letters : Text.Letters) (d : Desk Files.Handle) (t : String) : Prop where
  closed : Stream.isClosed d = true
  file : d.tree.find? place = some (.file (Text.Utf8.encode t.toList))
  overlays : base.Overlays (place :: files) d.tree
  bears : ∀ h t, Log.Journal.Bears (fun tree => OnFile base files place letters (h, tree) t)
    d.journal.files

/-- Closing a writer closes its file and fails as that does. -/
theorem close_apply {w : Writer (Desk Files.Handle)} (path : w.path.isSome = true)
    (isOpen : w.stream.paper.closed = false) :
    close w =
      match Files.Handle.close (w.stream.paper, w.stream.tree) with
      | .ok _ s => .ok () { w with stream := ⟨s.1, s.2, w.stream.journal⟩ }
      | .error r s =>
        let w := { w with stream := ⟨s.1, s.2, w.stream.journal⟩ }
        .error (w.rejection .closing (.refused r)) w := by
  have streamOpen : Stream.isClosed w.stream = false := isOpen
  unfold close
  rw [get_bind, path, streamOpen]
  simp only [Bool.not_false, Bool.and_self, if_true, onStream, Stream.close, Desk.onPaper,
    onOpenFile, isOpen, Bool.false_eq_true, if_false]
  cases Files.Handle.close (w.stream.paper, w.stream.tree) <;> rfl

theorem close_finishes (root : place ≠ []) {w : Writer (Desk Files.Handle)} {t : String}
    (path : w.path.isSome = true)
    (held : Desk.Holds (OnFile base files place letters) w.stream t) :
    ∃ d, close w = .ok () { w with stream := d } ∧ Finished base files place letters d t := by
  obtain ⟨⟨c, lies, all⟩, bears⟩ := held
  obtain ⟨⟨h, tree⟩, shut, closed, file, overlays⟩ := close_lies root List.mem_cons_self lies
  rw [all] at file
  rw [close_apply path (isOpen_of_lies lies), shut]
  exact ⟨⟨h, tree, w.stream.journal⟩, rfl, closed, file, overlays, bears⟩

theorem closing_of_ok {κ α : Type} [Stream (Desk κ)] {body : Work κ α} {w v v' : Writer (Desk κ)}
    {a : α} (done : body w = .ok a v) (closed : close v = .ok () v') :
    closing body w = .ok a v' := by
  simp only [closing, done, closed]

theorem closing_of_error {κ α : Type} [Stream (Desk κ)] {body : Work κ α}
    {w v v' : Writer (Desk κ)} {e : Failure} (failed : body w = .error e v)
    (closed : close v = .ok () v') : closing body w = .error e v' := by
  simp only [closing, failed, closed]

/-- A closing that fails takes the place of what the body came to. -/
theorem closing_of_unclosed {κ α : Type} [Stream (Desk κ)] {body : Work κ α}
    {w v v' : Writer (Desk κ)} {e : Failure}
    (came : (∃ a, body w = .ok a v) ∨ ∃ f, body w = .error f v) (failed : close v = .error e v') :
    closing body w = .error e v' := by
  rcases came with ⟨a, done⟩ | ⟨f, broke⟩
  · simp only [closing, done, failed]
  · simp only [closing, broke, failed]

/-! ## The file -/

/-- What a document comes to in a file, and the desk that it leaves behind. -/
def filed (o : Order) (path : Files.Path) (d : Desk Files.Handle) :
    Except Failure Unit × Desk Files.Handle :=
  let (outcome, w) := outcomeOf (closing (write o)) (Writer.onFile d path defaultIndent)
  (outcome, w.stream)

/-- A writer on an open file can be closed, and then something is known of the text that is on
paper. -/
def Closes (paper : Files.Handle × Files.Tree → String → Prop)
    (done : Desk Files.Handle → String → Prop) : Prop :=
  ∀ {w : Writer (Desk Files.Handle)} {t : String}, w.path.isSome = true →
    Desk.Holds paper w.stream t →
    ∃ d, close w = .ok () { w with stream := d } ∧ done d t

/-- The text of a document in memory, as far as it is rendered. -/
def draft (o : Order) (tree : Files.Tree) (journal : Log.Journal) : String :=
  (render o tree journal).2.paper.text

/-- A text that is rendered is all there is in memory. -/
theorem draft_of_rendered {o : Order} {tree : Files.Tree} {journal : Log.Journal} {text : String}
    (rendered : (render o tree journal).1 = .ok text) : draft o tree journal = text := by
  unfold draft
  unfold render outcomeOf at rendered ⊢
  cases written : write o (Writer.inMemory ⟨Memory.empty, tree, journal⟩ defaultIndent) with
  | error f w =>
    rw [bind_of_error written] at rendered
    cases rendered
  | ok u w =>
    rw [bind_of_ok written] at rendered ⊢
    cases value : Memory.value w.stream.paper with
    | error f =>
      have last : contents w = .error (.fault f) w := by simp only [contents, Stream.value, value]
      rw [last] at rendered
      cases rendered
    | ok t =>
      have last : contents w = .ok t w := by simp only [contents, Stream.value, value]
      rw [last] at rendered ⊢
      obtain rfl := Except.ok.inj rendered
      unfold Memory.value at value
      split at value
      · cases value
      · exact Except.ok.inj value

/-- Rendering is the work on the document, and then the text in memory. -/
theorem render_of_write {o : Order} {tree : Files.Tree} {journal : Log.Journal} {t : String}
    {r : EStateM.Result Failure (Writer (Desk Memory)) Unit}
    (written : write o (Writer.inMemory ⟨Memory.empty, tree, journal⟩ defaultIndent) = r)
    (held : (writerAfter r).stream.paper.Holds t) :
    draft o tree journal = t ∧ (render o tree journal).1 =
      match r with
      | .ok _ _ => .ok t
      | .error f _ => .error f := by
  unfold draft render outcomeOf
  cases r with
  | ok x w =>
    have value : Stream.value w.stream = .ok t := Memory.value_of_holds held
    have last : contents w = .ok t w := by simp only [contents, value]
    rw [bind_of_ok written, last]
    exact ⟨congrArg Memory.text held, rfl⟩
  | error f w =>
    rw [bind_of_error written]
    exact ⟨congrArg Memory.text held, rfl⟩

/-- **In a file a document comes to the same as in memory**, as long as what comes about in memory
can be encoded; otherwise it is reported that it cannot. -/
theorem filed_transcribes {paper : Files.Handle × Files.Tree → String → Prop}
    {done : Desk Files.Handle → String → Prop} {o : Order} {tree : Files.Tree}
    {journal : Log.Journal} (encodes : Encodes o.letters paper) (closes : Closes paper done)
    (path : Files.Path) (undisturbed : o.Undisturbed tree journal.files)
    (sees : Sees paper o (o.found tree)) {d : Desk Files.Handle} (held : Desk.Holds paper d "") :
    ∃ t, done (filed o path d).2 t ∧
      (o.letters.fault? (draft o tree journal).toList = none →
        (∀ text, (render o tree journal).1 = .ok text →
          (filed o path d).1 = .ok () ∧ t = text) ∧
        ∀ f, (render o tree journal).1 = .error f →
          (filed o path d).1 = .error (f.withPath path.toString)) ∧
      (o.letters.fault? (draft o tree journal).toList ≠ none →
        ∃ op spot codes,
          (filed o path d).1 = .error (.report (strayReport op spot path.toString codes))) := by
  have faithful := OnMemory.faithful tree journal.files
  have blank : Desk.Holds (OnMemory tree journal.files) ⟨Memory.empty, tree, journal⟩ "" :=
    ⟨⟨Memory.empty_holds, .refl _ _⟩, fun m t => OnMemory.bears undisturbed.room m t⟩
  have sees' : Sees (OnMemory tree journal.files) o (o.found tree) :=
    sees_of_undisturbed undisturbed fun _ _ _ held => held.2
  have same : Transcribed o.letters (OnMemory tree journal.files) paper path.toString
      (write o (Writer.inMemory ⟨Memory.empty, tree, journal⟩ defaultIndent))
      (write o (Writer.onFile d path defaultIndent)) :=
    (write_transcribes faithful encodes sees' sees).copies rfl blank held rfl
  generalize here : write o (Writer.inMemory ⟨Memory.empty, tree, journal⟩ defaultIndent) = r
    at same
  generalize there : write o (Writer.onFile d path defaultIndent) = r' at same
  unfold filed outcomeOf
  cases same with
  | @ok u w d₁ t own held' copied clean =>
    obtain ⟨drafted, rendered⟩ := render_of_write here held'.1.1
    obtain ⟨d', closed, finished⟩ := closes (w := w.onto d₁ (some path.toString)) rfl copied
    rw [closing_of_ok there closed, drafted, rendered]
    refine ⟨_, finished, fun _ => ⟨?_, nofun⟩, fun stray => absurd clean stray⟩
    rintro text ⟨⟩
    exact ⟨rfl, rfl⟩
  | @error f w d₁ t held' copied clean =>
    obtain ⟨drafted, rendered⟩ := render_of_write here held'.1.1
    obtain ⟨d', closed, finished⟩ := closes (w := w.onto d₁ (some path.toString)) rfl copied
    rw [closing_of_error there closed, drafted, rendered]
    refine ⟨_, finished, fun _ => ⟨nofun, ?_⟩, fun stray => absurd clean stray⟩
    rintro f ⟨⟩
    rfl
  | stray own strays named copied =>
    obtain ⟨t, held', stray⟩ := strays
    obtain ⟨t', copied⟩ := copied
    obtain ⟨drafted, -⟩ := render_of_write here held'.1.1
    obtain ⟨d', closed, finished⟩ := closes (by rw [named]; rfl) copied
    rw [closing_of_error there closed, drafted]
    exact ⟨t', finished, fun clean => absurd clean stray, fun _ => ⟨_, _, _, rfl⟩⟩

/-! ## Saving -/

/-- The desk at which a document is put in a file, when the path could be opened. -/
def openedAt (o : Order) (path : Files.Path) (p : Log.Journal.Placed) :
    Except Failure (Desk Files.Handle) :=
  let (journal, tree) :=
    Log.Journal.say o.speaker Log.trace "writing %s" [.text path.toString] none p
  match openFile path tree with
  | .error f _ => .error f
  | .ok handle tree => .ok ⟨{ handle with letters := o.letters }, tree, journal⟩

theorem openFile_of_opens {path : Files.Path} {tree : Files.Tree} (opens : tree.Opens path place) :
    openFile path tree =
      .ok (Files.Handle.atStart (.file place)) (tree.set place (.file [])) := by
  simp only [openFile, opens.clear, opens.openTo, Bool.false_eq_true, if_false]

/-- Where a path can be opened, its file is empty then. -/
theorem openedAt_of_opens {o : Order} {path : Files.Path} {journal : Log.Journal}
    (opens : base.Opens path place) (apart : place ∉ journal.files)
    (room : base.HasRoom (place :: journal.files)) :
    ∃ d, openedAt o path (journal, base) = .ok d ∧
      Desk.Holds (OnFile base journal.files place o.letters) d "" := by
  have bears : Log.Journal.Bears (fun tree => base.Overlays journal.files tree) journal.files :=
    fun l listed tree bytes overlays =>
      overlays.set (room.ne_nil (List.mem_cons_of_mem place listed)) listed _
  have spares := Log.Journal.say_spares (p := (journal, base)) bears o.speaker Log.trace
    "writing %s" [.text path.toString] none (.refl _ _)
  have files := Log.Journal.files_of_spares spares
  obtain ⟨-, overlays⟩ := spares
  unfold openedAt
  generalize Log.Journal.say o.speaker Log.trace "writing %s" [.text path.toString] none
    (journal, base) = said at files overlays ⊢
  obtain ⟨journal', tree⟩ := said
  have root : place ≠ [] := room.ne_nil List.mem_cons_self
  have logRoom : base.HasRoom journal.files := fun l listed =>
    room l (List.mem_cons_of_mem place listed)
  have opens' : tree.Opens path place := opens.of_overlays overlays logRoom apart
  have opened := openFile_of_opens opens'
  refine ⟨⟨startOn (.file place) o.letters, tree.set place (.file []), journal'⟩, ?_,
    OnFile.start root overlays, fun h t => ?_⟩
  · simp only [opened, startOn]
  · rw [files]
    exact OnFile.bears room apart h t

theorem elsewhere_of_overlays {tree : Files.Tree} (overlays : base.Overlays (place :: files) tree)
    (l : Files.Location) (differs : l ≠ place) (unlisted : l ∉ files) :
    tree.find? l = base.find? l :=
  overlays.elsewhere l fun here => (List.mem_cons.mp here).elim differs unlisted

/-- A file that was begun is removed where that is permitted, and nothing else is touched. -/
theorem removeBegun_of_finished {path : Files.Path} (admits : base.Admits path place)
    (room : base.HasRoom (place :: files)) (speaker : Log.Speaker) {d : Desk Files.Handle}
    {t : String} (finished : Finished base files place letters d t) :
    (base.mayRemove = true →
      (removeBegun speaker path (d.journal, d.tree)).2.find? place = none) ∧
    ∀ l, l ≠ place → l ∉ files →
      (removeBegun speaker path (d.journal, d.tree)).2.find? l = base.find? l := by
  have root : place ≠ [] := room.ne_nil List.mem_cons_self
  have isFile := admits.opens.isFile_written finished.overlays room finished.file
  unfold removeBegun
  simp only [isFile]
  cases allowed : base.mayRemove with
  | true =>
    rw [admits.remove_written finished.overlays room finished.file allowed]
    refine ⟨fun _ => Files.Tree.find?_erase_self d.tree root, fun l differs unlisted => ?_⟩
    rw [Files.Tree.find?_erase_of_ne d.tree differs]
    exact elsewhere_of_overlays finished.overlays l differs unlisted
  | false =>
    have denied : d.tree.remove path = .error (.permissionDenied path.toString) := by
      rw [Files.Tree.remove, finished.overlays.mayRemove, allowed]
      rfl
    rw [denied]
    refine ⟨fun permitted => absurd permitted Bool.false_ne_true, ?_⟩
    -- the journal treats the tree as if the file were still open
    have held : OnFile base files place letters
        (Content.handle ⟨Text.Utf8.encode t.toList, [], []⟩ place letters, d.tree) t :=
      ⟨_, ⟨rfl, finished.file, finished.overlays⟩, by simp [Content.all]⟩
    obtain ⟨-, c, lies, -⟩ := Log.Journal.say_spares (p := (d.journal, d.tree))
      (finished.bears _ t) speaker Log.trace "could not remove partial %s: %s"
      [.text path.toString, .text (Files.Refusal.permissionDenied path.toString).message] none held
    exact elsewhere_of_overlays lies.overlays

/-- Saving opens the file, writes the document, and removes what could not be finished. -/
theorem save_of_opened {o : Order} {path : Files.Path} {p : Log.Journal.Placed}
    {d : Desk Files.Handle} (opened : openedAt o path p = .ok d) :
    save o path p =
      match (filed o path d).1 with
      | .ok _ => (.ok path.toString, ((filed o path d).2.journal, (filed o path d).2.tree))
      | .error f => (.error f,
          removeBegun o.speaker path ((filed o path d).2.journal, (filed o path d).2.tree)) := by
  unfold openedAt at opened
  unfold save filed
  dsimp only at opened ⊢
  cases found : openFile path
      (Log.Journal.say o.speaker Log.trace "writing %s" [.text path.toString] none p).2 with
  | error f tree =>
    rw [found] at opened
    cases opened
  | ok handle tree =>
    rw [found] at opened
    obtain rfl := Except.ok.inj opened
    rfl

theorem Order.Undisturbed.mono {o : Order} {tree : Files.Tree} {more : List Files.Location}
    (undisturbed : o.Undisturbed tree more) (within : ∀ l ∈ files, l ∈ more) :
    o.Undisturbed tree files where
  room l listed := undisturbed.room l (within l listed)
  away := by
    rintro i listed ⟨a, arrives, here⟩
    exact undisturbed.away i listed ⟨a, arrives, within _ here⟩

/-- **A document is saved as it is rendered, if it can be encoded.** The file holds the text that is
rendered, or saving fails as rendering does and the file is gone. Where the text holds a surrogate
code, saving reports that and the file is gone, too. In any case the file is closed, and no other
file is touched but for the journal's own. -/
theorem save_agrees {o : Order} {tree : Files.Tree} {journal : Log.Journal} {path : Files.Path}
    (admits : tree.Admits path place) (apart : place ∉ journal.files)
    (undisturbed : o.Undisturbed tree (place :: journal.files)) :
    ((∀ c ∈ (draft o tree journal).toList, o.letters.code? c = none) →
      (∀ text, (render o tree journal).1 = .ok text →
        (save o path (journal, tree)).1 = .ok path.toString ∧
        (save o path (journal, tree)).2.2.find? place =
          some (.file (Text.Utf8.encode text.toList))) ∧
      ∀ f, (render o tree journal).1 = .error f →
        (save o path (journal, tree)).1 = .error (f.withPath path.toString) ∧
        (tree.mayRemove = true → (save o path (journal, tree)).2.2.find? place = none)) ∧
    ((∃ c ∈ (draft o tree journal).toList, o.letters.code? c ≠ none) →
      (∃ op spot codes, (save o path (journal, tree)).1 =
        .error (.report (strayReport op spot path.toString codes))) ∧
      (tree.mayRemove = true → (save o path (journal, tree)).2.2.find? place = none)) ∧
    (∀ l, l ≠ place → l ∉ journal.files →
      (save o path (journal, tree)).2.2.find? l = tree.find? l) ∧
    ∃ d, openedAt o path (journal, tree) = .ok d ∧ Stream.isClosed (filed o path d).2 = true := by
  have room := undisturbed.room
  have root : place ≠ [] := room.ne_nil List.mem_cons_self
  have logs : o.Undisturbed tree journal.files :=
    undisturbed.mono fun l listed => List.mem_cons_of_mem place listed
  have sees : Sees (OnFile tree journal.files place o.letters) o (o.found tree) :=
    OnFile.sees undisturbed
  obtain ⟨d, opened, held⟩ := openedAt_of_opens (o := o) admits.opens apart room
  obtain ⟨t, finished, clean, stray⟩ :=
    filed_transcribes (OnFile.encodes root) (close_finishes root) path logs sees held
  obtain ⟨gone, elsewhere⟩ := removeBegun_of_finished admits room o.speaker finished
  have closed : Stream.isClosed (filed o path d).2 = true := finished.closed
  rw [save_of_opened opened]
  refine ⟨fun encodable => ?_, fun ⟨c, listed, spells⟩ => ?_, ?_, d, opened, closed⟩
  · obtain ⟨succeeds, fails⟩ := clean (Text.Letters.fault?_eq_none_iff.mpr encodable)
    refine ⟨fun text rendered => ?_, fun f failed => ?_⟩
    · obtain ⟨done, rfl⟩ := succeeds text rendered
      rw [done]
      exact ⟨rfl, finished.file⟩
    · rw [fails f failed]
      exact ⟨rfl, gone⟩
  · have unencodable : IsStray o.letters (draft o tree journal) := fun none =>
      spells (Text.Letters.fault?_eq_none_iff.mp none c listed)
    obtain ⟨op, here, codes, reported⟩ := stray unencodable
    rw [reported]
    exact ⟨⟨op, here, codes, rfl⟩, gone⟩
  · cases (filed o path d).1 with
    | ok u => exact elsewhere_of_overlays finished.overlays
    | error f => exact elsewhere

/-- A path in a directory of the small tree. -/
def smallPath : Files.Path := ⟨.root, ["out", "m.xml"]⟩

theorem smallTree_admits : smallTree.Admits smallPath ["out", "m.xml"] where
  clear := by decide
  arrives := by
    have short : ¬Files.Tree.maxPath < smallPath.toString.utf8ByteSize := by decide
    left
    rw [Files.Tree.resolve, if_neg short, smallPath]
    rw [Files.Tree.walk_of_entry (e := .directory) rfl (by decide) (by decide) rfl nofun false _
      (by decide)]
    exact Files.Tree.walk_of_last rfl (by decide) (by decide) (by rintro target ⟨⟩) false _

theorem smallOrder_apart :
    smallOrder.Undisturbed smallTree (["out", "m.xml"] :: smallJournal.files) where
  room := smallTree_admits.hasRoom smallOrder_undisturbed.room
  away := by
    intro i listed
    obtain rfl : i = "eth0" := by simpa [smallOrder] using listed
    have path : Network.addressPath smallOrder.interfaces "eth0" =
        ⟨.root, ["net", "eth0", "address"]⟩ := rfl
    have short : ¬Files.Tree.maxPath <
        (Files.Path.mk .root ["net", "eth0", "address"]).toString.utf8ByteSize := by
      decide
    have plain : ∀ target, Files.Entry.directory ≠ .link target := by rintro target ⟨⟩
    rintro ⟨a, arrives, here⟩
    rw [path, Files.Tree.resolve, if_neg short] at arrives
    rw [Files.Tree.walk_of_entry (e := .directory) rfl (by decide) (by decide) rfl plain true _
      (by decide)] at arrives
    rw [Files.Tree.walk_of_entry (e := .directory) rfl (by decide) (by decide) rfl plain true _
      (by decide)] at arrives
    rw [Files.Tree.walk_of_last rfl (by decide) (by decide) (by rintro target ⟨⟩) true _]
      at arrives
    obtain rfl := Except.ok.inj arrives
    exact absurd here (by decide)

theorem save_smallOrder :
    (save smallOrder smallPath (smallJournal, smallTree)).1 = .ok "/out/m.xml" ∧
      (save smallOrder smallPath (smallJournal, smallTree)).2.2.find? ["out", "m.xml"] =
        some (.file (Text.Utf8.encode
          (Outline.text smallOrder (Outline.addresses smallTree smallOrder.interfaces)).toList)) :=
  ((save_agrees smallTree_admits List.not_mem_nil smallOrder_apart).1
    fun c _ => Text.Letters.code?_plain c).1 _
    (by rw [render_outcome smallOrder_undisturbed, outcome_smallOrder])

/-! ## A document that cannot be encoded -/

/-- A surrogate code in one of the nodes is one in the text. -/
theorem stray_of_mem {indent : String} {depth : Nat} {node : Node} {nodes : List Node}
    (stray : IsStray letters (node.render indent depth)) (listed : node ∈ nodes) :
    IsStray letters (Node.renderAll indent depth nodes) := by
  induction nodes with
  | nil => cases listed
  | cons first rest ih =>
    rw [Node.renderAll]
    rcases List.mem_cons.mp listed with rfl | later
    · exact stray.append _
    · exact (ih later).after _

theorem stray_of_frame {indent name : String} {attributes : List (String × String)} {depth : Nat}
    {node : Node} {nodes : List Node} (stray : IsStray letters (node.render indent (depth + 1)))
    (listed : node ∈ nodes) :
    IsStray letters ((Node.frame name attributes nodes).render indent depth) := by
  have filled : ¬nodes.isEmpty = true := by
    rw [List.isEmpty_iff]
    exact List.ne_nil_of_mem listed
  rw [Node.frame, if_neg filled, Node.render]
  have inside := stray_of_mem stray listed
  exact .append (.append (.append (.append (.after inside _) _) _) _) _

/-- A document shows the name of its machine, with the surrogate codes in it. -/
theorem stray_of_name {o : Order} (stray : IsStray letters (Node.escaped o.machine.name))
    (addressOf : String → Option String) : IsStray letters (Outline.text o addressOf) := by
  have shown : IsStray letters ((Node.labelled "name" [] o.machine.name).render "  " 1) := by
    rw [Node.render]
    exact .append (.append (.append (.after stray _) _) _) _
  have inside : IsStray letters ((Outline.root o addressOf).render "  " 0) :=
    stray_of_frame shown List.mem_cons_self
  have listed : Outline.root o addressOf ∈ Outline.nodes o addressOf := by
    simp only [Outline.nodes, List.mem_cons, true_or, or_true]
  exact .after (stray_of_mem inside listed) _

/-- The order for a machine whose name is a surrogate code. -/
def strayNamed : Order :=
  { smallOrder with
    machine := { smallOrder.machine with
      name := String.singleton (Text.Letters.first.letter 0xd800)
      interfaces := none }
    letters := .first }

theorem strayNamed_apart :
    strayNamed.Undisturbed smallTree (["out", "m.xml"] :: smallJournal.files) where
  room := smallTree_admits.hasRoom (strayNamed.undisturbed_fresh smallTree _).room
  away := by
    intro i listed
    cases listed

/-- The document about that machine is rendered, but it cannot be saved. -/
theorem save_strayNamed :
    smallTree.Admits smallPath ["out", "m.xml"] ∧
      strayNamed.Undisturbed smallTree (["out", "m.xml"] :: smallJournal.files) ∧
      (∃ text, (render strayNamed smallTree smallJournal).1 = .ok text) ∧
      ∃ report : Report,
        (save strayNamed smallPath (smallJournal, smallTree)).1 = .error (.report report) ∧
          report.code = 3 := by
  have logs : strayNamed.Undisturbed smallTree smallJournal.files :=
    strayNamed.undisturbed_fresh smallTree _
  have room := smallTree_admits.hasRoom logs.room
  have given : strayNamed.ports = [10809].map .int := rfl
  have faults : strayNamed.faults (strayNamed.found smallTree) = [] :=
    faults_of_short given smallOrder_short
  have allowed : hasDoubleHyphen strayNamed.program.toList = false := by decide
  have rendered : (render strayNamed smallTree smallJournal).1 =
      .ok (Outline.text strayNamed fun i => (strayNamed.found smallTree i).address) := by
    rw [render_outcome logs, Order.outcome, allowed, if_neg Bool.false_ne_true, faults]
  have named : IsStray strayNamed.letters (Node.escaped strayNamed.machine.name) := by
    rw [IsStray]
    decide +kernel
  have stray : IsStray strayNamed.letters (draft strayNamed smallTree smallJournal) := by
    rw [draft_of_rendered rendered]
    exact stray_of_name named _
  have sees : Sees (OnFile smallTree smallJournal.files ["out", "m.xml"] strayNamed.letters)
      strayNamed (strayNamed.found smallTree) := OnFile.sees strayNamed_apart
  obtain ⟨d, opened, held⟩ := openedAt_of_opens (o := strayNamed) smallTree_admits.opens
    List.not_mem_nil room
  obtain ⟨t, -, -, reports⟩ := filed_transcribes (OnFile.encodes (by decide))
    (close_finishes (by decide)) smallPath logs sees held
  obtain ⟨op, spot, codes, reported⟩ := reports stray
  refine ⟨smallTree_admits, strayNamed_apart, ⟨_, rendered⟩,
    strayReport op spot smallPath.toString codes, ?_, rfl⟩
  rw [save_of_opened opened, reported]

end Document
end MachineDescriptor
