import MachineDescriptor.Proofs.DeviceNotes
import MachineDescriptor.Proofs.Recording

/-!
The records of a run. Each device of a document is noted in the journal before it is written, and
all that a run enters there are the notes about the devices, in the order of the document. A run
that is given up for want of a port has noted the disks before it.
-/
namespace MachineDescriptor.Document

open Xml
open Log (Record)

/-- The devices, kind by kind. -/
def writeDevices (o : Order) : Work Memory Unit := do
  writeDisks o.guide o.ports 0 o.machine.disks
  (o.machine.removable.getD []).forM (writeRemovable o.guide)
  (o.machine.interfaces.getD []).forM (writeInterface o)

/-! ## What each device enters -/

section

variable {s : Log.Surroundings} {tree : Files.Tree} {files : List Files.Location}
  (room : tree.HasRoom files)

include room

theorem writeDisk_enters (o : Order) {index : Nat} {port : Int}
    (given : o.ports[index]? = some (.int port)) (disk : String) :
    Enters s tree files (writeDisk o.guide o.ports index disk)
      (fun _ added => added = [Note.record o s
        (.disk index disk (String.ofList (Drive.target disk.toList index)) port)])
      fun _ => False := by
  have said : Enters s tree files
      (say o.guide Log.debug "disk %d: %s -> target %s (nbd port %d)" [.int index, .text disk,
        .text (String.ofList (Drive.target disk.toList index)), .int port])
      (fun _ added => added = [Note.record o s
        (.disk index disk (String.ofList (Drive.target disk.toList index)) port)])
      fun _ => False := say_enters room _ _ _ _
  unfold writeDisk
  rw [given]
  exact said.then_silent (diskElement_composes (silent_composes s tree files) _ (.int port))

omit room in
theorem writeDisk_stops (o : Order) {index : Nat} (missing : o.ports[index]? = none)
    (disk : String) :
    Enters s tree files (writeDisk o.guide o.ports index disk) (fun _ _ => False)
      fun added => added = [] := by
  unfold writeDisk
  rw [missing]
  exact fun w stands _ => ⟨[], (List.append_nil _).symm, rfl⟩

/-- The disks enter a note each, up to the first one without a port. -/
theorem writeDisks_enters (o : Order) {ports : List Int} (given : o.ports = ports.map .int)
    (index : Nat) (disks : List String) :
    Enters s tree files (writeDisks o.guide o.ports index disks)
      (fun _ added => added = (diskNotes index disks (((Drive.targetsFrom index
        (disks.map String.toList)).map String.ofList).zip (ports.drop index))).map (Note.record o s))
      fun added => added = (diskNotes index disks (((Drive.targetsFrom index
        (disks.map String.toList)).map String.ofList).zip (ports.drop index))).map
          (Note.record o s) := by
  induction disks generalizing index with
  | nil =>
    exact (Silent.pure ()).mono (fun _ _ none => none) fun _ none => none.elim
  | cons disk rest ih =>
    rw [List.map_cons, Drive.targetsFrom, List.map_cons]
    cases found : ports[index]? with
    | none =>
      have missing : o.ports[index]? = none := by rw [given, List.getElem?_map, found]; rfl
      have ended : ports.drop index = [] := List.drop_eq_nil_of_le (List.getElem?_eq_none_iff.mp found)
      rw [ended, List.zip_nil_right]
      refine ((writeDisk_stops o missing disk).bind fun _ => ih (index + 1)).mono ?_ ?_
      · rintro _ _ ⟨_, _, _, _, none, _⟩
        exact none.elim
      · rintro _ (rfl | ⟨_, _, _, _, none, _⟩)
        · rfl
        · exact none.elim
    | some port =>
      have known : o.ports[index]? = some (.int port) := by
        rw [given, List.getElem?_map, found]
        rfl
      have next : ports.drop index = port :: ports.drop (index + 1) := by
        obtain ⟨inside, rfl⟩ := List.getElem?_eq_some_iff.mp found
        exact List.drop_eq_getElem_cons inside
      rw [next, List.zip_cons_cons, diskNotes, List.map_cons]
      refine ((writeDisk_enters room o known disk).bind fun _ => ih (index + 1)).mono ?_ ?_
      · rintro _ _ ⟨_, _, _, rfl, rfl, rfl⟩
        rfl
      · rintro _ (none | ⟨_, _, _, rfl, rfl, rfl⟩)
        · exact none.elim
        · rfl

theorem writeRemovable_enters (o : Order) (device : String) :
    Enters s tree files (writeRemovable o.guide device)
      (fun _ added => added = [Note.record o s (.removable device)]) fun _ => False := by
  have said : Enters s tree files
      (say o.guide Log.debug "removable: target %s" [.text device])
      (fun _ added => added = [Note.record o s (.removable device)]) fun _ => False :=
    say_enters room _ _ _ _
  exact said.then_silent (removableElement_composes (silent_composes s tree files) device)

theorem removables_enter (o : Order) (devices : List String) :
    Enters s tree files (devices.forM (writeRemovable o.guide))
      (fun _ added => added = (devices.map Note.removable).map (Note.record o s))
      fun _ => False := by
  induction devices with
  | nil => exact Silent.pure ()
  | cons device rest ih =>
    refine ((writeRemovable_enters room o device).follow fun _ => ih).mono ?_ fun _ none => none
    rintro _ _ ⟨_, _, _, rfl, rfl, rfl⟩
    rfl

/-- An address is found where the first tree has it, and else it is noted that there is none. -/
theorem lookUpAddress_enters (o : Order) {interface : String}
    (away : ¬tree.LeadsTo files (Network.addressPath o.interfaces interface)) :
    Enters s tree files (lookUpAddress o.letters o.interfaces interface)
      (fun address added => address = Outline.addresses tree o.interfaces interface ∧
        (∀ text, address = some text → added = []) ∧
        (address = none → ∃ why, added =
          [Note.record o s (.noAddress interface (Outline.addressPath o.interfaces interface) why)]))
      fun _ => False := by
  intro w stands
  have same : o.found w.stream.tree interface = o.found tree interface :=
    found_of_overlays stands.tree room away
  have seen : foundFaults (o.found tree interface) = [] →
      (o.found w.stream.tree interface).address = Outline.addresses tree o.interfaces interface := by
    rw [same]
    exact Order.address_found
  unfold lookUpAddress theTree
  simp only [bind_assoc, pure_bind, get_bind]
  rw [← same] at seen
  unfold Order.found at seen
  rcases Network.lookUp_cases o.letters w.stream.tree o.interfaces interface with
    ⟨codes, -, stray⟩ | ⟨-, ⟨-, null⟩ | ⟨-, ⟨bytes, -, found⟩ | ⟨why, -, unreadable⟩⟩⟩
  · rw [stray]
    intro same
    cases same
  · rw [null]
    intro same
    cases same
  · rw [found] at seen ⊢
    exact ⟨stands, [], (List.append_nil _).symm, seen rfl, by simp, by simp⟩
  · have said : Enters s tree files
        (say networkLogger Log.debug "No MAC address for %s (%s): %s" [.text interface,
          .text (Network.addressPath o.interfaces interface).toString, .text why.message])
        (fun _ added => added = [Note.record o s
          (.noAddress interface (Network.addressPath o.interfaces interface) why)])
        fun _ => False := say_enters room _ _ _ _
    rw [unreadable] at seen ⊢
    refine (said.follow fun _ => Enters.pure none).mono ?_ (fun _ none => none) w stands
    rintro _ _ ⟨_, _, _, rfl, rfl, rfl, rfl⟩
    refine ⟨seen rfl, by simp, fun _ => ⟨why, ?_⟩⟩
    rw [Outline.addressPath_eq, List.append_nil]

theorem writeInterface_enters (o : Order) {interface : String}
    (away : ¬tree.LeadsTo files (Network.addressPath o.interfaces interface)) :
    Enters s tree files (writeInterface o interface)
      (fun _ added => ∃ notes, added = notes.map (Note.record o s) ∧
        InterfaceNotes o.interfaces [(interface, Outline.network o.machine interface,
          Outline.addresses tree o.interfaces interface)] notes)
      fun _ => False := by
  have said : ∀ address, Enters s tree files
      (say o.guide Log.debug "interface %s -> network %s (mac=%s)" [.text interface,
        .text (Outline.network o.machine interface), .text (addressNote address)])
      (fun _ added => added =
        [Note.record o s (.interface interface (Outline.network o.machine interface) address)])
      fun _ => False := fun address => by
    rw [addressNote_eq]
    exact say_enters room _ _ _ _
  rw [writeInterface_eq]
  refine ((lookUpAddress_enters room o away).follow fun address => (said address).then_silent
    (interfaceElement_composes (silent_composes s tree files) interface _ address)).mono ?_
      fun _ none => none
  rintro _ _ ⟨address, found, _, rfl, ⟨rfl, addressed, unaddressed⟩, rfl⟩
  cases known : Outline.addresses tree o.interfaces interface with
  | some text =>
    rw [addressed text known]
    exact ⟨[_], rfl, .addressed .nil⟩
  | none =>
    obtain ⟨why, rfl⟩ := unaddressed known
    exact ⟨[_, _], rfl, .unaddressed why .nil⟩

omit room in
theorem InterfaceNotes.append {directory : Files.Path}
    {first rest : List (String × String × Option String)} {notes more : List Note}
    (these : InterfaceNotes directory first notes) (those : InterfaceNotes directory rest more) :
    InterfaceNotes directory (first ++ rest) (notes ++ more) := by
  induction these with
  | nil => exact those
  | addressed _ ih => exact .addressed ih
  | unaddressed why _ ih => exact .unaddressed why ih

theorem interfaces_enter (o : Order) (interfaces : List String)
    (away : ∀ i ∈ interfaces, ¬tree.LeadsTo files (Network.addressPath o.interfaces i)) :
    Enters s tree files (interfaces.forM (writeInterface o))
      (fun _ added => ∃ notes, added = notes.map (Note.record o s) ∧
        InterfaceNotes o.interfaces (interfaces.map fun i => (i, Outline.network o.machine i,
          Outline.addresses tree o.interfaces i)) notes)
      fun _ => False := by
  induction interfaces with
  | nil => exact (Silent.pure ()).mono (fun _ _ none => ⟨[], none, .nil⟩) fun _ none => none
  | cons interface rest ih =>
    obtain ⟨first, others⟩ := List.forall_mem_cons.mp away
    refine ((writeInterface_enters room o first).follow fun _ => ih others).mono ?_
      fun _ none => none
    rintro _ _ ⟨_, _, _, rfl, ⟨notes, rfl, these⟩, more, rfl, those⟩
    exact ⟨notes ++ more, (List.map_append).symm, these.append those⟩

/-- The devices enter the notes about them, or those about the disks before one without a port. -/
theorem writeDevices_enters (o : Order) {ports : List Int} (given : o.ports = ports.map .int)
    (away : ∀ i ∈ o.machine.interfaces.getD [],
      ¬tree.LeadsTo files (Network.addressPath o.interfaces i)) :
    Enters s tree files (writeDevices o)
      (fun _ added => ∃ notes, added = notes.map (Note.record o s) ∧
        DeviceNotes o (o.facts ports (Outline.addresses tree o.interfaces)) notes)
      fun added => added = (diskNotes 0 o.machine.disks (o.reached ports)).map (Note.record o s) := by
  have disks := writeDisks_enters (s := s) room o given 0 o.machine.disks
  rw [← Outline.targets_eq, List.drop_zero] at disks
  refine (disks.bind fun _ =>
    (removables_enter room o _).follow fun _ => interfaces_enter room o _ away).mono ?_ ?_
  · rintro _ _ ⟨_, _, _, rfl, rfl, _, _, _, rfl, rfl, last, rfl, told⟩
    refine ⟨_, ?_, last, told, rfl⟩
    rw [List.map_append, List.map_append, List.append_assoc]
    rfl
  · rintro _ (stopped | ⟨_, _, _, _, _, none⟩)
    · exact stopped
    · exact none.elim

end

/-! ## What the document enters -/

section

variable {s : Log.Surroundings} {tree : Files.Tree} {files : List Files.Location}
  {tells stops : List Record → Prop}

theorem framed_enters (name : String) (attributes : List (String × String))
    {body : Work Memory Unit}
    (inner : Enters s tree files body (fun _ => tells) stops) :
    Enters s tree files (framed name attributes body) (fun _ => tells) stops := by
  have composes := silent_composes s tree files
  refine Silent.then_enters (startElement_composes composes name) fun _ => ?_
  refine Silent.then_enters (forM_composes composes (g := fun a => setAttribute a.1 a.2)
    fun a _ => setAttribute_composes composes a.1 a.2) fun _ => ?_
  exact inner.then_silent (endElement_composes composes)

/-- Of all that is in the root element the devices alone enter anything. -/
theorem writeMachine_enters (o : Order)
    (devices : Enters s tree files (writeDevices o) (fun _ => tells) stops) :
    Enters s tree files (writeMachine o) (fun _ => tells) stops := by
  have composes := silent_composes s tree files
  refine Silent.then_enters (singleElement_composes composes _ _) fun _ => ?_
  refine Silent.then_enters (labelled_composes composes _ _ _) fun _ => ?_
  refine Silent.then_enters (labelled_composes composes _ _ _) fun _ => ?_
  refine Silent.then_enters (singleElement_composes composes _ _) fun _ => ?_
  refine Silent.then_enters (writeProcessor_composes composes _) fun _ => ?_
  refine Silent.then_enters (writeClock_composes composes _) fun _ => ?_
  refine Silent.then_enters (systemElement_composes composes _) fun _ => ?_
  refine Silent.then_enters (writeFeatures_composes composes _) fun _ => ?_
  exact framed_enters _ _ devices

/-- The document enters what its devices do. -/
theorem write_enters (o : Order)
    (machine : Enters s tree files (writeMachine o) (fun _ => tells) stops) :
    Enters s tree files (write o) (fun _ => tells) stops := by
  have composes := silent_composes s tree files
  refine Silent.then_enters (startDocument_composes composes) fun _ => ?_
  refine Silent.then_enters (comment_composes composes _) fun _ => ?_
  refine Silent.then_enters (comment_composes composes _) fun _ => ?_
  exact (framed_enters _ _ machine).then_silent (endDocument_composes composes)

end

/-! ## The records -/

/-- What a run enters is told by what it comes to. -/
theorem records_of_enters {o : Order} {tree : Files.Tree} {journal : Log.Journal}
    {tells stops : List Record → Prop}
    (enters : Enters journal.surroundings tree journal.files (write o) (fun _ => tells) stops) :
    (∀ text, (render o tree journal).1 = .ok text → ∃ added,
      (render o tree journal).2.journal.records = journal.records ++ added ∧ tells added) ∧
    ((render o tree journal).1 = .error (.fault .missingPort) → ∃ added,
      (render o tree journal).2.journal.records = journal.records ++ added ∧ stops added) := by
  have left := enters (Writer.inMemory ⟨Memory.empty, tree, journal⟩ defaultIndent)
    ⟨rfl, rfl, .refl _ _⟩
  unfold render outcomeOf
  cases result : (write o : Work Memory Unit)
      (Writer.inMemory ⟨Memory.empty, tree, journal⟩ defaultIndent) with
  | error f w =>
    rw [result] at left
    rw [bind_of_error result]
    exact ⟨by simp, fun same => left (Except.error.inj same)⟩
  | ok u w =>
    rw [result] at left
    obtain ⟨-, added, records, told⟩ := left
    have value : Stream.value w.stream =
        if w.stream.paper.closed then .error .closedMemory else .ok w.stream.paper.text := rfl
    rw [bind_of_ok result, contents, value]
    cases w.stream.paper.closed with
    | true => exact ⟨by simp, by simp⟩
    | false => exact ⟨fun _ _ => ⟨added, records, told⟩, by simp⟩

/-- Where all integers may be written and all addresses looked up, a document is refused for want of
ports only. -/
theorem render_of_allowed {o : Order} {tree : Files.Tree} {journal : Log.Journal}
    {ports : List Int} (given : o.ports = ports.map .int)
    (short : ∀ n ∈ integersOf o.machine ++ ports, Integer.isWritable n = true)
    (reached : ∀ i ∈ o.machine.interfaces.getD [], o.Reaches i)
    (allowed : hasDoubleHyphen o.program.toList = false)
    (undisturbed : o.Undisturbed tree journal.files) :
    (render o tree journal).1 =
      if ports.length < o.machine.disks.length then .error (.fault .missingPort)
      else .ok (Outline.text o (Outline.addresses tree o.interfaces)) := by
  have answered : ∀ i ∈ o.machine.interfaces.getD [], foundFaults (o.found tree i) = [] :=
    fun i listed => foundFaults_of_reaches (reached i listed)
  rw [render_outcome undisturbed, Order.outcome, allowed, if_neg Bool.false_ne_true,
    faults_of_short given short, List.flatMap_eq_nil_iff.mpr answered, text_found answered]
  by_cases fewer : ports.length < o.machine.disks.length
  · simp [fewer]
  · simp [fewer]

theorem facts_disks (o : Order) (ports : List Int) (addressOf : String → Option String) :
    (o.facts ports addressOf).disks = o.reached ports := rfl

theorem length_reached (o : Order) (ports : List Int) :
    (o.reached ports).length = min o.machine.disks.length ports.length := by
  rw [Order.reached, List.length_zip, Outline.targets, List.length_mapIdx]

/-- **The notes of a run agree with the document.** For each disk, each removable drive and each
interface there is a note in turn, with the names, the port and the address that the document tells.
Where there are fewer ports than disks, the disks that have one are noted, and there is no
document. -/
theorem records_of_render (o : Order) (tree : Files.Tree) (journal : Log.Journal)
    (ports : List Int) (given : o.ports = ports.map .int)
    (short : ∀ n ∈ integersOf o.machine ++ ports, Integer.isWritable n = true)
    (directory : o.interfaces.hasNull = false)
    (named : ∀ i ∈ o.machine.interfaces.getD [], '\x00' ∉ i.toList)
    (encodable : ∀ i ∈ o.machine.interfaces.getD [],
      Outline.unencodable? o.letters o.interfaces i = none)
    (allowed : ¬['-', '-'] <:+: o.program.toList)
    (undisturbed : o.Undisturbed tree journal.files) :
    ∃ notes : List Note,
      (render o tree journal).2.journal.records =
        journal.records ++ notes.map (Note.record o journal.surroundings) ∧
      (∀ note ∈ notes, note.IsVoicedBy o (note.record o journal.surroundings) ∧
        (note.record o journal.surroundings).level = Log.debug) ∧
      (Integer.isWritable o.machine.disks.length = true →
        ∀ note ∈ notes, (note.record o journal.surroundings).message = .ok note.text) ∧
      (o.machine.disks.length ≤ ports.length → ∃ text facts,
        (render o tree journal).1 = .ok text ∧ decode text = some facts ∧
          DeviceNotes o facts notes ∧
          facts.disks.length = o.machine.disks.length ∧
          facts.removable = o.machine.removable.getD [] ∧
          facts.interfaces.map (·.1) = o.machine.interfaces.getD []) ∧
      (ports.length < o.machine.disks.length →
        (render o tree journal).1 = .error (.fault .missingPort) ∧
          notes = diskNotes 0 o.machine.disks (o.reached ports) ∧
          notes.length = ports.length) := by
  have single : hasDoubleHyphen o.program.toList = false := by
    rwa [← hasDoubleHyphen_iff, Bool.not_eq_true] at allowed
  have reaches : ∀ i ∈ o.machine.interfaces.getD [], o.Reaches i := fun i listed =>
    { clear := hasNull_addressPath directory (named i listed)
      encodable := by rw [← Outline.unencodable?_eq, encodable i listed] }
  have outcome := render_of_allowed given short reaches single undisturbed
  obtain ⟨said, stopped⟩ := records_of_enters (write_enters o (writeMachine_enters o
    (writeDevices_enters undisturbed.room o given undisturbed.away)))
  have reached : ∀ d ∈ o.reached ports, Integer.isWritable d.2 = true := fun d listed =>
    short d.2 (List.mem_append_right _ (List.of_mem_zip listed).2)
  have voiced : ∀ notes : List Note, ∀ note ∈ notes,
      note.IsVoicedBy o (note.record o journal.surroundings) ∧
        (note.record o journal.surroundings).level = Log.debug :=
    fun _ note _ => note.isVoicedBy_record o journal.surroundings
  by_cases enough : o.machine.disks.length ≤ ports.length
  · rw [if_neg (Nat.not_lt.mpr enough)] at outcome
    obtain ⟨_, records, notes, rfl, told⟩ := said _ outcome
    refine ⟨notes, records, voiced notes, fun counted note listed => ?_, fun _ => ?_,
      fun fewer => absurd enough (Nat.not_le.mpr fewer)⟩
    · exact Note.message_record o _ (told.isShort counted reached note listed)
    · refine ⟨_, _, outcome, ?_, told, ?_, rfl, ?_⟩
      · exact decode_text o given _ single
      · rw [facts_disks, length_reached, Nat.min_eq_left enough]
      · exact (List.map_map ..).trans (List.map_id _)
  · have fewer := Nat.not_le.mp enough
    rw [if_pos fewer] at outcome
    obtain ⟨_, records, rfl⟩ := stopped outcome
    refine ⟨_, records, voiced _, fun counted note listed => ?_, fun more => absurd more enough,
      fun _ => ⟨outcome, rfl, ?_⟩⟩
    · rw [← Nat.zero_add o.machine.disks.length] at counted
      exact Note.message_record o _ (diskNotes_isShort counted reached note listed)
    · rw [length_diskNotes, length_reached]
      omega

/-- An order for a machine with one disk more than there are ports. -/
def scantOrder : Order :=
  { smallOrder with machine := { smallOrder.machine with disks := ["/dev/sda", "/dev/sdb"] } }

/-- A run with enough ports is noted as its document tells, and one with too few up to the disk
that has none. -/
theorem records_of_smallOrder :
    (∃ notes text facts,
      (render smallOrder smallTree smallJournal).2.journal.records =
        notes.map (Note.record smallOrder smallJournal.surroundings) ∧
      (∀ note ∈ notes,
        (note.record smallOrder smallJournal.surroundings).message = .ok note.text) ∧
      (render smallOrder smallTree smallJournal).1 = .ok text ∧ decode text = some facts ∧
      DeviceNotes smallOrder facts notes) ∧
    (render scantOrder smallTree smallJournal).1 = .error (.fault .missingPort) ∧
    (render scantOrder smallTree smallJournal).2.journal.records.map Record.message =
      [.ok "disk 0: /dev/sda -> target sda (nbd port 10809)".toList] := by
  constructor
  · obtain ⟨notes, records, -, messages, documents, -⟩ :=
      records_of_render smallOrder smallTree smallJournal [10809] rfl smallOrder_short (by decide)
        (by decide) (fun i _ => Outline.unencodable?_plain _ i) smallOrder_allowed
        smallOrder_undisturbed
    obtain ⟨text, facts, rendered, told, these, -⟩ := documents (by decide)
    exact ⟨notes, text, facts, records, messages (by decide +kernel), rendered, told, these⟩
  · obtain ⟨notes, records, -, messages, -, stopped⟩ :=
      records_of_render scantOrder smallTree smallJournal [10809] rfl smallOrder_short (by decide)
        (by decide) (fun i _ => Outline.unencodable?_plain _ i) smallOrder_allowed
        (scantOrder.undisturbed_fresh smallTree _)
    obtain ⟨failed, noted, -⟩ := stopped (by decide)
    have told : notes.map (Record.message ∘ Note.record scantOrder smallJournal.surroundings) =
        (notes.map Note.text).map .ok := by
      rw [List.map_map]
      exact List.map_congr_left (messages (by decide +kernel))
    have texts : (diskNotes 0 scantOrder.machine.disks (scantOrder.reached [10809])).map Note.text =
        ["disk 0: /dev/sda -> target sda (nbd port 10809)".toList] := by
      decide +kernel
    refine ⟨failed, ?_⟩
    rw [records, List.map_append, List.map_map, told, noted, texts]
    rfl

end MachineDescriptor.Document
