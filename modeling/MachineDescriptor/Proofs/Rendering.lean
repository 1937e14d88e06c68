import MachineDescriptor.Document.Saving
import MachineDescriptor.Proofs.Documents
import MachineDescriptor.Proofs.Overlays

/-!
The document as a text. A document is refused for the name of its program, for a disk without a port,
or for an interface whose path cannot be encoded, and else its text is that of the outline.
-/
namespace MachineDescriptor.Document

open Xml

/-! ## Addresses -/

theorem mem_of_mem_splitAfter {separator c : Char} {begun cs part : List Char}
    (listed : part ∈ Text.splitAfter separator begun cs) (inside : c ∈ part) :
    c ∈ begun ∨ c ∈ cs := by
  induction cs generalizing begun with
  | nil =>
    obtain rfl : part = begun.reverse := by simpa [Text.splitAfter] using listed
    exact .inl (List.mem_reverse.mp inside)
  | cons d rest ih =>
    simp only [Text.splitAfter] at listed
    split at listed
    · rcases List.mem_cons.mp listed with rfl | later
      · exact .inl (List.mem_reverse.mp inside)
      · rcases ih later with none | here
        · cases none
        · exact .inr (List.mem_cons_of_mem d here)
    · rcases ih listed with here | here
      · rcases List.mem_cons.mp here with rfl | here
        · exact .inr List.mem_cons_self
        · exact .inl here
      · exact .inr (List.mem_cons_of_mem d here)

theorem hasNull_ofString {s : String} (h : '\x00' ∉ s.toList) :
    (Files.Path.ofString s).hasNull = false := by
  rw [Files.Path.hasNull, List.any_eq_false]
  intro name listed
  obtain ⟨part, kept, rfl⟩ := List.mem_map.mp listed
  have split := (List.mem_filter.mp kept).1
  intro null
  rw [String.toList_ofList, List.contains_iff_mem] at null
  rcases mem_of_mem_splitAfter split null with none | inside
  · cases none
  · exact h inside

theorem hasNull_join {p q : Files.Path} (hp : p.hasNull = false) (hq : q.hasNull = false) :
    (p.join q).hasNull = false := by
  unfold Files.Path.join
  split
  · simp only [Files.Path.hasNull, List.any_append, Bool.or_eq_false_iff] at hp hq ⊢
    exact ⟨hp, hq⟩
  · exact hq

theorem hasNull_addressPath {directory : Files.Path} {interface : String}
    (clear : directory.hasNull = false) (named : '\x00' ∉ interface.toList) :
    (Network.addressPath directory interface).hasNull = false :=
  hasNull_join (hasNull_join clear (hasNull_ofString named)) (by decide)

/-- Whether the path to the address of an interface may be looked up: there is no null character in
it, and it can be encoded. -/
structure Order.Reaches (o : Order) (interface : String) : Prop where
  clear : (Network.addressPath o.interfaces interface).hasNull = false
  encodable : Network.unencodable? o.letters o.interfaces interface = none

/-- The address of an interface is found out or is missing when its path may be looked up. -/
theorem foundFaults_of_reaches {o : Order} {tree : Files.Tree} {interface : String}
    (reaches : o.Reaches interface) : foundFaults (o.found tree interface) = [] := by
  simp only [Order.found, Network.lookUp, reaches.encodable, Network.findAddress, reaches.clear,
    Bool.false_eq_true, if_false]
  cases tree.read (Network.addressPath o.interfaces interface) <;> rfl

theorem found_of_overlays {files : List Files.Location} {tree tree' : Files.Tree}
    (overlays : tree.Overlays files tree') (room : tree.HasRoom files) {o : Order}
    {interface : String}
    (away : ¬tree.LeadsTo files (Network.addressPath o.interfaces interface)) :
    o.found tree' interface = o.found tree interface := by
  simp only [Order.found, Network.lookUp, Network.findAddress]
  split
  · split
    · rfl
    rcases Files.Tree.read_of_overlays overlays room away with
      ⟨bytes, read, read'⟩ | ⟨⟨r, read⟩, r', read'⟩
    · rw [read, read']
    · rw [read, read']
      rfl
  · rfl

/-- Nothing but files is where a document and its log files are written, and no address stands
there. -/
structure Order.Undisturbed (o : Order) (tree : Files.Tree) (files : List Files.Location) :
    Prop where
  room : tree.HasRoom files
  away : ∀ i ∈ o.machine.interfaces.getD [],
    ¬tree.LeadsTo files (Network.addressPath o.interfaces i)

/-- A journal that was not set up disturbs nothing. -/
theorem Order.undisturbed_fresh (o : Order) (tree : Files.Tree) (s : Log.Surroundings) :
    o.Undisturbed tree (Log.Journal.fresh s).files where
  room _ listed := by cases listed
  away := by
    rintro _ _ ⟨_, _, listed⟩
    cases listed

theorem sees_of_undisturbed {κ : Type} {paper : κ × Files.Tree → String → Prop} {o : Order}
    {tree : Files.Tree} {files : List Files.Location} (undisturbed : o.Undisturbed tree files)
    (overlays : ∀ p tree' t, paper (p, tree') t → tree.Overlays files tree') :
    Sees paper o (o.found tree) :=
  fun i listed p tree' t held =>
    found_of_overlays (overlays p tree' t held) undisturbed.room (undisturbed.away i listed)

/-! ## Paper in memory -/

/-- The text in memory, and a tree that only log files are written in. -/
def OnMemory (tree : Files.Tree) (files : List Files.Location) (m : Memory × Files.Tree)
    (t : String) : Prop :=
  m.1.Holds t ∧ tree.Overlays files m.2

theorem OnMemory.faithful (tree : Files.Tree) (files : List Files.Location) :
    Faithful (OnMemory tree files) where
  write := by
    rintro ⟨m, tree'⟩ t ⟨held, overlays⟩ u
    obtain ⟨m', put, held'⟩ := Memory.faithful.write held u
    refine ⟨(m', tree'), ?_, held', overlays⟩
    simp only [Stream.write, besideTree] at put ⊢
    rw [put]
  flush := by
    rintro ⟨m, tree'⟩ t ⟨held, overlays⟩
    obtain ⟨m', flushed, held'⟩ := Memory.faithful.flush held
    refine ⟨(m', tree'), ?_, held', overlays⟩
    simp only [Stream.flush, besideTree] at flushed ⊢
    rw [flushed]

theorem OnMemory.bears {tree : Files.Tree} {files : List Files.Location}
    (room : tree.HasRoom files) (m : Memory) (t : String) :
    Log.Journal.Bears (fun tree' => OnMemory tree files (m, tree') t) files :=
  fun _ listed _ _ held => ⟨held.1, held.2.set (room.ne_nil listed) listed _⟩

/-! ## The text -/

theorem contents_ended {nodes : List Xml.Node} {tree : Files.Tree} {files : List Files.Location}
    {d : Desk Memory}
    (held : Desk.Holds (OnMemory tree files) d ((Scaffold.ended nodes).text defaultIndent)) :
    contents ((Scaffold.ended nodes).writer defaultIndent none d) =
      .ok (declaration ++ Node.renderAll defaultIndent 0 nodes)
        ((Scaffold.ended nodes).writer defaultIndent none d) := by
  have value := Memory.value_of_holds held.1.1
  have deskValue : Stream.value d = .ok ((Scaffold.ended nodes).text defaultIndent) := value
  simp only [contents, Scaffold.writer, deskValue]
  rfl

/-- What becomes of a document, as far as the machine, the ports and the addresses tell. -/
def Order.outcome (o : Order) (path : Option String) (found : String → Found) :
    Except Failure String :=
  if hasDoubleHyphen o.program.toList then .error (.report (bannerReport path))
  else
    match o.faults found with
    | [] => .ok (Outline.text o fun i => (found i).address)
    | f :: _ => .error (.fault f)

/-- A document comes to its outcome whichever faults there are. -/
theorem render_outcome {o : Order} {tree : Files.Tree} {journal : Log.Journal}
    (undisturbed : o.Undisturbed tree journal.files) :
    (render o tree journal).1 = o.outcome none (o.found tree) := by
  have faithful := OnMemory.faithful tree journal.files
  have held : Desk.Holds (OnMemory tree journal.files) ⟨Memory.empty, tree, journal⟩ "" :=
    ⟨⟨Memory.empty_holds, .refl _ _⟩, fun m t => OnMemory.bears undisturbed.room m t⟩
  have sees : Sees (OnMemory tree journal.files) o (o.found tree) :=
    sees_of_undisturbed undisturbed fun _ _ _ held => held.2
  unfold render outcomeOf Order.outcome
  cases allowed : hasDoubleHyphen o.program.toList with
  | true =>
    obtain ⟨w, failed, -⟩ := write_of_refused defaultIndent none faithful o allowed held
    rw [Writer.inMemory, bind_of_error failed]
    rfl
  | false =>
    have comes := write_comes defaultIndent none faithful o sees allowed held
    cases faults : o.faults (o.found tree) with
    | nil =>
      rw [faults] at comes
      obtain ⟨d, done, held'⟩ := comes
      rw [Writer.inMemory, bind_of_ok done, contents_ended held']
      rfl
    | cons f rest =>
      rw [faults] at comes
      obtain ⟨w, t, failed, -⟩ := comes
      rw [Writer.inMemory, bind_of_error failed]
      rfl

/-- Where no fault is met, every address is found out or is missing. -/
theorem answered_of_faultless {o : Order} {found : String → Found} (faultless : o.faults found = []) :
    ∀ i ∈ o.machine.interfaces.getD [], foundFaults (found i) = [] := by
  simp only [Order.faults, List.append_eq_nil_iff] at faultless
  exact List.flatMap_eq_nil_iff.mp faultless.2.2.2.2.2.2

/-- The addresses that are found out are those in the outline. -/
theorem text_found {o : Order} {tree : Files.Tree}
    (answered : ∀ i ∈ o.machine.interfaces.getD [], foundFaults (o.found tree i) = []) :
    (Outline.text o fun i => (o.found tree i).address) =
      Outline.text o (Outline.addresses tree o.interfaces) :=
  Outline.text_congr fun i listed => Order.address_found (answered i listed)

/-- A text that is rendered is that of the outline. -/
theorem text_of_rendered {o : Order} {tree : Files.Tree} {journal : Log.Journal} {text : String}
    (undisturbed : o.Undisturbed tree journal.files)
    (rendered : (render o tree journal).1 = .ok text) :
    hasDoubleHyphen o.program.toList = false ∧
      text = Outline.text o (Outline.addresses tree o.interfaces) := by
  rw [render_outcome undisturbed, Order.outcome] at rendered
  cases allowed : hasDoubleHyphen o.program.toList with
  | true =>
    rw [allowed, if_pos rfl] at rendered
    cases rendered
  | false =>
    rw [allowed, if_neg Bool.false_ne_true] at rendered
    cases faults : o.faults (o.found tree) with
    | nil =>
      simp only [faults, text_found (answered_of_faultless faults)] at rendered
      exact ⟨rfl, (Except.ok.inj rendered).symm⟩
    | cons f rest =>
      simp only [faults] at rendered
      cases rendered

/-- The integers that the description of a machine holds. -/
def integersOf (m : Machine) : List Int :=
  [m.memory, m.processors, m.processor.sockets, m.processor.cores, m.processor.threads,
    m.clock.offset]

theorem unwritable_of_short {n : Int} (short : Integer.isWritable n = true) :
    unwritable (.int n) = [] := unwritable_of_isWritable short

theorem portFaults_of_short (disks : List String) {ports : List Int}
    (short : ∀ n ∈ ports, Integer.isWritable n = true) :
    portFaults disks (ports.map .int) =
      if ports.length < disks.length then [.missingPort] else [] := by
  induction disks generalizing ports with
  | nil => simp [portFaults]
  | cons disk rest ih =>
    cases ports with
    | nil => simp [portFaults]
    | cons port ports =>
      obtain ⟨first, others⟩ := List.forall_mem_cons.mp short
      rw [List.map_cons, portFaults, unwritable_of_short first, List.nil_append, ih others]
      simp only [List.length_cons, Nat.add_lt_add_iff_right]

/-- When every integer may be written, a missing port is the first fault, and otherwise only the
interfaces meet any. -/
theorem faults_of_short {o : Order} {found : String → Found} {ports : List Int}
    (given : o.ports = ports.map .int)
    (short : ∀ n ∈ integersOf o.machine ++ ports, Integer.isWritable n = true) :
    o.faults found = (if ports.length < o.machine.disks.length then [.missingPort] else []) ++
      (o.machine.interfaces.getD []).flatMap fun i => foundFaults (found i) := by
  have own : ∀ n ∈ integersOf o.machine, unwritable (.int n) = [] := fun n listed =>
    unwritable_of_short (short n (List.mem_append_left ports listed))
  have memory : Integer.isWritable (o.machine.memory / 1024) = true :=
    Integer.isWritable_of_natAbs_le (by omega) (short o.machine.memory (by simp [integersOf]))
  have processor : processorFaults o.machine.processor = [] := by
    rw [processorFaults, own _ (by simp [integersOf]), own _ (by simp [integersOf]),
      own _ (by simp [integersOf])]
    rfl
  have clock : clockFaults o.machine.clock = [] := by
    unfold clockFaults
    split
    · exact own _ (by simp [integersOf])
    · rfl
  have ports := portFaults_of_short o.machine.disks fun n (listed : n ∈ ports) =>
    short n (List.mem_append_right _ listed)
  rw [Order.faults, unwritable_of_short memory, own _ (by simp [integersOf]), processor, clock,
    given, ports]
  simp only [List.nil_append]

/-- The surrogate codes that cannot be encoded in the first of the interfaces' paths that has any. -/
def Order.unencodable? (o : Order) : Option Text.Unencodable :=
  (o.machine.interfaces.getD []).findSome? (Outline.unencodable? o.letters o.interfaces)

/-- Of interfaces without null characters in their paths, only those meet a fault whose paths cannot
be encoded. -/
theorem found_of_clear {o : Order} {tree : Files.Tree} {interfaces : List String}
    (clear : ∀ i ∈ interfaces, (Network.addressPath o.interfaces i).hasNull = false) :
    (interfaces.flatMap fun i => foundFaults (o.found tree i)).head? =
      (interfaces.findSome? (Outline.unencodable? o.letters o.interfaces)).map .unencodable := by
  induction interfaces with
  | nil => rfl
  | cons i rest ih =>
    obtain ⟨first, others⟩ := List.forall_mem_cons.mp clear
    rw [List.flatMap_cons, List.findSome?_cons, Outline.unencodable?_eq]
    cases encodable : Network.unencodable? o.letters o.interfaces i with
    | none =>
      rw [foundFaults_of_reaches ⟨first, encodable⟩]
      exact ih others
    | some codes =>
      rw [Order.found, Network.lookUp, encodable]
      rfl

/-- **A document is refused for two hyphens in the name of its program, else for a disk without a
port, else for an interface whose path cannot be encoded, and else it is the text of its outline.** -/
theorem render_cases (o : Order) (tree : Files.Tree) (journal : Log.Journal) (ports : List Int)
    (given : o.ports = ports.map .int)
    (short : ∀ n ∈ integersOf o.machine ++ ports, Integer.isWritable n = true)
    (directory : o.interfaces.hasNull = false)
    (named : ∀ i ∈ o.machine.interfaces.getD [], '\x00' ∉ i.toList)
    (undisturbed : o.Undisturbed tree journal.files) :
    (['-', '-'] <:+: o.program.toList →
      (render o tree journal).1 = .error (.report (bannerReport none))) ∧
    (¬['-', '-'] <:+: o.program.toList → ports.length < o.machine.disks.length →
      (render o tree journal).1 = .error (.fault .missingPort)) ∧
    (¬['-', '-'] <:+: o.program.toList → o.machine.disks.length ≤ ports.length →
      (render o tree journal).1 =
        match o.unencodable? with
        | some codes => .error (.fault (.unencodable codes))
        | none => .ok (Outline.text o (Outline.addresses tree o.interfaces))) := by
  have faults : o.faults (o.found tree) = _ := faults_of_short given short
  have first : ((o.machine.interfaces.getD []).flatMap fun i => foundFaults (o.found tree i)).head? =
      o.unencodable?.map Fault.unencodable :=
    found_of_clear fun i listed => hasNull_addressPath directory (named i listed)
  rw [render_outcome undisturbed, Order.outcome, faults, ← hasDoubleHyphen_iff]
  refine ⟨fun refused => ?_, fun allowed fewer => ?_, fun allowed enough => ?_⟩
  · rw [if_pos refused]
  · rw [if_neg allowed, if_pos fewer]
    rfl
  · rw [if_neg allowed, if_neg (Nat.not_lt.mpr enough), List.nil_append]
    cases unencodable : o.unencodable? with
    | none =>
      rw [unencodable] at first
      have none := List.head?_eq_none_iff.mp first
      rw [none, text_found (List.flatMap_eq_nil_iff.mp none)]
    | some codes =>
      rw [unencodable] at first
      obtain ⟨rest, faults⟩ := List.head?_eq_some_iff.mp first
      rw [faults]

/-- An order for a machine with a disk, a removable drive and an interface. -/
def smallOrder : Order where
  machine :=
    { name := "db <1> & co"
      memory := 2147483649
      processors := 2
      processor := ⟨some "", none, 1, 0, 2, true, false, true⟩
      clock := ⟨.utc, -3600⟩
      disks := ["/dev/sda"]
      removable := some ["cd0"]
      interfaces := some ["eth0"]
      networkRules := some ["eth0:lan"] }
  ports := [.int 10809]
  architecture := "x86_64"
  program := "phys-2-kvm"
  interfaces := ⟨.root, ["net"]⟩
  speaker := documentLogger

/-- A tree with the address of the interface. -/
def smallTree : Files.Tree where
  entries := [(["net"], .directory), (["net", "eth0"], .directory),
    (["net", "eth0", "address"], .file [0x30, 0x30, 0x3a, 0x31, 0x36, 0x0a]),
    (["out"], .directory)]
  current := []
  mayRemove := true

/-- A journal that was not set up. -/
def smallJournal : Log.Journal := .fresh ⟨1, 0, "physical_xml", 1, false, false⟩

theorem smallOrder_short :
    ∀ n ∈ integersOf smallOrder.machine ++ [10809], Integer.isWritable n = true := by
  decide +kernel

theorem smallOrder_undisturbed : smallOrder.Undisturbed smallTree smallJournal.files :=
  smallOrder.undisturbed_fresh smallTree _

theorem smallOrder_reaches : ∀ i ∈ smallOrder.machine.interfaces.getD [], smallOrder.Reaches i := by
  intro i listed
  obtain rfl : i = "eth0" := by simpa [smallOrder] using listed
  exact ⟨by decide, Network.unencodable?_plain _ _⟩

theorem faults_smallOrder : smallOrder.faults (smallOrder.found smallTree) = [] := by
  rw [faults_of_short rfl smallOrder_short,
    List.flatMap_eq_nil_iff.mpr fun i listed => foundFaults_of_reaches (smallOrder_reaches i listed)]
  rfl

theorem outcome_smallOrder :
    smallOrder.outcome none (smallOrder.found smallTree) =
      .ok (Outline.text smallOrder (Outline.addresses smallTree smallOrder.interfaces)) := by
  have allowed : hasDoubleHyphen smallOrder.program.toList = false := by decide
  rw [Order.outcome, allowed, if_neg Bool.false_ne_true, faults_smallOrder,
    text_found (answered_of_faultless faults_smallOrder)]

theorem smallOrder_allowed : ¬['-', '-'] <:+: smallOrder.program.toList := by
  rw [← hasDoubleHyphen_iff]
  decide

/-- The order for a machine with an interface whose name is a surrogate code. -/
def strayOrder : Order :=
  { smallOrder with
    machine := { smallOrder.machine with
      interfaces := some [String.singleton (Text.Letters.first.letter 0xd800)] }
    letters := .first }

/-- The small order has its document, and the one for a stray interface is refused. -/
theorem render_smallOrder :
    (render smallOrder smallTree smallJournal).1 =
        .ok (Outline.text smallOrder (Outline.addresses smallTree smallOrder.interfaces)) ∧
      (render strayOrder smallTree smallJournal).1 =
        .error (.fault (.unencodable ⟨5, 0xd800, 0⟩)) := by
  obtain ⟨-, -, rendered⟩ := render_cases smallOrder smallTree smallJournal [10809] rfl
    smallOrder_short (by decide) (by decide) smallOrder_undisturbed
  obtain ⟨-, -, refused⟩ := render_cases strayOrder smallTree smallJournal [10809] rfl
    smallOrder_short (by decide) (by decide) (strayOrder.undisturbed_fresh smallTree _)
  have plain : smallOrder.unencodable? = none := by decide +kernel
  have stray : strayOrder.unencodable? = some ⟨5, 0xd800, 0⟩ := by decide +kernel
  rw [plain] at rendered
  rw [stray] at refused
  exact ⟨rendered smallOrder_allowed (by decide), refused smallOrder_allowed (by decide)⟩

end MachineDescriptor.Document
