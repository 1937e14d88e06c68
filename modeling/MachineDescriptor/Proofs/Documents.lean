import MachineDescriptor.Proofs.Agreement
import MachineDescriptor.Proofs.Comments
import MachineDescriptor.Proofs.Journals
import MachineDescriptor.Proofs.Sections

/-!
The document about a machine as its sections put it together. Whatever the document is written on,
it comes to the nodes of its outline, unless it meets a fault; the faults are told from the machine,
the ports and the addresses alone, in the order in which they are met.
-/
namespace MachineDescriptor.Document

open Xml
open Outline (plainText plainText_text)

/-! ## Faults -/

/-- The faults over the ports of disks; the first disk without a port ends the list. -/
def portFaults : List String → List Value → List Fault
  | [], _ => []
  | _ :: _, [] => [.missingPort]
  | _ :: disks, port :: ports => unwritable port ++ portFaults disks ports

def processorFaults (p : Processor) : List Fault :=
  unwritable (.int p.sockets) ++ unwritable (.int p.cores) ++ unwritable (.int p.threads)

def clockFaults (c : Clock) : List Fault :=
  if c.basis = .utc then unwritable (.int c.offset) else []

/-- What is found out about the address of an interface. -/
abbrev Found := Except Fault (Option String)

def foundIn (tree : Files.Tree) (directory : Files.Path) (interface : String) : Found :=
  (Network.findAddress tree directory interface).map fun finding =>
    finding.address?.map String.ofList

/-- What is found out about the address of an interface of an order. -/
def Order.found (o : Order) (tree : Files.Tree) (interface : String) : Found :=
  (Network.lookUp o.letters tree o.interfaces interface).map fun finding =>
    finding.address?.map String.ofList

theorem Order.found_of_plain {o : Order} (plain : o.letters = .plain) (tree : Files.Tree) :
    o.found tree = foundIn tree o.interfaces := by
  funext interface
  rw [Order.found, Network.lookUp, plain, Network.unencodable?_plain, foundIn]

def foundFaults : Found → List Fault
  | .ok _ => []
  | .error f => [f]

/-- The faults that a document meets, in their order; the memory is written twice. -/
def Order.faults (o : Order) (found : String → Found) : List Fault :=
  unwritable (.int (o.machine.memory / 1024)) ++ (unwritable (.int (o.machine.memory / 1024)) ++
    (unwritable (.int o.machine.processors) ++ (processorFaults o.machine.processor ++
      (clockFaults o.machine.clock ++ (portFaults o.machine.disks o.ports ++
        (o.machine.interfaces.getD []).flatMap fun i => foundFaults (found i))))))

/-! ## The desk -/

variable {κ : Type}

/-- The paper of a desk holds a text, whatever the journal puts in its log files. -/
def Desk.Holds (paper : κ × Files.Tree → String → Prop) (d : Desk κ) (t : String) : Prop :=
  paper (d.paper, d.tree) t ∧
    ∀ p t, Log.Journal.Bears (fun tree => paper (p, tree) t) d.journal.files

variable {paper : κ × Files.Tree → String → Prop} {indent : String} {path : Option String}

theorem say_lays (speaker : Log.Speaker) (level : Log.Level) (template : String)
    (arguments : List Value) :
    Lays (Desk.Holds paper) indent path (say speaker level template arguments) [] [] := by
  intro closed d outer ns stream room held
  have spares := Log.Journal.say_spares (p := (stream.journal, stream.tree))
    (held.2 stream.paper _) speaker level template arguments none held.1
  refine ⟨{ stream with
    journal := (Log.Journal.say speaker level template arguments none
      (stream.journal, stream.tree)).1
    tree := (Log.Journal.say speaker level template arguments none
      (stream.journal, stream.tree)).2 }, rfl, spares.2, ?_⟩
  rw [Log.Journal.files_of_spares spares]
  exact held.2

/-! ## Texts as values -/

theorem texts_faults (attributes : List (String × String)) :
    ((attributes.map fun a => (a.1, Value.text a.2)).flatMap fun a => unwritable a.2) = [] := by
  induction attributes with
  | nil => rfl
  | cons a rest ih => rw [List.map_cons, List.flatMap_cons, ih, unwritable_text, List.nil_append]

theorem texts_plain (attributes : List (String × String)) :
    ((attributes.map fun a => (a.1, Value.text a.2)).map fun a => (a.1, plainText a.2)) =
      attributes := by
  rw [List.map_map]
  simp only [Function.comp_def, plainText_text, List.map_id']

theorem texts_named {attributes : List (String × String)}
    (named : ∀ a ∈ attributes, isName a.1.toList = true) :
    ∀ a ∈ attributes.map fun a => (a.1, Value.text a.2), isName a.1.toList = true := by
  intro a member
  obtain ⟨b, given, rfl⟩ := List.mem_map.mp member
  exact named b given

variable [Stream (κ × Files.Tree)]

theorem Desk.faithful (faithful : Faithful paper) : Faithful (Desk.Holds paper) where
  write := by
    rintro d t ⟨held, bears⟩ u
    obtain ⟨⟨paper', tree'⟩, put, held'⟩ := faithful.write held u
    refine ⟨{ d with paper := paper', tree := tree' }, ?_, held', bears⟩
    simp only [Stream.write, Desk.onPaper] at put ⊢
    rw [put]
  flush := by
    rintro d t ⟨held, bears⟩
    obtain ⟨⟨paper', tree'⟩, flushed, held'⟩ := faithful.flush held
    refine ⟨{ d with paper := paper', tree := tree' }, ?_, held', bears⟩
    simp only [Stream.flush, Desk.onPaper] at flushed ⊢
    rw [flushed]

/-! ## Elements -/

theorem framed_lays (faithful : Faithful paper) {name : String}
    {attributes : List (String × String)} {body : Work κ Unit} {faults : List Fault}
    {nodes : List Xml.Node} (proper : isName name.toList = true)
    (named : ∀ a ∈ attributes, isName a.1.toList = true)
    (lays : Lays (Desk.Holds paper) indent path body faults nodes) :
    Lays (Desk.Holds paper) indent path (framed name attributes body) faults
      [.frame name attributes nodes] := by
  have h := element_lays (Desk.faithful faithful) proper (texts_named named) lays.fills
  rw [texts_faults, texts_plain, List.append_nil, Node.frame_eq] at h
  exact h

theorem labelled_lays (faithful : Faithful paper) {name : String}
    {attributes : List (String × String)} (v : Value) (proper : isName name.toList = true)
    (named : ∀ a ∈ attributes, isName a.1.toList = true) :
    Lays (Desk.Holds paper) indent path (labelled name attributes v) (unwritable v)
      [.labelled name attributes (plainText v)] := by
  have h : Lays (Desk.Holds paper) indent path (labelled name attributes v) _ _ :=
    element_lays (Desk.faithful faithful) proper (texts_named named)
      (text_fills (Desk.faithful faithful) v)
  rw [texts_faults, texts_plain, List.append_nil] at h
  exact h

theorem singleElement_lays (faithful : Faithful paper) {name : String} (v : Value)
    (proper : isName name.toList = true) :
    Lays (Desk.Holds paper) indent path (singleElement name v) (unwritable v)
      [.labelled name [] (plainText v)] := by
  have same : (singleElement name v : Work κ Unit) = labelled name [] v := by
    simp [singleElement, labelled, element]
  rw [same]
  exact labelled_lays faithful v proper (by simp)

theorem emptyElement_lays (faithful : Faithful paper) {name : String}
    {attributes : List (String × Value)} (proper : isName name.toList = true)
    (named : ∀ a ∈ attributes, isName a.1.toList = true) :
    Lays (Desk.Holds paper) indent path (emptyElement name attributes)
      (attributes.flatMap fun a => unwritable a.2)
      [.bare name (attributes.map fun a => (a.1, plainText a.2))] := by
  have h : Lays (Desk.Holds paper) indent path (emptyElement name attributes) _ _ :=
    element_lays (Desk.faithful faithful) proper named Fills.pure
  rw [List.append_nil, List.append_nil] at h
  exact h

theorem bare_lays (faithful : Faithful paper) {name : String}
    {attributes : List (String × String)} (proper : isName name.toList = true)
    (named : ∀ a ∈ attributes, isName a.1.toList = true) :
    Lays (Desk.Holds paper) indent path (bare name attributes) [] [.bare name attributes] := by
  have h : Lays (Desk.Holds paper) indent path (bare name attributes) _ _ :=
    emptyElement_lays faithful proper (texts_named named)
  rw [texts_faults, texts_plain] at h
  exact h

/-! ## Sections of the machine -/

omit [Xml.Stream (κ × Files.Tree)] in
theorem ifGiven_lays {name : String} {attributes : List (String × String)}
    {write : String → Work κ Unit}
    (lays : ∀ s, Lays (Desk.Holds paper) indent path (write s) [] [.labelled name attributes s])
    (given : Option String) :
    Lays (Desk.Holds paper) indent path (ifGiven given write) []
      (Outline.given name attributes given) := by
  cases given with
  | none => exact Lays.pure
  | some s => exact lays s

theorem unwritable_zero : unwritable (.int 0) = [] := by
  have writable : Integer.isWritable 0 = true := by
    rw [Integer.isWritable, decide_eq_true_eq, Nat.pow_eq]
    exact Nat.pow_pos (by omega)
  exact unwritable_of_isWritable writable

theorem processorFaults_of_not_hasTopology {p : Processor} (h : p.hasTopology = false) :
    processorFaults p = [] := by
  obtain ⟨⟨sockets, cores⟩, threads⟩ : (p.sockets = 0 ∧ p.cores = 0) ∧ p.threads = 0 := by
    simpa [Processor.hasTopology] using h
  rw [processorFaults, sockets, cores, threads, unwritable_zero]
  rfl

theorem count_fills (faithful : Faithful paper) {name : String}
    (proper : isName name.toList = true) (n : Int) :
    Fills (Desk.Holds paper) indent path (count name n) (unwritable (.int n))
      (Outline.counted name n) .nothing := by
  by_cases zero : n = 0
  · subst zero
    rw [unwritable_zero]
    exact Fills.pure
  · rw [count, if_neg zero, Outline.counted, if_neg zero]
    rw [← Outline.plainText_int]
    exact setAttribute_fills (Desk.faithful faithful) proper (.int n)

theorem topology_lays (faithful : Faithful paper) (p : Processor) :
    Lays (Desk.Holds paper) indent path
      (if p.hasTopology then
        framed "topology" [] do
          count "sockets" p.sockets
          count "cores" p.cores
          count "threads" p.threads
      else pure ())
      (processorFaults p) (Outline.topology p) := by
  cases known : p.hasTopology with
  | false =>
    rw [processorFaults_of_not_hasTopology known, Outline.topology,
      if_pos ((Outline.hasTopology_iff p).mp known)]
    exact Lays.pure
  | true =>
    have sockets : Fills (Desk.Holds paper) indent path (count "sockets" p.sockets) _ _ _ :=
      count_fills faithful (by decide) p.sockets
    have cores : Fills (Desk.Holds paper) indent path (count "cores" p.cores) _ _ _ :=
      count_fills faithful (by decide) p.cores
    have threads : Fills (Desk.Holds paper) indent path (count "threads" p.threads) _ _ _ :=
      count_fills faithful (by decide) p.threads
    have body := sockets.bind (cores.bind threads)
    rw [← List.append_assoc, ← List.append_assoc] at body
    have counted : ¬(p.sockets = 0 ∧ p.cores = 0 ∧ p.threads = 0) := fun none => by
      rw [(Outline.hasTopology_iff p).mpr none] at known
      cases known
    rw [Outline.topology, if_neg counted]
    exact element_lays (Desk.faithful faithful) (by decide) (by simp) body

theorem writeProcessor_lays (faithful : Faithful paper) (p : Processor) :
    Lays (Desk.Holds paper) indent path (writeProcessor p) (processorFaults p)
      (Outline.processor p) := by
  unfold writeProcessor Outline.processor
  cases known : p.isKnown with
  | false =>
    have noTopology : p.hasTopology = false := by
      simp only [Processor.isKnown, Bool.or_eq_false_iff] at known
      exact known.2
    rw [processorFaults_of_not_hasTopology noTopology, if_pos ((Outline.isKnown_iff p).mp known)]
    exact Lays.pure
  | true =>
    have vendor : Lays (Desk.Holds paper) indent path
        (ifGiven p.vendor fun vendor => singleElement "vendor" (.text vendor)) []
        (Outline.given "vendor" [] p.vendor) :=
      ifGiven_lays (fun s => by
        have laid : Lays (Desk.Holds paper) indent path (singleElement "vendor" (.text s)) _ _ :=
          singleElement_lays faithful _ (by decide)
        simpa using laid) p.vendor
    have model : Lays (Desk.Holds paper) indent path
        (ifGiven p.model fun model => labelled "model" [("fallback", "allow")] (.text model)) []
        (Outline.given "model" [("fallback", "allow")] p.model) :=
      ifGiven_lays (fun s => by
        have laid : Lays (Desk.Holds paper) indent path
            (labelled "model" [("fallback", "allow")] (.text s)) _ _ :=
          labelled_lays faithful _ (by decide) (by decide)
        simpa using laid) p.model
    have body := vendor.bind (model.bind (topology_lays faithful p))
    rw [← List.append_assoc (Outline.given "vendor" [] p.vendor)] at body
    have something : ¬(p.vendor = none ∧ p.model = none ∧ p.sockets = 0 ∧ p.cores = 0 ∧
        p.threads = 0) := fun none => by
      rw [(Outline.isKnown_iff p).mpr none] at known
      cases known
    rw [if_neg something]
    exact framed_lays faithful (by decide) (by decide) body

theorem writeClock_lays (faithful : Faithful paper) (c : Clock) :
    Lays (Desk.Holds paper) indent path (writeClock c) (clockFaults c) (Outline.clock c) := by
  obtain ⟨basis, offset⟩ := c
  cases basis with
  | unknown => exact Lays.pure
  | localtime => exact bare_lays faithful (by decide) (by decide)
  | utc =>
    by_cases zero : offset = 0
    · subst zero
      rw [clockFaults, if_pos rfl, unwritable_zero]
      exact bare_lays faithful (by decide) (by decide)
    · have named : ∀ a ∈ [("offset", Value.text "variable"), ("basis", .text "utc"),
          ("adjustment", .int offset)], isName a.1.toList = true := by
        simp only [List.forall_mem_cons]
        exact ⟨by decide, by decide, by decide, by simp⟩
      have laid : Lays (Desk.Holds paper) indent path (emptyElement "clock" _) _ _ :=
        emptyElement_lays faithful (by decide) named
      simpa [writeClock, zero, clockFaults, Outline.clock] using laid

theorem writeFeatures_lays (faithful : Faithful paper) (p : Processor) :
    Lays (Desk.Holds paper) indent path (writeFeatures p) [] [Outline.features p] := by
  obtain ⟨_, _, _, _, _, acpi, apic, pae⟩ := p
  have acpiLaid : Lays (Desk.Holds paper) indent path (bare "acpi" []) [] [.bare "acpi" []] :=
    bare_lays faithful (by decide) (by simp)
  have apicLaid : Lays (Desk.Holds paper) indent path (bare "apic" []) [] [.bare "apic" []] :=
    bare_lays faithful (by decide) (by simp)
  have paeLaid : Lays (Desk.Holds paper) indent path (bare "pae" []) [] [.bare "pae" []] :=
    bare_lays faithful (by decide) (by simp)
  apply framed_lays faithful (by decide) (by simp)
  cases acpi <;> cases apic <;> cases pae
  · exact Lays.pure
  · exact paeLaid
  · exact apicLaid.bind Lays.pure
  · exact apicLaid.bind paeLaid
  · exact acpiLaid.bind Lays.pure
  · exact acpiLaid.bind paeLaid
  · exact acpiLaid.bind (apicLaid.bind Lays.pure)
  · exact acpiLaid.bind (apicLaid.bind paeLaid)

/-! ## Devices -/

theorem driver_lays (faithful : Faithful paper) :
    Lays (Desk.Holds paper) indent path (bare "driver" [("name", "qemu"), ("type", "raw")]) []
      [.bare "driver" [("name", "qemu"), ("type", "raw")]] :=
  bare_lays faithful (by decide) (by decide)

/-- An element with one attribute, which is a text. -/
theorem marked_lays (faithful : Faithful paper) {name key value : String}
    (proper : isName name.toList = true) (named : isName key.toList = true) :
    Lays (Desk.Holds paper) indent path (bare name [(key, value)]) []
      [.bare name [(key, value)]] :=
  bare_lays faithful proper (by simpa using named)

theorem host_lays (faithful : Faithful paper) (port : Value) :
    Lays (Desk.Holds paper) indent path
      (emptyElement "host" [("name", .text "localhost"), ("port", port)]) (unwritable port)
      [.bare "host" [("name", "localhost"), ("port", Outline.portText port)]] := by
  have named : ∀ a ∈ [("name", Value.text "localhost"), ("port", port)],
      isName a.1.toList = true := by
    simp only [List.forall_mem_cons]
    exact ⟨by decide, by decide, by simp⟩
  have laid : Lays (Desk.Holds paper) indent path (emptyElement "host" _) _ _ :=
    emptyElement_lays faithful (by decide) named
  simpa [Outline.portText_eq] using laid

theorem writeDisk_lays (faithful : Faithful paper) (guide : Log.Speaker) {ports : List Value}
    {index : Nat} {port : Value} (given : ports[index]? = some port) (disk : String) :
    Lays (Desk.Holds paper) indent path (writeDisk guide ports index disk) (unwritable port)
      [Outline.disk (String.ofList (Drive.target disk.toList index)) port] := by
  simp only [writeDisk, given]
  have source : Lays (Desk.Holds paper) indent path (framed "source" [("protocol", "nbd")] _) _ _ :=
    framed_lays faithful (by decide) (by decide) (host_lays faithful port)
  have target : Lays (Desk.Holds paper) indent path
      (bare "target" [("dev", String.ofList (Drive.target disk.toList index))]) _ _ :=
    marked_lays faithful (by decide) (by decide)
  have body := (driver_lays faithful).bind (source.bind target)
  rw [List.nil_append, List.append_nil] at body
  exact Lays.bind (say_lays _ _ _ _) (framed_lays faithful (by decide) (by decide) body)

theorem writeDisks_lays (faithful : Faithful paper) (guide : Log.Speaker) (ports : List Value)
    (index : Nat) (disks : List String) :
    Lays (Desk.Holds paper) indent path (writeDisks guide ports index disks)
      (portFaults disks (ports.drop index))
      (List.zipWith Outline.disk
        ((Drive.targetsFrom index (disks.map String.toList)).map String.ofList)
        (ports.drop index)) := by
  induction disks generalizing index with
  | nil => exact Lays.pure
  | cons disk rest ih =>
    cases given : ports[index]? with
    | none =>
      have exhausted : ports.drop index = [] :=
        List.drop_eq_nil_of_le (List.getElem?_eq_none_iff.mp given)
      rw [exhausted, portFaults, List.zipWith_nil_right]
      refine Lays.of_fault (fun w => bind_of_error ?_) []
      simp only [writeDisk, given]
      rfl
    | some port =>
      have split : ports.drop index = port :: ports.drop (index + 1) := by
        obtain ⟨inside, rfl⟩ := List.getElem?_eq_some_iff.mp given
        exact List.drop_eq_getElem_cons inside
      rw [split]
      exact (writeDisk_lays faithful guide given disk).bind (ih (index + 1))

theorem writeRemovable_lays (faithful : Faithful paper) (guide : Log.Speaker) (device : String) :
    Lays (Desk.Holds paper) indent path (writeRemovable guide device) []
      [Outline.removable device] := by
  have target : Lays (Desk.Holds paper) indent path (bare "target" [("dev", device)]) _ _ :=
    marked_lays faithful (by decide) (by decide)
  have body := (driver_lays faithful).bind target
  exact Lays.bind (say_lays _ _ _ _) (framed_lays faithful (by decide) (by decide) body)

/-! ## Interfaces -/

/-- The address among what is found out. -/
def Found.address : Found → Option String
  | .ok address => address
  | .error _ => none

/-- An address that is found out is the one in the outline. -/
theorem Order.address_found {o : Order} {tree : Files.Tree} {interface : String}
    (answered : foundFaults (o.found tree interface) = []) :
    (o.found tree interface).address = Outline.addresses tree o.interfaces interface := by
  unfold Order.found Network.lookUp at answered ⊢
  split at answered
  · cases found : Network.findAddress tree o.interfaces interface with
    | error f =>
      rw [found] at answered
      cases answered
    | ok finding =>
      rw [Outline.addresses_eq found]
      rfl
  · cases answered

omit [Xml.Stream (κ × Files.Tree)] in
/-- An action that goes on with the address of an interface. -/
theorem lookUpAddress_lays {o : Order} {interface : String} {found : Found}
    (seen : ∀ p tree t, paper (p, tree) t → o.found tree interface = found)
    {next : Option String → Work κ Unit} {nodes : List Xml.Node}
    (lays : Lays (Desk.Holds paper) indent path (next found.address) [] nodes) :
    Lays (Desk.Holds paper) indent path
      (lookUpAddress o.letters o.interfaces interface >>= next) (foundFaults found) nodes := by
  intro closed d outer ns stream room held
  have here := seen _ _ _ held.1
  unfold Order.found at here
  unfold lookUpAddress theTree
  simp only [bind_assoc, pure_bind]
  rw [get_bind]
  simp only [Scaffold.writer]
  cases finding : Network.lookUp o.letters stream.tree o.interfaces interface with
  | error f =>
    simp only [finding, Except.map] at here
    subst here
    exact Lays.of_fault (fun w => rfl) nodes closed d outer ns stream room held
  | ok result =>
    cases result with
    | address text =>
      simp only [finding, Except.map] at here
      subst here
      exact lays closed d outer ns stream room held
    | unreadable unread why =>
      simp only [finding, Except.map] at here
      subst here
      exact Lays.bind (say_lays _ _ _ _) lays closed d outer ns stream room held

/-- What is written of an interface once its address is known. -/
def writeAddressed (o : Order) (interface : String) (address : Option String) : Work κ Unit := do
  say o.guide Log.debug "interface %s -> network %s (mac=%s)"
    [.text interface, .text (Outline.network o.machine interface), .text (addressNote address)]
  framed "interface" [("type", "network")] do
    bare "source" [("network", Outline.network o.machine interface)]
    bare "target" [("dev", interface)]
    ifGiven address fun address => bare "mac" [("address", address)]

theorem writeInterface_eq (o : Order) (interface : String) :
    (writeInterface o interface : Work κ Unit) =
      lookUpAddress o.letters o.interfaces interface >>= writeAddressed o interface := by
  unfold writeInterface
  simp only [← Outline.network_eq]
  rfl

theorem writeAddressed_lays (faithful : Faithful paper) (o : Order) (interface : String)
    (address : Option String) :
    Lays (Desk.Holds paper) indent path (writeAddressed o interface address) []
      [Outline.interface o.machine (fun _ => address) interface] := by
  have source : Lays (Desk.Holds paper) indent path
      (bare "source" [("network", Outline.network o.machine interface)]) _ _ :=
    marked_lays faithful (by decide) (by decide)
  have target : Lays (Desk.Holds paper) indent path (bare "target" [("dev", interface)]) _ _ :=
    marked_lays faithful (by decide) (by decide)
  have mac : Lays (Desk.Holds paper) indent path
      (ifGiven address fun address => bare "mac" [("address", address)]) []
      (Outline.address address) := by
    cases address with
    | none => exact Lays.pure
    | some text => exact marked_lays faithful (by decide) (by decide)
  have body := source.bind (target.bind mac)
  exact Lays.bind (say_lays _ _ _ _) (framed_lays faithful (by decide) (by decide) body)

theorem writeInterface_lays (faithful : Faithful paper) (o : Order) {interface : String}
    {found : Found}
    (seen : ∀ p tree t, paper (p, tree) t → o.found tree interface = found) :
    Lays (Desk.Holds paper) indent path (writeInterface o interface) (foundFaults found)
      [Outline.interface o.machine (fun _ => found.address) interface] := by
  rw [writeInterface_eq]
  exact lookUpAddress_lays seen (writeAddressed_lays faithful o interface found.address)

/-! ## The document -/

/-- What is found out about each interface does not change while the document is written. -/
def Sees (paper : κ × Files.Tree → String → Prop) (o : Order) (found : String → Found) : Prop :=
  ∀ interface ∈ o.machine.interfaces.getD [], ∀ p tree t, paper (p, tree) t →
    o.found tree interface = found interface

/-- Each interface comes to its node, with the address that is found out about it. -/
def LaysInterfaces (paper : κ × Files.Tree → String → Prop) (indent : String)
    (path : Option String) (o : Order) (found : String → Found) : Prop :=
  ∀ interface ∈ o.machine.interfaces.getD [],
    Lays (Desk.Holds paper) indent path (writeInterface o interface) (foundFaults (found interface))
      [Outline.interface o.machine (fun _ => (found interface).address) interface]

theorem Sees.laysInterfaces {o : Order} {found : String → Found} (sees : Sees paper o found)
    (faithful : Faithful paper) : LaysInterfaces paper indent path o found :=
  fun i listed => writeInterface_lays faithful o (sees i listed)

theorem devices_lays (faithful : Faithful paper) (o : Order) {found : String → Found}
    (laid : LaysInterfaces paper indent path o found) :
    Lays (Desk.Holds paper) indent path
      (framed "devices" [] do
        writeDisks o.guide o.ports 0 o.machine.disks
        (o.machine.removable.getD []).forM (writeRemovable o.guide)
        (o.machine.interfaces.getD []).forM (writeInterface o))
      (portFaults o.machine.disks o.ports ++
        (o.machine.interfaces.getD []).flatMap fun i => foundFaults (found i))
      [Outline.devices o.machine o.ports fun i => (found i).address] := by
  have disks : Lays (Desk.Holds paper) indent path
      (writeDisks o.guide o.ports 0 o.machine.disks) _ _ :=
    writeDisks_lays faithful o.guide o.ports 0 o.machine.disks
  have removable : Lays (Desk.Holds paper) indent path
      ((o.machine.removable.getD []).forM (writeRemovable o.guide)) _ _ :=
    Lays.forM fun device _ => writeRemovable_lays faithful o.guide device
  have interfaces : Lays (Desk.Holds paper) indent path
      ((o.machine.interfaces.getD []).forM (writeInterface o)) _ _ :=
    Lays.forM laid
  have body := disks.bind (removable.bind interfaces)
  have noFaults : (o.machine.removable.getD []).flatMap (fun _ => ([] : List Fault)) = [] := by
    simp
  rw [noFaults, List.nil_append, List.drop_zero, ← Outline.targets_eq, ← List.map_eq_flatMap,
    ← List.map_eq_flatMap, ← List.append_assoc] at body
  exact framed_lays faithful (by decide) (by simp) body

/-- The memory, in whole units of 1024 bytes. -/
theorem memory_lays (faithful : Faithful paper) (m : Machine) {name : String}
    (proper : isName name.toList = true) :
    Lays (Desk.Holds paper) indent path
      (labelled name [("unit", "KiB")] (.int m.memoryUnits)) (unwritable (.int (m.memory / 1024)))
      [.labelled name [("unit", "KiB")] (Outline.numeral (m.memory / 1024))] := by
  rw [Outline.memoryUnits_eq, ← Outline.plainText_int]
  exact labelled_lays faithful _ proper (by decide)

theorem writeMachine_lays (faithful : Faithful paper) (o : Order) {found : String → Found}
    (laid : LaysInterfaces paper indent path o found) :
    Lays (Desk.Holds paper) indent path (writeMachine o) (o.faults found)
      (Outline.parts o fun i => (found i).address) := by
  have name : Lays (Desk.Holds paper) indent path
      (singleElement "name" (.text o.machine.name)) _ _ :=
    singleElement_lays faithful _ (by decide)
  have memory : Lays (Desk.Holds paper) indent path (labelled "memory" _ _) _ _ :=
    memory_lays faithful o.machine (by decide)
  have currentMemory : Lays (Desk.Holds paper) indent path (labelled "currentMemory" _ _) _ _ :=
    memory_lays faithful o.machine (by decide)
  have processors : Lays (Desk.Holds paper) indent path
      (singleElement "vcpu" (.int o.machine.processors)) _ _ :=
    singleElement_lays faithful _ (by decide)
  have type : Lays (Desk.Holds paper) indent path
      (labelled "type" [("arch", o.architecture)] (.text "hvm")) _ _ :=
    labelled_lays faithful _ (by decide) (by
      simp only [List.forall_mem_cons]
      exact ⟨by decide, by simp⟩)
  have system : Lays (Desk.Holds paper) indent path (framed "os" [] _) _ _ :=
    framed_lays faithful (by decide) (by simp) type
  have body := name.bind (memory.bind (currentMemory.bind (processors.bind
    ((writeProcessor_lays faithful o.machine.processor).bind
    ((writeClock_lays faithful o.machine.clock).bind (system.bind
    ((writeFeatures_lays faithful o.machine.processor).bind (devices_lays faithful o laid))))))))
  simp only [unwritable_text, plainText_text, Outline.plainText_int, List.nil_append] at body
  simp only [Outline.parts, List.append_assoc]
  exact body

/-- The comment that names the program. -/
def banner (program : String) : String := " " ++ program ++ " " ++ version ++ " "

theorem nodes_eq (o : Order) (addressOf : String → Option String) :
    Outline.nodes o addressOf =
      [.comment (banner o.program), .comment note, Outline.root o addressOf] := by
  rw [banner, Outline.banner_eq, Outline.note_eq, Outline.nodes]

/-- The name of a program may stand in the banner unless two hyphens are side by side in it. -/
theorem isComment_banner (program : String) :
    isComment (banner program).toList = !hasDoubleHyphen program.toList := by
  have spelled : (banner program).toList = ' ' :: (program.toList ++ ' ' :: "0.1.0 ".toList) := by
    simp [banner, version]
  have last : (' ' :: (program.toList ++ ' ' :: "0.1.0 ".toList)).getLast? = some ' ' := by
    simp [List.getLast?_append, List.getLast?_cons]
  have tail : hasDoubleHyphen "0.1.0 ".toList = false := by decide
  rw [isComment, spelled, last, hasDoubleHyphen_cons,
    hasDoubleHyphen_append_cons (by decide), tail]
  simp

theorem isComment_note : isComment note.toList = true := by
  unfold note
  repeat rw [← String.ofList_append]
  rw [String.toList_ofList]
  decide +kernel

theorem comment_comes {σ : Type} [Xml.Stream σ] {holds : σ → String → Prop}
    (faithful : Faithful holds) {closed : List Xml.Node} {stream : σ} {s : String}
    (proper : isComment s.toList = true)
    (held : holds stream ((Scaffold.underway closed .outside).text indent)) :
    Comes holds indent path [] (.underway (closed ++ [.comment s]) .outside)
      (comment s ((Scaffold.underway closed .outside).writer indent path stream)) := by
  have follows := comment_follows path faithful s held
  simp only [Scaffold.accept, Part.isProper, proper, if_true] at follows
  exact Comes.of_follows follows

theorem startDocument_comes {σ : Type} [Xml.Stream σ] {holds : σ → String → Prop}
    (faithful : Faithful holds) {stream : σ} (held : holds stream "") :
    Comes holds indent path [] (.underway [] .outside)
      (startDocument (Writer.fresh stream indent path)) :=
  Comes.of_follows (startDocument_follows path (s := .blank) faithful held)

theorem endDocument_comes {σ : Type} [Xml.Stream σ] {holds : σ → String → Prop}
    (faithful : Faithful holds) {closed : List Xml.Node} {stream : σ}
    (held : holds stream ((Scaffold.underway closed .outside).text indent)) :
    Comes holds indent path [] (.ended closed)
      (endDocument ((Scaffold.underway closed .outside).writer indent path stream)) :=
  Comes.of_follows (endDocument_follows path faithful held)

/-- The root element comes after the comments. -/
theorem root_comes (faithful : Faithful paper) (o : Order) {found : String → Found}
    (laid : LaysInterfaces paper indent path o found) {closed : List Xml.Node} {d : Desk κ}
    (first : closed.any Node.isElement = false)
    (held : Desk.Holds paper d ((Scaffold.underway closed .outside).text indent)) :
    Comes (Desk.Holds paper) indent path (o.faults found)
      (.underway (closed ++ [Outline.root o fun i => (found i).address]) .outside)
      (framed "domain" [("type", "physical")] (writeMachine o)
        ((Scaffold.underway closed .outside).writer indent path d)) := by
  have fits : (Scaffold.underway closed .outside).enter "domain" =
      some (.underway closed (.inside (.start "domain") [])) := by
    simp [Scaffold.enter, Place.isOutside, Place.frames?, first]
  have comes : Comes (Desk.Holds paper) indent path _ _
      (element "domain" [("type", .text "physical")] (writeMachine o) _) :=
    element_comes (Desk.faithful faithful) (by decide) (by decide)
      (writeMachine_lays faithful o laid).fills fits held
  simp only [List.flatMap_cons, List.flatMap_nil, unwritable_text, List.nil_append,
    List.append_nil, List.map_cons, List.map_nil, plainText_text, Node.frame_eq] at comes
  exact comes

/-- A document comes to its outline, or to the first of its faults, when its interfaces come to their
nodes. -/
theorem write_comes_of_interfaces (indent : String) (path : Option String)
    (faithful : Faithful paper) (o : Order) {found : String → Found}
    (laid : LaysInterfaces paper indent path o found)
    (allowed : hasDoubleHyphen o.program.toList = false) {d : Desk κ}
    (held : Desk.Holds paper d "") :
    Comes (Desk.Holds paper) indent path (o.faults found)
      (.ended (Outline.nodes o fun i => (found i).address))
      (write o (Writer.fresh d indent path)) := by
  rw [← List.append_nil (o.faults found), nodes_eq]
  have deskFaithful := Desk.faithful faithful
  have bannerProper : isComment (banner o.program).toList = true := by
    rw [isComment_banner, allowed]
    rfl
  refine Comes.andThen (startDocument_comes deskFaithful held) fun d₁ held₁ => ?_
  refine Comes.andThen (comment_comes deskFaithful bannerProper held₁) fun d₂ held₂ => ?_
  refine Comes.andThen (comment_comes deskFaithful isComment_note held₂) fun d₃ held₃ => ?_
  exact Comes.bind (root_comes faithful o laid rfl held₃) fun d₄ held₄ =>
    endDocument_comes deskFaithful held₄

/-- **A document comes to its outline, or to the first of its faults.** -/
theorem write_comes (indent : String) (path : Option String) (faithful : Faithful paper)
    (o : Order) {found : String → Found}
    (sees : Sees paper o found) (allowed : hasDoubleHyphen o.program.toList = false)
    {d : Desk κ} (held : Desk.Holds paper d "") :
    Comes (Desk.Holds paper) indent path (o.faults found)
      (.ended (Outline.nodes o fun i => (found i).address))
      (write o (Writer.fresh d indent path)) :=
  write_comes_of_interfaces indent path faithful o (sees.laysInterfaces faithful) allowed held

/-- The report that the banner is no comment. -/
def bannerReport (path : Option String) : Report :=
  Report.ofMessage .writer
    ("error constructing XML near call to 'comment': " ++
      "comment text may not contain '--' or end with '-'") none
    (Context.ofList ([("op", .text "comment"), ("where", .text "/")] ++
      match path with
      | some p => [("path", .text p)]
      | none => []))

/-- A document of a program that may not stand in the banner ends after its declaration. -/
theorem write_of_refused (indent : String) (path : Option String) (faithful : Faithful paper)
    (o : Order)
    (refused : hasDoubleHyphen o.program.toList = true) {d : Desk κ}
    (held : Desk.Holds paper d "") :
    ∃ w, write o (Writer.fresh d indent path) = .error (.report (bannerReport path)) w ∧
      w.path = path ∧ Desk.Holds paper w.stream declaration := by
  have improper : isComment (banner o.program).toList = false := by
    rw [isComment_banner, refused]
    rfl
  obtain ⟨d₁, started, held₁⟩ : Comes (Desk.Holds paper) indent path [] (.underway [] .outside)
      (startDocument (Writer.fresh d indent path)) :=
    startDocument_comes (Desk.faithful faithful) held
  refine ⟨(Scaffold.underway [] .outside).writer indent path d₁, ?_, rfl, ?_⟩
  · have failed : comment (banner o.program)
        ((Scaffold.underway [] .outside).writer indent path d₁) =
        .error (.report (bannerReport path))
          ((Scaffold.underway [] .outside).writer indent path d₁) := by
      unfold comment
      rw [bind_of_ok (requireDocument_of_started rfl rfl _), improper]
      rfl
    unfold write
    rw [bind_of_ok started]
    exact bind_of_error failed
  · have onPaper : (Scaffold.underway [] .outside).text indent = declaration := by
      simp [Scaffold.text, Place.text, Node.renderAll]
    rw [← onPaper]
    exact held₁

end MachineDescriptor.Document
