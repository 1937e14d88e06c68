import Mathlib.Data.List.Basic
import MachineDescriptor.Proofs.Outlines
import MachineDescriptor.Proofs.Rendering

/-!
What a document tells. Everything about a machine that goes into its document is found again in the
text, in nodes that are looked up by their names.
-/
namespace MachineDescriptor.Document

open Xml

/-- What a document tells of a machine. The offset of a clock is told when it counts from universal
time. -/
structure Facts where
  program : String
  name : String
  memoryUnits : Int
  processors : Int
  vendor : Option String
  model : Option String
  sockets : Int
  cores : Int
  threads : Int
  clock : Clock
  architecture : String
  acpi : Bool
  apic : Bool
  pae : Bool
  disks : List (String × Int)
  removable : List String
  interfaces : List (String × String × Option String)

/-- What the document of an order is to tell. -/
def Order.facts (o : Order) (ports : List Int) (addressOf : String → Option String) : Facts where
  program := o.program
  name := o.machine.name
  memoryUnits := o.machine.memory / 1024
  processors := o.machine.processors
  vendor := o.machine.processor.vendor
  model := o.machine.processor.model
  sockets := o.machine.processor.sockets
  cores := o.machine.processor.cores
  threads := o.machine.processor.threads
  clock :=
    ⟨o.machine.clock.basis, if o.machine.clock.basis = .utc then o.machine.clock.offset else 0⟩
  architecture := o.architecture
  acpi := o.machine.processor.acpi
  apic := o.machine.processor.apic
  pae := o.machine.processor.pae
  disks := (Outline.targets o.machine.disks).zip ports
  removable := o.machine.removable.getD []
  interfaces := (o.machine.interfaces.getD []).map fun i =>
    (i, Outline.network o.machine i, addressOf i)

/-! ## Looking up -/

def isNamed (name : String) : Xml.Node → Bool
  | .comment _ => false
  | .bare n _ | .labelled n _ _ | .parent n _ _ => n == name

/-- The value of an attribute. -/
def attribute? (key : String) : Xml.Node → Option String
  | .comment _ => none
  | .bare _ attributes | .labelled _ attributes _ | .parent _ attributes _ => attributes.lookup key

def textOf? : Xml.Node → Option String
  | .labelled _ _ text => some text
  | _ => none

def childrenOf : Xml.Node → List Xml.Node
  | .parent _ _ children => children
  | _ => []

/-- The first node of a name. -/
def child? (name : String) (nodes : List Xml.Node) : Option Xml.Node := nodes.find? (isNamed name)

/-- The nodes in the first node of a name. -/
def inside (name : String) (nodes : List Xml.Node) : List Xml.Node :=
  ((child? name nodes).map childrenOf).getD []

/-- The text of the first node of a name. -/
def labelOf? (name : String) (nodes : List Xml.Node) : Option String :=
  (child? name nodes).bind textOf?

/-- An attribute of the first node of a name. -/
def markOf? (name key : String) (nodes : List Xml.Node) : Option String :=
  (child? name nodes).bind (attribute? key)

/-- The integer that a numeral of the document stands for. -/
def integerOf (s : String) : Int :=
  match s.toList with
  | '-' :: digits => -(Nat.ofDigitChars 10 digits 0 : Int)
  | digits => Nat.ofDigitChars 10 digits 0

/-- A count; one that is missing is zero. -/
def countOf (key : String) (cpu : List Xml.Node) : Int :=
  ((markOf? "topology" key cpu).map integerOf).getD 0

def clockOf (nodes : List Xml.Node) : Clock :=
  match markOf? "clock" "offset" nodes with
  | none => ⟨.unknown, 0⟩
  | some offset =>
    if offset = "localtime" then ⟨.localtime, 0⟩
    else ⟨.utc, ((markOf? "clock" "adjustment" nodes).map integerOf).getD 0⟩

/-- A disk by its target and its port. -/
def diskOf? (n : Xml.Node) : Option (String × Int) :=
  if isNamed "disk" n && attribute? "device" n = some "disk" then
    some ((markOf? "target" "dev" (childrenOf n)).getD "",
      integerOf ((markOf? "host" "port" (inside "source" (childrenOf n))).getD ""))
  else none

def removableOf? (n : Xml.Node) : Option String :=
  if isNamed "disk" n && attribute? "device" n = some "cdrom" then
    markOf? "target" "dev" (childrenOf n)
  else none

/-- An interface with its network, and its address if there is one. -/
def interfaceOf? (n : Xml.Node) : Option (String × String × Option String) :=
  if isNamed "interface" n then
    some ((markOf? "target" "dev" (childrenOf n)).getD "",
      (markOf? "source" "network" (childrenOf n)).getD "", markOf? "mac" "address" (childrenOf n))
  else none

/-- The name of the program in the banner. -/
def programOf (text : String) : String :=
  String.ofList ((text.toList.drop 1).take (text.length - (version.length + 3)))

/-- What the nodes of a document tell. -/
def factsIn : List Xml.Node → Option Facts
  | [.comment text, _, root] =>
    let parts := childrenOf root
    let cpu := inside "cpu" parts
    let flags := inside "features" parts
    let devices := inside "devices" parts
    some
      { program := programOf text
        name := (labelOf? "name" parts).getD ""
        memoryUnits := integerOf ((labelOf? "memory" parts).getD "")
        processors := integerOf ((labelOf? "vcpu" parts).getD "")
        vendor := labelOf? "vendor" cpu
        model := labelOf? "model" cpu
        sockets := countOf "sockets" cpu
        cores := countOf "cores" cpu
        threads := countOf "threads" cpu
        clock := clockOf parts
        architecture := (markOf? "type" "arch" (inside "os" parts)).getD ""
        acpi := (child? "acpi" flags).isSome
        apic := (child? "apic" flags).isSome
        pae := (child? "pae" flags).isSome
        disks := devices.filterMap diskOf?
        removable := devices.filterMap removableOf?
        interfaces := devices.filterMap interfaceOf? }
  | _ => none

/-- What the text of a document tells. -/
def decode (s : String) : Option Facts := (readDocument s).bind factsIn

/-! ## Numerals -/

theorem integerOf_numeral (n : Int) : integerOf (Outline.numeral n) = n := by
  rw [integerOf, Outline.numeral_toList, Integer.text]
  by_cases negative : n < 0
  · simp only [negative, if_true, List.singleton_append, Nat.ofDigitChars_ten_toDigits]
    omega
  · rw [if_neg negative, List.nil_append]
    split
    · next digits e =>
      have digit := Nat.isDigit_of_mem_toDigits (b := 10) (n := n.natAbs) (c := '-') (by omega)
        (by omega) (by rw [e]; exact List.mem_cons_self)
      exact absurd digit (by decide)
    · rw [Nat.ofDigitChars_ten_toDigits]
      omega

theorem programOf_banner (program : String) : programOf (banner program) = program := by
  have spelled : (banner program).toList = ' ' :: (program.toList ++ " 0.1.0 ".toList) := by
    simp [banner, version]
  have length : (banner program).length - (version.length + 3) = program.length := by
    have v : version.length = 5 := by decide
    rw [v, ← String.length_toList, ← String.length_toList, spelled]
    simp
  rw [programOf, spelled, length, List.drop_succ_cons, List.drop_zero, ← String.length_toList,
    List.take_left, String.ofList_toList]

/-! ## Nodes by their names -/

@[simp] theorem isNamed_frame (name n : String) (attributes : List (String × String))
    (children : List Xml.Node) : isNamed name (.frame n attributes children) = (n == name) := by
  cases children <;> rfl

@[simp] theorem attribute?_frame (key n : String) (attributes : List (String × String))
    (children : List Xml.Node) :
    attribute? key (.frame n attributes children) = attributes.lookup key := by
  cases children <;> rfl

@[simp] theorem attribute?_bare (key n : String) (attributes : List (String × String)) :
    attribute? key (.bare n attributes) = attributes.lookup key := rfl

@[simp] theorem childrenOf_frame (n : String) (attributes : List (String × String))
    (children : List Xml.Node) : childrenOf (.frame n attributes children) = children := by
  cases children <;> rfl

@[simp] theorem isNamed_bare (name n : String) (attributes : List (String × String)) :
    isNamed name (.bare n attributes) = (n == name) := rfl

@[simp] theorem isNamed_labelled (name n : String) (attributes : List (String × String))
    (text : String) : isNamed name (.labelled n attributes text) = (n == name) := rfl

@[simp] theorem child?_nil (name : String) : child? name [] = none := rfl

@[simp] theorem child?_cons (name : String) (n : Xml.Node) (rest : List Xml.Node) :
    child? name (n :: rest) = if isNamed name n then some n else child? name rest := by
  cases named : isNamed name n <;> simp [child?, named]

@[simp] theorem child?_append (name : String) (as bs : List Xml.Node) :
    child? name (as ++ bs) = (child? name as).or (child? name bs) := by
  simp [child?]

@[simp] theorem child?_given (name n : String) (attributes : List (String × String))
    (given : Option String) :
    child? name (Outline.given n attributes given) =
      if n = name then given.map (.labelled n attributes) else none := by
  cases given with
  | none => simp [Outline.given]
  | some text => simp [Outline.given]

theorem child?_processor {name : String} (other : name ≠ "cpu") (p : Processor) :
    child? name (Outline.processor p) = none := by
  unfold Outline.processor
  split
  · rfl
  · simp [other.symm]

theorem child?_clock {name : String} (other : name ≠ "clock") (c : Clock) :
    child? name (Outline.clock c) = none := by
  unfold Outline.clock
  split <;> simp [other.symm]

/-- The nodes in the root element, each with a name of its own. -/
theorem child?_parts (o : Order) (addressOf : String → Option String) :
    child? "name" (Outline.parts o addressOf) = some (.labelled "name" [] o.machine.name) ∧
    child? "memory" (Outline.parts o addressOf) =
      some (.labelled "memory" [("unit", "KiB")] (Outline.numeral (o.machine.memory / 1024))) ∧
    child? "vcpu" (Outline.parts o addressOf) =
      some (.labelled "vcpu" [] (Outline.numeral o.machine.processors)) ∧
    child? "cpu" (Outline.parts o addressOf) = child? "cpu" (Outline.processor o.machine.processor) ∧
    child? "clock" (Outline.parts o addressOf) = child? "clock" (Outline.clock o.machine.clock) ∧
    child? "os" (Outline.parts o addressOf) =
      some (.frame "os" [] [.labelled "type" [("arch", o.architecture)] "hvm"]) ∧
    child? "features" (Outline.parts o addressOf) = some (Outline.features o.machine.processor) ∧
    child? "devices" (Outline.parts o addressOf) =
      some (Outline.devices o.machine o.ports addressOf) := by
  simp [Outline.parts, child?_processor, child?_clock, Outline.features, Outline.devices]

/-! ## The processor and the clock -/

theorem inside_cpu (p : Processor) (nodes : List Xml.Node)
    (found : child? "cpu" nodes = child? "cpu" (Outline.processor p)) :
    inside "cpu" nodes = Outline.given "vendor" [] p.vendor ++
      Outline.given "model" [("fallback", "allow")] p.model ++ Outline.topology p := by
  rw [inside, found, Outline.processor]
  split
  · next unknown =>
    obtain ⟨vendor, model, sockets, cores, threads⟩ := unknown
    simp [vendor, model, sockets, cores, threads, Outline.given, Outline.topology]
  · simp

theorem child?_topology {name : String} (other : name ≠ "topology") (p : Processor) :
    child? name (Outline.topology p) = none := by
  unfold Outline.topology
  split <;> simp [other.symm]

theorem lookup_counted (key name : String) (n : Int) :
    (Outline.counted name n).lookup key =
      if key = name then (if n = 0 then none else some (Outline.numeral n)) else none := by
  unfold Outline.counted
  split
  · simp
  · by_cases same : key = name
    · simp [same]
    · have differs : (key == name) = false := by simpa using same
      simp [same, List.lookup_cons, differs]

/-- The integer of a count that is left out when it is zero. -/
theorem integerOf_counted (n : Int) :
    ((if n = 0 then none else some (Outline.numeral n)).map integerOf).getD 0 = n := by
  split
  · next zero => exact zero.symm
  · exact integerOf_numeral n

theorem countOf_topology (p : Processor) (cpu : List Xml.Node)
    (found : child? "topology" cpu = child? "topology" (Outline.topology p)) :
    countOf "sockets" cpu = p.sockets ∧ countOf "cores" cpu = p.cores ∧
      countOf "threads" cpu = p.threads := by
  simp only [countOf, markOf?, found, Outline.topology]
  split
  · next unknown =>
    obtain ⟨sockets, cores, threads⟩ := unknown
    simp [sockets, cores, threads]
  · simp [List.lookup_append, lookup_counted, integerOf_counted]

theorem clockOf_clock (c : Clock) (nodes : List Xml.Node)
    (found : child? "clock" nodes = child? "clock" (Outline.clock c)) :
    clockOf nodes = ⟨c.basis, if c.basis = .utc then c.offset else 0⟩ := by
  obtain ⟨basis, offset⟩ := c
  simp only [clockOf, markOf?, found, Outline.clock]
  cases basis with
  | unknown => simp
  | localtime => simp
  | utc =>
    by_cases zero : offset = 0
    · simp [zero, List.lookup_cons]
    · simp [zero, List.lookup_cons, integerOf_numeral]

theorem flags_features (p : Processor) :
    (child? "acpi" (childrenOf (Outline.features p))).isSome = p.acpi ∧
      (child? "apic" (childrenOf (Outline.features p))).isSome = p.apic ∧
      (child? "pae" (childrenOf (Outline.features p))).isSome = p.pae := by
  obtain ⟨_, _, _, _, _, acpi, apic, pae⟩ := p
  simp only [Outline.features, childrenOf_frame]
  cases acpi <;> cases apic <;> cases pae <;> simp

/-! ## Devices -/

theorem diskOf?_disk (target : String) (port : Int) :
    diskOf? (Outline.disk target (.int port)) = some (target, port) := by
  simp [diskOf?, Outline.disk, inside, markOf?, List.lookup_cons, Outline.portText,
    integerOf_numeral]

theorem diskOf?_removable (device : String) : diskOf? (Outline.removable device) = none := by
  simp [diskOf?, Outline.removable, List.lookup_cons]

theorem diskOf?_interface (m : Machine) (addressOf : String → Option String) (name : String) :
    diskOf? (Outline.interface m addressOf name) = none := by
  simp [diskOf?, Outline.interface]

theorem removableOf?_disk (target : String) (port : Value) :
    removableOf? (Outline.disk target port) = none := by
  simp [removableOf?, Outline.disk, List.lookup_cons]

theorem removableOf?_removable (device : String) :
    removableOf? (Outline.removable device) = some device := by
  simp [removableOf?, Outline.removable, markOf?, List.lookup_cons]

theorem removableOf?_interface (m : Machine) (addressOf : String → Option String)
    (name : String) : removableOf? (Outline.interface m addressOf name) = none := by
  simp [removableOf?, Outline.interface]

theorem interfaceOf?_disk (target : String) (port : Value) :
    interfaceOf? (Outline.disk target port) = none := by
  simp [interfaceOf?, Outline.disk]

theorem interfaceOf?_removable (device : String) :
    interfaceOf? (Outline.removable device) = none := by
  simp [interfaceOf?, Outline.removable]

theorem interfaceOf?_interface (m : Machine) (addressOf : String → Option String) (name : String) :
    interfaceOf? (Outline.interface m addressOf name) =
      some (name, Outline.network m name, addressOf name) := by
  cases found : addressOf name with
  | none => simp [interfaceOf?, Outline.interface, markOf?, found, Outline.address]
  | some text => simp [interfaceOf?, Outline.interface, markOf?, found, Outline.address]

/-- What is made of the disks among the devices. -/
theorem filterMap_disks {β : Type} (f : Xml.Node → Option β) (m : Machine) (ports : List Int) :
    (Outline.disks m (ports.map .int)).filterMap f =
      ((Outline.targets m.disks).zip ports).filterMap fun d => f (Outline.disk d.1 (.int d.2)) := by
  rw [Outline.disks, List.zipWith_map_right, ← List.map_uncurry_zip_eq_zipWith,
    List.filterMap_map]
  rfl

/-- Each list of devices is made of the devices of its own kind. -/
theorem filterMap_devices (m : Machine) (ports : List Int) (addressOf : String → Option String) :
    (childrenOf (Outline.devices m (ports.map .int) addressOf)).filterMap diskOf? =
      (Outline.targets m.disks).zip ports ∧
    (childrenOf (Outline.devices m (ports.map .int) addressOf)).filterMap removableOf? =
      m.removable.getD [] ∧
    (childrenOf (Outline.devices m (ports.map .int) addressOf)).filterMap interfaceOf? =
      (m.interfaces.getD []).map fun i => (i, Outline.network m i, addressOf i) := by
  simp only [Outline.devices, childrenOf_frame, List.filterMap_append, filterMap_disks,
    List.filterMap_map, Function.comp_def, diskOf?_disk, diskOf?_removable, diskOf?_interface,
    removableOf?_disk, removableOf?_removable, removableOf?_interface, interfaceOf?_disk,
    interfaceOf?_removable, interfaceOf?_interface, List.filterMap_none]
  simp

/-! ## The document -/

/-- The nodes of a document tell the facts. -/
theorem factsIn_nodes (o : Order) (ports : List Int) (given : o.ports = ports.map .int)
    (addressOf : String → Option String) :
    factsIn (Outline.nodes o addressOf) = some (o.facts ports addressOf) := by
  have parts : childrenOf (Outline.root o addressOf) = Outline.parts o addressOf :=
    childrenOf_frame _ _ _
  obtain ⟨name, memory, processors, cpu, clock, system, features, devices⟩ :=
    child?_parts o addressOf
  have inCpu := inside_cpu o.machine.processor _ cpu
  have topology : child? "topology" (inside "cpu" (Outline.parts o addressOf)) =
      child? "topology" (Outline.topology o.machine.processor) := by
    rw [inCpu]
    simp
  have vendor : labelOf? "vendor" (inside "cpu" (Outline.parts o addressOf)) =
      o.machine.processor.vendor := by
    rw [inCpu, labelOf?]
    cases o.machine.processor.vendor <;> simp [textOf?, child?_topology]
  have model : labelOf? "model" (inside "cpu" (Outline.parts o addressOf)) =
      o.machine.processor.model := by
    rw [inCpu, labelOf?]
    cases o.machine.processor.model <;> simp [textOf?, child?_topology]
  obtain ⟨sockets, cores, threads⟩ := countOf_topology _ _ topology
  obtain ⟨acpi, apic, pae⟩ := flags_features o.machine.processor
  obtain ⟨disks, removable, interfaces⟩ := filterMap_devices o.machine ports addressOf
  have clockTold := clockOf_clock _ _ clock
  have inFeatures : inside "features" (Outline.parts o addressOf) =
      childrenOf (Outline.features o.machine.processor) := by
    simp [inside, features]
  have inDevices : inside "devices" (Outline.parts o addressOf) =
      childrenOf (Outline.devices o.machine (ports.map .int) addressOf) := by
    simp [inside, devices, given]
  have architecture : markOf? "type" "arch" (inside "os" (Outline.parts o addressOf)) =
      some o.architecture := by
    simp [markOf?, inside, system, attribute?]
  simp only [nodes_eq, factsIn, parts, vendor, model, sockets, cores, threads, clockTold,
    inFeatures, acpi, apic, pae, inDevices, disks, removable, interfaces, architecture]
  simp [Order.facts, labelOf?, name, memory, processors, textOf?, integerOf_numeral]
  exact programOf_banner o.program

/-- The text of an outline tells the facts. -/
theorem decode_text (o : Order) {ports : List Int} (given : o.ports = ports.map .int)
    (addressOf : String → Option String) (allowed : hasDoubleHyphen o.program.toList = false) :
    decode (Outline.text o addressOf) = some (o.facts ports addressOf) := by
  rw [decode, Outline.readDocument_text o addressOf allowed, Option.bind_some,
    factsIn_nodes o ports given]

/-- **Every document that is written tells the facts about its machine.** The nodes that are read
from the text are those of the outline and no others, and documents with one text have one set of
facts. -/
theorem decode_of_rendered {o : Order} {tree : Files.Tree} {journal : Log.Journal}
    {ports : List Int} {text : String} (given : o.ports = ports.map .int)
    (undisturbed : o.Undisturbed tree journal.files)
    (rendered : (render o tree journal).1 = .ok text) :
    decode text = some (o.facts ports (Outline.addresses tree o.interfaces)) ∧
      readDocument text = some (Outline.nodes o (Outline.addresses tree o.interfaces)) ∧
      ∀ (o' : Order) (tree' : Files.Tree) (journal' : Log.Journal) (ports' : List Int),
        o'.ports = ports'.map .int → o'.Undisturbed tree' journal'.files →
        (render o' tree' journal').1 = .ok text →
        o'.facts ports' (Outline.addresses tree' o'.interfaces) =
          o.facts ports (Outline.addresses tree o.interfaces) := by
  have told : ∀ (o : Order) (tree : Files.Tree) (journal : Log.Journal) (ports : List Int),
      o.ports = ports.map .int → o.Undisturbed tree journal.files →
      (render o tree journal).1 = .ok text →
      readDocument text = some (Outline.nodes o (Outline.addresses tree o.interfaces)) ∧
        decode text = some (o.facts ports (Outline.addresses tree o.interfaces)) := by
    intro o tree journal ports given undisturbed rendered
    obtain ⟨allowed, rfl⟩ := text_of_rendered undisturbed rendered
    have nodes := Outline.readDocument_text o (Outline.addresses tree o.interfaces) allowed
    refine ⟨nodes, ?_⟩
    rw [decode, nodes, Option.bind_some, factsIn_nodes o ports given]
  obtain ⟨nodes, facts⟩ := told o tree journal ports given undisturbed rendered
  refine ⟨facts, nodes, fun o' tree' journal' ports' given' undisturbed' rendered' => ?_⟩
  have facts' := (told o' tree' journal' ports' given' undisturbed' rendered').2
  exact Option.some.inj (facts'.symm.trans facts)

theorem decode_smallOrder :
    decode (Outline.text smallOrder (Outline.addresses smallTree smallOrder.interfaces)) =
      some (smallOrder.facts [10809] (Outline.addresses smallTree smallOrder.interfaces)) :=
  (decode_of_rendered rfl smallOrder_undisturbed
    (by rw [render_outcome smallOrder_undisturbed, outcome_smallOrder])).1

end MachineDescriptor.Document
