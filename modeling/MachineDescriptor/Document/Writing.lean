import MachineDescriptor.Document.Desk
import MachineDescriptor.Machine.Address
import MachineDescriptor.Machine.Basic
import MachineDescriptor.Machine.Drive

/-!
Writing the document about a machine. Its parts follow in a fixed order: two comments, then in one
root element the name, the memory, the processors, the clock, the architecture, the features, and
the devices, which are disks, removable drives and interfaces in the order of the machine's lists.
Each device is noted in the journal before it is written.
-/
namespace MachineDescriptor.Document

open Xml

/-- The version of the library. -/
def version : String := "0.1.0"

/-- The name of the program where no other is given. -/
def programName : String := "phys2kvm"

/-- The architecture of a host that does not tell its own. -/
def usualArchitecture : String := "x86_64"

/-- The architecture to write: the one asked for, else the host's own. -/
def architecture (wanted : Option String) (host : String) : String :=
  let wanted := wanted.getD ""
  if !wanted.isEmpty then wanted else if host.isEmpty then usualArchitecture else host

/-- The comment that tells a reader what the document is for. -/
def note : String :=
  " NOTE!\n" ++
  "\n" ++
  "  This libvirt XML is generated by the phys2kvm collector, in\n" ++
  "  order to communicate with the backend virt-v2v process running\n" ++
  "  on the conversion server.  It is a minimal description of the\n" ++
  "  physical machine.  If the target of the conversion is libvirt,\n" ++
  "  then virt-v2v will generate the real target libvirt XML, which\n" ++
  "  has only a little to do with the XML in this file.\n" ++
  "\n" ++
  "  TL;DR: Don't try to load this XML into libvirt. "

/-- What a document is written from: the machine, the port of each disk, the architecture, the name
of the program, the directory of the interfaces' addresses, who speaks of the work, and the letters
of all these texts. -/
structure Order where
  machine : Machine
  ports : List Value
  architecture : String
  program : String
  interfaces : Files.Path
  speaker : Log.Speaker
  letters : Text.Letters := .plain

/-- The logger of documents, and that of addresses. -/
def documentLogger : Log.Speaker := .logger "phys2kvm.libvirt.physical_xml"
def networkLogger : Log.Speaker := .logger "phys2kvm.p2v.network"

/-- The speaker that mentions the machine's name with all it says. -/
def Order.guide (o : Order) : Log.Speaker :=
  o.speaker.bind (Context.ofList [("guest", .text o.machine.name)])

section

variable {κ : Type} [Stream (κ × Files.Tree)]

/-- An element with a text and attributes that are texts. -/
def labelled (name : String) (attributes : List (String × String)) (value : Value) : Work κ Unit :=
  element name (attributes.map fun a => (a.1, .text a.2)) (text value)

/-- An element with attributes that are texts, and a body. -/
def framed (name : String) (attributes : List (String × String)) (body : Work κ Unit) :
    Work κ Unit :=
  element name (attributes.map fun a => (a.1, .text a.2)) body

/-- An element with attributes that are texts only. -/
def bare (name : String) (attributes : List (String × String)) : Work κ Unit :=
  emptyElement name (attributes.map fun a => (a.1, .text a.2))

/-- Writes something if it is there. -/
def ifGiven {α : Type} (given : Option α) (write : α → Work κ Unit) : Work κ Unit :=
  match given with
  | some a => write a
  | none => pure ()

/-- Gives the open start tag a count, unless it is zero. -/
def count (name : String) (n : Int) : Work κ Unit :=
  if n = 0 then pure () else setAttribute name (.int n)

/-- The processor, as far as anything is known of it. -/
def writeProcessor (p : Processor) : Work κ Unit :=
  if !p.isKnown then pure ()
  else
    framed "cpu" [("match", "minimum")] do
      ifGiven p.vendor fun vendor => singleElement "vendor" (.text vendor)
      ifGiven p.model fun model => labelled "model" [("fallback", "allow")] (.text model)
      if p.hasTopology then
        framed "topology" [] do
          count "sockets" p.sockets
          count "cores" p.cores
          count "threads" p.threads

/-- The clock; a clock of which nothing is known is left out. -/
def writeClock (c : Clock) : Work κ Unit :=
  match c.basis with
  | .unknown => pure ()
  | .localtime => bare "clock" [("offset", "localtime")]
  | .utc =>
    if c.offset = 0 then bare "clock" [("offset", "utc")]
    else
      emptyElement "clock"
        [("offset", .text "variable"), ("basis", .text "utc"), ("adjustment", .int c.offset)]

/-- The features of the processor that are switched on. -/
def writeFeatures (p : Processor) : Work κ Unit :=
  framed "features" [] do
    if p.acpi then bare "acpi" []
    if p.apic then bare "apic" []
    if p.pae then bare "pae" []

/-- The disk at a position, which is reached through a port. -/
def writeDisk (guide : Log.Speaker) (ports : List Value) (index : Nat) (disk : String) :
    Work κ Unit := do
  let device := String.ofList (Drive.target disk.toList index)
  match ports[index]? with
  | none => throw (.fault .missingPort)
  | some port =>
    say guide Log.debug "disk %d: %s -> target %s (nbd port %d)"
      [.int index, .text disk, .text device, port]
    framed "disk" [("type", "network"), ("device", "disk")] do
      bare "driver" [("name", "qemu"), ("type", "raw")]
      framed "source" [("protocol", "nbd")] do
        emptyElement "host" [("name", .text "localhost"), ("port", port)]
      bare "target" [("dev", device)]

/-- The disks from a position on. -/
def writeDisks (guide : Log.Speaker) (ports : List Value) (index : Nat) :
    List String → Work κ Unit
  | [] => pure ()
  | disk :: rest => do
    writeDisk guide ports index disk
    writeDisks guide ports (index + 1) rest

/-- A removable drive. -/
def writeRemovable (guide : Log.Speaker) (device : String) : Work κ Unit := do
  say guide Log.debug "removable: target %s" [.text device]
  framed "disk" [("type", "network"), ("device", "cdrom")] do
    bare "driver" [("name", "qemu"), ("type", "raw")]
    bare "target" [("dev", device)]

/-- The address of an interface; in the journal it is noted why there is none. -/
def lookUpAddress (letters : Text.Letters) (directory : Files.Path) (interface : String) :
    Work κ (Option String) := do
  let tree ← theTree
  match Network.lookUp letters tree directory interface with
  | .error f => throw (.fault f)
  | .ok (.address text) => pure (some (String.ofList text))
  | .ok (.unreadable path why) =>
    say networkLogger Log.debug "No MAC address for %s (%s): %s"
      [.text interface, .text path.toString, .text why.message]
    pure none

/-- What stands in the journal for an address that is missing or empty. -/
def addressNote (address : Option String) : String :=
  let address := address.getD ""
  if address.isEmpty then "-" else address

/-- An interface with its network and address. -/
def writeInterface (o : Order) (interface : String) : Work κ Unit := do
  let network := String.ofList (Network.ofInterface
    (o.machine.networkRules.map fun rules => rules.map String.toList) interface.toList)
  let address ← lookUpAddress o.letters o.interfaces interface
  say o.guide Log.debug "interface %s -> network %s (mac=%s)"
    [.text interface, .text network, .text (addressNote address)]
  framed "interface" [("type", "network")] do
    bare "source" [("network", network)]
    bare "target" [("dev", interface)]
    ifGiven address fun address => bare "mac" [("address", address)]

/-- All that is in the root element. -/
def writeMachine (o : Order) : Work κ Unit := do
  let m := o.machine
  singleElement "name" (.text m.name)
  labelled "memory" [("unit", "KiB")] (.int m.memoryUnits)
  labelled "currentMemory" [("unit", "KiB")] (.int m.memoryUnits)
  singleElement "vcpu" (.int m.processors)
  writeProcessor m.processor
  writeClock m.clock
  framed "os" [] (labelled "type" [("arch", o.architecture)] (.text "hvm"))
  writeFeatures m.processor
  framed "devices" [] do
    writeDisks o.guide o.ports 0 m.disks
    (m.removable.getD []).forM (writeRemovable o.guide)
    (m.interfaces.getD []).forM (writeInterface o)

/-- The whole document from start to end. -/
def write (o : Order) : Work κ Unit := do
  startDocument
  comment (" " ++ o.program ++ " " ++ version ++ " ")
  comment note
  framed "domain" [("type", "physical")] (writeMachine o)
  endDocument

end

end MachineDescriptor.Document
