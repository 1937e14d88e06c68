import MachineDescriptor.Document.Writing
import MachineDescriptor.Xml.Node

/-!
The document about a machine as a tree of nodes, told at once from the machine, the ports and the
addresses. It says which elements the document has, in which order and with which contents, and it
says so on its own: the rules for networks, targets, addresses and numerals are stated here again,
apart from those that writing goes by.
-/
namespace MachineDescriptor.Document.Outline

open Xml (Node)

/-! ## Contents -/

def plainText (v : Value) : String := String.ofList v.plain

/-- The decimal numeral of an integer. -/
def numeral (n : Int) : String := if n < 0 then "-" ++ toString n.natAbs else toString n.natAbs

/-- A port as it is written. -/
def portText : Value → String
  | .int n => numeral n
  | v => plainText v

/-- A text without the line feed at its end, if there is one. -/
def withoutLineFeed (cs : List Char) : List Char :=
  if ['\n'].isSuffixOf cs then cs.take (cs.length - 1) else cs

/-- The path of the file with the address of an interface. -/
def addressPath (directory : Files.Path) (interface : String) : Files.Path :=
  (directory.join (Files.Path.ofString interface)).join (Files.Path.ofString "address")

/-- What of that path cannot be encoded. -/
def unencodable? (letters : Text.Letters) (directory : Files.Path) (interface : String) :
    Option Text.Unencodable :=
  letters.pathFault? (addressPath directory interface).toString.toList

/-- The addresses of interfaces that stand below a directory of a tree. -/
def addresses (tree : Files.Tree) (directory : Files.Path) (interface : String) : Option String :=
  match tree.read (addressPath directory interface) with
  | .ok bytes => some (String.ofList (withoutLineFeed (Text.Utf8.decodeLossy bytes)))
  | .error _ => none

/-- The network that rules give an interface: that of the first rule that has no colon, or begins
with the name of the interface and a colon. -/
def networkBy (interface : String) : List String → String
  | [] => "default"
  | rule :: rest =>
    if ':' ∉ rule.toList then rule
    else if (interface ++ ":").toList <+: rule.toList then
      String.ofList (rule.toList.drop (interface ++ ":").length)
    else networkBy interface rest

/-- The network of an interface. -/
def network (machine : Machine) (interface : String) : String :=
  networkBy interface (machine.networkRules.getD [])

/-- The letters that come after some, both from the last to the first: a, b, …, z, aa, ab, …. -/
def lettersAfter : List Char → List Char
  | [] => ['a']
  | c :: rest => if c = 'z' then 'a' :: lettersAfter rest else Char.ofNat (c.toNat + 1) :: rest

/-- The letters of a position, from the last to the first. -/
def lettersOf : Nat → List Char
  | 0 => ['a']
  | index + 1 => lettersAfter (lettersOf index)

/-- The target of the disk at a position: a path, or a name of more than 63 characters, gives way to
the name of the position. -/
def target (disk : String) (index : Nat) : String :=
  if "/".toList <+: disk.toList ∨ 63 < disk.length then
    "sd" ++ String.ofList (lettersOf index).reverse
  else disk

/-- The targets of disks in their order. -/
def targets (disks : List String) : List String := disks.mapIdx fun index disk => target disk index

/-! ## Nodes -/

/-- A text element for what is given. -/
def given (name : String) (attributes : List (String × String)) : Option String → List Node
  | some text => [.labelled name attributes text]
  | none => []

/-- A count as an attribute, unless it is zero. -/
def counted (name : String) (n : Int) : List (String × String) :=
  if n = 0 then [] else [(name, numeral n)]

def topology (p : Processor) : List Node :=
  if p.sockets = 0 ∧ p.cores = 0 ∧ p.threads = 0 then []
  else
    [.bare "topology"
      (counted "sockets" p.sockets ++ counted "cores" p.cores ++ counted "threads" p.threads)]

def processor (p : Processor) : List Node :=
  if p.vendor = none ∧ p.model = none ∧ p.sockets = 0 ∧ p.cores = 0 ∧ p.threads = 0 then []
  else
    [.frame "cpu" [("match", "minimum")]
      (given "vendor" [] p.vendor ++ given "model" [("fallback", "allow")] p.model ++ topology p)]

def clock (c : Clock) : List Node :=
  match c.basis with
  | .unknown => []
  | .localtime => [.bare "clock" [("offset", "localtime")]]
  | .utc =>
    [.bare "clock"
      (if c.offset = 0 then [("offset", "utc")]
        else [("offset", "variable"), ("basis", "utc"), ("adjustment", numeral c.offset)])]

/-- An element for each feature that is switched on. -/
def features (p : Processor) : Node :=
  .frame "features" []
    (([("acpi", p.acpi), ("apic", p.apic), ("pae", p.pae)].filter Prod.snd).map fun f =>
      .bare f.1 [])

def disk (target : String) (port : Value) : Node :=
  .frame "disk" [("type", "network"), ("device", "disk")]
    [.bare "driver" [("name", "qemu"), ("type", "raw")],
      .frame "source" [("protocol", "nbd")]
        [.bare "host" [("name", "localhost"), ("port", portText port)]],
      .bare "target" [("dev", target)]]

/-- The disks with a port each; a disk without a port ends the list. -/
def disks (machine : Machine) (ports : List Value) : List Node :=
  List.zipWith disk (targets machine.disks) ports

def removable (device : String) : Node :=
  .frame "disk" [("type", "network"), ("device", "cdrom")]
    [.bare "driver" [("name", "qemu"), ("type", "raw")], .bare "target" [("dev", device)]]

def address : Option String → List Node
  | some text => [.bare "mac" [("address", text)]]
  | none => []

def interface (machine : Machine) (addressOf : String → Option String) (name : String) : Node :=
  .frame "interface" [("type", "network")]
    ([.bare "source" [("network", network machine name)], .bare "target" [("dev", name)]] ++
      address (addressOf name))

def devices (machine : Machine) (ports : List Value) (addressOf : String → Option String) : Node :=
  .frame "devices" []
    (disks machine ports ++ (machine.removable.getD []).map removable ++
      (machine.interfaces.getD []).map (interface machine addressOf))

/-- The nodes in the root element; the memory counts units of 1024 bytes. -/
def parts (o : Order) (addressOf : String → Option String) : List Node :=
  let m := o.machine
  [.labelled "name" [] m.name,
      .labelled "memory" [("unit", "KiB")] (numeral (m.memory / 1024)),
      .labelled "currentMemory" [("unit", "KiB")] (numeral (m.memory / 1024)),
      .labelled "vcpu" [] (numeral m.processors)] ++
    processor m.processor ++ clock m.clock ++
    [.frame "os" [] [.labelled "type" [("arch", o.architecture)] "hvm"],
      features m.processor, devices m o.ports addressOf]

/-- The root element. -/
def root (o : Order) (addressOf : String → Option String) : Node :=
  .frame "domain" [("type", "physical")] (parts o addressOf)

/-- The lines of the comment for readers of the document. -/
def remark : List String :=
  [" NOTE!", "",
    "  This libvirt XML is generated by the phys2kvm collector, in",
    "  order to communicate with the backend virt-v2v process running",
    "  on the conversion server.  It is a minimal description of the",
    "  physical machine.  If the target of the conversion is libvirt,",
    "  then virt-v2v will generate the real target libvirt XML, which",
    "  has only a little to do with the XML in this file.", "",
    "  TL;DR: Don't try to load this XML into libvirt. "]

/-- The nodes of the document. -/
def nodes (o : Order) (addressOf : String → Option String) : List Node :=
  [.comment (" " ++ o.program ++ " 0.1.0 "), .comment ("\n".intercalate remark), root o addressOf]

/-- The text of the document: the declaration, and the nodes with two spaces to each level. -/
def text (o : Order) (addressOf : String → Option String) : String :=
  "<?xml version=\"1.0\" encoding=\"UTF-8\"?>\n" ++ Node.renderAll "  " 0 (nodes o addressOf)

end MachineDescriptor.Document.Outline
