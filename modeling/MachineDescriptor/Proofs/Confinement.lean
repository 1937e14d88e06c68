import MachineDescriptor.Proofs.Addresses
import MachineDescriptor.Proofs.Counterparts
import MachineDescriptor.Proofs.Decoding

/-!
What a document can learn from a tree of files. When the names of all interfaces keep to the
directory of interfaces, a document is the same on any two trees that have the same files in that
directory. Other names lead out of it.
-/
namespace MachineDescriptor.Document

open Xml
open Files.Tree (AgreeBelow)

/-- An order that meets no fault comes to the text of its outline. -/
theorem outcome_of_faultless {o : Order} {found : String → Found} (path : Option String)
    (allowed : hasDoubleHyphen o.program.toList = false) (faultless : o.faults found = []) :
    o.outcome path found = .ok (Outline.text o fun i => (found i).address) := by
  rw [Order.outcome, allowed, if_neg Bool.false_ne_true, faultless]

/-- **A document tells nothing of files outside of the directory of interfaces.** Two trees without
links that have the directory and agree on all that is below it give the same document, or the same
failure, when no interface leads out of the directory; and every address that is found for such an
interface is what a file below the directory says. The log files of the journal are regular files
wherever they are, also where an address is looked up. -/
theorem render_confined {tree tree' : Files.Tree} {o : Order} {journal : Log.Journal}
    {home : Files.Location} (free : tree.LinkFree) (free' : tree'.LinkFree)
    (here : tree.HasDirectory o.interfaces home) (there : tree'.HasDirectory o.interfaces home)
    (below : AgreeBelow home tree tree') (room : tree.HasRoom journal.files)
    (room' : tree'.HasRoom journal.files) :
    ((∀ i ∈ o.machine.interfaces.getD [], Network.StaysIn home i) →
      (render o tree' journal).1 = (render o tree journal).1) ∧
    ∀ interface, Network.StaysIn home interface → ∀ text,
      Network.findAddress tree o.interfaces interface = .ok (.address text) →
        ∃ place bytes, home <+: place ∧ place ≠ home ∧
          (tree.find? place).bind Network.bytes? = some bytes ∧ text = Network.address bytes := by
  have twins : Files.Tree.Twins journal.files o.interfaces home tree tree' :=
    ⟨⟨free, here, room⟩, ⟨free', there, room'⟩, here.agree there below⟩
  exact ⟨render_of_twins twins, fun interface stays text read =>
    Network.findAddress_below free here stays read⟩

/-- A tree with the directory of an interface and, beside the directory of interfaces, a file of
bytes that are not for everyone. -/
def secretTree (bytes : List UInt8) : Files.Tree where
  entries := [(["net"], .directory), (["net", "eth0"], .directory),
    (["net", "eth0", "address"], .file [0x30, 0x30, 0x3a, 0x31, 0x36, 0x0a]),
    (["key"], .directory), (["key", "address"], .file bytes)]
  current := []
  mayRemove := true

/-- The order with interfaces of some names, whose addresses are in the directory `net`. -/
def orderFor (interfaces : List String) : Order := smallOrder.withInterfaces (some interfaces)

theorem secretTree_linkFree (bytes : List UInt8) : (secretTree bytes).LinkFree :=
  Files.Tree.linkFree_of_entries (by simp [secretTree])

theorem secretTree_directory (bytes : List UInt8) (interfaces : List String) :
    (secretTree bytes).HasDirectory (orderFor interfaces).interfaces ["net"] where
  arrives := by
    have directory : (orderFor interfaces).interfaces = ⟨.root, ["net"]⟩ := rfl
    have short : ¬Files.Tree.maxPath < (Files.Path.mk .root ["net"]).toString.utf8ByteSize := by
      decide
    rw [directory, Files.Tree.resolve, if_neg short]
    exact Files.Tree.walk_of_last rfl (by decide) (by decide)
      (secretTree_linkFree bytes _) true _
  above place above := by
    obtain rfl | ⟨rest, rfl, below⟩ := List.prefix_cons_iff.mp above
    · rfl
    · obtain rfl := List.prefix_nil.mp below
      rfl

theorem secretTree_agree (bytes bytes' : List UInt8) :
    AgreeBelow ["net"] (secretTree bytes) (secretTree bytes') := by
  rintro place ⟨rest, rfl⟩
  simp [Files.Tree.find?, secretTree, List.lookup_cons]

/-- The text of a document tells the address of each of its interfaces. -/
theorem addresses_of_text {o : Order} {ports : List Int} {f g : String → Option String}
    (given : o.ports = ports.map .int) (allowed : hasDoubleHyphen o.program.toList = false)
    (same : Outline.text o f = Outline.text o g) :
    ∀ i ∈ o.machine.interfaces.getD [], f i = g i := by
  have facts : o.facts ports f = o.facts ports g := by
    have told := decode_text o given f allowed
    rw [same, decode_text o given g allowed] at told
    exact (Option.some.inj told).symm
  have interfaces : (o.machine.interfaces.getD []).map (fun i =>
      (i, Outline.network o.machine i, f i)) =
      (o.machine.interfaces.getD []).map fun i => (i, Outline.network o.machine i, g i) :=
    congrArg Facts.interfaces facts
  intro i listed
  have told := List.map_inj_left.mp interfaces i listed
  exact congrArg (fun t => t.2.2) told

/-- The key is found by a name that leads out of the directory of interfaces. -/
theorem found_secret (bytes : List UInt8) :
    (orderFor ["../key"]).found (secretTree bytes) "../key" =
      .ok (some (String.ofList (Network.address bytes))) := by
  have free := secretTree_linkFree bytes
  have short : ¬Files.Tree.maxPath < (Network.addressPath (orderFor []).interfaces
      "../key").toString.utf8ByteSize := by decide
  have names : (Files.Path.ofString "../key").names ++ [Network.addressFile] =
      ["..", "key", "address"] := by decide
  have start : Network.startOf ["net"] "../key" = ["net"] := by decide
  have up : (secretTree bytes).walk true Files.Tree.maxLinks ["net"] ["..", "key", "address"] =
      (secretTree bytes).walk true Files.Tree.maxLinks [] ["key", "address"] := by
    rw [Files.Tree.walk_neighbour free]
    rfl
  have down : (secretTree bytes).walk true Files.Tree.maxLinks [] ["key", "address"] =
      .ok (.entry ["key", "address"] (.file bytes)) := by
    rw [Files.Tree.walk_of_entry rfl (by decide) (by decide) rfl (by simp) true _ (by simp)]
    exact Files.Tree.walk_of_last rfl (by decide) (by decide) (free _) true _
  have arrives : (secretTree bytes).resolve true (Network.addressPath ⟨.root, ["net"]⟩ "../key") =
      .ok (.entry ["key", "address"] (.file bytes)) := by
    have resolved := Network.resolve_addressPath free (secretTree_directory bytes []) "../key"
    rw [if_neg short, names, start, up, down] at resolved
    exact resolved
  have clear : (Network.addressPath ⟨.root, ["net"]⟩ "../key").hasNull = false := by decide
  rw [Order.found_of_plain rfl]
  change foundIn (secretTree bytes) ⟨.root, ["net"]⟩ "../key" = _
  unfold foundIn Network.findAddress Files.Tree.read
  dsimp only
  rw [clear, arrives]
  rfl

/-- **An interface that leads out of the directory makes a document tell of another file.** The
trees are alike but for the bytes of a file beside the directory of interfaces. -/
theorem render_secret_told :
    (secretTree [0x61]).LinkFree ∧ (secretTree [0x62]).LinkFree ∧
      (secretTree [0x61]).HasDirectory (orderFor ["../key"]).interfaces ["net"] ∧
      (secretTree [0x62]).HasDirectory (orderFor ["../key"]).interfaces ["net"] ∧
      AgreeBelow ["net"] (secretTree [0x61]) (secretTree [0x62]) ∧
      (render (orderFor ["../key"]) (secretTree [0x62]) smallJournal).1 ≠
        (render (orderFor ["../key"]) (secretTree [0x61]) smallJournal).1 := by
  refine ⟨secretTree_linkFree _, secretTree_linkFree _, secretTree_directory _ _,
    secretTree_directory _ _, secretTree_agree _ _, fun same => ?_⟩
  have allowed : hasDoubleHyphen (orderFor ["../key"]).program.toList = false := by decide
  have given : (orderFor ["../key"]).ports = [10809].map .int := rfl
  have rendered : ∀ bytes, (render (orderFor ["../key"]) (secretTree bytes) smallJournal).1 =
      .ok (Outline.text (orderFor ["../key"]) fun i =>
        ((orderFor ["../key"]).found (secretTree bytes) i).address) := by
    intro bytes
    have answered : ∀ i ∈ (orderFor ["../key"]).machine.interfaces.getD [],
        foundFaults ((orderFor ["../key"]).found (secretTree bytes) i) = [] := by
      intro i listed
      obtain rfl : i = "../key" := List.mem_singleton.mp listed
      rw [found_secret]
      rfl
    have undisturbed : (orderFor ["../key"]).Undisturbed (secretTree bytes) smallJournal.files :=
      Order.undisturbed_fresh _ _ _
    have faultless : (orderFor ["../key"]).faults
        ((orderFor ["../key"]).found (secretTree bytes)) = [] := by
      rw [faults_of_short given smallOrder_short, List.flatMap_eq_nil_iff.mpr answered]
      rfl
    rw [render_outcome undisturbed]
    exact outcome_of_faultless none allowed faultless
  rw [rendered, rendered] at same
  have told := addresses_of_text given allowed (Except.ok.inj same) "../key" (by decide)
  rw [found_secret, found_secret] at told
  exact absurd told (by decide +kernel)

/-- A journal with a log file where the address of an interface is looked up. -/
def intrudingJournal : Log.Journal :=
  { smallJournal with
    level := some Log.debug
    outlets := [⟨.json true, .file ["net", "eth0", "address"]⟩] }

theorem secretTree_hasRoom (bytes : List UInt8) :
    (secretTree bytes).HasRoom intrudingJournal.files := by
  intro l listed e found
  obtain rfl : l = ["net", "eth0", "address"] := List.mem_singleton.mp listed
  obtain rfl := Option.some.inj found
  rfl

/-- Names that lead to the directory of interfaces from elsewhere tell nothing of the key, and
neither does the journal, whose lines are read as addresses. -/
theorem render_secret_kept :
    (render (orderFor ["eth0", "/net/eth0", "../net/eth0", ""]) (secretTree [0x62])
      intrudingJournal).1 =
    (render (orderFor ["eth0", "/net/eth0", "../net/eth0", ""]) (secretTree [0x61])
      intrudingJournal).1 :=
  (render_confined (secretTree_linkFree _) (secretTree_linkFree _) (secretTree_directory _ _)
    (secretTree_directory _ _) (secretTree_agree _ _) (secretTree_hasRoom _)
    (secretTree_hasRoom _)).1 (by decide +kernel)

end MachineDescriptor.Document
