import MachineDescriptor.Document.Writing
import MachineDescriptor.Proofs.Journals
import MachineDescriptor.Proofs.Keeping

/-!
What the whole work on a document keeps. The work consists of operations of the writer, of notes in
the journal and of searches for addresses, so that whatever holds of all of these holds of the work
from the start of the document to its end, or up to the point where it is given up.
-/
namespace MachineDescriptor.Document

open Xml

/-! ## Parts of the document -/

section

variable {κ : Type} [Stream (κ × Files.Tree)]

/-- The element of the operating system, which tells the architecture. -/
def systemElement (architecture : String) : Work κ Unit :=
  framed "os" [] (labelled "type" [("arch", architecture)] (.text "hvm"))

/-- The element of a disk. -/
def diskElement (device : String) (port : Value) : Work κ Unit :=
  framed "disk" [("type", "network"), ("device", "disk")] do
    bare "driver" [("name", "qemu"), ("type", "raw")]
    framed "source" [("protocol", "nbd")] do
      emptyElement "host" [("name", .text "localhost"), ("port", port)]
    bare "target" [("dev", device)]

/-- The element of a removable drive. -/
def removableElement (device : String) : Work κ Unit :=
  framed "disk" [("type", "network"), ("device", "cdrom")] do
    bare "driver" [("name", "qemu"), ("type", "raw")]
    bare "target" [("dev", device)]

/-- The element of an interface. -/
def interfaceElement (interface network : String) (address : Option String) : Work κ Unit :=
  framed "interface" [("type", "network")] do
    bare "source" [("network", network)]
    bare "target" [("dev", interface)]
    ifGiven address fun address => bare "mac" [("address", address)]

/-- The document after its declaration. -/
def afterDeclaration (o : Order) : Work κ Unit := do
  comment (" " ++ o.program ++ " " ++ version ++ " ")
  comment note
  framed "domain" [("type", "physical")] (writeMachine o)
  endDocument

theorem write_eq (o : Order) :
    (write o : Work κ Unit) = startDocument >>= fun _ => afterDeclaration o := rfl

end

section

variable {κ μ : Type} [Stream (κ × Files.Tree)] [Stream (μ × Files.Tree)]
  {holds : ∀ {α : Type}, Work κ α → Work μ α → Prop}

section

variable (composes : Composes holds)

include composes

theorem ifGiven_composes {α : Type} (given : Option α) {f : α → Work κ Unit} {g : α → Work μ Unit}
    (each : ∀ a, holds (f a) (g a)) : holds (ifGiven given f) (ifGiven given g) := by
  cases given with
  | none => exact composes.answer _
  | some a => exact each a

theorem labelled_composes (name : String) (attributes : List (String × String)) (v : Value) :
    holds (labelled name attributes v) (labelled name attributes v) :=
  element_composes composes name _ (text_composes composes v)

theorem framed_composes (name : String) (attributes : List (String × String))
    {a : Work κ Unit} {b : Work μ Unit} (inner : holds a b) :
    holds (framed name attributes a) (framed name attributes b) :=
  element_composes composes name _ inner

theorem bare_composes (name : String) (attributes : List (String × String)) :
    holds (bare name attributes) (bare name attributes) :=
  emptyElement_composes composes name _

theorem count_composes (name : String) (n : Int) : holds (count name n) (count name n) :=
  holds_ite (composes.answer _) (setAttribute_composes composes name _)

theorem writeProcessor_composes (p : Processor) :
    holds (writeProcessor p) (writeProcessor p) := by
  refine holds_ite (composes.answer _) (framed_composes composes _ _ ?_)
  refine composes.follow
    (ifGiven_composes composes _ fun vendor => singleElement_composes composes _ _) fun _ => ?_
  refine composes.follow
    (ifGiven_composes composes _ fun model => labelled_composes composes _ _ _) fun _ => ?_
  refine holds_ite (framed_composes composes _ _ ?_) (composes.answer _)
  refine composes.follow (count_composes composes _ _) fun _ => ?_
  exact composes.follow (count_composes composes _ _) fun _ => count_composes composes _ _

theorem writeClock_composes (c : Clock) : holds (writeClock c) (writeClock c) := by
  unfold writeClock
  cases c.basis with
  | unknown => exact composes.answer _
  | localtime => exact bare_composes composes _ _
  | utc => exact holds_ite (bare_composes composes _ _) (emptyElement_composes composes _ _)

theorem writeFeatures_composes (p : Processor) : holds (writeFeatures p) (writeFeatures p) := by
  have pae := holds_ite (c := p.pae = true) (bare_composes composes "pae" []) (composes.answer ())
  have apic := holds_ite (c := p.apic = true)
    (composes.follow (bare_composes composes "apic" []) fun _ => pae) pae
  have acpi := holds_ite (c := p.acpi = true)
    (composes.follow (bare_composes composes "acpi" []) fun _ => apic) apic
  exact framed_composes composes _ _ acpi

theorem systemElement_composes (architecture : String) :
    holds (systemElement architecture) (systemElement architecture) :=
  framed_composes composes _ _ (labelled_composes composes _ _ _)

theorem diskElement_composes (device : String) (port : Value) :
    holds (diskElement device port) (diskElement device port) := by
  refine framed_composes composes _ _ ?_
  refine composes.follow (bare_composes composes _ _) fun _ => ?_
  refine composes.follow
    (framed_composes composes _ _ (emptyElement_composes composes _ _)) fun _ => ?_
  exact bare_composes composes _ _

theorem removableElement_composes (device : String) :
    holds (removableElement device) (removableElement device) :=
  framed_composes composes _ _
    (composes.follow (bare_composes composes _ _) fun _ => bare_composes composes _ _)

theorem interfaceElement_composes (interface network : String) (address : Option String) :
    holds (interfaceElement interface network address)
      (interfaceElement interface network address) := by
  refine framed_composes composes _ _ ?_
  refine composes.follow (bare_composes composes _ _) fun _ => ?_
  refine composes.follow (bare_composes composes _ _) fun _ => ?_
  exact ifGiven_composes composes _ fun address => bare_composes composes _ _

end

/-- A statement that passes from the operations of the writer, the notes in the journal and the
searches for addresses to all the work on an order. -/
structure Pervades (o : Order) (holds : ∀ {α : Type}, Work κ α → Work μ α → Prop) : Prop
    extends Composes holds where
  say : ∀ speaker level template arguments,
    holds (say speaker level template arguments) (say speaker level template arguments)
  lookUp : ∀ interface ∈ o.machine.interfaces.getD [],
    holds (lookUpAddress o.letters o.interfaces interface)
      (lookUpAddress o.letters o.interfaces interface)
  missingPort : holds (throw (.fault .missingPort) : Work κ Unit) (throw (.fault .missingPort))

variable {o : Order} (pervades : Pervades o holds)

include pervades

theorem writeDisk_pervaded (guide : Log.Speaker) (ports : List Value) (index : Nat)
    (disk : String) :
    holds (writeDisk guide ports index disk) (writeDisk guide ports index disk) := by
  unfold writeDisk
  cases ports[index]? with
  | none => exact pervades.missingPort
  | some port =>
    exact pervades.follow (pervades.say _ _ _ _) fun _ =>
      diskElement_composes pervades.toComposes _ port

theorem writeDisks_pervaded (guide : Log.Speaker) (ports : List Value) (index : Nat)
    (disks : List String) :
    holds (writeDisks guide ports index disks) (writeDisks guide ports index disks) := by
  induction disks generalizing index with
  | nil => exact pervades.answer _
  | cons disk rest ih =>
    exact pervades.follow (writeDisk_pervaded pervades guide ports index disk) fun _ =>
      ih (index + 1)

theorem writeRemovable_pervaded (guide : Log.Speaker) (device : String) :
    holds (writeRemovable guide device) (writeRemovable guide device) :=
  pervades.follow (pervades.say _ _ _ _) fun _ =>
    removableElement_composes pervades.toComposes device

theorem writeInterface_pervaded {interface : String}
    (listed : interface ∈ o.machine.interfaces.getD []) :
    holds (writeInterface o interface) (writeInterface o interface) := by
  unfold writeInterface
  refine pervades.follow (pervades.lookUp interface listed) fun address => ?_
  exact pervades.follow (pervades.say _ _ _ _) fun _ =>
    interfaceElement_composes pervades.toComposes interface _ address

theorem writeMachine_pervaded : holds (writeMachine o) (writeMachine o) := by
  have composes := pervades.toComposes
  refine pervades.follow (singleElement_composes composes _ _) fun _ => ?_
  refine pervades.follow (labelled_composes composes _ _ _) fun _ => ?_
  refine pervades.follow (labelled_composes composes _ _ _) fun _ => ?_
  refine pervades.follow (singleElement_composes composes _ _) fun _ => ?_
  refine pervades.follow (writeProcessor_composes composes _) fun _ => ?_
  refine pervades.follow (writeClock_composes composes _) fun _ => ?_
  refine pervades.follow (systemElement_composes composes _) fun _ => ?_
  refine pervades.follow (writeFeatures_composes composes _) fun _ =>
    framed_composes composes _ _ ?_
  refine pervades.follow (writeDisks_pervaded pervades _ _ _ _) fun _ => ?_
  refine pervades.follow
    (forM_composes composes fun device _ => writeRemovable_pervaded pervades _ device) fun _ => ?_
  exact forM_composes composes fun interface listed => writeInterface_pervaded pervades listed

/-! ## The document -/

theorem afterDeclaration_pervaded : holds (afterDeclaration o) (afterDeclaration o) := by
  have composes := pervades.toComposes
  refine pervades.follow (comment_composes composes _) fun _ => ?_
  refine pervades.follow (comment_composes composes _) fun _ => ?_
  refine pervades.follow
    (framed_composes composes _ _ (writeMachine_pervaded pervades)) fun _ => ?_
  exact endDocument_composes composes

theorem write_pervaded : holds (write o) (write o) :=
  pervades.follow (startDocument_composes pervades.toComposes) fun _ =>
    afterDeclaration_pervaded pervades

end

/-! ## What the work keeps -/

variable {κ : Type} {keeps : Desk κ → Prop} {fails : Failure → Desk κ → Prop}
  {path : Option String}

/-- No address that is looked up stops a run. -/
theorem not_isStop_of_lookUp {letters : Text.Letters} {tree : Files.Tree}
    {directory : Files.Path} {interface : String} {f : Fault}
    (failed : Network.lookUp letters tree directory interface = .error f) : f.isStop = false := by
  rcases Network.lookUp_cases letters tree directory interface with
    ⟨codes, -, stray⟩ | ⟨-, ⟨-, null⟩ | ⟨-, ⟨bytes, -, found⟩ | ⟨why, -, unreadable⟩⟩⟩
  · rw [stray] at failed
    cases failed
    rfl
  · rw [null] at failed
    cases failed
    rfl
  · rw [found] at failed
    cases failed
  · rw [unreadable] at failed
    cases failed

/-- A step on the paper of a desk leaves the journal alone. -/
theorem onStream_files (files : List Files.Location) (op : Operation) (path : Option String)
    {step : EStateM Fault (κ × Files.Tree) Unit} :
    Keeps (fun d : Desk κ => d.journal.files = files) (fun _ d => d.journal.files = files) path
      (onStream op (Desk.onPaper step)) := by
  intro w named kept
  simp only [onStream, Desk.onPaper]
  cases step (w.stream.paper, w.stream.tree) with
  | ok u s => exact ⟨kept, named⟩
  | error f s => exact ⟨kept, named⟩

variable [Stream (κ × Files.Tree)]

/-- The writer's own steps and the notes in the journal keep a property of the desk, or they fail in
a known way. -/
structure Bides (keeps : Desk κ → Prop) (fails : Failure → Desk κ → Prop)
    (path : Option String) : Prop extends Guards keeps fails path where
  say : ∀ speaker level template arguments,
    Keeps keeps fails path (say speaker level template arguments : Work κ Unit)

variable (bides : Bides keeps fails path)

include bides

theorem throw_keeps {α : Type} {f : Fault} (goesOn : f.isStop = false) :
    Keeps keeps fails path (throw (.fault f) : Work κ α) :=
  fun _ named kept => ⟨bides.fault goesOn kept, named⟩

theorem lookUpAddress_keeps (letters : Text.Letters) (directory : Files.Path)
    (interface : String) :
    Keeps keeps fails path
      (lookUpAddress letters directory interface : Work κ (Option String)) := by
  unfold lookUpAddress theTree
  refine Keeps.bind (Keeps.get fun w => Keeps.pure _) fun tree => ?_
  split
  · next f failed => exact throw_keeps bides (not_isStop_of_lookUp failed)
  · exact Keeps.pure _
  · exact Keeps.bind (bides.say _ _ _ _) fun _ => Keeps.pure _

theorem Bides.pervades (o : Order) :
    Pervades o fun {α : Type} (a _ : Work κ α) => Keeps keeps fails path a where
  toComposes := bides.toGuards.composes
  say := bides.say
  lookUp interface _ := lookUpAddress_keeps bides o.letters o.interfaces interface
  missingPort := throw_keeps bides (by decide)

theorem afterDeclaration_keeps (o : Order) :
    Keeps keeps fails path (afterDeclaration o : Work κ Unit) :=
  afterDeclaration_pervaded (bides.pervades o)

theorem write_keeps (o : Order) : Keeps keeps fails path (write o : Work κ Unit) :=
  write_pervaded (bides.pervades o)

omit bides

/-! ## The journal -/

/-- No work on a document changes which log files there are. -/
theorem files_bides (files : List Files.Location) (path : Option String) :
    Bides (fun d : Desk κ => d.journal.files = files) (fun _ d => d.journal.files = files)
      path where
  write op _ := onStream_files files op path
  flush op := onStream_files files op path
  refuse _ _ _ named kept := ⟨kept, named⟩
  fault _ kept := kept
  say speaker level template arguments := fun _ named kept =>
    ⟨(Log.Journal.say_files speaker level template arguments none _).trans kept, named⟩

end MachineDescriptor.Document
