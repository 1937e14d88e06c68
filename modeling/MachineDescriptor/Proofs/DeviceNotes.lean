import MachineDescriptor.Proofs.Bindings
import MachineDescriptor.Proofs.Decoding
import MachineDescriptor.Proofs.Templates

/-!
Notes about devices. A note tells of a disk, of a removable drive or of an interface what the
document does, and which notes there are is told by the devices in the document. For each note there
is a record, with a speaker and a message.
-/
namespace MachineDescriptor.Document

open Xml
open Log (Record)

/-! ## Notes -/

/-- A note about a device, or about an address that could not be read. -/
inductive Note where
  | disk (index : Nat) (name target : String) (port : Int)
  | removable (target : String)
  | noAddress (name : String) (path : Files.Path) (why : Files.Refusal)
  | interface (name network : String) (address : Option String)

/-- How an address is noted: one that is missing or empty is a hyphen. -/
def addressWord : Option String → String
  | some address => if address = "" then "-" else address
  | none => "-"

theorem addressNote_eq (address : Option String) : addressNote address = addressWord address := by
  cases address with
  | none => rfl
  | some text => simp [addressNote, addressWord]

/-- The record of a note. That an address could not be read is said without mention of the
machine. -/
def Note.record (o : Order) (s : Log.Surroundings) : Note → Record
  | disk index name target port =>
    Log.Journal.recordOf s o.guide Log.debug (.text "disk %d: %s -> target %s (nbd port %d)")
      [.int index, .text name, .text target, .int port] none
  | removable target =>
    Log.Journal.recordOf s o.guide Log.debug (.text "removable: target %s") [.text target] none
  | noAddress name path why =>
    Log.Journal.recordOf s networkLogger Log.debug (.text "No MAC address for %s (%s): %s")
      [.text name, .text path.toString, .text why.message] none
  | interface name network address =>
    Log.Journal.recordOf s o.guide Log.debug (.text "interface %s -> network %s (mac=%s)")
      [.text name, .text network, .text (addressWord address)] none

/-- The notes about disks that are named in one list and told in another. -/
def diskNotes (index : Nat) : List String → List (String × Int) → List Note
  | name :: names, (target, port) :: rest =>
    .disk index name target port :: diskNotes (index + 1) names rest
  | _, _ => []

/-- The notes about interfaces that are told with their networks and addresses: one for each, and
one more before it where there is no address. -/
inductive InterfaceNotes (directory : Files.Path) :
    List (String × String × Option String) → List Note → Prop where
  | nil : InterfaceNotes directory [] []
  | addressed {name network address : String} {rest : List (String × String × Option String)}
      {notes : List Note} (others : InterfaceNotes directory rest notes) :
      InterfaceNotes directory ((name, network, some address) :: rest)
        (.interface name network (some address) :: notes)
  | unaddressed {name network : String} {rest : List (String × String × Option String)}
      {notes : List Note} (why : Files.Refusal) (others : InterfaceNotes directory rest notes) :
      InterfaceNotes directory ((name, network, none) :: rest)
        (.noAddress name (Outline.addressPath directory name) why ::
          .interface name network none :: notes)

/-- The notes about all the devices that a document tells of. -/
def DeviceNotes (o : Order) (facts : Facts) (notes : List Note) : Prop :=
  ∃ last, InterfaceNotes o.interfaces facts.interfaces last ∧
    notes = diskNotes 0 o.machine.disks facts.disks ++ facts.removable.map .removable ++ last

/-- The disks that there are ports for, each with its target and its port. -/
def Order.reached (o : Order) (ports : List Int) : List (String × Int) :=
  (Outline.targets o.machine.disks).zip ports

/-! ## What a note's record tells -/

/-- The words of a note. -/
def Note.pieces : Note → List Template.Piece
  | disk index name target port =>
    [.plain "disk ", .number index, .plain ": ", .text name, .plain " -> target ", .text target,
      .plain " (nbd port ", .number port, .plain ")"]
  | removable target => [.plain "removable: target ", .text target]
  | noAddress name path why =>
    [.plain "No MAC address for ", .text name, .plain " (", .text path.toString, .plain "): ",
      .text why.message]
  | interface name network address =>
    [.plain "interface ", .text name, .plain " -> network ", .text network, .plain " (mac=",
      .text (addressWord address), .plain ")"]

/-- The text of a note. -/
def Note.text (note : Note) : List Char := note.pieces.flatMap Template.Piece.shown

/-- The integers of a note are not too long to be written. -/
def Note.IsShort : Note → Prop
  | disk index _ _ port => Integer.isWritable index = true ∧ Integer.isWritable port = true
  | _ => True

theorem Note.fits_pieces {note : Note} (short : note.IsShort) : ∀ p ∈ note.pieces, p.Fits := by
  cases note with
  | disk index name target port =>
    obtain ⟨counted, port⟩ := short
    simp [pieces, Template.Piece.Fits, counted, port]
  | removable target => simp [pieces, Template.Piece.Fits]
  | noAddress name path why => simp [pieces, Template.Piece.Fits]
  | interface name network address => simp [pieces, Template.Piece.Fits]

/-- The message of a note's record is the text of the note. -/
theorem Note.message_record (o : Order) (s : Log.Surroundings) {note : Note}
    (short : note.IsShort) : (note.record o s).message = .ok note.text := by
  have fits := fits_pieces short
  cases note <;>
    exact Record.message_of_pieces _ rfl (by simp [pieces, Template.Piece.source]) rfl rfl fits

theorem contextOf_some (speaker : Log.Speaker) {call : Context} {name : String} {v : Value}
    (bound : call.find? name = some v) :
    ∃ c, speaker.contextOf (some call) = some c ∧ c.find? name = some v := by
  induction speaker generalizing call with
  | logger _ => exact ⟨call, rfl, bound⟩
  | bound inner own ih =>
    have merged : (own.merge call).find? name = some v := by
      rw [Context.find?_merge, bound]
      rfl
    exact ih merged

/-- Whoever speaks of the work, the machine's name is mentioned. -/
theorem guide_mentions (o : Order) :
    ∃ c, o.guide.contextOf none = some c ∧ c.find? "guest" = some (.text o.machine.name) :=
  contextOf_some o.speaker rfl

/-- Who is heard in the record of a note. A device is noted by whoever speaks of the work, together
with the name of the machine; an address that could not be read is noted without it. -/
def Note.IsVoicedBy (o : Order) (r : Record) : Note → Prop
  | noAddress .. => r.logger = "phys2kvm.p2v.network" ∧ r.context = none
  | _ => r.logger = o.speaker.name ∧
    ∃ c, r.context = some c ∧ c.find? "guest" = some (.text o.machine.name)

theorem Note.isVoicedBy_record (o : Order) (s : Log.Surroundings) (note : Note) :
    note.IsVoicedBy o (note.record o s) ∧ (note.record o s).level = Log.debug := by
  cases note with
  | noAddress name path why => exact ⟨⟨rfl, rfl⟩, rfl⟩
  | disk index name target port => exact ⟨⟨rfl, guide_mentions o⟩, rfl⟩
  | removable target => exact ⟨⟨rfl, guide_mentions o⟩, rfl⟩
  | interface name network address => exact ⟨⟨rfl, guide_mentions o⟩, rfl⟩

/-! ## Short notes -/

/-- There are as many notes about disks as disks are told of. -/
theorem length_diskNotes (index : Nat) (names : List String) (told : List (String × Int)) :
    (diskNotes index names told).length = min names.length told.length := by
  induction names generalizing index told with
  | nil => simp [diskNotes]
  | cons name names ih =>
    cases told with
    | nil => simp [diskNotes]
    | cons d rest => simp [diskNotes, ih, Nat.add_min_add_right]

theorem diskNotes_isShort {index : Nat} {names : List String} {told : List (String × Int)}
    (counted : Integer.isWritable ((index + names.length : Nat) : Int) = true)
    (ports : ∀ d ∈ told, Integer.isWritable d.2 = true) :
    ∀ note ∈ diskNotes index names told, note.IsShort := by
  induction names generalizing index told with
  | nil =>
    intro note listed
    cases listed
  | cons name names ih =>
    cases told with
    | nil =>
      intro note listed
      cases listed
    | cons d rest =>
      obtain ⟨first, others⟩ := List.forall_mem_cons.mp ports
      have own : Integer.isWritable index = true :=
        Integer.isWritable_of_natAbs_le (Nat.le_add_right index _) counted
      rw [List.length_cons, ← Nat.add_assoc, Nat.add_right_comm] at counted
      exact List.forall_mem_cons.mpr ⟨⟨own, first⟩, ih counted others⟩

theorem InterfaceNotes.isShort {directory : Files.Path}
    {told : List (String × String × Option String)} {notes : List Note}
    (these : InterfaceNotes directory told notes) : ∀ note ∈ notes, note.IsShort := by
  induction these with
  | nil =>
    intro note listed
    cases listed
  | addressed _ ih => exact List.forall_mem_cons.mpr ⟨trivial, ih⟩
  | unaddressed why _ ih =>
    exact List.forall_mem_cons.mpr ⟨trivial, List.forall_mem_cons.mpr ⟨trivial, ih⟩⟩

theorem DeviceNotes.isShort {o : Order} {facts : Facts} {notes : List Note}
    (these : DeviceNotes o facts notes)
    (counted : Integer.isWritable o.machine.disks.length = true)
    (ports : ∀ d ∈ facts.disks, Integer.isWritable d.2 = true) :
    ∀ note ∈ notes, note.IsShort := by
  obtain ⟨last, interfaces, rfl⟩ := these
  rw [← Nat.zero_add o.machine.disks.length] at counted
  intro note listed
  rcases List.mem_append.mp listed with earlier | here
  · rcases List.mem_append.mp earlier with here | here
    · exact diskNotes_isShort counted ports note here
    · obtain ⟨device, -, rfl⟩ := List.mem_map.mp here
      trivial
  · exact interfaces.isShort note here

end MachineDescriptor.Document
