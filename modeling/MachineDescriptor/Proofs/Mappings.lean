import MachineDescriptor.Proofs.Rendering
import MachineDescriptor.Proofs.Rules

/-!
The mapping of a machine. Each field of a machine and the ports of its disks have a place in it, in
whatever order. What is under a key is found wherever it stands, and each field is typed as what was
put there; a mapping of short integers is plain.
-/
namespace MachineDescriptor.Typing

open Document (integersOf)
open Value (isPlainScalar everyEntry everyOf_of_forall everyEntry_of_forall)

/-! ## Members -/

/-- A text, or nothing. -/
def textOrNull (given : Option String) : Value := (given.map .text).getD .null

/-- A list of texts; one that was not collected is nothing. -/
def textsOrNull (given : Option (List String)) : Value :=
  (given.map fun ss => .list (ss.map .text)).getD .null

def processorMembers (p : Processor) : Fields := [
  (.text "vendor", textOrNull p.vendor),
  (.text "model", textOrNull p.model),
  (.text "sockets", .int p.sockets),
  (.text "cores", .int p.cores),
  (.text "threads", .int p.threads),
  (.text "acpi", .bool p.acpi),
  (.text "apic", .bool p.apic),
  (.text "pae", .bool p.pae)]

def clockMembers (c : Clock) : Fields := [
  (.text "basis", .text c.basis.word),
  (.text "offset", .int c.offset)]

def machineMembers (processor clock : Fields) (m : Machine) (ports : List Int) : Fields := [
  (.text "guestname", .text m.name),
  (.text "memory", .int m.memory),
  (.text "vcpus", .int m.processors),
  (.text "cpu", .dict processor),
  (.text "rtc", .dict clock),
  (.text "disks", .list (m.disks.map .text)),
  (.text "removable", textsOrNull m.removable),
  (.text "interfaces", textsOrNull m.interfaces),
  (.text "network_map", textsOrNull m.networkRules),
  (.text "nbd_ports", .list (ports.map .int))]

/-- A mapping of a machine and the ports of its disks, with its members in any order. -/
inductive IsMappingOf (m : Machine) (ports : List Int) : Fields → Prop where
  | mk {processor clock fields : Fields} (first : processor.Perm (processorMembers m.processor))
      (second : clock.Perm (clockMembers m.clock))
      (all : fields.Perm (machineMembers processor clock m ports)) : IsMappingOf m ports fields

/-! ## Looking up -/

/-- Whether no two entries of a mapping are under one word. -/
def Distinct (es : Fields) : Prop := (es.map fun e => e.1.text?).Nodup

theorem lookup_of_mem {word : String} {v : Value} {es : Fields} (distinct : Distinct es)
    (listed : (.text word, v) ∈ es) : Value.lookup word es = some v := by
  induction es with
  | nil => cases listed
  | cons e rest ih =>
    obtain ⟨k, w⟩ := e
    obtain ⟨apart, others⟩ := List.nodup_cons.mp distinct
    obtain same | later := List.mem_cons.mp listed
    · obtain ⟨rfl, rfl⟩ := Prod.mk.inj same
      rw [Value.lookup, if_pos (by rw [Value.text?]; exact beq_self_eq_true _)]
    · have other : ¬ (k.text? == some word) = true := by
        intro same
        exact apart (List.mem_map.mpr ⟨_, later, (eq_of_beq same).symm⟩)
      rw [Value.lookup, if_neg other]
      exact ih others later

theorem Distinct.perm {es es' : Fields} (distinct : Distinct es') (perm : es.Perm es') :
    Distinct es := (perm.map _).nodup_iff.mpr distinct

/-- A member of a mapping is found under its word in whatever order the members stand. -/
theorem lookup_of_perm {word : String} {v : Value} {es es' : Fields} (distinct : Distinct es')
    (perm : es.Perm es') (listed : (.text word, v) ∈ es') : Value.lookup word es = some v :=
  lookup_of_mem (distinct.perm perm) (perm.mem_iff.mpr listed)

theorem distinct_processorMembers (p : Processor) : Distinct (processorMembers p) := by
  have words : (processorMembers p).map (fun e => e.1.text?) = ["vendor", "model", "sockets",
    "cores", "threads", "acpi", "apic", "pae"].map some := rfl
  rw [Distinct, words]
  decide

theorem distinct_clockMembers (c : Clock) : Distinct (clockMembers c) := by
  have words : (clockMembers c).map (fun e => e.1.text?) = ["basis", "offset"].map some := rfl
  rw [Distinct, words]
  decide

theorem distinct_machineMembers (processor clock : Fields) (m : Machine) (ports : List Int) :
    Distinct (machineMembers processor clock m ports) := by
  have words : (machineMembers processor clock m ports).map (fun e => e.1.text?) = ["guestname",
    "memory", "vcpus", "cpu", "rtc", "disks", "removable", "interfaces", "network_map",
    "nbd_ports"].map some := rfl
  rw [Distinct, words]
  decide

/-! ## Fields -/

section

variable {fields : Fields} {key label : String}

theorem flag_of_bool {b : Bool} (found : Value.lookup key fields = some (.bool b)) (label : String) :
    flag fields key label = .ok b := by
  rw [flag, found]

theorem optionalText_of_given {given : Option String}
    (found : Value.lookup key fields = some (textOrNull given)) (label : String) :
    optionalText fields key label = .ok given := by
  rw [optionalText, found]
  cases given <;> rfl

theorem textsFrom_map (name : String) (index : Nat) (ss : List String) :
    textsFrom name index (ss.map .text) = .ok ss := by
  induction ss generalizing index with
  | nil => rfl
  | cons s rest ih =>
    rw [List.map_cons, textsFrom]
    change (textsFrom name (index + 1) (rest.map .text)).map (s :: ·) = _
    rw [ih]
    rfl

theorem group_of_mapping {entries : Fields} (found : Value.lookup key fields = some (.dict entries)) :
    group fields key = .ok entries :=
  group_of_dict (by rw [found]; rfl)

end

variable {m : Machine} {ports : List Int} {fields : Fields}

theorem lookup_ports (mapping : IsMappingOf m ports fields) :
    Value.lookup "nbd_ports" fields = some (.list (ports.map .int)) := by
  obtain ⟨-, -, all⟩ := mapping
  exact lookup_of_perm (distinct_machineMembers _ _ m ports) all (by simp [machineMembers])

theorem portsFrom_map (index : Nat) (ports : List Int) :
    portsFrom index (ports.map .int) = .ok ports := by
  induction ports generalizing index with
  | nil => rfl
  | cons n rest ih =>
    rw [List.map_cons, portsFrom]
    change (portsFrom (index + 1) (rest.map .int)).map (n :: ·) = _
    rw [ih]
    rfl

/-! ## Mappings of short integers are plain -/

theorem isPlain_int {n : Int} (short : Integer.isWritable n = true) :
    (Value.int n).isPlain = true := by
  unfold Value.isPlain Value.every Value.isPlainScalar
  exact short

theorem isPlain_textOrNull (given : Option String) : (textOrNull given).isPlain = true := by
  cases given <;> rfl

theorem isPlain_texts (ss : List String) : (Value.list (ss.map .text)).isPlain = true := by
  refine everyOf_of_forall fun v listed => ?_
  obtain ⟨s, -, rfl⟩ := List.mem_map.mp listed
  rfl

theorem isPlain_textsOrNull (given : Option (List String)) : (textsOrNull given).isPlain = true := by
  cases given with
  | none => rfl
  | some ss => exact isPlain_texts ss

/-- A mapping whose members are in another order holds the same. -/
theorem everyEntry_of_perm {es es' : Fields} (perm : es.Perm es')
    (all : ∀ e ∈ es', e.1.isPlain = true ∧ e.2.isPlain = true) :
    everyEntry isPlainScalar es = true :=
  everyEntry_of_forall fun e listed => all e (perm.mem_iff.mp listed)

theorem isPlain_of_mapping (short : ∀ n ∈ integersOf m ++ ports, Integer.isWritable n = true)
    (mapping : IsMappingOf m ports fields) : (Value.dict fields).isPlain = true := by
  obtain ⟨first, second, all⟩ := mapping
  rename_i processor clock
  have word : ∀ w, (Value.text w).isPlain = true := fun _ => rfl
  have int : ∀ n ∈ integersOf m, (Value.int n).isPlain = true :=
    fun n listed => isPlain_int (short n (List.mem_append_left _ listed))
  have inProcessor : (Value.dict processor).isPlain = true := by
    refine everyEntry_of_perm first ?_
    simp only [processorMembers, List.forall_mem_cons]
    exact ⟨⟨word _, isPlain_textOrNull _⟩, ⟨word _, isPlain_textOrNull _⟩,
      ⟨word _, int _ (by simp [integersOf])⟩, ⟨word _, int _ (by simp [integersOf])⟩,
      ⟨word _, int _ (by simp [integersOf])⟩, ⟨word _, rfl⟩, ⟨word _, rfl⟩, ⟨word _, rfl⟩,
      List.forall_mem_nil _⟩
  have inClock : (Value.dict clock).isPlain = true := by
    refine everyEntry_of_perm second ?_
    simp only [clockMembers, List.forall_mem_cons]
    exact ⟨⟨word _, word _⟩, ⟨word _, int _ (by simp [integersOf])⟩, List.forall_mem_nil _⟩
  have inPorts : (Value.list (ports.map .int)).isPlain = true := by
    refine everyOf_of_forall fun v listed => ?_
    obtain ⟨n, here, rfl⟩ := List.mem_map.mp listed
    exact isPlain_int (short n (List.mem_append_right _ here))
  refine everyEntry_of_perm all ?_
  simp only [machineMembers, List.forall_mem_cons]
  exact ⟨⟨word _, word _⟩, ⟨word _, int _ (by simp [integersOf])⟩,
    ⟨word _, int _ (by simp [integersOf])⟩, ⟨word _, inProcessor⟩, ⟨word _, inClock⟩,
    ⟨word _, isPlain_texts _⟩, ⟨word _, isPlain_textsOrNull _⟩, ⟨word _, isPlain_textsOrNull _⟩,
    ⟨word _, isPlain_textsOrNull _⟩, ⟨word _, inPorts⟩, List.forall_mem_nil _⟩

end MachineDescriptor.Typing
