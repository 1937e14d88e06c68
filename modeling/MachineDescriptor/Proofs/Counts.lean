import Mathlib.Data.List.Forall2
import MachineDescriptor.Machine.Typing

/-!
The counts of a machine. A machine has six integers, each typed in the same way from a mapping and
under a key of its own; everything else is settled by the other fields. So a mapping makes a machine
exactly if its counts and its other fields come to what the machine has, and when all is right but
one count, the typing fails of that count.
-/
namespace MachineDescriptor.Typing

/-- The mapping that a mapping has under a key; anything else there has no entries. -/
def within (key : String) (fields : Fields) : Fields :=
  match ((Value.lookup key fields).getD .null).opened with
  | .dict entries => entries
  | _ => []

/-- The integers of a machine. -/
inductive Count where
  | memory
  | processors
  | sockets
  | cores
  | threads
  | offset
deriving DecidableEq

namespace Count

def key : Count → String
  | memory => "memory"
  | processors => "vcpus"
  | sockets => "sockets"
  | cores => "cores"
  | threads => "threads"
  | offset => "offset"

/-- What a count is when it is not given. -/
def default : Count → Option Int
  | memory | processors => none
  | sockets | cores | threads | offset => some 0

/-- The mapping that a count stands in. -/
def entries (fields : Fields) : Count → Fields
  | memory | processors => fields
  | sockets | cores | threads => within "cpu" fields
  | offset => within "rtc" fields

/-- What is given for a count. -/
def given (fields : Fields) (c : Count) : Option Value := Value.lookup c.key (c.entries fields)

/-- An offset is not looked at unless the clock keeps universal time. -/
def isAsked (b : Basis) : Count → Bool
  | offset => b = .utc
  | _ => true

def ofMachine (m : Machine) : Count → Int
  | memory => m.memory
  | processors => m.processors
  | sockets => m.processor.sockets
  | cores => m.processor.cores
  | threads => m.processor.threads
  | offset => m.clock.offset

/-- What typing a count gives; one that is not asked for is zero. -/
def typed (b : Basis) (fields : Fields) (c : Count) : Except Failure Int :=
  if c.isAsked b then integer (c.entries fields) c.key c.default else .ok 0

end Count

/-- The fields that are no counts come to what a machine has. -/
structure RestOf (fields : Fields) (m : Machine) : Prop where
  name : optionalText fields "guestname" "guestname" = .ok (some m.name)
  named : m.name.isEmpty = false
  processor : group fields "cpu" = .ok (within "cpu" fields)
  clock : group fields "rtc" = .ok (within "rtc" fields)
  basis : Typing.basis ((Value.lookup "basis" (within "rtc" fields)).getD .null) =
    .ok m.clock.basis
  vendor : optionalText (within "cpu" fields) "vendor" "cpu.vendor" = .ok m.processor.vendor
  model : optionalText (within "cpu" fields) "model" "cpu.model" = .ok m.processor.model
  acpi : flag (within "cpu" fields) "acpi" "cpu.acpi" = .ok m.processor.acpi
  apic : flag (within "cpu" fields) "apic" "cpu.apic" = .ok m.processor.apic
  pae : flag (within "cpu" fields) "pae" "cpu.pae" = .ok m.processor.pae
  disks : (texts fields "disks").map (·.getD []) = .ok m.disks
  removable : texts fields "removable" = .ok m.removable
  interfaces : texts fields "interfaces" = .ok m.interfaces
  networkRules : texts fields "network_map" = .ok m.networkRules

theorem bind_eq_ok {α β : Type} {x : Except Failure α} {f : α → Except Failure β} {b : β} :
    (x >>= f) = .ok b ↔ ∃ a, x = .ok a ∧ f a = .ok b := by
  cases x <;> simp [bind, Except.bind]

/-- The mapping under a key is what typing it gives. -/
theorem within_of_group {fields inner : Fields} {key : String}
    (made : group fields key = .ok inner) : inner = within key fields := by
  unfold group at made
  unfold within
  dsimp only at made
  by_cases something : ((Value.lookup key fields).getD .null).isTrue = true
  · rw [if_pos something] at made
    cases opened : ((Value.lookup key fields).getD .null).opened with
    | dict entries =>
      rw [opened] at made
      exact (Except.ok.inj made).symm
    | _ =>
      rw [opened] at made
      cases made
  · rw [if_neg something] at made
    obtain rfl := Except.ok.inj made
    unfold Value.isTrue at something
    cases opened : ((Value.lookup key fields).getD .null).opened with
    | dict entries =>
      rw [opened] at something
      simpa using something
    | _ => rfl

section

variable {fields : Fields} {m : Machine}

theorem ok_bind {α β : Type} (a : α) (f : α → Except Failure β) : (Except.ok a >>= f) = f a := rfl

/-- When the other fields are right, a machine depends on its counts alone. -/
theorem machineOfFields_of_rest (rest : RestOf fields m) : machineOfFields fields = (do
    let memory ← Count.memory.typed m.clock.basis fields
    let processors ← Count.processors.typed m.clock.basis fields
    let sockets ← Count.sockets.typed m.clock.basis fields
    let cores ← Count.cores.typed m.clock.basis fields
    let threads ← Count.threads.typed m.clock.basis fields
    let offset ← Count.offset.typed m.clock.basis fields
    pure { m with
      memory, processors
      processor := { m.processor with sockets, cores, threads }
      clock := ⟨m.clock.basis, offset⟩ }) := by
  obtain ⟨given, texted, listed⟩ : ∃ given, texts fields "disks" = .ok given ∧
      given.getD [] = m.disks := by
    have made := rest.disks
    cases texted : texts fields "disks" with
    | error e => rw [texted] at made; cases made
    | ok given => rw [texted] at made; exact ⟨given, rfl, Except.ok.inj made⟩
  unfold machineOfFields processor
  simp only [rest.name, rest.processor, rest.clock, rest.basis, rest.vendor, rest.model, rest.acpi,
    rest.apic, rest.pae, rest.removable, rest.interfaces, rest.networkRules, texted, listed,
    rest.named, ok_bind, pure_bind, bind_assoc, Bool.false_eq_true, if_false]
  by_cases utc : m.clock.basis = .utc
  · simp only [Count.typed, Count.isAsked, utc, decide_true, if_true]
    rfl
  · simp only [Count.typed, Count.isAsked, utc, decide_false, if_true, if_false]
    rfl

/-- What the fields of a processor come to. -/
theorem processor_eq_ok {p : Processor} (made : processor fields = .ok p) :
    (optionalText fields "vendor" "cpu.vendor" = .ok p.vendor ∧
      optionalText fields "model" "cpu.model" = .ok p.model) ∧
    (integer fields "sockets" (some 0) = .ok p.sockets ∧
      integer fields "cores" (some 0) = .ok p.cores ∧
      integer fields "threads" (some 0) = .ok p.threads) ∧
    flag fields "acpi" "cpu.acpi" = .ok p.acpi ∧ flag fields "apic" "cpu.apic" = .ok p.apic ∧
      flag fields "pae" "cpu.pae" = .ok p.pae := by
  obtain ⟨vendor, vendorMade, made⟩ := bind_eq_ok.mp made
  obtain ⟨model, modelMade, made⟩ := bind_eq_ok.mp made
  obtain ⟨sockets, socketsMade, made⟩ := bind_eq_ok.mp made
  obtain ⟨cores, coresMade, made⟩ := bind_eq_ok.mp made
  obtain ⟨threads, threadsMade, made⟩ := bind_eq_ok.mp made
  obtain ⟨acpi, acpiMade, made⟩ := bind_eq_ok.mp made
  obtain ⟨apic, apicMade, made⟩ := bind_eq_ok.mp made
  obtain ⟨pae, paeMade, made⟩ := bind_eq_ok.mp made
  obtain rfl := Except.ok.inj made
  exact ⟨⟨vendorMade, modelMade⟩, ⟨socketsMade, coresMade, threadsMade⟩, acpiMade, apicMade,
    paeMade⟩

/-- A mapping that makes a machine comes to what the machine has, in all its fields. -/
theorem restOf_of_made (made : machineOfFields fields = .ok m) : RestOf fields m ∧
    ∀ c : Count, c.typed m.clock.basis fields = .ok (c.ofMachine m) := by
  obtain ⟨given, named, made⟩ := bind_eq_ok.mp made
  cases given with
  | none => cases made
  | some name =>
    dsimp only at made
    split at made
    · cases made
    · next filled =>
      rw [pure_bind] at made
      obtain ⟨cpu, cpuMade, made⟩ := bind_eq_ok.mp made
      obtain rfl := within_of_group cpuMade
      obtain ⟨rtc, rtcMade, made⟩ := bind_eq_ok.mp made
      obtain rfl := within_of_group rtcMade
      obtain ⟨b, basisMade, made⟩ := bind_eq_ok.mp made
      obtain ⟨memory, memoryMade, made⟩ := bind_eq_ok.mp made
      obtain ⟨processors, processorsMade, made⟩ := bind_eq_ok.mp made
      obtain ⟨p, processorMade, made⟩ := bind_eq_ok.mp made
      obtain ⟨⟨vendor, model⟩, ⟨sockets, cores, threads⟩, acpi, apic, pae⟩ :=
        processor_eq_ok processorMade
      obtain ⟨offset, offsetMade, made⟩ : ∃ offset, Count.offset.typed b fields = .ok offset ∧
          (do
            let disks ← texts fields "disks"
            let removable ← texts fields "removable"
            let interfaces ← texts fields "interfaces"
            let networkRules ← texts fields "network_map"
            pure (⟨name, memory, processors, p, ⟨b, offset⟩, disks.getD [], removable, interfaces,
              networkRules⟩ : Machine)) = Except.ok m := by
        by_cases utc : b = .utc
        · rw [if_pos utc] at made
          obtain ⟨offset, offsetMade, made⟩ := bind_eq_ok.mp made
          refine ⟨offset, ?_, made⟩
          rw [Count.typed, if_pos (by simpa [Count.isAsked] using utc)]
          exact offsetMade
        · rw [if_neg utc] at made
          refine ⟨0, ?_, made⟩
          rw [Count.typed, if_neg (by simpa [Count.isAsked] using utc)]
      obtain ⟨disks, disksMade, made⟩ := bind_eq_ok.mp made
      obtain ⟨removable, removableMade, made⟩ := bind_eq_ok.mp made
      obtain ⟨interfaces, interfacesMade, made⟩ := bind_eq_ok.mp made
      obtain ⟨networkRules, networkRulesMade, made⟩ := bind_eq_ok.mp made
      obtain rfl := Except.ok.inj made
      refine ⟨⟨named, by simpa using filled, cpuMade, rtcMade, basisMade, vendor, model, acpi, apic,
        pae, ?_, removableMade, interfacesMade, networkRulesMade⟩, fun c => ?_⟩
      · rw [disksMade]
        rfl
      · cases c with
        | memory => exact memoryMade
        | processors => exact processorsMade
        | sockets => exact sockets
        | cores => exact cores
        | threads => exact threads
        | offset => exact offsetMade

/-- A mapping whose other fields are right makes a machine out of its counts. -/
theorem made_of_counts (rest : RestOf fields m)
    (counts : ∀ c : Count, c.typed m.clock.basis fields = .ok (c.ofMachine m)) :
    machineOfFields fields = .ok m := by
  rw [machineOfFields_of_rest rest]
  simp only [counts, ok_bind]
  rfl

/-- When all is right but one count, the typing fails of that one. -/
theorem failed_of_count (rest : RestOf fields m) {c : Count} {e : Failure}
    (failed : c.typed m.clock.basis fields = .error e)
    (counts : ∀ d : Count, d ≠ c → d.typed m.clock.basis fields = .ok (d.ofMachine m)) :
    machineOfFields fields = .error e := by
  rw [machineOfFields_of_rest rest]
  -- the counts before this one are what they should be, those after it are not looked at
  have stops : ∀ {α : Type} (f : Int → Except Failure α),
      (c.typed m.clock.basis fields >>= f) = .error e := by
    intro α f
    rw [failed]
    rfl
  cases c <;> simp only [stops, counts, ok_bind, ne_eq, reduceCtorEq, not_false_eq_true]

theorem machine_of_opened {v : Value} (opened : v.opened = .dict fields) :
    machine v = machineOfFields fields := by
  unfold machine
  rw [opened]

/-- A value that makes a machine is a mapping. -/
theorem opened_of_made {v : Value} (made : machine v = .ok m) :
    ∃ fields, v.opened = .dict fields ∧ machineOfFields fields = .ok m := by
  unfold machine at made
  split at made
  · next fields opened => exact ⟨fields, opened, made⟩
  · cases made

/-- A value given for a count comes to the integer that it converts to, and is no truth value. -/
theorem Count.typed_eq_ok {c : Count} {b : Basis} {v : Value} {n : Int}
    (asked : c.isAsked b = true) (given : c.given fields = some v) (something : v ≠ .null) :
    c.typed b fields = .ok n ↔ (∀ t, v ≠ .bool t) ∧ v.toInteger = .ok n := by
  have found : (Value.lookup c.key (c.entries fields)).getD .null = v := by
    change (c.given fields).getD .null = v
    rw [given]
    rfl
  unfold Count.typed integer
  rw [if_pos asked, found]
  split
  · exact absurd rfl something
  · next t =>
    constructor
    · intro made
      cases made
    · rintro ⟨noBool, -⟩
      exact absurd rfl (noBool t)
  · next noBool =>
    constructor
    · intro made
      refine ⟨noBool, ?_⟩
      split at made
      · next k converted =>
        rw [converted, Except.ok.inj made]
      · cases made
      · cases made
    · rintro ⟨-, converted⟩
      rw [converted]

end

/-! ## Ports -/

theorem map_eq_ok {α β : Type} {x : Except Failure α} {f : α → β} {b : β} :
    x.map f = .ok b ↔ ∃ a, x = .ok a ∧ f a = b := by
  cases x <;> simp [Except.map]

/-- Ports come to the integers that the values convert to, one by one. -/
theorem portsFrom_eq_ok {index : Nat} {vs : List Value} {ns : List Int} :
    portsFrom index vs = .ok ns ↔ List.Forall₂ (fun v n => v.toInteger = .ok n) vs ns := by
  induction vs generalizing index ns with
  | nil => simp [portsFrom, eq_comm]
  | cons v rest ih =>
    unfold portsFrom
    cases converted : v.toInteger with
    | ok n =>
      dsimp only
      rw [map_eq_ok, List.forall₂_cons_left_iff]
      simp only [ih, converted, Except.ok.injEq]
      constructor
      · rintro ⟨ms, others, rfl⟩
        exact ⟨n, ms, rfl, others, rfl⟩
      · rintro ⟨k, ms, rfl, others, rfl⟩
        exact ⟨ms, others, rfl⟩
    | error f =>
      have refused : ¬List.Forall₂ (fun v n => v.toInteger = .ok n) (v :: rest) ns := by
        rintro ⟨⟩
        next same _ =>
        rw [converted] at same
        cases same
      cases f <;> simp [refused]

theorem portsIn_of_members {v : Value} {ws : List Value} (members : v.members? = some ws) :
    portsIn v = portsFrom 0 ws := by
  unfold portsIn
  rw [members]
  rfl

/-- A value that holds ports is a collection of values that convert to them. -/
theorem members_of_portsIn {v : Value} {ns : List Int} (made : portsIn v = .ok ns) :
    ∃ ws, v.members? = some ws ∧ List.Forall₂ (fun w n => w.toInteger = .ok n) ws ns := by
  cases members : v.members? with
  | none =>
    unfold portsIn at made
    rw [members] at made
    cases made
  | some ws =>
    rw [portsIn_of_members members] at made
    exact ⟨ws, rfl, portsFrom_eq_ok.mp made⟩

end MachineDescriptor.Typing
