import MachineDescriptor.Proofs.Counts
import MachineDescriptor.Proofs.Mappings

/-!
Typing what was typed. A machine that was typed has a name, and an offset only in universal time; a
mapping that holds the machine field by field is typed as the same machine again, whichever way it
writes the basis of the clock and the lists of devices.
-/
namespace MachineDescriptor

/-! ## Words between blanks -/

namespace Text

/-- A character whose small letter is a seven-bit letter is one itself. -/
theorem ascii_of_toLower {c : Char} (low : 97 ≤ c.toLower.toNat) (high : c.toLower.toNat ≤ 122) :
    65 ≤ c.toNat ∧ c.toNat ≤ 122 := by
  unfold Char.toLower at low high
  split at low
  · next upper =>
    have above : 65 ≤ c.toNat := upper.1
    have below : c.toNat ≤ 90 := upper.2
    omega
  · next other =>
    rw [dif_neg other] at high
    omega

theorem not_isBlank_of_letter {c : Char} (low : 65 ≤ c.toNat) (high : c.toNat ≤ 122) :
    isBlank c = false := by
  simp only [isBlank, Bool.or_eq_false_iff, Bool.and_eq_false_iff, decide_eq_false_iff_not,
    beq_eq_false_iff_ne]
  omega

theorem dropWhile_word {cs : List Char} (solid : ∀ c ∈ cs, isBlank c = false) (filled : cs ≠ [])
    (rest : List Char) : (cs ++ rest).dropWhile isBlank = cs ++ rest := by
  obtain ⟨c, more, rfl⟩ := List.exists_cons_of_ne_nil filled
  rw [List.cons_append, List.dropWhile_cons_of_neg]
  simp [solid c (by simp)]

/-- Blanks at both ends of a word are taken off. -/
theorem trim_between {before cs after : List Char} (first : ∀ c ∈ before, isBlank c = true)
    (last : ∀ c ∈ after, isBlank c = true) (solid : ∀ c ∈ cs, isBlank c = false)
    (filled : cs ≠ []) : trim (before ++ (cs ++ after)) = cs := by
  have backwards : cs.reverse.dropWhile isBlank = cs.reverse := by
    have solid' : ∀ c ∈ cs.reverse, isBlank c = false := by simpa using solid
    have stays := dropWhile_word solid' (by simpa using filled) []
    rwa [List.append_nil] at stays
  rw [trim, List.dropWhile_append_of_pos first, dropWhile_word solid filled, List.reverse_append,
    List.dropWhile_append_of_pos (by simpa using last), backwards, List.reverse_reverse]

theorem lowerAfter_of_ascii (before : List Char) {cs : List Char}
    (ascii : ∀ c ∈ cs, c.toNat < 0x80) : lowerAfter before cs = cs.map Char.toLower := by
  induction cs generalizing before with
  | nil => rfl
  | cons c rest ih =>
    have small : c.toNat < 0x80 := ascii c (by simp)
    have plain : c ≠ 'Σ' := by
      rintro rfl
      exact absurd small (by decide)
    rw [lowerAfter, if_neg plain, ih _ fun d here => ascii d (by simp [here]), lowerChar,
      if_pos small]
    rfl

end Text

namespace Typing

open Text (isBlank)

/-- What stands for a basis: the basis itself, or its word in any case between blanks. -/
inductive StandsFor (b : Basis) : Value → Prop where
  | member : StandsFor b (.basis b)
  | word {before letters after : List Char} (first : ∀ c ∈ before, isBlank c = true)
      (last : ∀ c ∈ after, isBlank c = true) (same : letters.map Char.toLower = b.word.toList) :
      StandsFor b (.text (String.ofList (before ++ (letters ++ after))))

/-- What holds some texts, or nothing where they were not collected. -/
inductive Lists : Option (List String) → Value → Prop where
  | nothing : Lists none .null
  | list (ss : List String) : Lists (some ss) (.list (ss.map .text))
  | tuple (ss : List String) : Lists (some ss) (.tuple (ss.map .text))

/-- A mapping that holds a machine field by field. -/
structure Fieldwise (m : Machine) (fields : Fields) : Prop where
  name : Value.lookup "guestname" fields = some (.text m.name)
  counts : ∀ c : Count, c.given fields = some (.int (c.ofMachine m))
  processor : ∃ entries, Value.lookup "cpu" fields = some (.dict entries)
  vendor : Value.lookup "vendor" (within "cpu" fields) = some (textOrNull m.processor.vendor)
  model : Value.lookup "model" (within "cpu" fields) = some (textOrNull m.processor.model)
  acpi : Value.lookup "acpi" (within "cpu" fields) = some (.bool m.processor.acpi)
  apic : Value.lookup "apic" (within "cpu" fields) = some (.bool m.processor.apic)
  pae : Value.lookup "pae" (within "cpu" fields) = some (.bool m.processor.pae)
  clock : ∃ entries, Value.lookup "rtc" fields = some (.dict entries)
  basis : ∃ v, Value.lookup "basis" (within "rtc" fields) = some v ∧ StandsFor m.clock.basis v
  disks : ∃ v, Value.lookup "disks" fields = some v ∧ Lists (some m.disks) v
  removable : ∃ v, Value.lookup "removable" fields = some v ∧ Lists m.removable v
  interfaces : ∃ v, Value.lookup "interfaces" fields = some v ∧ Lists m.interfaces v
  networkRules : ∃ v, Value.lookup "network_map" fields = some v ∧ Lists m.networkRules v

theorem standsFor_word (b : Basis) : StandsFor b (.text b.word) := by
  have word : StandsFor b (.text (String.ofList ([] ++ (b.word.toList ++ [])))) :=
    .word nofun nofun (by cases b <;> decide)
  rwa [List.nil_append, List.append_nil, String.ofList_toList] at word

theorem lists_textsOrNull (given : Option (List String)) : Lists given (textsOrNull given) := by
  cases given with
  | none => exact .nothing
  | some ss => exact .list ss

theorem letters_of_word {b : Basis} {letters : List Char}
    (same : letters.map Char.toLower = b.word.toList) :
    letters ≠ [] ∧ ∀ c ∈ letters, 65 ≤ c.toNat ∧ c.toNat ≤ 122 := by
  have small : b.word.toList.all (fun c => 97 ≤ c.toNat && c.toNat ≤ 122) = true := by
    cases b <;> decide
  constructor
  · rintro rfl
    cases b <;> cases same
  · intro c here
    have lower : c.toLower ∈ b.word.toList := by
      rw [← same]
      exact List.mem_map_of_mem here
    have bounds := List.all_eq_true.mp small _ lower
    simp only [Bool.and_eq_true, decide_eq_true_eq] at bounds
    exact Text.ascii_of_toLower bounds.1 bounds.2

theorem basis_of_standsFor {b : Basis} {v : Value} (stands : StandsFor b v) : basis v = .ok b := by
  cases stands with
  | member => rfl
  | word first last same =>
    rename_i before letters after
    obtain ⟨filled, bounds⟩ := letters_of_word same
    have word : basisWord (before ++ (letters ++ after)) = b.word := by
      unfold basisWord Text.lower
      rw [Text.trim_between first last _ filled, String.toList_ofList, Text.lowerAfter_of_ascii,
        same, String.ofList_toList]
      · intro c here
        have := (bounds c here).2
        omega
      · intro c here
        exact Text.not_isBlank_of_letter (bounds c here).1 (bounds c here).2
    have something : (String.ofList (before ++ (letters ++ after))).isEmpty = false := by
      simp [filled]
    refine basis_of_some rfl ?_
    rw [basisOf?_text, something, String.toList_ofList, word]
    exact Basis.ofWord?_word b

theorem texts_of_lists {fields : Fields} {key : String} {given : Option (List String)} {v : Value}
    (found : Value.lookup key fields = some v) (lists : Lists given v) :
    texts fields key = .ok given := by
  unfold texts
  rw [found]
  cases lists with
  | nothing => rfl
  | list ss | tuple ss =>
    change (textsFrom key 0 (ss.map .text)).map some = _
    rw [textsFrom_map]
    rfl

theorem within_of_lookup {fields entries : Fields} {key : String}
    (found : Value.lookup key fields = some (.dict entries)) : within key fields = entries :=
  (within_of_group (group_of_mapping found)).symm

theorem group_within {fields : Fields} {key : String}
    (mapping : ∃ entries, Value.lookup key fields = some (.dict entries)) :
    group fields key = .ok (within key fields) := by
  obtain ⟨entries, found⟩ := mapping
  rw [within_of_lookup found]
  exact group_of_mapping found

variable {m : Machine} {fields : Fields}

theorem Fieldwise.restOf (all : Fieldwise m fields) (named : m.name.isEmpty = false) :
    RestOf fields m where
  name := by
    have given : Value.lookup "guestname" fields = some (textOrNull (some m.name)) := all.name
    exact optionalText_of_given given _
  named := named
  processor := group_within all.processor
  clock := group_within all.clock
  basis := by
    obtain ⟨v, found, stands⟩ := all.basis
    rw [found]
    exact basis_of_standsFor stands
  vendor := optionalText_of_given all.vendor _
  model := optionalText_of_given all.model _
  acpi := flag_of_bool all.acpi _
  apic := flag_of_bool all.apic _
  pae := flag_of_bool all.pae _
  disks := by
    obtain ⟨v, found, lists⟩ := all.disks
    rw [texts_of_lists found lists]
    rfl
  removable := by
    obtain ⟨v, found, lists⟩ := all.removable
    exact texts_of_lists found lists
  interfaces := by
    obtain ⟨v, found, lists⟩ := all.interfaces
    exact texts_of_lists found lists
  networkRules := by
    obtain ⟨v, found, lists⟩ := all.networkRules
    exact texts_of_lists found lists

/-- A mapping that holds a machine field by field makes the machine, if it has a name and no offset
that its clock does not say anything about. -/
theorem machine_of_fieldwise (named : m.name ≠ "")
    (zero : m.clock.basis ≠ .utc → m.clock.offset = 0) (all : Fieldwise m fields) :
    machine (.dict fields) = .ok m := by
  change machineOfFields fields = .ok m
  refine made_of_counts (all.restOf (by simpa using named)) fun c => ?_
  cases asked : c.isAsked m.clock.basis with
  | true => exact (Count.typed_eq_ok asked (all.counts c) nofun).mpr ⟨nofun, rfl⟩
  | false =>
    -- only an offset may not be asked for, and there is none
    rw [Count.typed, asked, if_neg Bool.false_ne_true]
    cases c with
    | offset =>
      have other : m.clock.basis ≠ .utc := by simpa [Count.isAsked] using asked
      exact congrArg Except.ok (zero other).symm
    | _ => cases asked

/-- A mapping with the members of a machine holds it field by field, in whatever order they are. -/
theorem fieldwise_of_mapping {ports : List Int} (mapping : IsMappingOf m ports fields) :
    Fieldwise m fields := by
  obtain ⟨first, second, all⟩ := mapping
  rename_i processor clock
  have here : ∀ {word v}, (.text word, v) ∈ machineMembers processor clock m ports →
      Value.lookup word fields = some v :=
    fun listed => lookup_of_perm (distinct_machineMembers _ _ m ports) all listed
  have cpu : Value.lookup "cpu" fields = some (.dict processor) := here (by simp [machineMembers])
  have rtc : Value.lookup "rtc" fields = some (.dict clock) := here (by simp [machineMembers])
  have inProcessor : ∀ {word v}, (.text word, v) ∈ processorMembers m.processor →
      Value.lookup word (within "cpu" fields) = some v := by
    rw [within_of_lookup cpu]
    exact fun listed => lookup_of_perm (distinct_processorMembers m.processor) first listed
  have inClock : ∀ {word v}, (.text word, v) ∈ clockMembers m.clock →
      Value.lookup word (within "rtc" fields) = some v := by
    rw [within_of_lookup rtc]
    exact fun listed => lookup_of_perm (distinct_clockMembers m.clock) second listed
  have counts : ∀ c : Count, c.given fields = some (.int (c.ofMachine m)) := by
    intro c
    cases c with
    | memory => exact here (by simp [machineMembers, Count.key, Count.ofMachine])
    | processors => exact here (by simp [machineMembers, Count.key, Count.ofMachine])
    | sockets | cores | threads =>
      exact inProcessor (by simp [processorMembers, Count.key, Count.ofMachine])
    | offset => exact inClock (by simp [clockMembers, Count.key, Count.ofMachine])
  exact {
    name := here (by simp [machineMembers])
    counts := counts
    processor := ⟨_, cpu⟩
    vendor := inProcessor (by simp [processorMembers])
    model := inProcessor (by simp [processorMembers])
    acpi := inProcessor (by simp [processorMembers])
    apic := inProcessor (by simp [processorMembers])
    pae := inProcessor (by simp [processorMembers])
    clock := ⟨_, rtc⟩
    basis := ⟨_, inClock (by simp [clockMembers]), standsFor_word _⟩
    disks := ⟨_, here (by simp [machineMembers]), .list _⟩
    removable := ⟨_, here (by simp [machineMembers]), lists_textsOrNull _⟩
    interfaces := ⟨_, here (by simp [machineMembers]), lists_textsOrNull _⟩
    networkRules := ⟨_, here (by simp [machineMembers]), lists_textsOrNull _⟩ }

/-- **Typing a mapping of a machine gives back the machine.** -/
theorem machine_of_mapping {ports : List Int} (named : m.name ≠ "")
    (zero : m.clock.basis ≠ .utc → m.clock.offset = 0) (mapping : IsMappingOf m ports fields) :
    machine (.dict fields) = .ok m :=
  machine_of_fieldwise named zero (fieldwise_of_mapping mapping)

/-- **A machine that was typed is typed again as it is.** It has a name, and no offset unless its
clock keeps universal time; every mapping that holds it field by field makes the same machine. -/
theorem machine_retyped {v : Value} (made : machine v = .ok m) :
    m.name ≠ "" ∧ (m.clock.basis ≠ .utc → m.clock.offset = 0) ∧
      ∀ fields, Fieldwise m fields → machine (.dict fields) = .ok m := by
  obtain ⟨given, -, made⟩ := opened_of_made made
  obtain ⟨rest, counts⟩ := restOf_of_made made
  have named : m.name ≠ "" := by
    intro empty
    have filled := rest.named
    rw [empty] at filled
    cases filled
  have zero : m.clock.basis ≠ .utc → m.clock.offset = 0 := by
    intro other
    have offset := counts .offset
    rw [Count.typed, if_neg (by simpa [Count.isAsked] using other)] at offset
    exact (Except.ok.inj offset).symm
  exact ⟨named, zero, fun fields all => machine_of_fieldwise named zero all⟩

/-- A mapping that was written by hand. -/
def handwritten : Fields := [
  (.text "guestname", .text "g"),
  (.text "memory", .text "2048"),
  (.text "vcpus", .int 2),
  (.text "rtc", .dict [(.text "basis", .text "utc"), (.text "offset", .text " 3_600 ")]),
  (.text "removable", .list [])]

/-- The machine of that mapping, field by field. -/
def rewritten : Fields := [
  (.text "guestname", .text "g"),
  (.text "memory", .int 2048),
  (.text "vcpus", .int 2),
  (.text "cpu", .dict [
    (.text "vendor", .null), (.text "model", .null),
    (.text "sockets", .int 0), (.text "cores", .int 0), (.text "threads", .int 0),
    (.text "acpi", .bool false), (.text "apic", .bool false), (.text "pae", .bool false)]),
  (.text "rtc", .dict [(.text "basis", .text "\tUtC\n"), (.text "offset", .int 3600)]),
  (.text "disks", .tuple []),
  (.text "removable", .tuple []),
  (.text "interfaces", .null),
  (.text "network_map", .null)]

theorem rewritten_retyped : ∃ m, machine (.dict handwritten) = .ok m ∧
    machine (.dict rewritten) = .ok m := by
  have made : machine (.dict handwritten) =
    .ok ⟨"g", 2048, 2, .unknown, ⟨.utc, 3600⟩, [], some [], none, none⟩ := rfl
  obtain ⟨-, -, again⟩ := machine_retyped made
  have basis : StandsFor .utc (.text (String.ofList (['\t'] ++ (['U', 't', 'C'] ++ ['\n'])))) :=
    .word (by simp [isBlank]) (by simp [isBlank]) (by decide)
  refine ⟨_, made, again rewritten ?_⟩
  exact {
    name := rfl
    counts := fun c => by cases c <;> rfl
    processor := ⟨_, rfl⟩
    vendor := rfl
    model := rfl
    acpi := rfl
    apic := rfl
    pae := rfl
    clock := ⟨_, rfl⟩
    basis := ⟨_, rfl, basis⟩
    disks := ⟨_, rfl, .tuple []⟩
    removable := ⟨_, rfl, .tuple []⟩
    interfaces := ⟨_, rfl, .nothing⟩
    networkRules := ⟨_, rfl, .nothing⟩ }

end Typing
end MachineDescriptor
