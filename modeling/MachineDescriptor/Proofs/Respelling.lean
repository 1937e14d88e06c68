import MachineDescriptor.Proofs.Counts
import MachineDescriptor.Proofs.Numerals
import MachineDescriptor.Proofs.Rules

/-!
Integers given as texts. A mapping or a list of ports in which some integers are spelled out comes
to the same as before; a seven-bit text that spells no integer is reported with the name of its
field or with its position among the ports.
-/
namespace MachineDescriptor.Typing

open Integer (Spells)

/-- What may be given in place of a value: the value, or a spelling of it if it is an integer. -/
inductive Respelled : Value → Value → Prop where
  | same (v : Value) : Respelled v v
  | spelled {n : Int} {s : String} (spells : Spells n s.toList) : Respelled (.int n) (.text s)

/-- A seven-bit text that spells no integer. -/
structure Misspelled (s : String) : Prop where
  ascii : ∀ c ∈ s.toList, c.toNat < 0x80
  nothing : ∀ n, ¬Spells n s.toList

/-- Two mappings of a machine that hold the same but for their counts, which are related one by one.
The mapping of the processor or of the clock may be another one, as long as it is a mapping. -/
structure Alike (related : Count → Value → Value → Prop) (fields fields' : Fields) : Prop where
  counts : ∀ c : Count, Option.Rel (related c) (c.given fields) (c.given fields')
  here : ∀ key ∈ ["guestname", "disks", "removable", "interfaces", "network_map"],
    Value.lookup key fields' = Value.lookup key fields
  groups : ∀ key ∈ ["cpu", "rtc"], Value.lookup key fields' = Value.lookup key fields ∨
    ∃ v entries, Value.lookup key fields' = some v ∧ v.opened = .dict entries
  inProcessor : ∀ key ∈ ["vendor", "model", "acpi", "apic", "pae"],
    Value.lookup key (within "cpu" fields') = Value.lookup key (within "cpu" fields)
  inClock : Value.lookup "basis" (within "rtc" fields') = Value.lookup "basis" (within "rtc" fields)

theorem toInteger_of_respelled {v v' : Value} (respelled : Respelled v v') :
    v'.toInteger = v.toInteger := by
  cases respelled with
  | same => rfl
  | spelled spells => exact Integer.read_of_spells spells

/-- A text that spells nothing makes no integer, whatever the reason. -/
theorem toInteger_of_misspelled {s : String} (misspelled : Misspelled s) :
    ∃ f, (Value.text s).toInteger = .error f ∧ f ≠ .infinite := by
  cases read : (Value.text s).toInteger with
  | ok n =>
    have spells : Spells n s.toList := (Integer.read_eq_ok_iff misspelled.ascii).mp read
    exact absurd spells (misspelled.nothing n)
  | error f =>
    refine ⟨f, rfl, ?_⟩
    rintro rfl
    exact readAs_ne_infinite _ _ read

/-! ## Fields that are as they were -/

section

variable {es es' : Fields} {key : String}

theorem integer_congr (same : Value.lookup key es' = Value.lookup key es) (default : Option Int) :
    integer es' key default = integer es key default := by
  unfold integer
  rw [same]

theorem optionalText_congr (same : Value.lookup key es' = Value.lookup key es) (label : String) :
    optionalText es' key label = optionalText es key label := by
  unfold optionalText
  rw [same]

theorem flag_congr (same : Value.lookup key es' = Value.lookup key es) (label : String) :
    flag es' key label = flag es key label := by
  unfold flag
  rw [same]

theorem texts_congr (same : Value.lookup key es' = Value.lookup key es) :
    texts es' key = texts es key := by
  unfold texts
  rw [same]

theorem group_of_opened {v : Value} {entries : Fields} (found : Value.lookup key es = some v)
    (mapping : v.opened = .dict entries) : group es key = .ok (within key es) := by
  unfold group within Value.isTrue
  rw [found]
  dsimp only [Option.getD_some]
  rw [mapping]
  cases entries <;> rfl

theorem group_congr (same : Value.lookup key es' = Value.lookup key es ∨
      ∃ v entries, Value.lookup key es' = some v ∧ v.opened = .dict entries)
    (made : group es key = .ok (within key es)) : group es' key = .ok (within key es') := by
  obtain same | ⟨v, entries, found, mapping⟩ := same
  · unfold group within at made ⊢
    rw [same]
    exact made
  · exact group_of_opened found mapping

end

section

variable {fields fields' : Fields} {m : Machine}

theorem rel_cases {related : Value → Value → Prop} {given given' : Option Value}
    (rel : Option.Rel related given given') : given = none ∧ given' = none ∨
      ∃ v v', given = some v ∧ given' = some v' ∧ related v v' := by
  cases rel with
  | none => exact .inl ⟨rfl, rfl⟩
  | some holds => exact .inr ⟨_, _, rfl, rfl, holds⟩

/-- A count that was respelled comes to what it came to before. -/
theorem Count.typed_of_respelled {c : Count}
    (respelled : Option.Rel Respelled (c.given fields) (c.given fields')) (b : Basis) :
    c.typed b fields' = c.typed b fields := by
  have unchanged : c.given fields' = c.given fields → c.typed b fields' = c.typed b fields := by
    intro same
    unfold Count.typed
    rw [integer_congr same]
  obtain ⟨given, given'⟩ | ⟨v, v', given, given', respelled⟩ := rel_cases respelled
  · exact unchanged (given'.trans given.symm)
  · cases respelled with
    | same => exact unchanged (given'.trans given.symm)
    | spelled spells =>
      cases asked : c.isAsked b with
      | false =>
        unfold Count.typed
        rw [asked]
        rfl
      | true =>
        rw [(Count.typed_eq_ok asked given nofun).mpr ⟨nofun, rfl⟩]
        exact (Count.typed_eq_ok asked given' nofun).mpr ⟨nofun, Integer.read_of_spells spells⟩

/-- A text that spells nothing is reported with the name of the count. -/
theorem Count.typed_of_misspelled {c : Count} {b : Basis} {s : String} (asked : c.isAsked b = true)
    (given : c.given fields = some (.text s)) (misspelled : Misspelled s) :
    ∃ e, c.typed b fields = .error e ∧ IsReport (field c.key) e := by
  obtain ⟨f, failed, finite⟩ := toInteger_of_misspelled misspelled
  have found : (Value.lookup c.key (c.entries fields)).getD .null = .text s := by
    change (c.given fields).getD .null = _
    rw [given]
    rfl
  refine ⟨mustBe c.key "an integer" (.text s) (some (.integer f)), ?_, isReport_mustBe rfl _ _ _⟩
  unfold Count.typed integer
  rw [if_pos asked, found]
  dsimp only
  rw [failed]
  cases f with
  | infinite => exact absurd rfl finite
  | _ => rfl

theorem RestOf.congr {related : Count → Value → Value → Prop} (rest : RestOf fields m)
    (alike : Alike related fields fields') : RestOf fields' m where
  name := by
    rw [optionalText_congr (alike.here _ (by simp))]
    exact rest.name
  named := rest.named
  processor := group_congr (alike.groups _ (by simp)) rest.processor
  clock := group_congr (alike.groups _ (by simp)) rest.clock
  basis := by
    rw [alike.inClock]
    exact rest.basis
  vendor := by
    rw [optionalText_congr (alike.inProcessor _ (by simp))]
    exact rest.vendor
  model := by
    rw [optionalText_congr (alike.inProcessor _ (by simp))]
    exact rest.model
  acpi := by
    rw [flag_congr (alike.inProcessor _ (by simp))]
    exact rest.acpi
  apic := by
    rw [flag_congr (alike.inProcessor _ (by simp))]
    exact rest.apic
  pae := by
    rw [flag_congr (alike.inProcessor _ (by simp))]
    exact rest.pae
  disks := by
    rw [texts_congr (alike.here _ (by simp))]
    exact rest.disks
  removable := by
    rw [texts_congr (alike.here _ (by simp))]
    exact rest.removable
  interfaces := by
    rw [texts_congr (alike.here _ (by simp))]
    exact rest.interfaces
  networkRules := by
    rw [texts_congr (alike.here _ (by simp))]
    exact rest.networkRules

/-! ## Ports -/

/-- A text that spells nothing is reported with its position among the ports. -/
theorem portsFrom_of_misspelled {ws : List Value} {ns : List Int} {s : String}
    (first : List.Forall₂ (fun v n => v.toInteger = .ok n) ws ns) (misspelled : Misspelled s)
    (rest : List Value) (index : Nat) : ∃ e, portsFrom index (ws ++ .text s :: rest) = .error e ∧
      IsReport [("index", .int (index + ns.length : Nat))] e := by
  obtain ⟨f, failed, finite⟩ := toInteger_of_misspelled misspelled
  induction first generalizing index with
  | nil =>
    refine ⟨misfit "invalid NBD port " (.text s) "" (some (.integer f)) [("index", .int index)], ?_,
      isReport_misfit rfl _ _ _ rfl⟩
    unfold portsFrom
    rw [List.nil_append]
    dsimp only
    rw [failed]
    cases f with
    | infinite => exact absurd rfl finite
    | _ => rfl
  | @cons w n ws ns converted others ih =>
    obtain ⟨e, refused, reported⟩ := ih (index + 1)
    refine ⟨e, ?_, ?_⟩
    · rw [List.cons_append, portsFrom, converted]
      dsimp only
      rw [refused]
      rfl
    · rw [List.length_cons, Nat.add_comm ns.length, ← Nat.add_assoc]
      exact reported

/-! ## Machines and ports -/

/-- **Integers may be spelled as texts.** A mapping that makes a machine makes the same machine when
any of its counts are spelled out, and fails with a report of the count when one that is asked for
is misspelled. Ports that are integers stay what they are when any of them are spelled out, and the
first that is misspelled is reported with its position. -/
theorem integers_respelled (v v' : Value) :
    (∀ fields fields' m, machine v = .ok m → v.opened = .dict fields → v'.opened = .dict fields' →
      (Alike (fun _ => Respelled) fields fields' → machine v' = .ok m) ∧
      ∀ (c : Count) (s : String), c.isAsked m.clock.basis = true → Misspelled s →
        c.given fields' = some (.text s) →
        Alike (fun d w w' => d = c ∨ Respelled w w') fields fields' →
          ∃ e, machine v' = .error e ∧ IsReport (field c.key) e) ∧
    ∀ (ns : List Int) (ws : List Value), List.Forall₂ Respelled (ns.map .int) ws →
      (v'.members? = some ws → portsIn v' = .ok ns) ∧
      ∀ (s : String) (rest : List Value), Misspelled s →
        v'.members? = some (ws ++ .text s :: rest) →
          ∃ e, portsIn v' = .error e ∧ IsReport [("index", .int ns.length)] e := by
  constructor
  · intro fields fields' m made opened opened'
    rw [machine_of_opened opened] at made
    rw [machine_of_opened opened']
    obtain ⟨rest, counts⟩ := restOf_of_made made
    constructor
    · intro alike
      refine made_of_counts (rest.congr alike) fun c => ?_
      rw [Count.typed_of_respelled (alike.counts c)]
      exact counts c
    · intro c s asked misspelled given alike
      obtain ⟨e, failed, reported⟩ := Count.typed_of_misspelled asked given misspelled
      refine ⟨e, failed_of_count (rest.congr alike) failed fun d other => ?_, reported⟩
      have respelled : Option.Rel Respelled (d.given fields) (d.given fields') := by
        obtain ⟨given, given'⟩ | ⟨w, w', given, given', holds⟩ := rel_cases (alike.counts d)
        · rw [given, given']
          exact .none
        · rw [given, given']
          exact .some (holds.resolve_left other)
      rw [Count.typed_of_respelled respelled]
      exact counts d
  · intro ns ws respelled
    have converted : List.Forall₂ (fun w n => w.toInteger = .ok n) ws ns := by
      have each := (List.forall₂_map_left_iff.mp respelled).flip
      exact each.imp fun w n holds => toInteger_of_respelled holds
    constructor
    · intro members
      rw [portsIn_of_members members]
      exact portsFrom_eq_ok.mpr converted
    · intro s rest misspelled members
      obtain ⟨e, refused, reported⟩ := portsFrom_of_misspelled converted misspelled rest 0
      rw [Nat.zero_add] at reported
      rw [portsIn_of_members members]
      exact ⟨e, refused, reported⟩

/-- A mapping with its counts as integers. -/
def plainFields : Fields := [
  (.text "guestname", .text "g"),
  (.text "memory", .int 2048),
  (.text "vcpus", .int 2),
  (.text "cpu", .dict [(.text "sockets", .int 0)])]

/-- The same mapping with a count spelled out and another one given as a text. -/
def spelledFields (sockets : String) : Fields := [
  (.text "guestname", .text "g"),
  (.text "memory", .text " +02_048\n"),
  (.text "vcpus", .int 2),
  (.text "cpu", .dict [(.text "sockets", .text sockets)])]

theorem spelled_alike {related : Count → Value → Value → Prop} {sockets : String}
    (memory : related .memory (.int 2048) (.text " +02_048\n"))
    (processors : related .processors (.int 2) (.int 2))
    (given : related .sockets (.int 0) (.text sockets)) :
    Alike related plainFields (spelledFields sockets) where
  counts c := by
    cases c with
    | memory => exact .some memory
    | processors => exact .some processors
    | sockets => exact .some given
    | cores | threads | offset => exact .none
  here key listed := by
    simp only [List.mem_cons, List.not_mem_nil, or_false] at listed
    rcases listed with rfl | rfl | rfl | rfl | rfl <;> rfl
  groups key listed := by
    simp only [List.mem_cons, List.not_mem_nil, or_false] at listed
    rcases listed with rfl | rfl
    · exact .inr ⟨_, _, rfl, rfl⟩
    · exact .inl rfl
  inProcessor key listed := by
    simp only [List.mem_cons, List.not_mem_nil, or_false] at listed
    rcases listed with rfl | rfl | rfl | rfl | rfl <;> rfl
  inClock := rfl

theorem misspelled_of_refused {s : String} (ascii : ∀ c ∈ s.toList, c.toNat < 0x80)
    (refused : (Integer.read s.toList).toOption = none) : Misspelled s where
  ascii := ascii
  nothing n spells := by
    rw [Integer.read_of_spells spells] at refused
    cases refused

/-- Integers spelled out, and texts that spell none. -/
theorem spelled_or_reported :
    (∃ m, machine (.dict plainFields) = .ok m ∧ machine (.dict (spelledFields "-0")) = .ok m) ∧
    (∃ e, machine (.dict (spelledFields "1 0")) = .error e ∧ IsReport (field "sockets") e) ∧
    portsIn (.list [.int 10809, .text "-0"]) = .ok [10809, 0] ∧
    ∃ e, portsIn (.list [.int 10809, .text "1__0"]) = .error e ∧
      IsReport [("index", .int 1)] e := by
  have memory : Respelled (.int 2048) (.text " +02_048\n") :=
    .spelled (Integer.spells_of_read (by simp) rfl)
  have zero : Respelled (.int 0) (.text "-0") := .spelled (Integer.spells_of_read (by simp) rfl)
  have made : machine (.dict plainFields) =
    .ok ⟨"g", 2048, 2, .unknown, ⟨.unknown, 0⟩, [], none, none, none⟩ := rfl
  refine ⟨⟨_, made, ?_⟩, ?_, ?_, ?_⟩
  · obtain ⟨mappings, -⟩ := integers_respelled (.dict plainFields) (.dict (spelledFields "-0"))
    exact (mappings _ _ _ made rfl rfl).1 (spelled_alike memory (.same _) zero)
  · obtain ⟨mappings, -⟩ := integers_respelled (.dict plainFields) (.dict (spelledFields "1 0"))
    exact (mappings _ _ _ made rfl rfl).2 .sockets "1 0" rfl
      (misspelled_of_refused (by simp) (by decide)) rfl
      (spelled_alike (.inr memory) (.inr (.same _)) (.inl rfl))
  · obtain ⟨-, ports⟩ := integers_respelled .null (.list [.int 10809, .text "-0"])
    exact (ports [10809, 0] _ (.cons (.same _) (.cons zero .nil))).1 rfl
  · obtain ⟨-, ports⟩ := integers_respelled .null (.list [.int 10809, .text "1__0"])
    exact (ports [10809] _ (.cons (.same _) .nil)).2 "1__0" []
      (misspelled_of_refused (by simp) (by decide)) rfl

end

end MachineDescriptor.Typing
