import MachineDescriptor.Proofs.Rules

/-!
What a failure to type a configuration is. It is a report that names the first field which does not
keep to its rule, and for the ports of connections the position of the first which is no integer;
only an infinite number in the place of an integer ends the typing without a report.
-/
namespace MachineDescriptor.Typing

open Value (isPlainScalar isFiniteScalar everyEntry everyOf)

section

variable {fields : Fields} {fs : List Field} {α : Type} {r : Except Failure α}

theorem firstInvalid?_eq_none :
    firstInvalid? fields fs = none ↔ ∀ f ∈ fs, f.isValid fields = true := by
  rw [firstInvalid?, List.find?_eq_none]
  constructor
  · intro all f listed
    simpa using all f listed
  · intro all f listed
    simpa using all f listed

/-- Something is made if and only if every field is valid. -/
theorem Typed.ok_iff (typed : Typed fields fs r) :
    (∃ a, r = .ok a) ↔ ∀ f ∈ fs, f.isValid fields = true := by
  rw [← firstInvalid?_eq_none]
  unfold Typed at typed
  split at typed
  · next none => exact ⟨fun _ => none, fun _ => typed⟩
  · next f some =>
    obtain ⟨e, refused, -⟩ := typed
    constructor
    · rintro ⟨a, made⟩
      rw [refused] at made
      cases made
    · intro none
      rw [some] at none
      cases none

theorem Typed.blames {f : Field} (typed : Typed fields fs r)
    (first : firstInvalid? fields fs = some f) : ∃ e, r = .error e ∧ Blames fields f e := by
  unfold Typed at typed
  rw [first] at typed
  exact typed

theorem isInfinite_of_finite (finite : everyEntry isFiniteScalar fields = true) (f : Field) :
    f.isInfinite fields = false := by
  have inside := Value.every_getD (Holder.every_entries finite rfl f.holder) rfl f.key
  have ends : isInfinity ((f.given fields).getD .null) = false := by
    unfold Field.given
    generalize (Value.lookup f.key (f.holder.entries fields)).getD .null = v at inside ⊢
    cases infinite : isInfinity v with
    | false => rfl
    | true =>
      cases v with
      | float x =>
        cases x with
        | infinite negative => cases inside
        | nan | finite => cases infinite
      | _ => cases infinite
  rw [Field.isInfinite, ends, Bool.and_false]

theorem Blames.isReport {f : Field} {e : Failure} (blamed : Blames fields f e)
    (finite : f.isInfinite fields = false) : IsReport (f.blame fields) e := by
  unfold Blames at blamed
  rw [finite] at blamed
  exact blamed

/-- **A mapping of plain values without infinite numbers makes a machine exactly if each field keeps
to its rule, and else a report about the configuration names the first that does not.** -/
theorem machine_valid_or_blamed (plain : (Value.dict fields).isPlain = true)
    (finite : (Value.dict fields).isFinite = true) :
    ((∃ m, machine (.dict fields) = .ok m) ↔ ∀ f ∈ fieldsInOrder, f.isValid fields = true) ∧
    ∀ f, firstInvalid? fields fieldsInOrder = some f →
      ∃ e, machine (.dict fields) = .error e ∧ IsReport (f.blame fields) e := by
  have typed : Typed fields fieldsInOrder (machine (.dict fields)) := machineOfFields_typed plain
  refine ⟨typed.ok_iff, ?_⟩
  intro f first
  obtain ⟨e, refused, blamed⟩ := typed.blames first
  exact ⟨e, refused, blamed.isReport (isInfinite_of_finite finite f)⟩

/-- Entries with a clock that counts from nowhere known, and much else that is wrong after it. -/
def clockFromMars : Fields := [
  (.text "disks", .list [.text "d1", .int 7]),
  (.text "rtc", .dict [(.text "basis", .text " Mars "), (.text "offset", .bool true)]),
  (.text "vcpus", .text "two"),
  (.text "cpu", .list []),
  (.text "guestname", .text "g")]

theorem machine_blames_clock : ∃ e, machine (.dict clockFromMars) = .error e ∧
    IsReport [("field", .text "rtc.basis")] e :=
  (machine_valid_or_blamed (by decide +kernel) (by decide +kernel)).2
    ⟨"rtc.basis", "basis", .clock, .basis⟩ (by decide +kernel)

/-! ## Infinite numbers -/

/-- The failure over an infinite number, which is no report. -/
def infinityFault : Failure := .fault (.integer .infinite)

/-- Whether the first field that is not valid holds an infinite number instead of a count. -/
def stopsAtInfinity (fields : Fields) : Bool :=
  (firstInvalid? fields fieldsInOrder).any fun f => f.isInfinite fields

/-- Whether a value converts to an integer; a truth value does, too. -/
def isPort (v : Value) : Bool := v.toInteger.toOption.isSome

def firstMisfit? (vs : List Value) : Option Value := vs.find? fun v => !isPort v

/-- Whether the first value that does not convert to an integer is an infinite number. -/
def portsStopAtInfinity (vs : List Value) : Bool := (firstMisfit? vs).any isInfinity

/-- A failure, if there is one, is a report about the configuration, or else the failure over an
infinite number; which of them is known. -/
def ReportedUnless (infinite : Bool) (r : Except Failure α) : Prop :=
  (r = .error infinityFault ↔ infinite = true) ∧
    ∀ e, r = .error e → e = infinityFault ∨ ∃ context, IsReport context e

theorem ReportedUnless.ok (a : α) : ReportedUnless false (.ok a : Except Failure α) := by
  refine ⟨⟨fun same => ?_, fun no => ?_⟩, fun e same => ?_⟩
  · cases same
  · cases no
  · cases same

theorem ReportedUnless.error {infinite : Bool} {context : List (String × Value)} {e : Failure}
    (about : if infinite then e = infinityFault else IsReport context e) :
    ReportedUnless infinite (.error e : Except Failure α) := by
  cases infinite with
  | true =>
    obtain rfl : e = infinityFault := about
    exact ⟨⟨fun _ => rfl, fun _ => rfl⟩, fun _ same => .inl (Except.error.inj same).symm⟩
  | false =>
    have reported : IsReport context e := about
    refine ⟨⟨fun same => ?_, fun no => ?_⟩, fun e' same => ?_⟩
    · obtain ⟨r, shape, -⟩ := reported
      rw [Except.error.inj same] at shape
      cases shape
    · cases no
    · exact .inr ⟨context, (Except.error.inj same) ▸ reported⟩

theorem portsFrom_typed {vs : List Value} (plain : everyOf isPlainScalar vs = true) (index : Nat) :
    match firstMisfit? vs with
    | none => ∃ ns, portsFrom index vs = .ok ns
    | some v => ∃ e, portsFrom index vs = .error e ∧
      if isInfinity v then e = infinityFault
      else IsReport [("index", .int (index + vs.findIdx fun v => !isPort v : Nat))] e := by
  induction vs generalizing index with
  | nil => exact ⟨[], rfl⟩
  | cons v rest ih =>
    obtain ⟨first, others⟩ := (Bool.and_eq_true _ _).mp plain
    rw [portsFrom, List.findIdx_cons]
    cases made : v.toInteger with
    | ok n =>
      have converts : isPort v = true := by
        rw [isPort, made]
        rfl
      have later := ih others (index + 1)
      have same : firstMisfit? (v :: rest) = firstMisfit? rest :=
        List.find?_cons_of_neg (by simp [converts])
      rw [same, converts]
      split at later
      · obtain ⟨ns, more⟩ := later
        rw [more]
        exact ⟨n :: ns, rfl⟩
      · obtain ⟨e, refused, about⟩ := later
        rw [refused]
        rw [Nat.add_right_comm] at about
        exact ⟨e, rfl, about⟩
    | error f =>
      have refused : isPort v = false := by
        rw [isPort, made]
        rfl
      have found : firstMisfit? (v :: rest) = some v := List.find?_cons_of_pos (by simp [refused])
      rw [found, refused]
      dsimp only
      by_cases infinite : isInfinity v = true
      · rw [toInteger_of_isInfinity infinite] at made
        obtain rfl := Except.error.inj made
        exact ⟨_, rfl, by rw [if_pos infinite]; rfl⟩
      · have finite : f ≠ .infinite := by
          rintro rfl
          exact infinite (isInfinity_of_toInteger made)
        cases f with
        | infinite => exact absurd rfl finite
        | _ =>
          refine ⟨_, rfl, ?_⟩
          rw [if_neg infinite]
          exact isReport_misfit first _ _ _ rfl

theorem Typed.reportedUnless (typed : Typed fields fs r) :
    ReportedUnless ((firstInvalid? fields fs).any fun f => f.isInfinite fields) r := by
  unfold Typed at typed
  split at typed
  · next none =>
    obtain ⟨a, rfl⟩ := typed
    rw [none]
    exact .ok a
  · next f first =>
    obtain ⟨e, rfl, about⟩ := typed
    rw [first]
    exact .error about

/-- **Each failure to type a mapping or a list of ports of plain values is a report about the
configuration, unless the first value that is wrong is an infinite number in the place of an
integer.** -/
theorem reported_unless_infinite {vs : List Value} (plain : (Value.dict fields).isPlain = true)
    (plainPorts : (Value.list vs).isPlain = true) :
    ReportedUnless (stopsAtInfinity fields) (machine (.dict fields)) ∧
      ReportedUnless (portsStopAtInfinity vs) (ports vs) := by
  have typed : Typed fields fieldsInOrder (machine (.dict fields)) := machineOfFields_typed plain
  refine ⟨typed.reportedUnless, ?_⟩
  have made := portsFrom_typed plainPorts 0
  unfold portsStopAtInfinity ports
  split at made
  · next none =>
    obtain ⟨ns, made⟩ := made
    rw [none, made]
    exact .ok ns
  · next v first =>
    obtain ⟨e, refused, about⟩ := made
    rw [first, refused]
    exact .error about

/-- Memory without end. -/
def endlessMemory : Fields := [
  (.text "guestname", .text "g"),
  (.text "memory", .float (.infinite false)),
  (.text "vcpus", .int 1)]

theorem endless_memory_unreported :
    machine (.dict endlessMemory) = .error infinityFault ∧
      ports [.int 10809, .float (.infinite true)] = .error infinityFault := by
  have both := @reported_unless_infinite endlessMemory [.int 10809, .float (.infinite true)]
    (by decide +kernel) (by decide +kernel)
  exact ⟨both.1.1.mpr (by decide +kernel), both.2.1.mpr (by decide +kernel)⟩

end

end MachineDescriptor.Typing
