import MachineDescriptor.Proofs.PlainValues

/-!
Which field of a mapping is blamed. The fields of a machine are looked at in a fixed order, each by
a rule of its own; a mapping of plain values gives a machine if every field keeps to its rule, and
else the first that does not is the one that the failure is about. The failure is a report with the
name of the field, unless the field is a count and holds an infinite number: such a number is not
reported but stops the typing.
-/
namespace MachineDescriptor.Typing

open Value (isPlainScalar everyEntry everyOf)

/-! ## Rules -/

/-- What a field may hold. -/
inductive Rule where
  /-- a text that is not empty -/
  | name
  /-- a mapping, or something that counts as false -/
  | group
  | basis
  | count
  /-- nothing or a count -/
  | optionalCount
  /-- nothing or a text -/
  | optionalText
  /-- a truth value where there is anything -/
  | flag
  /-- nothing or a list of texts -/
  | texts
deriving DecidableEq

/-- Whether a value makes an integer; a truth value does not count as one. -/
def isCount : Value → Bool
  | .bool _ => false
  | v => v.toInteger.toOption.isSome

def isInfinity : Value → Bool
  | .float (.infinite _) => true
  | _ => false

/-- The basis that a word stands for between blanks, in letters of any case. -/
def namedBasis? (s : String) : Option Basis :=
  let word := Text.lower (String.ofList (Text.trim s.toList))
  if word = "unknown" then some .unknown
  else if word = "utc" then some .utc
  else if word = "localtime" then some .localtime
  else none

/-- The basis that a value stands for: by itself, by its word, or as what counts as false. -/
def basisOf? : Value → Option Basis
  | .basis b => some b
  | .text s => if s.isEmpty then some .unknown else namedBasis? s
  | v => if v.isTrue then none else some .unknown

def Rule.isOfCounts : Rule → Bool
  | .count | .optionalCount => true
  | _ => false

/-- Whether a field may hold what is given for it. -/
def Rule.admits (rule : Rule) (given : Option Value) : Bool :=
  let v := given.getD .null
  match rule with
  | .name => (v.text?.map fun s => !s.isEmpty).getD false
  | .group =>
    match v with
    | .dict _ => true
    | v => !v.isTrue
  | .basis => (basisOf? v).isSome
  | .count => isCount v
  | .optionalCount =>
    match v with
    | .null => true
    | v => isCount v
  | .optionalText =>
    match v with
    | .null => true
    | v => v.text?.isSome
  | .flag =>
    match given with
    | none | some (.bool _) => true
    | _ => false
  | .texts =>
    match v with
    | .null => true
    | .list vs | .tuple vs => vs.all fun v => v.text?.isSome
    | _ => false

/-! ## Fields -/

/-- The mapping that a field stands in. The offset of a clock is not looked at but in universal
time. -/
inductive Holder where
  | machine
  | processor
  | clock
  | clockInUtc
deriving DecidableEq

/-- A field: the name that it is blamed by, its key, the mapping it stands in, and its rule. -/
structure Field where
  label : String
  key : String
  holder : Holder
  rule : Rule
deriving DecidableEq

def processorFields : List Field := [
  ⟨"cpu.vendor", "vendor", .processor, .optionalText⟩,
  ⟨"cpu.model", "model", .processor, .optionalText⟩,
  ⟨"sockets", "sockets", .processor, .optionalCount⟩,
  ⟨"cores", "cores", .processor, .optionalCount⟩,
  ⟨"threads", "threads", .processor, .optionalCount⟩,
  ⟨"cpu.acpi", "acpi", .processor, .flag⟩,
  ⟨"cpu.apic", "apic", .processor, .flag⟩,
  ⟨"cpu.pae", "pae", .processor, .flag⟩]

/-- The fields of a machine in the order in which they are looked at. -/
def fieldsInOrder : List Field := [
  ⟨"guestname", "guestname", .machine, .name⟩,
  ⟨"cpu", "cpu", .machine, .group⟩,
  ⟨"rtc", "rtc", .machine, .group⟩,
  ⟨"rtc.basis", "basis", .clock, .basis⟩,
  ⟨"memory", "memory", .machine, .count⟩,
  ⟨"vcpus", "vcpus", .machine, .count⟩] ++ (processorFields ++ [
  ⟨"offset", "offset", .clockInUtc, .optionalCount⟩,
  ⟨"disks", "disks", .machine, .texts⟩,
  ⟨"removable", "removable", .machine, .texts⟩,
  ⟨"interfaces", "interfaces", .machine, .texts⟩,
  ⟨"network_map", "network_map", .machine, .texts⟩])

/-- The entries of a mapping within a mapping; anything else has none. -/
def entriesOf (key : String) (fields : Fields) : Fields :=
  match (Value.lookup key fields).getD .null with
  | .dict entries => entries
  | _ => []

def clockBasis (fields : Fields) : Option Basis :=
  basisOf? ((Value.lookup "basis" (entriesOf "rtc" fields)).getD .null)

namespace Holder

def entries (fields : Fields) : Holder → Fields
  | machine => fields
  | processor => entriesOf "cpu" fields
  | clock | clockInUtc => entriesOf "rtc" fields

def isAsked (fields : Fields) : Holder → Bool
  | clockInUtc => clockBasis fields == some .utc
  | _ => true

end Holder

theorem every_entriesOf {p : Value → Bool} {fields : Fields} (all : everyEntry p fields = true)
    (nothing : p .null = true) (key : String) : everyEntry p (entriesOf key fields) = true := by
  have inside := Value.every_getD all nothing key
  unfold entriesOf
  split
  · next entries found =>
    rw [found] at inside
    exact inside
  · rfl

/-- What passes for all values of a mapping passes for those of the mappings within. -/
theorem Holder.every_entries {p : Value → Bool} {fields : Fields}
    (all : everyEntry p fields = true) (nothing : p .null = true) (holder : Holder) :
    everyEntry p (holder.entries fields) = true := by
  cases holder with
  | machine => exact all
  | processor => exact every_entriesOf all nothing "cpu"
  | clock => exact every_entriesOf all nothing "rtc"
  | clockInUtc => exact every_entriesOf all nothing "rtc"

namespace Field

def given (fields : Fields) (f : Field) : Option Value :=
  Value.lookup f.key (f.holder.entries fields)

def isValid (fields : Fields) (f : Field) : Bool :=
  !f.holder.isAsked fields || f.rule.admits (f.given fields)

/-- Whether an infinite number stands in place of a count. -/
def isInfinite (fields : Fields) (f : Field) : Bool :=
  f.rule.isOfCounts && isInfinity ((f.given fields).getD .null)

/-- What a report says about a field: its name, and in a list the position of the first member that
is no text. -/
def blame (fields : Fields) (f : Field) : List (String × Value) :=
  ("field", .text f.label) ::
    match f.rule, (f.given fields).getD .null with
    | .texts, .list vs | .texts, .tuple vs =>
      [("index", .int (vs.findIdx fun v => v.text?.isNone))]
    | _, _ => []

end Field

/-- The first field that does not keep to its rule. -/
def firstInvalid? (fields : Fields) (fs : List Field) : Option Field :=
  fs.find? fun f => !f.isValid fields

/-- A report about the configuration with a context. -/
def IsReport (context : List (String × Value)) (e : Failure) : Prop :=
  ∃ r, e = .report r ∧ r.kind = .config ∧ r.code = 2 ∧ r.context.entries = context

/-- A failure is about a field. -/
def Blames (fields : Fields) (f : Field) (e : Failure) : Prop :=
  if f.isInfinite fields then e = .fault (.integer .infinite) else IsReport (f.blame fields) e

/-- What typing some fields comes to: something if all of them keep to their rules, and else a
failure that is about the first which does not. -/
def Typed {α : Type} (fields : Fields) (fs : List Field) (r : Except Failure α) : Prop :=
  match firstInvalid? fields fs with
  | none => ∃ a, r = .ok a
  | some f => ∃ e, r = .error e ∧ Blames fields f e

section

variable {α β : Type} {fields : Fields} {f : Field} {fs gs : List Field}

theorem Typed.nil (a : α) : Typed fields [] (.ok a) := ⟨a, rfl⟩

theorem Typed.single {r : Except Failure α} (valid : f.isValid fields = true → ∃ a, r = .ok a)
    (invalid : f.isValid fields = false → ∃ e, r = .error e ∧ Blames fields f e) :
    Typed fields [f] r := by
  cases kept : f.isValid fields with
  | true => simpa [Typed, firstInvalid?, kept] using valid kept
  | false => simpa [Typed, firstInvalid?, kept] using invalid kept

/-- Fields that are looked at one after the other. -/
theorem Typed.bind {x : Except Failure α} {g : α → Except Failure β} (first : Typed fields fs x)
    (rest : ∀ a, x = .ok a → Typed fields gs (g a)) : Typed fields (fs ++ gs) (x >>= g) := by
  unfold Typed firstInvalid? at first ⊢
  rw [List.find?_append]
  cases found : fs.find? fun f => !f.isValid fields with
  | none =>
    rw [found] at first
    obtain ⟨a, rfl⟩ := first
    exact rest a rfl
  | some f =>
    rw [found] at first
    obtain ⟨e, rfl, blamed⟩ := first
    exact ⟨e, rfl, blamed⟩

theorem Typed.cons {x : Except Failure α} {g : α → Except Failure β} (first : Typed fields [f] x)
    (rest : ∀ a, x = .ok a → Typed fields fs (g a)) : Typed fields (f :: fs) (x >>= g) :=
  first.bind rest

theorem isReport_report (message : String) (cause : Option Fault) {context : List (String × Value)}
    (distinct : (Context.ofList context).entries = context) :
    IsReport context (report message cause context) :=
  ⟨_, rfl, rfl, rfl, distinct⟩

theorem isReport_misfit {v : Value} (plain : v.isPlain = true) (before after : String)
    (cause : Option Fault) {context : List (String × Value)}
    (distinct : (Context.ofList context).entries = context) :
    IsReport context (misfit before v after cause context) := by
  rw [misfit, Value.shown_of_isPlain plain]
  exact isReport_report _ cause distinct

theorem isReport_mustBe {v : Value} (plain : v.isPlain = true) (name what : String)
    (cause : Option Fault) : IsReport (field name) (mustBe name what v cause) :=
  isReport_misfit plain _ _ cause rfl

end

end MachineDescriptor.Typing
