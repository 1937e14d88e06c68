import MachineDescriptor.Proofs.Streams
import MachineDescriptor.Proofs.Telling

/-!
What loading a configuration comes to. Whichever file is loaded, there is a machine with as many
names of disks as the file lists, or a failure that a run can tell: a report about the configuration
or a fault that does not stop the run. Reports count the members of lists, so that lists must not be
too long for their lengths to be written.
-/
namespace MachineDescriptor

open Integer (isWritable)

/-! ## Computations that may fail -/

section

variable {ε ε' α β : Type} {post : α → Prop} {post' : β → Prop} {fails : ε → Prop}

/-- What a computation yields has a property, and so has every failure of it. -/
def Yields (post : α → Prop) (fails : ε → Prop) : Except ε α → Prop
  | .ok a => post a
  | .error e => fails e

theorem mapError_ok {f : ε → ε'} (a : α) : (Except.ok a).mapError f = .ok a := rfl

theorem Yields.bind {x : Except ε α} {f : α → Except ε β} (first : Yields post fails x)
    (second : ∀ a, post a → Yields post' fails (f a)) : Yields post' fails (x >>= f) := by
  cases x with
  | ok a => exact second a first
  | error e => exact first

theorem Yields.map {x : Except ε α} {f : α → β} (h : Yields post fails x)
    (each : ∀ a, post a → post' (f a)) : Yields post' fails (x.map f) := by
  cases x with
  | ok a => exact each a h
  | error e => exact h

theorem Yields.mapError {fails' : ε' → Prop} {x : Except ε α} {f : ε → ε'}
    (h : Yields post fails x) (each : ∀ e, fails e → fails' (f e)) :
    Yields post fails' (x.mapError f) := by
  cases x with
  | ok a => exact h
  | error e => exact each e h

theorem Yields.self {x : Except ε α} (h : Yields post fails x) :
    Yields (fun a => x = .ok a) fails x := by
  cases x with
  | ok a => exact rfl
  | error e => exact h

end

/-! ## Typing -/

namespace Typing

/-- A failure of loading that a run can tell. -/
abbrev Tells : Failure → Prop := Failure.IsPlain .config

variable {fields : Fields}

/-- A fault has a text of its own unless it comes from elsewhere. -/
theorem report_tells (message : String) {cause : Option Fault}
    (told : ∀ f, cause = some f → ∃ text, f.written = .ok text)
    {context : List (String × Value)} (writable : ∀ e ∈ context, e.2.isWritable = true) :
    Tells (report message cause context) := by
  refine Report.isPlain_ofMessage .config message ?_ (Context.isWritable_ofList writable)
  intro c given
  obtain ⟨f, named, rfl⟩ := Option.map_eq_some_iff.mp given
  exact told f named

theorem integerFault_isStop (f : Integer.Fault) : (Fault.integer f).isStop = false := by
  cases f <;> simp [Fault.isStop, Fault.kind, Integer.Fault.kind, Fault.stopKinds]

theorem misfit_tells (before : String) (v : Value) (after : String) {cause : Option Fault}
    (told : ∀ f, cause = some f → ∃ text, f.written = .ok text)
    {context : List (String × Value)} (writable : ∀ e ∈ context, e.2.isWritable = true) :
    Tells (misfit before v after cause context) := by
  unfold misfit
  split
  · exact report_tells _ told writable
  · exact integerFault_isStop _

theorem isWritable_field (name : String) : ∀ e ∈ field name, e.2.isWritable = true := by
  simp [field, Value.isWritable, Value.isWritableIn]

theorem mustBe_tells (name what : String) (v : Value) {cause : Option Fault}
    (told : ∀ f, cause = some f → ∃ text, f.written = .ok text) :
    Tells (mustBe name what v cause) :=
  misfit_tells _ v _ told (isWritable_field name)

theorem told_none (f : Fault) (named : none = some f) : ∃ text, f.written = .ok text := by
  cases named

theorem told_integer (g : Integer.Fault) (f : Fault) (named : some (.integer g) = some f) :
    ∃ text, f.written = .ok text := by
  obtain rfl := Option.some.inj named
  exact ⟨_, rfl⟩

theorem missing_tells (name : String) : Tells (missing name) :=
  report_tells _ told_none (isWritable_field name)

theorem integer_yields (name : String) (default : Option Int) :
    Yields (fun _ => True) Tells (integer fields name default) := by
  unfold integer
  split
  · cases default with
    | some n => trivial
    | none => exact missing_tells name
  · next b _ => exact mustBe_tells name _ (.bool b) told_none
  · split
    · trivial
    · exact integerFault_isStop .infinite
    · exact mustBe_tells name _ _ (told_integer _)

theorem flag_yields (name label : String) :
    Yields (fun _ => True) Tells (flag fields name label) := by
  unfold flag
  split
  · trivial
  · trivial
  · exact mustBe_tells label _ _ told_none

theorem optionalText_yields (name label : String) :
    Yields (fun _ => True) Tells (optionalText fields name label) := by
  unfold optionalText
  split
  · trivial
  · split
    · trivial
    · exact mustBe_tells label _ _ told_none

theorem group_yields (name : String) : Yields (fun _ => True) Tells (group fields name) := by
  unfold group
  dsimp only
  split
  · split
    · trivial
    · exact mustBe_tells name _ _ told_none
  · trivial

theorem basis_yields (v : Value) : Yields (fun _ => True) Tells (basis v) := by
  unfold basis
  split
  · trivial
  · split
    · exact integerFault_isStop _
    · dsimp only
      split
      · trivial
      · refine misfit_tells _ _ _ ?_ (isWritable_field _)
        rintro f named
        obtain rfl := Option.some.inj named
        exact ⟨_, rfl⟩

theorem processor_yields : Yields (fun _ => True) Tells (processor fields) := by
  unfold processor
  refine (optionalText_yields "vendor" _).bind fun vendor _ => ?_
  refine (optionalText_yields "model" _).bind fun model _ => ?_
  refine (integer_yields "sockets" _).bind fun sockets _ => ?_
  refine (integer_yields "cores" _).bind fun cores _ => ?_
  refine (integer_yields "threads" _).bind fun threads _ => ?_
  refine (flag_yields "acpi" _).bind fun acpi _ => ?_
  refine (flag_yields "apic" _).bind fun apic _ => ?_
  exact (flag_yields "pae" _).bind fun pae _ => trivial

/-- The position of a member that does not fit is told. -/
theorem isWritable_index {index length : Nat} (inside : index < length)
    (short : isWritable length = true) :
    ∀ e ∈ [("index", Value.int index)], e.2.isWritable = true := by
  have writable : isWritable index = true := by
    refine Integer.isWritable_of_natAbs_le ?_ short
    exact Nat.le_of_lt inside
  simpa [Value.isWritable, Value.isWritableIn] using writable

theorem textsFrom_yields (name : String) (index : Nat) (vs : List Value)
    (short : isWritable (index + vs.length : Nat) = true) :
    Yields (fun texts => texts.length = vs.length) Tells (textsFrom name index vs) := by
  induction vs generalizing index with
  | nil => exact rfl
  | cons v rest ih =>
    rw [List.length_cons] at short
    have inside : index < index + (rest.length + 1) := by omega
    unfold textsFrom
    split
    · have later : index + (rest.length + 1) = index + 1 + rest.length := by omega
      rw [later] at short
      refine (ih (index + 1) short).map fun texts same => ?_
      rw [List.length_cons, List.length_cons, same]
    · refine misfit_tells _ v _ told_none fun e member => ?_
      rcases List.mem_append.mp member with named | counted
      · exact isWritable_field name e named
      · exact isWritable_index inside short e counted

/-- A value whose members, if it has any, are not too many to count. -/
def IsShort (v : Value) : Prop := ∀ vs, v.members? = some vs → isWritable vs.length = true

theorem isWritable_zero : isWritable (0 : Nat) = true := by decide +kernel

theorem texts_yields (name : String) (short : IsShort ((Value.lookup name fields).getD .null)) :
    Yields (fun texts => isWritable (texts.getD []).length = true) Tells (texts fields name) := by
  unfold texts
  dsimp only
  have each : ∀ vs, ((Value.lookup name fields).getD .null).members? = some vs →
      Yields (fun texts => isWritable (texts.getD []).length = true) Tells
        ((textsFrom name 0 vs).map some) := by
    intro vs listed
    have writable := short vs listed
    refine (textsFrom_yields name 0 vs (by rwa [Nat.zero_add])).map fun texts same => ?_
    rw [Option.getD_some, same]
    exact writable
  split
  · exact isWritable_zero
  · next vs opened => exact each vs (by rw [Value.members?, opened])
  · next vs opened => exact each vs (by rw [Value.members?, opened])
  · exact mustBe_tells name _ _ told_none

theorem machineOfFields_yields
    (short : ∀ name, IsShort ((Value.lookup name fields).getD .null)) :
    Yields (fun m : Machine => isWritable m.disks.length = true) Tells
      (machineOfFields fields) := by
  unfold machineOfFields
  refine (optionalText_yields "guestname" _).bind fun given _ => ?_
  extract_lets named
  have rest : ∀ name, Yields (fun m : Machine => isWritable m.disks.length = true) Tells
      (named name) := by
    intro name
    refine (group_yields "cpu").bind fun cpu _ => ?_
    refine (group_yields "rtc").bind fun rtc _ => ?_
    refine (basis_yields _).bind fun basis _ => ?_
    refine (integer_yields "memory" _).bind fun memory _ => ?_
    refine (integer_yields "vcpus" _).bind fun processors _ => ?_
    refine processor_yields.bind fun processor _ => ?_
    extract_lets counted
    have rest : ∀ offset, Yields (fun m : Machine => isWritable m.disks.length = true) Tells
        (counted offset) := by
      intro offset
      refine (texts_yields "disks" (short _)).bind fun disks few => ?_
      refine (texts_yields "removable" (short _)).bind fun removable _ => ?_
      refine (texts_yields "interfaces" (short _)).bind fun interfaces _ => ?_
      exact (texts_yields "network_map" (short _)).bind fun networkRules _ => few
    split
    · exact (integer_yields "offset" _).bind fun offset _ => rest offset
    · exact rest 0
  split
  · split
    · exact missing_tells _
    · exact rest _
  · exact missing_tells _

theorem portsFrom_yields (index : Nat) (vs : List Value)
    (short : isWritable (index + vs.length : Nat) = true) :
    Yields (fun ports => ports.length = vs.length) Tells (portsFrom index vs) := by
  induction vs generalizing index with
  | nil => exact rfl
  | cons v rest ih =>
    rw [List.length_cons] at short
    have inside : index < index + (rest.length + 1) := by omega
    unfold portsFrom
    split
    · have later : index + (rest.length + 1) = index + 1 + rest.length := by omega
      rw [later] at short
      refine (ih (index + 1) short).map fun ports same => ?_
      rw [List.length_cons, List.length_cons, same]
    · exact integerFault_isStop .infinite
    · exact misfit_tells _ v _ (told_integer _) (isWritable_index inside short)

theorem checkPorts_yields {disks ports : Nat} (few : isWritable disks = true)
    (short : isWritable ports = true) :
    Yields (fun _ => disks = ports) Tells (checkPorts disks ports) := by
  unfold checkPorts
  split
  · assumption
  · refine report_tells _ told_none ?_
    simp [Value.isWritable, Value.isWritableIn, few, short]

end Typing

/-! ## Configurations -/

namespace Configuration

open Typing (Tells IsShort)

/-- A mapping of which no entry under a word has too many members to count. -/
def HasShortLists (v : Value) : Prop :=
  ∀ fields, v.opened = .dict fields → ∀ name, IsShort ((Value.lookup name fields).getD .null)

theorem mem_of_lookup {word : String} {fields : List (Value × Value)} {v : Value}
    (found : Value.lookup word fields = some v) : ∃ k, (k, v) ∈ fields := by
  induction fields with
  | nil => cases found
  | cons e rest ih =>
    obtain ⟨k, w⟩ := e
    unfold Value.lookup at found
    split at found
    · obtain rfl := Option.some.inj found
      exact ⟨k, List.mem_cons_self⟩
    · obtain ⟨k', listed⟩ := ih found
      exact ⟨k', List.mem_cons_of_mem _ listed⟩

/-- Whether no entry at all of a mapping has too many members to count. -/
def listsAreShort (v : Value) : Bool :=
  match v.opened with
  | .dict fields => fields.all fun e => e.2.members?.all fun vs => isWritable vs.length
  | _ => true

theorem hasShortLists_of_listsAreShort {v : Value} (few : listsAreShort v = true) :
    HasShortLists v := by
  intro fields opened name vs listed
  simp only [listsAreShort, opened, List.all_eq_true] at few
  cases found : Value.lookup name fields with
  | none =>
    rw [found] at listed
    cases listed
  | some w =>
    obtain ⟨k, inside⟩ := mem_of_lookup found
    rw [found, Option.getD_some] at listed
    simpa [listed] using few _ inside

theorem path_isWritable (path : Files.Path) :
    ∀ e ∈ [("path", Value.text path.toString)], e.2.isWritable = true := by
  simp [Value.isWritable, Value.isWritableIn]

/-- A fault of reading can be put into words and does not stop the run. -/
def IsOfReading (f : Fault) : Prop := (∃ text, f.written = .ok text) ∧ f.isStop = false

theorem json_isOfReading (f : Json.Fault) : IsOfReading (.json f) := by
  refine ⟨⟨_, rfl⟩, ?_⟩
  cases f with
  | malformed problem line column position => simp [Fault.isStop, Fault.kind, Json.Fault.kind,
      Fault.stopKinds]
  | integer g => exact Typing.integerFault_isStop g

theorem yaml_isOfReading (f : Yaml.Fault) : IsOfReading (.yaml f) := by
  refine ⟨⟨_, rfl⟩, ?_⟩
  cases f with
  | integer g => exact Typing.integerFault_isStop g
  | noSuchCharacter code =>
    simp only [Fault.isStop, Fault.kind, Yaml.Fault.kind]
    split
    · decide
    · decide
  | _ => simp [Fault.isStop, Fault.kind, Yaml.Fault.kind, Fault.stopKinds]

theorem valueOf_yields (letters : Text.Letters) (format : Format) (cs : List Char) :
    Yields (fun _ => True) IsOfReading (valueOf letters format cs) := by
  cases format with
  | json =>
    simp only [valueOf]
    cases Json.read cs letters with
    | ok v => trivial
    | error f => exact json_isOfReading f
  | yaml =>
    simp only [valueOf]
    cases Yaml.load letters cs with
    | ok v => trivial
    | error f => exact yaml_isOfReading f

theorem readValue_yields (letters : Text.Letters) (tree : Files.Tree) (path : Files.Path)
    (format : Format) :
    Yields (fun v => readValue letters tree path format = .ok v) IsOfReading
      (readValue letters tree path format) := by
  unfold readValue
  have read : Yields (fun _ => True) IsOfReading ((tree.read path).mapError .refused) := by
    cases tree.read path with
    | ok bytes => trivial
    | error r => exact ⟨⟨_, rfl⟩, Fault.isStop_refused r⟩
  have rest : ∀ bytes, Yields (fun _ => True) IsOfReading (do
      let cs ← (Text.Utf8.decode bytes).mapError .undecodable
      valueOf letters format (Text.unifyLineFeeds cs)) := by
    intro bytes
    have decoded : Yields (fun _ => True) IsOfReading
        ((Text.Utf8.decode bytes).mapError Fault.undecodable) := by
      cases Text.Utf8.decode bytes with
      | ok cs => trivial
      | error f => exact ⟨⟨_, rfl⟩, by simp [Fault.isStop, Fault.kind, Fault.stopKinds]⟩
    exact decoded.bind fun cs _ => valueOf_yields letters format _
  exact (read.bind fun bytes _ => rest bytes).self

theorem report_tells (path : Files.Path) (message : String) {cause : Option Fault}
    (told : ∀ f, cause = some f → ∃ text, f.written = .ok text) :
    Tells (report path message cause) :=
  Typing.report_tells _ told (path_isWritable path)

theorem unreadable_tells (path : Files.Path) {f : Fault} (reading : IsOfReading f) :
    Tells (unreadable path f) := by
  unfold unreadable
  split
  · refine report_tells path _ fun g named => ?_
    obtain rfl := Option.some.inj named
    exact reading.1
  · exact reading.2

theorem portsOf_yields (path : Files.Path) {v : Value} (short : HasShortLists v) :
    Yields (fun ports => isWritable ports.length = true) Tells (portsOf path v) := by
  unfold portsOf
  extract_lets given
  have few : IsShort given := by
    intro vs listed
    simp only [given] at listed
    split at listed
    · next fields opened => exact short fields opened _ vs listed
    · cases listed
  split
  · split
    · next vs opened => exact few vs (by rw [Value.members?, opened])
    · exact Typing.misfit_tells _ _ _ Typing.told_none (path_isWritable path)
  · exact Typing.isWritable_zero

/-- The lists in a configuration file are not too long to be counted. -/
def IsCountable (letters : Text.Letters) (tree : Files.Tree) (path : String) : Prop :=
  ∀ p format v, (Files.Path.ofString path).expandHome = some p →
    Format.ofSuffix? p.suffix = some format → readValue letters tree p format = .ok v →
    HasShortLists v

theorem machine_yields {v : Value} (short : HasShortLists v) :
    Yields (fun m : Machine => isWritable m.disks.length = true) Tells (Typing.machine v) := by
  unfold Typing.machine
  split
  · next fields opened => exact Typing.machineOfFields_yields (short fields opened)
  · exact Typing.report_tells _ Typing.told_none (by simp)

theorem read_yields {letters : Text.Letters} {tree : Files.Tree} {path : Files.Path}
    {format : Format} (short : ∀ v, readValue letters tree path format = .ok v → HasShortLists v) :
    Yields (fun c => isWritable c.machine.disks.length = true ∧ isWritable c.ports.length = true)
      Tells (do
        let v ← (readValue letters tree path format).mapError (unreadable path)
        let machine ← Typing.machine v
        pure (⟨machine, ← portsOf path v⟩ : Configuration)) := by
  have read := (readValue_yields letters tree path format).mapError (f := unreadable path)
    fun f reading => unreadable_tells path reading
  refine read.bind fun v value => ?_
  refine (machine_yields (short v value)).bind fun machine few => ?_
  exact (portsOf_yields path (short v value)).bind fun ports fewPorts => ⟨few, fewPorts⟩

/-- Once a file is read as a value, the value tells what is loaded. -/
theorem load_of_read {letters : Text.Letters} {tree : Files.Tree} {path : String} {p : Files.Path}
    {format : Format} {v : Value} (expanded : (Files.Path.ofString path).expandHome = some p)
    (found : tree.isFile p = .ok true) (known : Format.ofSuffix? p.suffix = some format)
    (read : readValue letters tree p format = .ok v) :
    load tree path letters = (do
      let machine ← Typing.machine v
      pure (⟨machine, ← portsOf p v⟩ : Configuration)) := by
  unfold load
  simp only [expanded, found, known, read]
  rfl

/-- **A configuration is loaded, or a failure comes out that a run can tell.** -/
theorem load_yields {letters : Text.Letters} {tree : Files.Tree} {path : String}
    (countable : IsCountable letters tree path) :
    Yields (fun c => isWritable c.machine.disks.length = true ∧ isWritable c.ports.length = true)
      Tells (load tree path letters) := by
  unfold load
  extract_lets given
  split
  · next p expanded =>
    have isFile : Yields (fun _ => True) Tells
        ((tree.isFile p).mapError fun r => .fault (.refused r)) := by
      cases tree.isFile p with
      | ok b => trivial
      | error r => exact Fault.isStop_refused r
    refine isFile.bind fun found _ => ?_
    extract_lets rest
    have suffixed : ∀ u, Yields (fun c => isWritable c.machine.disks.length = true ∧
        isWritable c.ports.length = true) Tells (rest u) := by
      intro u
      simp only [rest]
      split
      · next format known => exact read_yields fun v => countable p format v expanded known
      · exact report_tells p _ Typing.told_none
    -- so that the rest is not looked into any more
    clear_value rest
    split
    · exact report_tells p _ Typing.told_none
    · exact suffixed _
  · have ends : ∀ c : Bool, (if c then Fault.nullInPath else .noHome).isStop = false := by decide
    exact ends _

end Configuration

/-! ## Requests -/

namespace Command

open Typing (Tells)

/-- What a request loads from a tree: the machine and the port of each disk. -/
def Request.loaded (r : Request) (letters : Text.Letters) (tree : Files.Tree) :
    Except Failure (Machine × List Int) := do
  let configuration ← Configuration.load tree r.config letters
  let ports ← Typing.ports ((r.ports.map fun ns => ns.map .int).getD configuration.ports)
  Typing.checkPorts configuration.machine.disks.length ports.length
  pure (configuration.machine, ports)

/-- The ports of a request and the lists in its configuration are not too many to be counted. -/
def Request.IsCountable (r : Request) (letters : Text.Letters) (tree : Files.Tree) : Prop :=
  Configuration.IsCountable letters tree r.config ∧
    ∀ ports, r.ports = some ports → isWritable ports.length = true

/-- **There is a port for each disk that a request loads, or a failure that a run can tell.** -/
theorem Request.loaded_yields {r : Request} {letters : Text.Letters} {tree : Files.Tree}
    (countable : r.IsCountable letters tree) :
    Yields (fun p : Machine × List Int => p.1.disks.length = p.2.length) Tells
      (r.loaded letters tree) := by
  unfold loaded
  refine (Configuration.load_yields countable.1).bind fun c ⟨few, fewPorts⟩ => ?_
  have given :
      isWritable ((r.ports.map fun ns => ns.map Value.int).getD c.ports).length = true := by
    cases asked : r.ports with
    | none => exact fewPorts
    | some ports => simpa using countable.2 ports asked
  have typed := Typing.portsFrom_yields 0 _ (by rwa [Nat.zero_add])
  refine typed.bind fun ports same => ?_
  rw [← same] at given
  exact (Typing.checkPorts_yields few given).bind fun _ equal => equal

theorem ofExcept_bind {α β : Type} (x : Except Failure α) (f : α → Except Failure β) :
    ofExcept (x >>= f) = ofExcept x >>= fun a => ofExcept (f a) := by
  cases x <;> rfl

theorem ofExcept_pure {α : Type} (a : α) : ofExcept (pure a) = pure a := rfl

/-- A run loads what its request tells. -/
theorem load_apply {scene : Scene} (calm : scene.interrupted = false) (r : Request)
    (letters : Text.Letters) (s : State) :
    load scene r letters s = ofExcept (r.loaded letters s.placed.2) s := by
  unfold load Request.loaded
  rw [calm]
  simp only [Bool.false_eq_true, if_false, ofExcept_bind, ofExcept_pure]
  rw [get_bind]

end Command
end MachineDescriptor
