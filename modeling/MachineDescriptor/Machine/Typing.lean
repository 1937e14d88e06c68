import MachineDescriptor.Machine.Basic
import MachineDescriptor.Report
import MachineDescriptor.Text.LetterCase

/-!
From values to machines. The fields of a mapping are typed one by one in a fixed order, and the
first that does not fit is reported by its name. An infinite number is not reported but ends the
typing with the fault itself.
-/
namespace MachineDescriptor.Typing

abbrev Fields := List (Value × Value)

/-- The report about a configuration. -/
def report (message : String) (cause : Option Fault) (context : List (String × Value)) : Failure :=
  .report (Report.ofMessage .config message (cause.map Fault.asCause) (Context.ofList context))

/-- The context that names a field. -/
def field (name : String) : List (String × Value) := [("field", .text name)]

/-- The failure over a value that does not fit; the message ends with the value in its quoted
form. -/
def misfit (before : String) (v : Value) (after : String) (cause : Option Fault)
    (context : List (String × Value)) : Failure :=
  match v.shown with
  | .ok shown => report (before ++ String.ofList shown ++ after) cause context
  | .error f => .fault (.integer f)

/-- The failure over a field whose value is not what it must be. -/
def mustBe (name what : String) (v : Value) (cause : Option Fault) : Failure :=
  misfit ("`" ++ name ++ "` must be " ++ what ++ ", got: ") v "" cause (field name)

def missing (name : String) : Failure :=
  report ("missing required field `" ++ name ++ "`") none (field name)

/-- An integer that may be spelled as text. A field without a value has the default, if there is
one; a truth value is no integer. -/
def integer (fields : Fields) (name : String) (default : Option Int) : Except Failure Int :=
  match (Value.lookup name fields).getD .null with
  | .null =>
    match default with
    | some n => .ok n
    | none => .error (missing name)
  | .bool b => .error (mustBe name "an integer" (.bool b) none)
  | v =>
    match v.toInteger with
    | .ok n => .ok n
    | .error .infinite => .error (.fault (.integer .infinite))
    | .error f => .error (mustBe name "an integer" v (some (.integer f)))

/-- A truth value; a field that is not there is false. -/
def flag (fields : Fields) (name label : String) : Except Failure Bool :=
  match Value.lookup name fields with
  | none => .ok false
  | some (.bool b) => .ok b
  | some v => .error (mustBe label "true or false" v none)

/-- A text or nothing. -/
def optionalText (fields : Fields) (name label : String) : Except Failure (Option String) :=
  match (Value.lookup name fields).getD .null with
  | .null => .ok none
  | v =>
    match v.text? with
    | some s => .ok (some s)
    | none => .error (mustBe label "a string" v none)

/-- The texts in a list from a position on. -/
def textsFrom (name : String) (index : Nat) : List Value → Except Failure (List String)
  | [] => .ok []
  | v :: rest =>
    match v.text? with
    | some s => (textsFrom name (index + 1) rest).map (s :: ·)
    | none =>
      .error (misfit ("`" ++ name ++ "[" ++ toString index ++ "]` must be a string, got: ") v ""
        none (field name ++ [("index", .int index)]))

/-- A list of texts or nothing. -/
def texts (fields : Fields) (name : String) : Except Failure (Option (List String)) :=
  let v := (Value.lookup name fields).getD .null
  match v.opened with
  | .null => .ok none
  | .list vs | .tuple vs => (textsFrom name 0 vs).map some
  | _ => .error (mustBe name "a list of strings" v none)

/-- A mapping; every value that counts as false stands for an empty one. -/
def group (fields : Fields) (name : String) : Except Failure Fields :=
  let v := (Value.lookup name fields).getD .null
  if v.isTrue then
    match v.opened with
    | .dict entries => .ok entries
    | _ => .error (mustBe name "a mapping" v none)
  else .ok []

/-- The word that a text given for a basis comes to. -/
def basisWord (cs : List Char) : String :=
  Text.lower (String.ofList (Text.trim cs))

/-- The basis that a value stands for, by a word in any case between blanks. -/
def basis (v : Value) : Except Failure Basis :=
  match v with
  | .basis b => .ok b
  | v =>
    match (if v.isTrue then v else .text "unknown").written with
    | .error f => .error (.fault (.integer f))
    | .ok cs =>
      let word := basisWord cs
      match Basis.ofWord? word with
      | some b => .ok b
      | none =>
        .error (misfit "invalid rtc basis " v " (use unknown|utc|localtime)"
          (some (.unknownBasis word)) (field "rtc.basis"))

/-- The processor of a mapping. -/
def processor (fields : Fields) : Except Failure Processor := do
  let vendor ← optionalText fields "vendor" "cpu.vendor"
  let model ← optionalText fields "model" "cpu.model"
  let sockets ← integer fields "sockets" (some 0)
  let cores ← integer fields "cores" (some 0)
  let threads ← integer fields "threads" (some 0)
  let acpi ← flag fields "acpi" "cpu.acpi"
  let apic ← flag fields "apic" "cpu.apic"
  let pae ← flag fields "pae" "cpu.pae"
  pure ⟨vendor, model, sockets, cores, threads, acpi, apic, pae⟩

/-- The machine of a mapping's fields. -/
def machineOfFields (fields : Fields) : Except Failure Machine := do
  let name ← optionalText fields "guestname" "guestname"
  let name ← match name with
    | some s => if s.isEmpty then throw (missing "guestname") else pure s
    | none => throw (missing "guestname")
  let cpu ← group fields "cpu"
  let rtc ← group fields "rtc"
  let basis ← basis ((Value.lookup "basis" rtc).getD .null)
  let memory ← integer fields "memory" none
  let processors ← integer fields "vcpus" none
  let processor ← processor cpu
  let offset ← if basis = .utc then integer rtc "offset" (some 0) else pure 0
  let disks ← texts fields "disks"
  let removable ← texts fields "removable"
  let interfaces ← texts fields "interfaces"
  let networkRules ← texts fields "network_map"
  pure ⟨name, memory, processors, processor, ⟨basis, offset⟩, disks.getD [], removable, interfaces,
    networkRules⟩

/-- The machine that a value describes. -/
def machine (v : Value) : Except Failure Machine :=
  match v.opened with
  | .dict fields => machineOfFields fields
  | _ => .error (report "top-level config must be a mapping" none [])

/-- The ports of connections from a position in a list of values on; each converts to an
integer. -/
def portsFrom (index : Nat) : List Value → Except Failure (List Int)
  | [] => .ok []
  | v :: rest =>
    match v.toInteger with
    | .ok n => (portsFrom (index + 1) rest).map (n :: ·)
    | .error .infinite => .error (.fault (.integer .infinite))
    | .error f =>
      .error (misfit "invalid NBD port " v "" (some (.integer f)) [("index", .int index)])

/-- The ports of connections. -/
def ports (vs : List Value) : Except Failure (List Int) := portsFrom 0 vs

/-- The ports of the connections that a value holds. -/
def portsIn (v : Value) : Except Failure (List Int) :=
  match v.members? with
  | some vs => ports vs
  | none => .error (.fault (.notACollection v.kind))

/-- Refuses a number of connections that is not the number of disks. -/
def checkPorts (disks ports : Nat) : Except Failure Unit :=
  if disks = ports then .ok ()
  else
    .error (report (toString disks ++ " disk(s) but " ++ toString ports ++
      " NBD port(s); they must match one-to-one") none
      [("disks", .int disks), ("ports", .int ports)])

end MachineDescriptor.Typing
