import Mathlib.Data.List.Forall2
import MachineDescriptor.Log.Ndjson
import MachineDescriptor.Proofs.JsonFiles

/-!
Log lines for programs, as a reader finds them. The line of a record has no line break inside, and
reading it gives an object that tells the record: its level and logger, the filled message, where it
was made, the context in its order with every text brought to a bounded length on one line, and the
kind and trace of an exception.
-/
namespace MachineDescriptor.Log

open Typing (Fields)

/-! ## Brief texts -/

/-- What a text of bounded length on one line keeps of a whole one. -/
structure IsBrief (limit : Nat) (whole short : List Char) : Prop where
  unbroken : '\n' ∉ short ∧ '\r' ∉ short
  bounded : short.length ≤ limit
  kept : (Text.escapeLineFeeds whole).length ≤ limit → short = Text.escapeLineFeeds whole
  shortened : limit < (Text.escapeLineFeeds whole).length →
    short = (Text.escapeLineFeeds whole).take (limit - 1) ++ omission

theorem escapeLineFeeds_unbroken (cs : List Char) :
    '\n' ∉ Text.escapeLineFeeds cs ∧ '\r' ∉ Text.escapeLineFeeds cs := by
  induction cs with
  | nil => exact ⟨List.not_mem_nil, List.not_mem_nil⟩
  | cons c rest ih =>
    unfold Text.escapeLineFeeds
    grind

theorem isBrief_brief {limit : Nat} (positive : 0 < limit) (cs : List Char) :
    IsBrief limit cs (brief limit cs) := by
  have unbroken := escapeLineFeeds_unbroken cs
  by_cases fits : (Text.escapeLineFeeds cs).length ≤ limit
  · have kept : brief limit cs = Text.escapeLineFeeds cs := by
      rw [brief, Text.cut, if_pos (by omega)]
    rw [kept]
    exact ⟨unbroken, fits, fun _ => rfl, fun long => absurd fits (by omega)⟩
  · have shortened : brief limit cs = (Text.escapeLineFeeds cs).take (limit - 1) ++ omission := by
      have room : (limit : Int) - omission.length = ((limit - 1 : Nat) : Int) := by
        change (limit : Int) - 1 = _
        omega
      rw [brief, Text.cut, if_neg (by omega), room, Text.upTo, if_pos (by omega), Int.toNat_natCast]
    rw [shortened]
    refine ⟨⟨fun listed => ?_, fun listed => ?_⟩, ?_, fun short => absurd short fits, fun _ => rfl⟩
    · obtain before | mark := List.mem_append.mp listed
      · exact unbroken.1 (List.mem_of_mem_take before)
      · exact absurd mark (by decide)
    · obtain before | mark := List.mem_append.mp listed
      · exact unbroken.2 (List.mem_of_mem_take before)
      · exact absurd mark (by decide)
    · rw [List.length_append, List.length_take]
      change _ + 1 ≤ limit
      omega

/-! ## Members of an object -/

theorem lookup_members (name : String) (pairs : List (String × Value)) :
    Value.lookup name (members pairs) = pairs.lookup name := by
  induction pairs with
  | nil => rfl
  | cons e rest ih =>
    obtain ⟨key, v⟩ := e
    change (if (some key == some name) = true then some v else Value.lookup name (members rest)) = _
    rw [List.lookup_cons, ih]
    by_cases same : key = name
    · subst same
      simp
    · have forth : (some key == some name) = false := by simpa using same
      have back : (name == key) = false := by simpa using Ne.symm same
      rw [forth, back, if_neg Bool.false_ne_true]

theorem distinct_members {pairs : List (String × Value)}
    (apart : (pairs.map Prod.fst).Nodup) : Typing.Distinct (members pairs) := by
  have names : (members pairs).map (fun e => e.1.text?) = (pairs.map Prod.fst).map some := by
    rw [members, List.map_map, List.map_map]
    rfl
  unfold Typing.Distinct
  rw [names]
  exact List.pairwise_map.mpr (apart.imp fun other same => other (Option.some.inj same))

/-- A value that is printed as a text which is read as the value again. -/
structure IsReadable (v : Value) : Prop where
  tree : Json.IsTree v
  plain : v.isPlain = true

theorem isReadable_text (s : String) : IsReadable (.text s) := ⟨trivial, rfl⟩

theorem isReadable_int {n : Int} (short : Integer.isWritable n = true) : IsReadable (.int n) :=
  ⟨trivial, Typing.isPlain_int short⟩

theorem isReadable_members {pairs : List (String × Value)} (apart : (pairs.map Prod.fst).Nodup)
    (all : ∀ e ∈ pairs, IsReadable e.2) : IsReadable (.dict (members pairs)) := by
  constructor
  · refine Configuration.areMembers_of_distinct (distinct_members apart) fun e listed => ?_
    obtain ⟨pair, known, rfl⟩ := List.mem_map.mp listed
    exact ⟨⟨pair.1, rfl⟩, (all pair known).tree⟩
  · refine Value.everyEntry_of_forall fun e listed => ?_
    obtain ⟨pair, known, rfl⟩ := List.mem_map.mp listed
    exact ⟨rfl, (all pair known).plain⟩

theorem IsReadable.read_print {v : Value} (readable : IsReadable v) :
    Json.read (Json.print v) = .ok v := by
  have text := Json.DocumentText.mk Json.isSpaces_nil (Json.valueText_print v readable.tree)
    Json.isSpaces_nil
  rw [List.nil_append, List.append_nil] at text
  exact Json.read_document text readable.plain

/-! ## Contexts in an object -/

/-- The texts of a context, brief as they stand in a record's object. -/
def briefTexts (c : Context) : List (String × Value) :=
  c.entries.map fun e => (e.1, .text (String.ofList (brief maxFieldValue e.2.plain)))

/-- What a record's object says of a context. -/
def contextMembers : Option Context → List (String × Value)
  | some c => if c.isEmpty then [] else [("ctx", .dict (members (briefTexts c)))]
  | none => []

/-- Where something succeeds on each of a list, it succeeds on the whole list. -/
theorem mapM_of_ok {α β ε : Type} {f : α → Except ε β} {g : α → β} {l : List α}
    (each : ∀ x ∈ l, f x = .ok (g x)) : l.mapM f = .ok (l.map g) := by
  induction l with
  | nil => rfl
  | cons x rest ih =>
    obtain ⟨first, others⟩ := List.forall_mem_cons.mp each
    rw [List.mapM_cons, first, ih others]
    rfl

theorem briefValue_of_isWritable {v : Value} (short : v.isWritable = true) (limit : Int) :
    briefValue limit v = .ok (brief limit v.plain) := by
  rw [briefValue, Value.written, if_pos short]

theorem briefFields_of_isWritable {c : Context} (short : c.isWritable = true) :
    briefFields c =
      .ok (c.entries.map fun e => (e.1, String.ofList (brief maxFieldValue e.2.plain))) := by
  apply mapM_of_ok
  intro e listed
  rw [briefValue_of_isWritable (List.all_eq_true.mp short e listed)]
  rfl

/-! ## Records -/

/-- The moment of a record as its object tells it. -/
def stamp (utc : Bool) (moment : Calendar.Moment) : Calendar.Moment :=
  if utc then { moment with offset := some 0 } else moment

/-- The members that the object of every record has. -/
def fixedMembers (utc : Bool) (process : Int) (r : Record) (moment : Calendar.Moment)
    (message : List Char) : List (String × Value) :=
  [("ts", .text (stamp utc moment).millis), ("level", .text r.levelName),
    ("logger", .text r.logger), ("msg", .text (String.ofList message)), ("pid", .int process),
    ("module", .text r.moduleName), ("lineno", .int r.line)]

/-- The members of a record's object. -/
def recordMembers (utc : Bool) (process : Int) (r : Record) (moment : Calendar.Moment)
    (message : List Char) : List (String × Value) :=
  fixedMembers utc process r moment message ++ contextMembers r.context ++ exceptionMembers r.exception

variable {utc : Bool} {process : Int} {r : Record} {moment : Calendar.Moment} {message : List Char}

theorem recordObject_of_isWritable (dated : r.moment = .ok moment) (filled : r.message = .ok message)
    (short : ∀ c, r.context = some c → c.isWritable = true) :
    recordObject utc process r =
      .ok (.dict (members (recordMembers utc process r moment message))) := by
  unfold recordObject recordMembers contextMembers fixedMembers stamp
  rw [dated, filled]
  cases known : r.context with
  | none => rfl
  | some c =>
    by_cases empty : c.isEmpty = true
    · simp only [empty, if_true]
      rfl
    · simp only [empty, briefFields_of_isWritable (short c known)]
      simp only [bind, Except.bind, pure, Except.pure, briefTexts, List.map_map]
      rfl

theorem names_contextMembers (context : Option Context) :
    (contextMembers context).map Prod.fst = [] ∨
      (contextMembers context).map Prod.fst = ["ctx"] := by
  unfold contextMembers
  split
  · split
    · exact .inl rfl
    · exact .inr rfl
  · exact .inl rfl

theorem names_exceptionMembers (exception : Option (Option Exception)) :
    (exceptionMembers exception).map Prod.fst = [] ∨
      (exceptionMembers exception).map Prod.fst = ["exc_type", "traceback"] := by
  cases exception with
  | none => exact .inl rfl
  | some e => exact .inr rfl

/-- No two members of a record's object have one name. -/
theorem distinct_recordMembers :
    ((recordMembers utc process r moment message).map Prod.fst).Nodup := by
  have fixed : (fixedMembers utc process r moment message).map Prod.fst =
      ["ts", "level", "logger", "msg", "pid", "module", "lineno"] := rfl
  rw [recordMembers, List.map_append, List.map_append, fixed]
  obtain context | context := names_contextMembers r.context <;>
    obtain exception | exception := names_exceptionMembers r.exception <;>
    rw [context, exception] <;> decide

theorem isReadable_contextMembers (context : Option Context) :
    ∀ e ∈ contextMembers context, IsReadable e.2 := by
  unfold contextMembers
  split
  · next c =>
    split
    · exact List.forall_mem_nil _
    · refine List.forall_mem_singleton.mpr (isReadable_members ?_ fun e listed => ?_)
      · rw [briefTexts, List.map_map]
        exact c.distinct
      · obtain ⟨known, -, rfl⟩ := List.mem_map.mp listed
        exact isReadable_text _
  · exact List.forall_mem_nil _

theorem isReadable_exceptionMembers (exception : Option (Option Exception)) :
    ∀ e ∈ exceptionMembers exception, IsReadable e.2 := by
  cases exception with
  | none => exact List.forall_mem_nil _
  | some e =>
    exact List.forall_mem_cons.mpr
      ⟨isReadable_text _, List.forall_mem_singleton.mpr (isReadable_text _)⟩

/-- The object of a record is read as it was when it is printed. -/
theorem isReadable_recordMembers (named : Integer.isWritable process = true)
    (placed : Integer.isWritable r.line = true) :
    IsReadable (.dict (members (recordMembers utc process r moment message))) := by
  refine isReadable_members distinct_recordMembers fun e listed => ?_
  obtain before | exception := List.mem_append.mp listed
  · obtain fixed | context := List.mem_append.mp before
    · have all : ∀ e ∈ fixedMembers utc process r moment message, IsReadable e.2 := by
        simp only [fixedMembers, List.forall_mem_cons]
        exact ⟨isReadable_text _, isReadable_text _, isReadable_text _, isReadable_text _,
          isReadable_int named, isReadable_text _, isReadable_int placed, List.forall_mem_nil _⟩
      exact all e fixed
    · exact isReadable_contextMembers _ e context
  · exact isReadable_exceptionMembers _ e exception

/-! ## Members by their names -/

/-- A name that none of the fixed members has is looked up among the others. -/
theorem lookup_recordMembers {name : String}
    (free : name ∉ ["ts", "level", "logger", "msg", "pid", "module", "lineno"]) :
    Value.lookup name (members (recordMembers utc process r moment message)) =
      ((contextMembers r.context).lookup name).or ((exceptionMembers r.exception).lookup name) := by
  have fixed : (fixedMembers utc process r moment message).lookup name = none := by
    refine List.lookup_eq_none_iff.mpr fun e listed => ?_
    have known := List.mem_map_of_mem (f := Prod.fst) listed
    exact bne_iff_ne.mpr fun same => free (same ▸ known)
  rw [lookup_members, recordMembers, List.append_assoc, List.lookup_append, List.lookup_append,
    fixed, Option.none_or]

theorem lookup_contextMembers (context : Option Context) {name : String} (other : name ≠ "ctx") :
    (contextMembers context).lookup name = none := by
  refine List.lookup_eq_none_iff.mpr fun e listed => ?_
  have known := List.mem_map_of_mem (f := Prod.fst) listed
  obtain nothing | one := names_contextMembers context
  · rw [nothing] at known
    cases known
  · rw [one] at known
    exact bne_iff_ne.mpr fun same => other (same.trans (List.mem_singleton.mp known))

theorem lookup_exceptionMembers (exception : Option (Option Exception)) :
    (exceptionMembers exception).lookup "ctx" = none := by
  cases exception <;> rfl

/-! ## What a line tells -/

/-- An entry of a context and what a record's object says in its place. -/
structure IsToldAs (entry : String × Value) (told : Value × Value) : Prop where
  name : told.1 = .text entry.1
  value : ∃ short, told.2 = .text (String.ofList short) ∧ IsBrief 240 entry.2.plain short

/-- What the members of a record's object tell. -/
structure Tells (utc : Bool) (process : Int) (r : Record) (moment : Calendar.Moment)
    (message : List Char) (fields : Fields) : Prop where
  time : Value.lookup "ts" fields = some (.text (stamp utc moment).millis)
  level : Value.lookup "level" fields = some (.text r.levelName)
  logger : Value.lookup "logger" fields = some (.text r.logger)
  message : Value.lookup "msg" fields = some (.text (String.ofList message))
  process : Value.lookup "pid" fields = some (.int process)
  moduleName : Value.lookup "module" fields = some (.text r.moduleName)
  line : Value.lookup "lineno" fields = some (.int r.line)
  context : ∀ c, r.context = some c → c.isEmpty = false →
    ∃ told, Value.lookup "ctx" fields = some (.dict told) ∧ List.Forall₂ IsToldAs c.entries told
  noContext : (∀ c, r.context = some c → c.isEmpty = true) → Value.lookup "ctx" fields = none
  exception : ∀ e, r.exception = some (some e) →
    Value.lookup "exc_type" fields = some (.text e.kind) ∧
      Value.lookup "traceback" fields = some (.text e.trace)
  unknownException : r.exception = some none →
    Value.lookup "exc_type" fields = some (.text "Exception") ∧
      Value.lookup "traceback" fields = some (.text "NoneType: None")
  noException : r.exception = none →
    Value.lookup "exc_type" fields = none ∧ Value.lookup "traceback" fields = none

theorem isToldAs_briefTexts (c : Context) :
    List.Forall₂ IsToldAs c.entries (members (briefTexts c)) := by
  rw [members, briefTexts, List.map_map, List.forall₂_map_right_iff, List.forall₂_same]
  intro e _
  have short : IsBrief 240 e.2.plain (brief maxFieldValue e.2.plain) :=
    isBrief_brief (by decide) e.2.plain
  exact ⟨rfl, _, rfl, short⟩

theorem tells_recordMembers :
    Tells utc process r moment message (members (recordMembers utc process r moment message)) where
  time := by rw [lookup_members]; rfl
  level := by rw [lookup_members]; rfl
  logger := by rw [lookup_members]; rfl
  message := by rw [lookup_members]; rfl
  process := by rw [lookup_members]; rfl
  moduleName := by rw [lookup_members]; rfl
  line := by rw [lookup_members]; rfl
  context c known something := by
    refine ⟨_, ?_, isToldAs_briefTexts c⟩
    rw [lookup_recordMembers (by decide), lookup_exceptionMembers, Option.or_none, known]
    simp only [contextMembers, something]
    rfl
  noContext nothing := by
    rw [lookup_recordMembers (by decide), lookup_exceptionMembers, Option.or_none]
    cases known : r.context with
    | none => rfl
    | some c =>
      rw [contextMembers, if_pos (nothing c known)]
      rfl
  exception e known := by
    rw [lookup_recordMembers (by decide), lookup_recordMembers (by decide),
      lookup_contextMembers _ (by decide), lookup_contextMembers _ (by decide), known]
    exact ⟨rfl, rfl⟩
  unknownException known := by
    rw [lookup_recordMembers (by decide), lookup_recordMembers (by decide),
      lookup_contextMembers _ (by decide), lookup_contextMembers _ (by decide), known]
    exact ⟨rfl, rfl⟩
  noException known := by
    rw [lookup_recordMembers (by decide), lookup_recordMembers (by decide),
      lookup_contextMembers _ (by decide), lookup_contextMembers _ (by decide), known]
    exact ⟨rfl, rfl⟩

theorem jsonLine_of_isWritable (dated : r.moment = .ok moment) (filled : r.message = .ok message)
    (short : ∀ c, r.context = some c → c.isWritable = true)
    (named : Integer.isWritable process = true) (placed : Integer.isWritable r.line = true) :
    jsonLine utc process r =
      .ok (Json.print (.dict (members (recordMembers utc process r moment message)))) := by
  have readable : IsReadable (.dict (members (recordMembers utc process r moment message))) :=
    isReadable_recordMembers named placed
  have writable := Value.isWritable_of_isPlain readable.plain
  rw [jsonLine, recordObject_of_isWritable dated filled short]
  simp only [bind, Except.bind, pure, Except.pure, writable, if_true]

/-- **A record's line is one line, and reading it tells the record.** The time of the record lies in
the years that dates have, and the integers of the record keep to the limit on digits. -/
theorem jsonLine_tells (dated : r.moment = .ok moment) (filled : r.message = .ok message)
    (short : ∀ c, r.context = some c → c.isWritable = true)
    (named : Integer.isWritable process = true) (placed : Integer.isWritable r.line = true) :
    ∃ line fields, jsonLine utc process r = .ok line ∧ Json.IsVisible line ∧
      Json.read line = .ok (.dict fields) ∧ Tells utc process r moment message fields := by
  have readable : IsReadable (.dict (members (recordMembers utc process r moment message))) :=
    isReadable_recordMembers named placed
  exact ⟨_, _, jsonLine_of_isWritable dated filled short named placed,
    Json.isVisible_print _ readable.tree, readable.read_print, tells_recordMembers⟩

/-! ### Sample records -/

/-- A record of an exception, with line breaks in its message, its context and its trace. -/
def brokenRecord : Record where
  level := 35
  levelName := "NOTICE"
  logger := "phys2kvm"
  template := .text "a\n%s"
  arguments := [.text "\"\u2028"]
  context := some (.ofList [("b", .text "1\r\n2"), ("a", .int 3)])
  exception := some (some ⟨"RuntimeError",
    "Traceback (most recent call last):\nRuntimeError: Could not determine home directory."⟩)
  moduleName := "main"
  line := 7
  created := 1700000000123456

def brokenMoment : Calendar.Moment := ⟨⟨2023, 11, 14⟩, ⟨22, 13, 20, 123456⟩, none⟩

theorem brokenRecord_moment : brokenRecord.moment = .ok brokenMoment := by
  have instant : brokenRecord.instant = 1700000000123456 := rfl
  rw [Record.moment, instant]
  rfl

theorem jsonLine_broken :
    ∃ line fields, jsonLine true 4242 brokenRecord = .ok line ∧ Json.IsVisible line ∧
      Json.read line = .ok (.dict fields) ∧
      Tells true 4242 brokenRecord brokenMoment "a\n\"\u2028".toList fields := by
  refine jsonLine_tells brokenRecord_moment rfl ?_ (by decide +kernel) (by decide +kernel)
  rintro c ⟨⟩
  decide +kernel

/-- A record of an error for which no exception is at hand. -/
def bareRecord : Record where
  level := error
  levelName := "ERROR"
  logger := "phys2kvm"
  template := .text "hello"
  arguments := []
  context := none
  exception := some none
  moduleName := "mod"
  line := 1
  created := 1700000000123456

/-- The line of a record without an exception may name a kind of exception all the same, and a
record from beyond the last year has no line. -/
theorem jsonLine_bare :
    (bareRecord.exception = some none ∧ ∃ line fields, jsonLine true 4242 bareRecord = .ok line ∧
      Json.read line = .ok (.dict fields) ∧
      Value.lookup "exc_type" fields = some (.text "Exception")) ∧
    jsonLine true 4242 { bareRecord with created := 300000000000000000 } =
      .error (.calendar (.year 11476)) := by
  constructor
  · have dated : bareRecord.moment = .ok brokenMoment := brokenRecord_moment
    have named : Integer.isWritable 4242 = true := by decide +kernel
    have placed : Integer.isWritable bareRecord.line = true := by decide +kernel
    exact ⟨rfl, _, _, jsonLine_of_isWritable dated rfl nofun named placed,
      (isReadable_recordMembers named placed).read_print, (tells_recordMembers.unknownException rfl).1⟩
  · have instant : Record.instant { bareRecord with created := 300000000000000000 } =
        300000000000000000 := by decide +kernel
    rw [jsonLine, recordObject, Record.moment, instant]
    rfl

end MachineDescriptor.Log
