import MachineDescriptor.Proofs.Bindings
import MachineDescriptor.Proofs.ExitCodes
import MachineDescriptor.Proofs.SingleLines
import MachineDescriptor.Proofs.Telling

/-!
The lines that users see of errors. A report is shown on one line, whatever it was made of and
whatever values were added to it: its message, its context in brackets and its cause, each brought
to one line of bounded length. Of the context, the bindings alone decide how it is shown. Every
other error is shown on one line too.
-/
namespace MachineDescriptor

/-! ## Errors that are no reports -/

theorem Value.writableAll_all (vs : List Value) (web : Nat → Bool) :
    (writableAll vs).all (· web) = vs.all (·.isWritableIn web) := by
  induction vs with
  | nil => rfl
  | cons v rest ih => rw [writableAll, List.all_cons, List.all_cons, ih]

theorem Value.shown_of_isWritable {v : Value} (writable : v.isWritable = true) :
    v.shown = .ok v.display := if_pos writable

theorem Value.written_of_isWritable {v : Value} (writable : v.isWritable = true) :
    v.written = .ok v.plain := if_pos writable

namespace Foreign

theorem partsText_of_isWritable {parts : List Value} (short : ∀ v ∈ parts, v.isWritable = true) :
    ∃ text, partsText parts = .ok text := by
  match parts with
  | [] => exact ⟨[], rfl⟩
  | [v] => exact ⟨_, Value.written_of_isWritable (short v List.mem_cons_self)⟩
  | v :: w :: rest =>
    have all : (Value.tuple (v :: w :: rest)).isWritable = true := by
      rw [Value.isWritable, Value.isWritableIn, Value.writableAll_all]
      exact List.all_eq_true.mpr short
    exact ⟨_, Value.shown_of_isWritable all⟩

theorem mem_of_unlessNull {given : Option Value} {v : Value} (found : unlessNull given = some v) :
    given = some v := by
  unfold unlessNull at found
  split at found
  · cases found
  · exact found

theorem systemText_of_isWritable (kind : String) {number reason : Value} {rest : List Value}
    (first : number.isWritable = true) (second : reason.isWritable = true)
    (short : ∀ v ∈ rest, v.isWritable = true) :
    ∃ text, systemText kind number reason rest = .ok text := by
  unfold systemText
  rw [Value.written_of_isWritable first, Value.written_of_isWritable second]
  unfold subject
  cases path : unlessNull rest.head? with
  | none => exact ⟨_, rfl⟩
  | some p =>
    have listed : p ∈ rest := List.mem_of_mem_head? (mem_of_unlessNull path)
    by_cases counts : kind = "BlockingIOError" ∧ p.number?.isSome
    · simp only [if_pos counts]
      exact ⟨_, rfl⟩
    · simp only [if_neg counts, Value.shown_of_isWritable (short p listed)]
      cases other : unlessNull rest[2]? with
      | none => exact ⟨_, rfl⟩
      | some v =>
        have listed : v ∈ rest := List.mem_of_getElem? (mem_of_unlessNull other)
        simp only [Value.shown_of_isWritable (short v listed)]
        exact ⟨_, rfl⟩

/-- An error has a text when each value that it is made of has one. -/
theorem text_of_isWritable {e : Foreign} (short : ∀ v ∈ e.parts, v.isWritable = true) :
    ∃ text, e.text = .ok text := by
  obtain ⟨kind, parts⟩ := e
  have plain := partsText_of_isWritable short
  unfold text
  by_cases key : kind = "KeyError"
  · rw [if_pos key]
    match parts with
    | [v] => exact ⟨_, Value.shown_of_isWritable (short v List.mem_cons_self)⟩
    | [] | _ :: _ :: _ => exact plain
  · rw [if_neg key]
    match parts with
    | [] | [_] => exact plain
    | number :: reason :: rest =>
      obtain ⟨first, second, others⟩ :
          number.isWritable = true ∧ reason.isWritable = true ∧ ∀ v ∈ rest, v.isWritable = true := by
        simpa using short
      by_cases system : systemKinds.contains kind ∧ rest.length ≤ 3
      · simp only [if_pos system]
        exact systemText_of_isWritable kind first second others
      · simp only [if_neg system]
        exact plain

end Foreign

namespace Fault

/-- Whether an error can be told: one from outside has a kind with a name, and its values keep to
the limit on digits. -/
def IsTellable : Fault → Prop
  | foreign e => IsLine e.kind ∧ ∀ v ∈ e.parts, v.isWritable = true
  | _ => True

theorem isLine_kindOf (number : Int) : IsLine (Files.Refusal.kindOf number) := by
  unfold Files.Refusal.kindOf
  iterate 14 refine IsLine.ite (by decide) ?_
  decide

theorem isLine_kind_integer (f : Integer.Fault) : IsLine f.kind := by
  cases f <;> (dsimp only [Integer.Fault.kind]; decide)

/-- The kind of an error is one line. -/
theorem isLine_kind {f : Fault} (tellable : f.IsTellable) : IsLine f.kind := by
  cases f with
  | integer f => exact isLine_kind_integer f
  | json f =>
    cases f with
    | malformed => dsimp only [kind, Json.Fault.kind]; decide
    | integer f => exact isLine_kind_integer f
  | template f =>
    cases f with
    | integer f => exact isLine_kind_integer f
    | _ => dsimp only [kind, Template.Fault.kind]; decide
  | yaml f =>
    cases f with
    | integer f => exact isLine_kind_integer f
    | noSuchCharacter code =>
      dsimp only [kind, Yaml.Fault.kind]
      exact IsLine.ite (by decide) (by decide)
    | _ => dsimp only [kind, Yaml.Fault.kind]; decide
  | refused r => exact isLine_kindOf r.number
  | foreign e => exact tellable.1
  | unmakeable f => cases f <;> (dsimp only [kind, Foreign.Fault.kind]; decide)
  | _ => dsimp only [kind]; decide

theorem written_of_tellable {f : Fault} (tellable : f.IsTellable) :
    ∃ text, f.written = .ok text := by
  cases f with
  | foreign e =>
    obtain ⟨text, told⟩ := Foreign.text_of_isWritable tellable.2
    refine ⟨String.ofList text, ?_⟩
    rw [written, told]
    rfl
  | _ => exact ⟨_, rfl⟩

/-- **The line about an error that is no report is one line.** -/
theorem line_of_tellable {f : Fault} (tellable : f.IsTellable) (verbose : Int) :
    ∃ line, (Failure.fault f).line verbose = .ok line ∧ IsLine line := by
  obtain ⟨text, told⟩ := written_of_tellable tellable
  have named := isLine_kind tellable
  have single := Report.unbroken_oneLine text
  refine ⟨if 2 ≤ verbose then f.kind ++ ": " ++ Report.oneLine text
    else if (Report.oneLine text).isEmpty then f.kind else Report.oneLine text, ?_, ?_⟩
  · simp only [Failure.line, told]
    rfl
  · refine IsLine.ite ((named.append (by decide)).append single) ?_
    by_cases empty : (Report.oneLine text).isEmpty
    · rwa [if_pos empty]
    · rw [if_neg empty]
      exact ⟨fun none => empty (by rw [none]; rfl), single⟩

end Fault

/-! ## Reports -/

namespace Report

/-- The part of a line that shows the context, when it is asked for. -/
def contextPart (r : Report) (asked : Bool) : Except Integer.Fault String :=
  if asked && !r.context.isEmpty then do
    let text ← contextText r.context
    pure (" [" ++ oneLine text ++ "]")
  else pure ""

/-- The part of a line that shows the cause, when it is asked for. -/
def causePart (r : Report) (asked : Bool) : Except Integer.Fault String :=
  match r.cause with
  | some c =>
    if asked then do pure (" (cause: " ++ c.kind ++ ": " ++ oneLine (← c.text) ++ ")") else pure ""
  | none => pure ""

/-- A line is put together from the message and the two parts after it. -/
theorem userMessage_eq (r : Report) (withContext withCause : Bool) :
    r.userMessage withContext withCause = (do
      let context ← r.contextPart withContext
      let cause ← r.causePart withCause
      pure (r.message ++ context ++ cause)) := by
  unfold userMessage contextPart causePart
  cases withContext && !r.context.isEmpty <;> cases r.cause <;> cases withCause <;> simp

/-- What a report is made of: its kind, the value for its code, its text if there is one, its cause,
and the values in its context, with those that are added to it later, one lot after the other. -/
structure Draft where
  kind : Kind
  code : Value
  message : Option String
  cause : Option Failure
  context : Context
  added : List Context

namespace Draft

open Typing (isInfinity textOrNull)

/-- The report that is made, with all that is added to it. -/
def finished (d : Draft) : Except Fault Report := do
  let r ← make d.kind d.code (textOrNull d.message) (d.cause.map Failure.asCause) d.context
  d.added.foldlM annotated r

/-- The value that a name is bound to last. -/
def bound? (d : Draft) (name : String) : Option Value :=
  d.added.foldl (fun found more => (more.find? name).or found) (d.context.find? name)

/-- Whether a report can be made and shown: its code is no infinite number, its context and what is
added to that keep to the limit on digits, nothing that is added is named like the report itself,
and a cause that is no report can be told. -/
structure IsPlain (d : Draft) : Prop where
  code : isInfinity d.code = false
  context : d.context.isWritable = true
  added : ∀ more ∈ d.added, more.isWritable = true ∧ more.find? "self" = none
  cause : ∀ f, d.cause = some (.fault f) → f.IsTellable

/-- The message of a report: one line within the limit, which is the words of the given text with
single spaces between them when these keep to the limit, and the name of the kind when there are
no words. -/
structure IsMessage (d : Draft) (message : String) : Prop where
  isLine : IsLine message
  bounded : message.length ≤ 600
  whole : flattened (d.message.getD "") ≠ "" → (flattened (d.message.getD "")).length ≤ 600 →
    message = flattened (d.message.getD "")
  named : flattened (d.message.getD "") = "" → message = d.kind.name

/-- The part of a line that shows the context: nothing unless it is asked for and there are values. -/
inductive IsContextPart (d : Draft) (verbose : Int) : String → Prop where
  | absent (not : verbose < 1 ∨ ∀ name, d.bound? name = none) : IsContextPart d verbose ""
  | shown {inside : String} (asked : 1 ≤ verbose) (some : ∃ name v, d.bound? name = some v)
      (bounded : inside.length ≤ 600) : IsContextPart d verbose (" [" ++ inside ++ "]")

/-- The part of a line that shows the cause: nothing unless it is asked for and there is one. -/
inductive IsCausePart (d : Draft) (verbose : Int) : String → Prop where
  | absent (not : verbose < 2 ∨ d.cause = none) : IsCausePart d verbose ""
  | shown {f : Failure} {inside : String} (asked : 2 ≤ verbose) (some : d.cause = some f)
      (bounded : inside.length ≤ 600) :
      IsCausePart d verbose (" (cause: " ++ f.kind ++ ": " ++ inside ++ ")")

/-- What a user sees of a report: one line, put together from the message, the context and the
cause. -/
structure IsShownAs (d : Draft) (verbose : Int) (line : String) : Prop where
  isLine : IsLine line
  parts : ∃ message context cause, line = message ++ context ++ cause ∧ d.IsMessage message ∧
    d.IsContextPart verbose context ∧ d.IsCausePart verbose cause

/-! ### Making and adding -/

theorem annotated_of_free (r : Report) {more : Context} (free : more.find? "self" = none) :
    annotated r more = .ok (r.withContext more) := by
  have untaken : (more.entries.find? fun e => ["self"].contains e.1) = none := by
    rw [List.find?_eq_none]
    intro e listed
    have apart : "self" ≠ e.1 := bne_iff_ne.mp (List.lookup_eq_none_iff.mp free e listed)
    rw [List.contains_iff_mem, List.mem_singleton]
    exact apart.symm
  rw [annotated, Fault.refuseTaken, untaken]
  rfl

/-- Adding lots of values one after the other merges them into the context and changes nothing
else. -/
theorem foldlM_annotated {added : List Context} (free : ∀ more ∈ added, more.find? "self" = none)
    (kind : Kind) (code : Nat) (message : String) (cause : Option Cause) (context : Context) :
    added.foldlM annotated ⟨kind, code, message, cause, context⟩ =
      .ok ⟨kind, code, message, cause, added.foldl Context.merge context⟩ := by
  induction added generalizing context with
  | nil => rfl
  | cons more rest ih =>
    obtain ⟨first, others⟩ := List.forall_mem_cons.mp free
    rw [List.foldlM_cons, annotated_of_free _ first]
    exact ih others _

theorem find?_foldl_merge (added : List Context) (c : Context) (name : String) :
    (added.foldl Context.merge c).find? name =
      added.foldl (fun found more => (more.find? name).or found) (c.find? name) := by
  induction added generalizing c with
  | nil => rfl
  | cons more rest ih => rw [List.foldl_cons, ih, List.foldl_cons, Context.find?_merge]

theorem isWritable_foldl_merge {added : List Context} {c : Context} (first : c.isWritable = true)
    (others : ∀ more ∈ added, more.isWritable = true) :
    (added.foldl Context.merge c).isWritable = true := by
  induction added generalizing c with
  | nil => exact first
  | cons more rest ih =>
    obtain ⟨next, later⟩ := List.forall_mem_cons.mp others
    exact ih (Context.isWritable_merge first next) later

/-- The report that a draft comes to. -/
structure Makes (d : Draft) (r : Report) : Prop where
  kind : r.kind = d.kind
  message : r.message = messageOf d.kind (d.message.getD "")
  cause : r.cause = d.cause.map Failure.asCause
  writable : r.context.isWritable = true
  bound : ∀ name, r.context.find? name = d.bound? name

theorem finished_of_isPlain {d : Draft} (plain : d.IsPlain) :
    ∃ r, d.finished = .ok r ∧ d.Makes r := by
  obtain ⟨code, coded, -⟩ := codeOf_of_finite d.kind plain.code
  refine ⟨⟨d.kind, code, messageOf d.kind (d.message.getD ""), d.cause.map Failure.asCause,
    d.added.foldl Context.merge d.context⟩, ?_, rfl, ?_, ?_, ?_, ?_⟩
  · unfold finished
    rw [make_of_codeOf coded]
    exact foldlM_annotated (fun more listed => (plain.added more listed).2) _ _ _ _ _
  · dsimp only
  · dsimp only
  · exact isWritable_foldl_merge plain.context fun more listed => (plain.added more listed).1
  · intro name
    rw [find?_foldl_merge, bound?]

/-! ### The parts of a line -/

theorem isLine_name (kind : Kind) : IsLine kind.name ∧ kind.name.length ≤ 600 := by
  cases kind <;> decide

theorem isMessage_messageOf (d : Draft) : d.IsMessage (messageOf d.kind (d.message.getD "")) := by
  have named := isLine_name d.kind
  unfold messageOf
  by_cases empty : (oneLine (d.message.getD "")).isEmpty
  · have none : oneLine (d.message.getD "") = "" := String.isEmpty_iff.mp empty
    rw [if_pos empty]
    refine ⟨named.1, named.2, fun some short => ?_, fun _ => rfl⟩
    rw [oneLine_of_short short] at none
    exact absurd none some
  · rw [if_neg empty]
    refine ⟨⟨fun none => empty (String.isEmpty_iff.mpr none), unbroken_oneLine _⟩,
      length_oneLine _, fun _ short => oneLine_of_short short, fun none => ?_⟩
    have short : (flattened (d.message.getD "")).length ≤ 600 := by
      rw [none]
      decide
    rw [oneLine_of_short short, none] at empty
    exact absurd rfl empty

theorem contextText_of_isWritable {c : Context} (writable : c.isWritable = true) :
    ∃ text, contextText c = .ok text := ⟨_, if_pos writable⟩

theorem contextPart_of_makes {d : Draft} {r : Report} (makes : d.Makes r) (verbose : Int) :
    ∃ part, r.contextPart (1 ≤ verbose) = .ok part ∧ d.IsContextPart verbose part ∧
      Text.Unbroken part.toList := by
  obtain ⟨text, told⟩ := contextText_of_isWritable makes.writable
  unfold contextPart
  by_cases asked : 1 ≤ verbose
  · by_cases empty : r.context.entries = []
    · refine ⟨"", ?_, .absent (.inr fun name => ?_), by decide⟩
      · rw [Context.isEmpty, empty, decide_eq_true asked]
        rfl
      · rw [← makes.bound, Context.find?, empty]
        rfl
    · obtain ⟨e, listed⟩ := List.exists_mem_of_ne_nil _ empty
      have found := (Context.mem_iff_lookup r.context.distinct e).mp listed
      have some : r.context.isEmpty = false := by simpa [Context.isEmpty] using empty
      refine ⟨_, ?_, .shown asked ⟨e.1, e.2, (makes.bound e.1).symm.trans found⟩
        (length_oneLine text), ?_⟩
      · rw [some, decide_eq_true asked, told]
        rfl
      · simp only [String.toList_append]
        exact (Text.Unbroken.append (by decide) (unbroken_oneLine text)).append (by decide)
  · exact ⟨"", by rw [decide_eq_false asked]; rfl, .absent (.inl (by omega)), by decide⟩

theorem causePart_of_makes {d : Draft} {r : Report} (plain : d.IsPlain) (makes : d.Makes r)
    (verbose : Int) :
    ∃ part, r.causePart (2 ≤ verbose) = .ok part ∧ d.IsCausePart verbose part ∧
      Text.Unbroken part.toList := by
  unfold causePart
  rw [makes.cause]
  cases given : d.cause with
  | none => exact ⟨"", rfl, .absent (.inr given), by decide⟩
  | some f =>
    obtain ⟨⟨text, told⟩, named⟩ : (∃ text, f.written = .ok text) ∧ IsLine f.kind := by
      cases f with
      | report cause => exact ⟨⟨cause.message, rfl⟩, (isLine_name cause.kind).1⟩
      | fault f => exact ⟨Fault.written_of_tellable (plain.cause f given),
          Fault.isLine_kind (plain.cause f given)⟩
    by_cases asked : 2 ≤ verbose
    · refine ⟨_, ?_, .shown asked given (length_oneLine text), ?_⟩
      · simp only [decide_eq_true asked, Option.map_some, Failure.asCause, told]
        rfl
      · simp only [String.toList_append]
        refine ((((Text.Unbroken.append (by decide) named.unbroken).append (by decide)).append
          (unbroken_oneLine text)).append (by decide))
    · exact ⟨"", by rw [decide_eq_false asked]; rfl, .absent (.inl (by omega)), by decide⟩

/-- What is made of a draft is shown on one line. -/
theorem isShownAs_of_makes {d : Draft} {r : Report} (plain : d.IsPlain) (makes : d.Makes r)
    (verbose : Int) :
    ∃ line, (Failure.report r).line verbose = .ok line ∧ d.IsShownAs verbose line := by
  obtain ⟨context, found, isContext, unbroken⟩ := contextPart_of_makes makes verbose
  obtain ⟨cause, found', isCause, unbroken'⟩ := causePart_of_makes plain makes verbose
  have message : d.IsMessage r.message := makes.message ▸ isMessage_messageOf d
  refine ⟨r.message ++ context ++ cause, ?_, (message.isLine.append unbroken).append unbroken',
    r.message, context, cause, rfl, message, isContext, isCause⟩
  rw [Failure.line, userMessage_eq, found, found']
  rfl

/-- Drafts of one kind with one text, one cause and the same bindings are shown alike. -/
theorem line_of_bound? {d d' : Draft} {r r' : Report} (makes : d.Makes r) (makes' : d'.Makes r')
    (kind : d.kind = d'.kind) (message : d.message = d'.message) (cause : d.cause = d'.cause)
    (bound : ∀ name, d.bound? name = d'.bound? name) (verbose : Int) :
    (Failure.report r).line verbose = (Failure.report r').line verbose := by
  have same : ∀ name, r.context.find? name = r'.context.find? name := fun name => by
    rw [makes.bound, makes'.bound, bound]
  have context : ∀ asked, r.contextPart asked = r'.contextPart asked := fun asked => by
    unfold contextPart contextText
    rw [Context.isEmpty_of_find? same, Context.isWritable_of_find? same,
      Context.sorted_of_find? same]
  rw [Failure.line, Failure.line, userMessage_eq, userMessage_eq, context]
  unfold causePart
  rw [makes.cause, makes'.cause, makes.message, makes'.message, kind, message, cause]

end Draft

/-- **What users see of an error is one line of bounded length.** A report is shown by its message,
its context and its cause, and of the context by the bindings alone. -/
theorem shown_on_one_line :
    (∀ d : Draft, d.IsPlain → ∃ r, d.finished = .ok r ∧ d.IsMessage (Failure.report r).text ∧
      ∀ verbose, ∃ line, (Failure.report r).line verbose = .ok line ∧ d.IsShownAs verbose line) ∧
    (∀ d d' : Draft, d.IsPlain → d'.IsPlain → d.kind = d'.kind → d.message = d'.message →
      d.cause = d'.cause → (∀ name, d.bound? name = d'.bound? name) →
      ∃ r r', d.finished = .ok r ∧ d'.finished = .ok r' ∧
        (Failure.report r).text = (Failure.report r').text ∧
        ∀ verbose, (Failure.report r).line verbose = (Failure.report r').line verbose) ∧
    ∀ f : Fault, f.IsTellable → ∀ verbose,
      ∃ line, (Failure.fault f).line verbose = .ok line ∧ IsLine line := by
  refine ⟨fun d plain => ?_, fun d d' plain plain' kind message cause bound => ?_, fun f tellable =>
    Fault.line_of_tellable tellable⟩
  · obtain ⟨r, made, makes⟩ := Draft.finished_of_isPlain plain
    have text : d.IsMessage (Failure.report r).text := by
      rw [Failure.text, makes.message]
      exact Draft.isMessage_messageOf d
    exact ⟨r, made, text, Draft.isShownAs_of_makes plain makes⟩
  · obtain ⟨r, made, makes⟩ := Draft.finished_of_isPlain plain
    obtain ⟨r', made', makes'⟩ := Draft.finished_of_isPlain plain'
    refine ⟨r, r', made, made', ?_, Draft.line_of_bound? makes makes' kind message cause bound⟩
    rw [Failure.text, Failure.text, makes.message, makes'.message, kind, message]

/-- A report about a value of a configuration, to which one value is added. -/
def noticed (first second : String × Value) : Draft :=
  ⟨.config, .int 1, some "bad\nvalue", some (.fault .noHome), .ofList [first], [.ofList [second]]⟩

/-- A report is shown alike whichever of its two values is added later. -/
theorem noticed_shown : ∃ r r',
    (noticed ("field", .text "memory") ("index", .int 2)).finished = .ok r ∧
    (noticed ("index", .int 2) ("field", .text "memory")).finished = .ok r' ∧
    Text.lines (Failure.report r).text.toList = [(Failure.report r).text.toList] ∧
    (Failure.report r).line 2 = (Failure.report r').line 2 ∧
    ∃ line, (Failure.fault .noHome).line 2 = .ok line ∧ IsLine line := by
  have short : (Value.int 2).isWritable = true := by
    rw [Value.isWritable, Value.isWritableIn, Integer.isWritable]
    decide +kernel
  have plain : (noticed ("field", .text "memory") ("index", .int 2)).IsPlain := by
    refine ⟨rfl, rfl, fun more listed => ?_, fun f given => ?_⟩
    · obtain rfl := List.mem_singleton.mp listed
      exact ⟨Context.isWritable_ofList (by simpa using short), by decide⟩
    · cases given
      trivial
  have plain' : (noticed ("index", .int 2) ("field", .text "memory")).IsPlain := by
    refine ⟨rfl, Context.isWritable_ofList (by simpa using short), fun more listed => ?_,
      fun f given => ?_⟩
    · obtain rfl := List.mem_singleton.mp listed
      exact ⟨rfl, by decide⟩
    · cases given
      trivial
  have bound : ∀ name, (noticed ("field", .text "memory") ("index", .int 2)).bound? name =
      (noticed ("index", .int 2) ("field", .text "memory")).bound? name := by
    intro name
    simp only [Draft.bound?, noticed, List.foldl_cons, List.foldl_nil, Context.ofList,
      Context.find?_put, Context.find?_empty]
    by_cases field : name = "field"
    · simp [field]
    · by_cases index : name = "index" <;> simp [field, index]
  obtain ⟨r, made, message, -⟩ := shown_on_one_line.1 _ plain
  obtain ⟨r₁, r₂, made₁, made₂, -, same⟩ :=
    shown_on_one_line.2.1 _ _ plain plain' rfl rfl rfl bound
  obtain rfl : r = r₁ := Except.ok.inj (made.symm.trans made₁)
  exact ⟨r, r₂, made, made₂, message.isLine.lines_eq, same 2, shown_on_one_line.2.2 .noHome trivial 2⟩

end Report
end MachineDescriptor
