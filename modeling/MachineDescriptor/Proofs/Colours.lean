import MachineDescriptor.Log.Console
import MachineDescriptor.Proofs.Uncoloured

/-!
Coloured lines of the log. Without its colours, the line of a record is the line that the style
gives without colours but for the column of the level: the sequences around the name of a level
take up width there, so that fewer blanks follow the name or none.
-/
namespace MachineDescriptor.Log

open Terminal (IsBare ShowsAs coloured switch uncoloured)

/-! ## Records that set no colours -/

/-- Whether nothing that a line can show of a record sets colours. -/
structure Record.IsBare (r : Record) : Prop where
  levelName : Terminal.IsBare r.levelName.toList
  message : ∀ cs, r.message = .ok cs → Terminal.IsBare cs
  logger : Terminal.IsBare r.logger.toList
  source : Terminal.IsBare r.moduleName.toList
  context : ∀ c, r.context = some c →
    ∀ e ∈ c.entries, Terminal.IsBare e.1.toList ∧ Terminal.IsBare e.2.plain
  trace : ∀ e, r.exception = some e → Terminal.IsBare (traceOf e).toList

theorem isBare_symbol (style : Style) (name : String) : IsBare (symbol style name).toList := by
  unfold symbol
  split
  · cases shown : levelSymbols.lookup name with
    | none => decide
    | some s =>
      obtain ⟨before, after, listed, -⟩ := List.lookup_eq_some_iff.mp shown
      have each : ∀ e ∈ levelSymbols, IsBare e.2.toList := by decide
      exact each (name, s) (listed ▸ List.mem_append_right _ List.mem_cons_self)
  · decide

theorem isBare_brief {cs : List Char} (bare : IsBare cs) (limit : Int) : IsBare (brief limit cs) :=
  Terminal.isBare_cut (Terminal.isBare_escapeLineFeeds bare) limit (by decide)

theorem isBare_fieldText {e : String × Value} (name : IsBare e.1.toList) (value : IsBare e.2.plain)
    {cs : List Char} (told : fieldText e = .ok cs) : IsBare cs := by
  unfold fieldText briefValue Value.written at told
  split at told
  · next text written =>
    split at written
    · cases written
      cases told
      exact ((IsBare.append (by decide) (isBare_brief name _)).append (by decide)).append
        (isBare_brief value _)
    · cases written
  · cases told

theorem exists_of_mem_mapM {α β ε : Type} {f : α → Except ε β} {l : List α} {l' : List β}
    (made : l.mapM f = .ok l') {y : β} (listed : y ∈ l') : ∃ x ∈ l, f x = .ok y := by
  induction l generalizing l' with
  | nil =>
    cases made
    cases listed
  | cons x rest ih =>
    rw [List.mapM_cons] at made
    cases first : f x with
    | error e =>
      rw [first] at made
      cases made
    | ok z =>
      cases later : rest.mapM f with
      | error e =>
        rw [first, later] at made
        cases made
      | ok more =>
        rw [first, later] at made
        cases made
        rcases List.mem_cons.mp listed with rfl | further
        · exact ⟨x, List.mem_cons_self, first⟩
        · obtain ⟨x', here, told⟩ := ih later further
          exact ⟨x', List.mem_cons_of_mem x here, told⟩

theorem isBare_fieldsText {c : Context}
    (bare : ∀ e ∈ c.entries, IsBare e.1.toList ∧ IsBare e.2.plain) {cs : List Char}
    (told : fieldsText c = .ok cs) : IsBare cs := by
  unfold fieldsText at told
  cases made : c.sorted.mapM fieldText with
  | error f =>
    rw [made] at told
    cases told
  | ok parts =>
    rw [made] at told
    cases told
    intro found
    obtain ⟨part, listed, inside⟩ := List.mem_flatten.mp found
    obtain ⟨e, here, shown⟩ := exists_of_mem_mapM made listed
    obtain ⟨name, value⟩ := bare e ((List.mergeSort_perm _ _).mem_iff.mp here)
    exact isBare_fieldText name value shown inside

theorem isBare_setIn {cs : List Char} (bare : IsBare cs) : IsBare (setIn cs) := by
  refine Terminal.isBare_joined (by decide) fun part listed => ?_
  obtain ⟨line, found, rfl⟩ := List.mem_map.mp listed
  exact IsBare.append (by decide) (Terminal.isBare_of_mem_lines bare found)

theorem isBare_bracketed {parts : List String} (each : ∀ part ∈ parts, IsBare part.toList) :
    IsBare (if parts.isEmpty then "" else " [" ++ String.intercalate " " parts ++ "]").toList := by
  split
  · decide
  · simp only [String.toList_append]
    exact (IsBare.append (by decide) (Terminal.isBare_intercalate (by decide) each)).append
      (by decide)

theorem isBare_origin (style : Style) (process : Int) {r : Record} (bare : r.IsBare) :
    IsBare (origin style process r).toList := by
  have each : ∀ part ∈ (if style.showProcess then ["pid=" ++ toString process] else []) ++
      (if style.showLogger then [r.logger] else []) ++
      (if style.showSource then [r.moduleName ++ ":" ++ toString r.line] else []),
      IsBare part.toList := by
    have process : IsBare ("pid=" ++ toString process).toList := by
      rw [String.toList_append]
      exact IsBare.append (by decide) (Terminal.isBare_int process)
    have source : IsBare (r.moduleName ++ ":" ++ toString r.line).toList := by
      rw [String.toList_append, String.toList_append]
      exact (bare.source.append (by decide)).append (Terminal.isBare_int r.line)
    intro part listed
    simp only [List.mem_append, List.mem_ite_nil_right, List.mem_singleton] at listed
    obtain (⟨-, rfl⟩ | ⟨-, rfl⟩) | ⟨-, rfl⟩ := listed
    · exact process
    · exact bare.logger
    · exact source
  exact isBare_bracketed each

/-! ## How lines are laid out -/

/-- What a line shows of a record besides its level and where it comes from. -/
structure Shown where
  time : List Char
  message : List Char
  fields : List Char

/-- What the line of a record shows, if it has one. -/
def shownOf (style : Style) (r : Record) : Except Fault Shown := do
  let message ← r.message
  let moment ← r.moment
  if style.levelWidth < 0 then throw .negativeWidth
  let fields ← match r.context with
    | some c => fieldsText c
    | none => pure []
  pure ⟨(if style.showMillis then moment.time.millis else moment.time.text).toList, message, fields⟩

/-- How the coloured parts of a line are painted: the level, and the texts of messages and of
traces. -/
structure Paint where
  level : List Char
  message : List Char → List Char
  trace : List Char → List Char

/-- The line that is put together from what it shows. -/
def layOut (style : Style) (process : Int) (r : Record) (paint : Paint) (s : Shown) : List Char :=
  s.time ++ [' '] ++ (symbol style r.levelName).toList ++ [' '] ++
    column style.levelWidth.toNat paint.level ++ (origin style process r).toList ++ [' '] ++
    paint.message s.message ++ s.fields ++
    match r.exception with
    | none => []
    | some e => ['\n'] ++ paint.trace (setIn (Record.traceOf e).toList)

/-- Whether a paint is what colours a line when they are on or off. -/
structure Paint.Paints (paint : Paint) (on : Bool) (r : Record) : Prop where
  level : coloured on (levelColours.lookup r.levelName) [] r.levelName.toList =
    .ok paint.level
  message : ∀ text, (if warning ≤ r.level then
      coloured on (levelColours.lookup r.levelName) ["bold"] text
    else pure text) = .ok (paint.message text)
  trace : ∀ text, coloured on (some "red") [] text = .ok (paint.trace text)

theorem Paint.Paints.message_bind {paint : Paint} {on : Bool} {r : Record}
    (paints : paint.Paints on r) (text : List Char)
    (next : List Char → Except Fault (List Char)) :
    (if warning ≤ r.level then
      coloured on (levelColours.lookup r.levelName) ["bold"] text >>= next
    else next text) = next (paint.message text) := by
  have told := paints.message text
  by_cases grave : warning ≤ r.level
  · rw [if_pos grave] at told ⊢
    rw [told]
    rfl
  · rw [if_neg grave] at told ⊢
    rw [← Except.ok.inj told]

/-- A line is what it shows, as it is painted. -/
theorem consoleLine_of_paints {style : Style} {terminal : Bool} {r : Record} {paint : Paint}
    (paints : paint.Paints (style.colour && terminal) r) (process : Int) :
    consoleLine style terminal process r =
      (shownOf style r).map (layOut style process r paint) := by
  unfold consoleLine shownOf
  simp only [paints.level]
  cases r.message with
  | error f => rfl
  | ok message =>
    have ending : ∀ line : List Char,
        (match r.exception with
        | none => pure line
        | some e => do
          let text ← coloured (style.colour && terminal) (some "red") []
            (setIn (Record.traceOf e).toList)
          pure (line ++ ['\n'] ++ text) : Except Fault (List Char)) =
        .ok (line ++ match r.exception with
          | none => []
          | some e => ['\n'] ++ paint.trace (setIn (Record.traceOf e).toList)) := by
      intro line
      cases r.exception with
      | none => rw [List.append_nil]; rfl
      | some e =>
        simp only [paints.trace, ← List.append_assoc]
        rfl
    show (if warning ≤ r.level then _ else _) = _
    refine (paints.message_bind message _).trans ?_
    cases r.moment with
    | error f => rfl
    | ok moment =>
      by_cases negative : style.levelWidth < 0
      · simp only [negative, if_true]
        rfl
      · simp only [negative, if_false]
        cases r.context with
        | none => exact ending _
        | some c =>
          cases told : fieldsText c with
          | error f =>
            simp only [told]
            rfl
          | ok fields =>
            simp only [told]
            exact ending _

/-! ## Painted and plain lines -/

/-- How many characters around the name of a level set its colour. -/
def marksWidth (name : String) : Nat := if (levelColours.lookup name).isSome then 9 else 0

/-- Whether nothing but colours tells a painted line from a plain one. -/
structure Paint.IsFaithful (paint : Paint) (r : Record) : Prop where
  level : ∃ before after, paint.level = before ++ r.levelName.toList ++ after ∧
    ShowsAs before [] ∧ ShowsAs after [] ∧
    before.length + after.length = marksWidth r.levelName
  message : ∀ {text}, IsBare text → ShowsAs (paint.message text) text
  trace : ∀ {text}, IsBare text → ShowsAs (paint.trace text) text

theorem code_of_level {name colour : String} (shown : levelColours.lookup name = some colour) :
    colour.isEmpty = false ∧ ∃ code, Terminal.codeOf Terminal.colours colour = .ok code ∧
      (switch code).length = 5 := by
  obtain ⟨before, after, whole, -⟩ := List.lookup_eq_some_iff.mp shown
  have listed : (name, colour) ∈ levelColours :=
    whole ▸ List.mem_append_right _ List.mem_cons_self
  simp only [levelColours, List.mem_cons, Prod.mk.injEq, List.not_mem_nil, or_false] at listed
  obtain ⟨-, rfl⟩ | ⟨-, rfl⟩ | ⟨-, rfl⟩ | ⟨-, rfl⟩ | ⟨-, rfl⟩ | ⟨-, rfl⟩ := listed
  all_goals exact ⟨by decide, _, rfl, by decide⟩

theorem coloured_of_code {colour : String} {code : Nat} (named : colour.isEmpty = false)
    (coded : Terminal.codeOf Terminal.colours colour = .ok code) (text : List Char) :
    coloured true (some colour) [] text = .ok (switch code ++ text ++ switch 0) ∧
      coloured true (some colour) ["bold"] text =
        .ok (switch 1 ++ (switch code ++ text) ++ switch 0) := by
  unfold coloured
  simp only [named, coded]
  exact ⟨rfl, rfl⟩

theorem showsAs_painted {text : List Char} (bare : IsBare text) (code : Nat) :
    ShowsAs (switch code ++ text ++ switch 0) text := by
  have shows := ((Terminal.showsAs_switch code).append bare.showsAs).append
    (Terminal.showsAs_switch 0)
  rwa [List.nil_append, List.append_nil] at shows

theorem showsAs_bold {text : List Char} (bare : IsBare text) (code : Nat) :
    ShowsAs (switch 1 ++ (switch code ++ text) ++ switch 0) text := by
  have shows := (Terminal.showsAs_switch 1).append (showsAs_painted bare code)
  rwa [List.nil_append, ← List.append_assoc, ← List.append_assoc] at shows

/-- Without colours, a line is painted with what it shows. -/
def plainPaint (r : Record) : Paint := ⟨r.levelName.toList, id, id⟩

theorem paints_plainPaint (r : Record) : (plainPaint r).Paints false r := by
  have plain : ∀ colour styles text, coloured false colour styles text = .ok text := by
    intro colour styles text
    cases colour <;> rfl
  refine ⟨plain _ _ _, fun text => ?_, fun text => plain _ _ _⟩
  rw [plain]
  split <;> rfl

/-- With colours, a line is painted faithfully. -/
theorem exists_paints (r : Record) : ∃ paint : Paint, paint.Paints true r ∧ paint.IsFaithful r := by
  have red : ∀ text, coloured true (some "red") [] text = .ok (switch 31 ++ text ++ switch 0) :=
    fun text => (coloured_of_code (by decide) rfl text).1
  cases shown : levelColours.lookup r.levelName with
  | none =>
    refine ⟨⟨r.levelName.toList, id, fun text => switch 31 ++ text ++ switch 0⟩,
      ⟨?_, fun text => ?_, red⟩, ⟨[], [], ?_, ?_, ?_, ?_⟩, fun bare => bare.showsAs,
      fun bare => showsAs_painted bare 31⟩
    · rw [shown]
      rfl
    · rw [shown]
      split <;> rfl
    · simp
    · exact fun _ => rfl
    · exact fun _ => rfl
    · rw [marksWidth, shown]
      rfl
  | some colour =>
    obtain ⟨named, code, coded, length⟩ := code_of_level shown
    refine ⟨⟨switch code ++ r.levelName.toList ++ switch 0,
        fun text => if warning ≤ r.level then switch 1 ++ (switch code ++ text) ++ switch 0 else text,
        fun text => switch 31 ++ text ++ switch 0⟩,
      ⟨?_, fun text => ?_, red⟩, ⟨switch code, switch 0, rfl, Terminal.showsAs_switch code,
        Terminal.showsAs_switch 0, ?_⟩, fun bare => ?_, fun bare => showsAs_painted bare 31⟩
    · rw [shown, (coloured_of_code named coded _).1]
    · rw [shown, (coloured_of_code named coded _).2]
      split <;> rfl
    · rw [marksWidth, shown, length]
      rfl
    · dsimp only
      split
      · exact showsAs_bold bare code
      · exact bare.showsAs

theorem showsAs_column {before name after : List Char} (bare : IsBare name)
    (opens : ShowsAs before []) (closes : ShowsAs after []) (width : Nat) :
    ShowsAs (column width (before ++ name ++ after))
      (column (width - (before.length + after.length)) name) := by
  have blanks : IsBare (List.replicate (width - (before ++ name ++ after).length) ' ') :=
    fun listed => absurd (List.eq_of_mem_replicate listed) (by decide)
  have shows := ((opens.append bare.showsAs).append closes).append blanks.showsAs
  have length : width - (before ++ name ++ after).length =
      width - (before.length + after.length) - name.length := by
    simp only [List.length_append]
    omega
  unfold column
  rw [length] at shows ⊢
  rwa [List.nil_append, List.append_nil] at shows

/-- The style without colours whose column for a level is narrower by what sets its colour. -/
def Style.narrowed (style : Style) (name : String) : Style :=
  { style with
    colour := false
    levelWidth :=
      if 0 ≤ style.levelWidth then ((style.levelWidth.toNat - marksWidth name : Nat) : Int)
      else style.levelWidth }

theorem narrowed_of_nonneg {style : Style} (nonneg : 0 ≤ style.levelWidth) (name : String) :
    (style.narrowed name).levelWidth.toNat = style.levelWidth.toNat - marksWidth name := by
  rw [Style.narrowed, if_pos nonneg, Int.toNat_natCast]

theorem narrowed_neg_iff (style : Style) (name : String) :
    (style.narrowed name).levelWidth < 0 ↔ style.levelWidth < 0 := by
  dsimp only [Style.narrowed]
  split <;> omega

theorem shownOf_narrowed (style : Style) (name : String) (r : Record) :
    shownOf (style.narrowed name) r = shownOf style r := by
  unfold shownOf
  simp only [narrowed_neg_iff]
  rfl

theorem shownOf_eq_ok {style : Style} {r : Record} (bare : r.IsBare) {s : Shown}
    (told : shownOf style r = .ok s) :
    0 ≤ style.levelWidth ∧ IsBare s.time ∧ IsBare s.message ∧ IsBare s.fields := by
  unfold shownOf at told
  cases message : r.message with
  | error f =>
    rw [message] at told
    cases told
  | ok text =>
    cases dated : r.moment with
    | error f =>
      rw [message, dated] at told
      cases told
    | ok moment =>
      have time : IsBare
          (if style.showMillis then moment.time.millis else moment.time.text).toList := by
        split
        · exact (Terminal.isBare_time moment.time).2
        · exact (Terminal.isBare_time moment.time).1
      rw [message, dated] at told
      by_cases negative : style.levelWidth < 0
      · simp only [negative, if_true] at told
        cases told
      · simp only [negative, if_false] at told
        refine ⟨by omega, ?_⟩
        cases known : r.context with
        | none =>
          rw [known] at told
          cases told
          exact ⟨time, bare.message text message, List.not_mem_nil⟩
        | some c =>
          cases listed : fieldsText c with
          | error f =>
            simp only [known, listed] at told
            cases told
          | ok fields =>
            simp only [known, listed] at told
            cases told
            exact ⟨time, bare.message text message,
              isBare_fieldsText (bare.context c known) listed⟩

theorem showsAs_layOut {style : Style} (process : Int) {r : Record} (bare : r.IsBare)
    {paint : Paint} (faithful : paint.IsFaithful r) {s : Shown}
    (told : shownOf style r = .ok s) :
    ShowsAs (layOut style process r paint s)
      (layOut (style.narrowed r.levelName) process r (plainPaint r) s) := by
  obtain ⟨nonneg, time, message, fields⟩ := shownOf_eq_ok bare told
  obtain ⟨before, after, level, opens, closes, width⟩ := faithful.level
  have column := showsAs_column (bare.levelName) opens closes style.levelWidth.toNat
  rw [← level, width, ← narrowed_of_nonneg nonneg] at column
  have blank : ShowsAs [' '] [' '] := IsBare.showsAs (by decide)
  have ending : ShowsAs
      (match r.exception with
        | none => []
        | some e => ['\n'] ++ paint.trace (setIn (Record.traceOf e).toList))
      (match r.exception with
        | none => []
        | some e => ['\n'] ++ (plainPaint r).trace (setIn (Record.traceOf e).toList)) := by
    cases failed : r.exception with
    | none => exact fun _ => rfl
    | some e =>
      have set : ShowsAs ['\n'] ['\n'] := IsBare.showsAs (by decide)
      exact set.append (faithful.trace (isBare_setIn (bare.trace e failed)))
  exact ((((((((time.showsAs.append blank).append (isBare_symbol style _).showsAs).append
    blank).append column).append (isBare_origin style process bare).showsAs).append blank).append
    (faithful.message message)).append fields.showsAs).append ending

theorem layOut_eq_iff (style : Style) (process : Int) (r : Record) (s : Shown)
    (nonneg : 0 ≤ style.levelWidth) :
    layOut (style.narrowed r.levelName) process r (plainPaint r) s =
        layOut { style with colour := false } process r (plainPaint r) s ↔
      levelColours.lookup r.levelName = none ∨
        style.levelWidth ≤ r.levelName.length := by
  have same : layOut (style.narrowed r.levelName) process r (plainPaint r) s =
        layOut { style with colour := false } process r (plainPaint r) s ↔
      column (style.narrowed r.levelName).levelWidth.toNat r.levelName.toList =
        column style.levelWidth.toNat r.levelName.toList := by
    refine ⟨fun same => ?_, fun same => ?_⟩
    · have upToColumn := List.append_cancel_right (List.append_cancel_right
        (List.append_cancel_right (List.append_cancel_right (List.append_cancel_right same))))
      exact List.append_cancel_left upToColumn
    · unfold layOut plainPaint
      rw [same]
      rfl
  have width : r.levelName.toList.length = r.levelName.length :=
    String.length_toList
  rw [same, narrowed_of_nonneg nonneg, column, column, List.append_cancel_left_eq,
    List.replicate_inj, width]
  cases shown : levelColours.lookup r.levelName with
  | none =>
    have none : marksWidth r.levelName = 0 := by rw [marksWidth, shown]; rfl
    simp [none]
  | some colour =>
    have nine : marksWidth r.levelName = 9 := by rw [marksWidth, shown]; rfl
    simp only [nine, reduceCtorEq, false_or]
    omega

/-- **Colours change the column of the level and nothing else.** Without its colours, a coloured
line is the one of the narrowed style without colours; it is the line of the style itself exactly
if the level has no colour or fills its column. -/
theorem uncoloured_consoleLine (style : Style) (terminal : Bool) (process : Int) {r : Record}
    (bare : r.IsBare) :
    (consoleLine { style with colour := true } true process r).map uncoloured =
        consoleLine (style.narrowed r.levelName) terminal process r ∧
      ∀ line, consoleLine { style with colour := false } terminal process r = .ok line →
        ((consoleLine { style with colour := true } true process r).map uncoloured = .ok line ↔
          levelColours.lookup r.levelName = none ∨
            style.levelWidth ≤ r.levelName.length) := by
  obtain ⟨paint, paints, faithful⟩ := exists_paints r
  have plain := paints_plainPaint r
  have off : ∀ style : Style, style.colour = false → consoleLine style terminal process r =
      (shownOf style r).map (layOut style process r (plainPaint r)) := fun style off =>
    consoleLine_of_paints (by rwa [off, Bool.false_and]) process
  have on : consoleLine { style with colour := true } true process r =
      (shownOf style r).map (layOut { style with colour := true } process r paint) :=
    consoleLine_of_paints paints process
  have laid : ∀ s, shownOf style r = .ok s →
      uncoloured (layOut { style with colour := true } process r paint s) =
        layOut (style.narrowed r.levelName) process r (plainPaint r) s := fun s told =>
    (showsAs_layOut process bare faithful told).uncoloured_eq
  rw [on, off _ rfl, off _ rfl, shownOf_narrowed]
  cases told : shownOf style r with
  | error f =>
    have none : shownOf { style with colour := false } r = .error f := told
    rw [none]
    exact ⟨rfl, fun _ line => nomatch line⟩
  | ok s =>
    have some : shownOf { style with colour := false } r = .ok s := told
    rw [some]
    refine ⟨congrArg Except.ok (laid s told), fun line shown => ?_⟩
    obtain rfl := Except.ok.inj shown
    rw [← layOut_eq_iff style process r s (shownOf_eq_ok bare told).1, ← laid s told]
    exact ⟨fun same => Except.ok.inj same, fun same => congrArg Except.ok same⟩

/-- A record of a greeting. -/
def greeting : Record where
  level := info
  levelName := "INFO"
  logger := "phys2kvm"
  template := .text "hello"
  arguments := []
  context := none
  exception := none
  moduleName := "main"
  line := 1
  created := 1700000000123456

/-- The coloured line of a greeting lacks the blanks after the name of the level. -/
theorem uncoloured_greeting :
    (consoleLine .plain true 1 greeting).map uncoloured =
        .ok "22:13:20 ✅ INFO hello".toList ∧
      consoleLine { Style.plain with colour := false } true 1 greeting =
        .ok "22:13:20 ✅ INFO     hello".toList ∧
      (consoleLine .plain true 1 greeting).map uncoloured ≠
        .ok "22:13:20 ✅ INFO     hello".toList := by
  have bare : greeting.IsBare := by
    refine ⟨by decide, fun cs told => ?_, by decide, by decide, nofun, nofun⟩
    obtain rfl : "hello".toList = cs := Except.ok.inj told
    decide
  have changed := uncoloured_consoleLine .plain true 1 bare
  have plain : consoleLine { Style.plain with colour := false } true 1 greeting =
      .ok "22:13:20 ✅ INFO     hello".toList := rfl
  refine ⟨changed.1.trans rfl, plain, fun same => ?_⟩
  have narrow := (changed.2 _ plain).mp same
  revert narrow
  decide

end MachineDescriptor.Log
