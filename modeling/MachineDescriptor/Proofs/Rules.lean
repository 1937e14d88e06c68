import MachineDescriptor.Proofs.Fields

/-!
Each kind of field keeps to its rule: typing it gives something if the rule admits what is given for
the field, and else the failure is about the field. Put together in the order of the fields, so does
the typing of a whole machine.
-/
namespace MachineDescriptor.Typing

open Value (isPlainScalar everyEntry everyOf)

/-! ## Values that make integers -/

theorem readAs_ne_infinite (shown cs : List Char) :
    Integer.readAs shown cs ≠ .error .infinite := by
  unfold Integer.readAs
  dsimp only
  split
  · simp
  · split
    · simp
    · split <;> simp

/-- Only an infinite number is too large to make an integer. -/
theorem isInfinity_of_toInteger {v : Value} (failed : v.toInteger = .error .infinite) :
    isInfinity v = true := by
  cases v with
  | float x =>
    cases x with
    | infinite negative => rfl
    | nan | finite => cases failed
  | text s => exact absurd failed (readAs_ne_infinite _ _)
  | basis b => exact absurd failed (readAs_ne_infinite _ _)
  | bytes bs => exact absurd failed (readAs_ne_infinite _ _)
  | _ => cases failed

theorem toInteger_of_isInfinity {v : Value} (infinite : isInfinity v = true) :
    v.toInteger = .error .infinite := by
  cases v with
  | float x =>
    cases x with
    | infinite negative => rfl
    | nan | finite => cases infinite
  | _ => cases infinite

theorem isCount_of_ok {v : Value} {n : Int} (number : ∀ b, v ≠ .bool b) (made : v.toInteger = .ok n) :
    isCount v = true := by
  unfold isCount
  split
  · next b => exact absurd rfl (number b)
  · rw [made]
    rfl

theorem isCount_of_error {v : Value} {f : Integer.Fault} (failed : v.toInteger = .error f) :
    isCount v = false := by
  unfold isCount
  split
  · rfl
  · rw [failed]
    rfl

/-! ## Fields one by one -/

section

variable {fields : Fields} {holder : Holder} {key : String}

/-- What comes of a value that is given for a count. -/
theorem integer_of_given {entries : Fields} {name : String} {v : Value}
    (found : (Value.lookup name entries).getD .null = v) (something : v ≠ .null)
    (plain : v.isPlain = true) (default : Option Int) :
    (isCount v = true → ∃ n, integer entries name default = .ok n) ∧
    (isCount v = false → ∃ e, integer entries name default = .error e ∧
      if isInfinity v then e = .fault (.integer .infinite) else IsReport (field name) e) := by
  unfold integer
  rw [found]
  split
  · exact absurd rfl something
  · next b =>
    exact ⟨fun count => Bool.noConfusion count,
      fun _ => ⟨_, rfl, isReport_mustBe plain name "an integer" none⟩⟩
  · next noBool =>
    cases made : v.toInteger with
    | ok n =>
      have count := isCount_of_ok noBool made
      refine ⟨fun _ => ⟨n, rfl⟩, fun none => ?_⟩
      rw [count] at none
      cases none
    | error f =>
      have none := isCount_of_error made
      refine ⟨fun count => ?_, fun _ => ?_⟩
      · rw [none] at count
        cases count
      · by_cases infinite : isInfinity v = true
        · rw [toInteger_of_isInfinity infinite] at made
          obtain rfl := Except.error.inj made
          exact ⟨_, rfl, by rw [if_pos infinite]⟩
        · have finite : f ≠ .infinite := by
            rintro rfl
            exact infinite (isInfinity_of_toInteger made)
          cases f with
          | infinite => exact absurd rfl finite
          | _ =>
            refine ⟨_, rfl, ?_⟩
            rw [if_neg infinite]
            exact isReport_mustBe plain name "an integer" _

theorem isPlain_given {entries : Fields} (plain : everyEntry isPlainScalar entries = true)
    (key : String) : ((Value.lookup key entries).getD .null).isPlain = true :=
  Value.every_getD plain rfl key

/-- A field that is looked at is typed by its rule alone. -/
theorem Typed.of_rule {α : Type} {label : String} {rule : Rule} {given : Option Value}
    (asked : holder.isAsked fields = true)
    (found : Value.lookup key (holder.entries fields) = given) {r : Except Failure α}
    (valid : rule.admits given = true → ∃ a, r = .ok a)
    (invalid : rule.admits given = false →
      ∃ e, r = .error e ∧ Blames fields ⟨label, key, holder, rule⟩ e) :
    Typed fields [⟨label, key, holder, rule⟩] r := by
  have same : Field.isValid fields ⟨label, key, holder, rule⟩ = rule.admits given := by
    rw [Field.isValid, asked, Field.given, found]
    rfl
  refine .single (fun kept => valid ?_) (fun broken => invalid ?_)
  · rw [← same]
    exact kept
  · rw [← same]
    exact broken

/-- What is given for any field but a truth value may as well be nothing as not be there. -/
theorem Typed.of_value {α : Type} {label : String} {rule : Rule} {v : Value}
    (asked : holder.isAsked fields = true) (other : rule ≠ .flag)
    (found : (Value.lookup key (holder.entries fields)).getD .null = v) {r : Except Failure α}
    (valid : rule.admits (some v) = true → ∃ a, r = .ok a)
    (invalid : rule.admits (some v) = false →
      ∃ e, r = .error e ∧ Blames fields ⟨label, key, holder, rule⟩ e) :
    Typed fields [⟨label, key, holder, rule⟩] r := by
  have same : rule.admits (Value.lookup key (holder.entries fields)) = rule.admits (some v) := by
    rw [← found]
    cases rule with
    | flag => exact absurd rfl other
    | _ => rfl
  refine .of_rule asked rfl (fun kept => valid ?_) (fun broken => invalid ?_)
  · rw [← same]
    exact kept
  · rw [← same]
    exact broken

/-- A field that holds what its rule admits. -/
theorem Typed.kept {α : Type} {label : String} {rule : Rule} {v : Value}
    (asked : holder.isAsked fields = true) (other : rule ≠ .flag)
    (found : (Value.lookup key (holder.entries fields)).getD .null = v)
    (admitted : rule.admits (some v) = true) (a : α) :
    Typed fields [⟨label, key, holder, rule⟩] (.ok a) := by
  refine .of_value asked other found (fun _ => ⟨a, rfl⟩) (fun broken => ?_)
  rw [admitted] at broken
  cases broken

/-- A field that holds what its rule does not admit. -/
theorem Typed.broken {α : Type} {label : String} {rule : Rule} {v : Value} {e : Failure}
    (asked : holder.isAsked fields = true) (other : rule ≠ .flag)
    (found : (Value.lookup key (holder.entries fields)).getD .null = v)
    (refused : rule.admits (some v) = false) (blamed : Blames fields ⟨label, key, holder, rule⟩ e) :
    Typed fields [⟨label, key, holder, rule⟩] (.error e : Except Failure α) := by
  refine .of_value asked other found (fun kept => ?_) (fun _ => ⟨e, rfl, blamed⟩)
  rw [refused] at kept
  cases kept

/-- A field that is no count is blamed in a report. -/
theorem blames_of_report {f : Field} (other : f.rule.isOfCounts = false) {e : Failure}
    (reported : IsReport (f.blame fields) e) : Blames fields f e := by
  have finite : f.isInfinite fields = false := by
    rw [Field.isInfinite, other]
    rfl
  unfold Blames
  rw [finite]
  exact reported

/-- A count, with or without a default. -/
theorem integer_typed (asked : holder.isAsked fields = true)
    (plain : everyEntry isPlainScalar (holder.entries fields) = true) (name : String)
    {rule : Rule} {default : Option Int}
    (kind : rule = .count ∧ default = none ∨ rule = .optionalCount ∧ default = some 0) :
    Typed fields [⟨name, name, holder, rule⟩] (integer (holder.entries fields) name default) := by
  have inside := isPlain_given plain name
  have blames : Field.blame fields ⟨name, name, holder, rule⟩ = field name := by
    obtain ⟨rfl, -⟩ | ⟨rfl, -⟩ := kind <;> rfl
  have infinite : Field.isInfinite fields ⟨name, name, holder, rule⟩ =
      isInfinity ((Value.lookup name (holder.entries fields)).getD .null) := by
    obtain ⟨rfl, -⟩ | ⟨rfl, -⟩ := kind <;> rfl
  obtain ⟨v, found⟩ : ∃ v, (Value.lookup name (holder.entries fields)).getD .null = v := ⟨_, rfl⟩
  rw [found] at inside infinite
  by_cases nothing : v = .null
  · subst nothing
    obtain ⟨rfl, rfl⟩ | ⟨rfl, rfl⟩ := kind
    · have refused : integer (holder.entries fields) name none = .error (missing name) := by
        rw [integer, found]
      rw [refused]
      refine .broken asked (by decide) found rfl ?_
      unfold Blames
      rw [infinite, blames]
      exact isReport_report _ none rfl
    · have counted : integer (holder.entries fields) name (some 0) = .ok 0 := by
        rw [integer, found]
      rw [counted]
      exact .kept asked (by decide) found rfl 0
  · obtain ⟨counts, fails⟩ := integer_of_given found nothing inside default
    have other : rule ≠ .flag := by obtain ⟨rfl, -⟩ | ⟨rfl, -⟩ := kind <;> decide
    have admits : rule.admits (some v) = isCount v := by
      obtain ⟨rfl, -⟩ | ⟨rfl, -⟩ := kind
      · rfl
      · cases v with
        | null => exact absurd rfl nothing
        | _ => rfl
    refine .of_value asked other found (fun kept => counts (admits.symm.trans kept))
      (fun broken => ?_)
    unfold Blames
    rw [infinite, blames]
    exact fails (admits.symm.trans broken)

theorem flag_typed (asked : holder.isAsked fields = true)
    (plain : everyEntry isPlainScalar (holder.entries fields) = true) (key label : String) :
    Typed fields [⟨label, key, holder, .flag⟩] (flag (holder.entries fields) key label) := by
  have inside := isPlain_given plain key
  unfold flag
  cases given : Value.lookup key (holder.entries fields) with
  | none =>
    refine .of_rule asked given (fun _ => ⟨false, rfl⟩) (fun broken => ?_)
    cases broken
  | some v =>
    rw [given] at inside
    cases v with
    | bool b =>
      refine .of_rule asked given (fun _ => ⟨b, rfl⟩) (fun broken => ?_)
      cases broken
    | _ =>
      refine .of_rule asked given (fun kept => ?_) fun _ =>
        ⟨_, rfl, blames_of_report rfl (isReport_mustBe inside label _ none)⟩
      cases kept

theorem optionalText_typed (asked : holder.isAsked fields = true)
    (plain : everyEntry isPlainScalar (holder.entries fields) = true) (key label : String) :
    Typed fields [⟨label, key, holder, .optionalText⟩]
      (optionalText (holder.entries fields) key label) := by
  have inside := isPlain_given plain key
  unfold optionalText
  cases found : (Value.lookup key (holder.entries fields)).getD .null with
  | null => exact .kept asked (by decide) found rfl none
  | text s => exact .kept asked (by decide) found rfl (some s)
  | basis b => exact .kept asked (by decide) found rfl (some b.word)
  | _ =>
    rw [found] at inside
    have reported := isReport_mustBe inside label "a string" none
    exact .broken asked (by decide) found rfl (blames_of_report rfl reported)

theorem group_of_dict {entries inner : Fields} {key : String}
    (found : (Value.lookup key entries).getD .null = .dict inner) :
    group entries key = .ok inner := by
  unfold group
  rw [found]
  cases inner with
  | nil => rfl
  | cons e rest => rfl

theorem group_of_other {entries : Fields} {key : String} {v : Value}
    (found : (Value.lookup key entries).getD .null = v) (plain : v.isPlain = true)
    (other : ∀ inner, v ≠ .dict inner) :
    group entries key = if v.isTrue then .error (mustBe key "a mapping" v none) else .ok [] := by
  unfold group
  dsimp only
  rw [found, Value.opened_of_isPlain plain]
  split
  · split
    · exact absurd rfl (other _)
    · rfl
  · rfl

/-- What typing a mapping within a mapping gives is its entries. -/
theorem entriesOf_of_group {key : String} {inner : Fields}
    (plain : ((Value.lookup key fields).getD .null).isPlain = true)
    (made : group fields key = .ok inner) : entriesOf key fields = inner := by
  obtain ⟨v, found⟩ : ∃ v, (Value.lookup key fields).getD .null = v := ⟨_, rfl⟩
  rw [found] at plain
  unfold entriesOf
  rw [found]
  by_cases mapping : ∃ es, v = .dict es
  · obtain ⟨es, rfl⟩ := mapping
    rw [group_of_dict found] at made
    exact Except.ok.inj made
  · rw [group_of_other found plain fun es same => mapping ⟨es, same⟩] at made
    split at made
    · cases made
    · split
      · exact absurd ⟨_, rfl⟩ mapping
      · exact Except.ok.inj made

theorem group_typed (asked : holder.isAsked fields = true)
    (plain : everyEntry isPlainScalar (holder.entries fields) = true) (key : String) :
    Typed fields [⟨key, key, holder, .group⟩] (group (holder.entries fields) key) := by
  have inside := isPlain_given plain key
  obtain ⟨v, found⟩ : ∃ v, (Value.lookup key (holder.entries fields)).getD .null = v := ⟨_, rfl⟩
  rw [found] at inside
  by_cases mapping : ∃ es, v = .dict es
  · obtain ⟨es, rfl⟩ := mapping
    rw [group_of_dict found]
    exact .kept asked (by decide) found rfl es
  · rw [group_of_other found inside fun es same => mapping ⟨es, same⟩]
    have admits : Rule.group.admits (some v) = !v.isTrue := by
      cases v with
      | dict es => exact absurd ⟨es, rfl⟩ mapping
      | _ => rfl
    cases something : v.isTrue with
    | true =>
      rw [something] at admits
      have reported := isReport_mustBe inside key "a mapping" none
      exact .broken asked (by decide) found admits (blames_of_report rfl reported)
    | false =>
      rw [something] at admits
      exact .kept asked (by decide) found admits []

theorem basisOf?_of_noText {v : Value} (noText : v.text? = none) :
    basisOf? v = if v.isTrue then none else some .unknown := by
  cases v with
  | text s => cases noText
  | basis b => cases noText
  | _ => rfl

theorem namedBasis?_eq (s : String) : namedBasis? s = Basis.ofWord? (basisWord s.toList) := by
  unfold namedBasis? basisWord Basis.ofWord? Basis.word
  grind

theorem basisOf?_text (s : String) : basisOf? (.text s) =
    if s.isEmpty then some .unknown else Basis.ofWord? (basisWord s.toList) := by
  rw [← namedBasis?_eq]
  rfl

/-- What a plain value is written as is the word for a basis exactly if it stands for one. -/
theorem ofWord?_written {v : Value} (noBasis : ∀ b, v ≠ .basis b) (plain : v.isPlain = true) :
    ∃ cs, (if v.isTrue then v else .text "unknown").written = .ok cs ∧
      Basis.ofWord? (basisWord cs) = basisOf? v := by
  cases something : v.isTrue with
  | true =>
    refine ⟨v.plain, Value.written_of_isPlain plain, ?_⟩
    by_cases noText : v.text? = none
    · obtain ⟨c, rest, written, sound⟩ := plain_begins something noText plain
      rw [basisOf?_of_noText noText, something, written, ofWord?_of_begins sound]
      rfl
    · cases v with
      | text s =>
        have filled : s.isEmpty = false := (Bool.not_eq_true' _).mp something
        rw [basisOf?_text, filled]
        rfl
      | basis b => exact absurd rfl (noBasis b)
      | _ => exact absurd rfl noText
  | false =>
    refine ⟨"unknown".toList, rfl, ?_⟩
    have known : Basis.ofWord? (basisWord "unknown".toList) = some .unknown := by decide +kernel
    rw [known]
    by_cases noText : v.text? = none
    · rw [basisOf?_of_noText noText, something]
      rfl
    · cases v with
      | text s =>
        have empty : s.isEmpty = true := (Bool.not_eq_false' _).mp something
        rw [basisOf?_text, empty]
        rfl
      | basis b => exact absurd rfl (noBasis b)
      | _ => exact absurd rfl noText

theorem basis_of_some {v : Value} {b : Basis} (plain : v.isPlain = true)
    (stands : basisOf? v = some b) : basis v = .ok b := by
  by_cases given : ∃ c, v = .basis c
  · obtain ⟨c, rfl⟩ := given
    exact congrArg Except.ok (Option.some.inj stands)
  · obtain ⟨cs, written, word⟩ := ofWord?_written (fun c same => given ⟨c, same⟩) plain
    unfold basis
    split
    · next c => exact absurd ⟨c, rfl⟩ given
    · rw [written]
      dsimp only
      rw [word, stands]

/-- What stands for no basis is refused with the word that it comes to. -/
theorem basis_of_none {v : Value} (plain : v.isPlain = true) (nothing : basisOf? v = none) :
    ∃ word, basis v = .error (misfit "invalid rtc basis " v " (use unknown|utc|localtime)"
      (some (.unknownBasis word)) (field "rtc.basis")) := by
  by_cases given : ∃ c, v = .basis c
  · obtain ⟨c, rfl⟩ := given
    cases nothing
  · obtain ⟨cs, written, word⟩ := ofWord?_written (fun c same => given ⟨c, same⟩) plain
    refine ⟨basisWord cs, ?_⟩
    unfold basis
    split
    · next c => exact absurd ⟨c, rfl⟩ given
    · rw [written]
      dsimp only
      rw [word, nothing]

/-- What typing a basis gives is the basis that the value stands for. -/
theorem basisOf?_of_basis {v : Value} {b : Basis} (plain : v.isPlain = true)
    (made : basis v = .ok b) : basisOf? v = some b := by
  cases stands : basisOf? v with
  | some c =>
    rw [basis_of_some plain stands] at made
    exact congrArg some (Except.ok.inj made)
  | none =>
    obtain ⟨word, refused⟩ := basis_of_none plain stands
    rw [refused] at made
    cases made

theorem basis_typed (asked : holder.isAsked fields = true)
    (plain : everyEntry isPlainScalar (holder.entries fields) = true) (key : String) :
    Typed fields [⟨"rtc.basis", key, holder, .basis⟩]
      (basis ((Value.lookup key (holder.entries fields)).getD .null)) := by
  have inside := isPlain_given plain key
  obtain ⟨v, found⟩ : ∃ v, (Value.lookup key (holder.entries fields)).getD .null = v := ⟨_, rfl⟩
  rw [found] at inside ⊢
  have admits : Rule.basis.admits (some v) = (basisOf? v).isSome := rfl
  cases stands : basisOf? v with
  | some b =>
    rw [stands] at admits
    rw [basis_of_some inside stands]
    exact .kept asked (by decide) found admits b
  | none =>
    rw [stands] at admits
    obtain ⟨word, refused⟩ := basis_of_none inside stands
    rw [refused]
    exact .broken asked (by decide) found admits
      (blames_of_report rfl (isReport_misfit inside _ _ _ rfl))

theorem textsFrom_of_all (name : String) {vs : List Value}
    (all : vs.all (fun v => v.text?.isSome) = true) (index : Nat) :
    ∃ ss, textsFrom name index vs = .ok ss := by
  induction vs generalizing index with
  | nil => exact ⟨[], rfl⟩
  | cons v rest ih =>
    obtain ⟨first, others⟩ := (Bool.and_eq_true _ _).mp all
    obtain ⟨s, text⟩ := Option.isSome_iff_exists.mp first
    obtain ⟨ss, more⟩ := ih others (index + 1)
    refine ⟨s :: ss, ?_⟩
    rw [textsFrom, text]
    dsimp only
    rw [more]
    rfl

/-- The first member that is no text is reported with its position. -/
theorem textsFrom_of_not_all (name : String) {vs : List Value}
    (plain : everyOf isPlainScalar vs = true)
    (broken : vs.all (fun v => v.text?.isSome) = false) (index : Nat) :
    ∃ e, textsFrom name index vs = .error e ∧
      IsReport (field name ++ [("index", .int (index + vs.findIdx fun v => v.text?.isNone : Nat))])
        e := by
  induction vs generalizing index with
  | nil => cases broken
  | cons v rest ih =>
    obtain ⟨first, others⟩ := (Bool.and_eq_true _ _).mp plain
    rw [List.findIdx_cons]
    cases text : v.text? with
    | none =>
      refine ⟨_, by rw [textsFrom, text], ?_⟩
      exact isReport_misfit first _ _ none rfl
    | some s =>
      have later : rest.all (fun v => v.text?.isSome) = false := by
        rw [List.all_cons, text] at broken
        exact broken
      obtain ⟨e, refused, reported⟩ := ih others later (index + 1)
      refine ⟨e, ?_, ?_⟩
      · rw [textsFrom, text]
        dsimp only
        rw [refused]
        rfl
      · rw [Nat.add_right_comm] at reported
        exact reported

theorem texts_typed (asked : holder.isAsked fields = true)
    (plain : everyEntry isPlainScalar (holder.entries fields) = true) (key : String) :
    Typed fields [⟨key, key, holder, .texts⟩] (texts (holder.entries fields) key) := by
  have inside := isPlain_given plain key
  obtain ⟨v, found⟩ : ∃ v, (Value.lookup key (holder.entries fields)).getD .null = v := ⟨_, rfl⟩
  rw [found] at inside
  unfold texts
  dsimp only
  rw [found, Value.opened_of_isPlain inside]
  have listed : ∀ vs : List Value, everyOf isPlainScalar vs = true →
      Rule.texts.admits (some v) = vs.all (fun v => v.text?.isSome) →
      Field.blame fields ⟨key, key, holder, .texts⟩ =
        field key ++ [("index", .int (vs.findIdx fun v => v.text?.isNone))] →
      Typed fields [⟨key, key, holder, .texts⟩] ((textsFrom key 0 vs).map some) := by
    intro vs members admits blames
    refine .of_value asked (by decide) found (fun kept => ?_) (fun broken => ?_)
    · obtain ⟨ss, made⟩ := textsFrom_of_all key (admits.symm.trans kept) 0
      exact ⟨some ss, by rw [made]; rfl⟩
    · obtain ⟨e, refused, reported⟩ :=
        textsFrom_of_not_all key members (admits.symm.trans broken) 0
      refine ⟨e, by rw [refused]; rfl, blames_of_report rfl ?_⟩
      rw [blames]
      rw [Nat.zero_add] at reported
      exact reported
  cases v with
  | null => exact .kept asked (by decide) found rfl none
  | list vs | tuple vs =>
    refine listed vs inside rfl ?_
    unfold Field.blame Field.given
    dsimp only
    rw [found]
    rfl
  | _ =>
    refine .broken asked (by decide) found rfl (blames_of_report rfl ?_)
    unfold Field.blame Field.given
    dsimp only
    rw [found]
    exact isReport_mustBe inside key _ none

/-! ## All fields -/

theorem Typed.cons_ite {α β : Type} {f : Field} {fs : List Field} {p : Prop} [Decidable p]
    {x y : Except Failure α} {g : α → Except Failure β}
    (first : Typed fields [f] (if p then x else y)) (rest : ∀ a, Typed fields fs (g a)) :
    Typed fields (f :: fs) (if p then x >>= g else y >>= g) := by
  have one : (if p then x >>= g else y >>= g) = (if p then x else y) >>= g := by
    split <;> rfl
  rw [one]
  exact first.cons fun a _ => rest a

/-- A text that there must be, or nothing can be made. -/
theorem present_typed {α : Type} {fs : List Field} {g : String → Except Failure α}
    (asked : holder.isAsked fields = true)
    (plain : everyEntry isPlainScalar (holder.entries fields) = true) (name : String)
    (rest : ∀ s, Typed fields fs (g s)) :
    Typed fields (⟨name, name, holder, .name⟩ :: fs)
      (optionalText (holder.entries fields) name name >>= fun given =>
        match given with
        | some s => if s.isEmpty then throw (missing name) >>= g else pure s >>= g
        | none => throw (missing name) >>= g) := by
  have inside := isPlain_given plain name
  have absent : Blames fields ⟨name, name, holder, .name⟩ (missing name) :=
    blames_of_report rfl (isReport_report _ none rfl)
  -- one text, refused in two ways, and then the rest
  suffices first : ∃ x : Except Failure String, Typed fields [⟨name, name, holder, .name⟩] x ∧
      (optionalText (holder.entries fields) name name >>= fun given =>
        match given with
        | some s => if s.isEmpty then throw (missing name) >>= g else pure s >>= g
        | none => throw (missing name) >>= g) = x >>= g by
    obtain ⟨x, typed, same⟩ := first
    rw [same]
    exact typed.cons fun s _ => rest s
  unfold optionalText
  cases found : (Value.lookup name (holder.entries fields)).getD .null with
  | null =>
    exact ⟨throw (missing name), .broken asked (by decide) found rfl absent, rfl⟩
  | text s =>
    have admits : Rule.name.admits (some (.text s)) = !s.isEmpty := rfl
    cases empty : s.isEmpty with
    | true =>
      rw [empty] at admits
      refine ⟨throw (missing name), .broken asked (by decide) found admits absent, ?_⟩
      change (if s.isEmpty = true then _ else _) = _
      rw [empty]
      rfl
    | false =>
      rw [empty] at admits
      refine ⟨pure s, .kept asked (by decide) found admits s, ?_⟩
      change (if s.isEmpty = true then _ else _) = _
      rw [empty]
      rfl
  | basis b =>
    have filled : b.word.isEmpty = false := by cases b <;> decide
    have admits : Rule.name.admits (some (.basis b)) = !b.word.isEmpty := rfl
    rw [filled] at admits
    refine ⟨pure b.word, .kept asked (by decide) found admits b.word, ?_⟩
    change (if b.word.isEmpty = true then _ else _) = _
    rw [filled]
    rfl
  | _ =>
    rw [found] at inside
    have reported := isReport_mustBe inside name "a string" none
    exact ⟨throw (mustBe name "a string" _ none),
      .broken asked (by decide) found rfl (blames_of_report rfl reported), rfl⟩

theorem processor_typed (plain : everyEntry isPlainScalar (Holder.processor.entries fields) = true) :
    Typed fields processorFields (processor (Holder.processor.entries fields)) := by
  unfold processor processorFields
  refine .cons (optionalText_typed rfl plain _ _) fun _ _ => ?_
  refine .cons (optionalText_typed rfl plain _ _) fun _ _ => ?_
  refine .cons (integer_typed rfl plain _ (.inr ⟨rfl, rfl⟩)) fun _ _ => ?_
  refine .cons (integer_typed rfl plain _ (.inr ⟨rfl, rfl⟩)) fun _ _ => ?_
  refine .cons (integer_typed rfl plain _ (.inr ⟨rfl, rfl⟩)) fun _ _ => ?_
  refine .cons (flag_typed rfl plain _ _) fun _ _ => ?_
  refine .cons (flag_typed rfl plain _ _) fun _ _ => ?_
  exact .cons (flag_typed rfl plain _ _) fun _ _ => .nil _

/-- An offset is not looked at unless the clock keeps universal time. -/
theorem offset_typed {b : Basis} (known : clockBasis fields = some b)
    (plain : everyEntry isPlainScalar (Holder.clockInUtc.entries fields) = true) :
    Typed fields [⟨"offset", "offset", .clockInUtc, .optionalCount⟩]
      (if b = .utc then integer (Holder.clockInUtc.entries fields) "offset" (some 0)
        else pure 0) := by
  have asks : Holder.clockInUtc.isAsked fields = (some b == some .utc) := by rw [← known]; rfl
  by_cases utc : b = .utc
  · rw [if_pos utc]
    refine integer_typed ?_ plain _ (.inr ⟨rfl, rfl⟩)
    rw [asks, utc]
    rfl
  · rw [if_neg utc]
    refine .single (fun _ => ⟨0, rfl⟩) (fun broken => ?_)
    have unasked : Holder.clockInUtc.isAsked fields = false := by
      rw [asks]
      simpa using utc
    rw [Field.isValid, unasked] at broken
    cases broken

/-- **A mapping of plain values makes a machine if all its fields keep to their rules, and else the
failure is about the first that does not.** -/
theorem machineOfFields_typed (plain : everyEntry isPlainScalar fields = true) :
    Typed fields fieldsInOrder (machineOfFields fields) := by
  have all := Holder.every_entries plain rfl
  unfold machineOfFields fieldsInOrder
  refine present_typed rfl (all .machine) _ fun name => ?_
  refine .cons (group_typed rfl (all .machine) _) fun cpu cpuMade => ?_
  refine .cons (group_typed rfl (all .machine) _) fun rtc rtcMade => ?_
  obtain rfl := entriesOf_of_group (isPlain_given plain _) cpuMade
  obtain rfl := entriesOf_of_group (isPlain_given plain _) rtcMade
  refine .cons (basis_typed rfl (all .clock) _) fun b basisMade => ?_
  refine .cons (integer_typed rfl (all .machine) _ (.inl ⟨rfl, rfl⟩)) fun _ _ => ?_
  refine .cons (integer_typed rfl (all .machine) _ (.inl ⟨rfl, rfl⟩)) fun _ _ => ?_
  refine (processor_typed (all .processor)).bind fun _ _ => ?_
  have known := basisOf?_of_basis (isPlain_given (all .clock) _) basisMade
  refine .cons_ite (offset_typed known (all .clockInUtc)) fun _ => ?_
  refine .cons (texts_typed rfl (all .machine) _) fun _ _ => ?_
  refine .cons (texts_typed rfl (all .machine) _) fun _ _ => ?_
  refine .cons (texts_typed rfl (all .machine) _) fun _ _ => ?_
  exact .cons (texts_typed rfl (all .machine) _) fun _ _ => .nil _

end

end MachineDescriptor.Typing
