import MachineDescriptor.Number.Integer

/-!
How integers are spelled. A spelling has blanks around it, a sign, zeros and the digits of the
number, with single underscores between digits. Every spelling of an integer is read as that
integer, and a seven-bit text that is read as one is a spelling of it.
-/
namespace MachineDescriptor.Integer

open Text (digitValue?)

/-! ## Spellings -/

/-- The blanks among the seven-bit characters: space, tab, line feed, vertical tab, form feed, and
carriage return. -/
def blanks : List Char := [' ', '\t', '\n', '\x0b', '\x0c', '\r']

/-- Digits, each by itself or after an underscore. -/
inductive Separated : List Char → List Char → Prop where
  | nil : Separated [] []
  | digit (d : Char) {ds cs : List Char} (more : Separated ds cs) : Separated (d :: ds) (d :: cs)
  | gap (d : Char) {ds cs : List Char} (more : Separated ds cs) :
      Separated (d :: ds) ('_' :: d :: cs)

/-- The signs that an integer may be spelled with. Zero may have either or none. -/
inductive IsSign (n : Int) : List Char → Prop where
  | none (nonneg : 0 ≤ n) : IsSign n []
  | plus (nonneg : 0 ≤ n) : IsSign n ['+']
  | minus (nonpos : n ≤ 0) : IsSign n ['-']

/-- The texts that spell an integer, with no more digits than a numeral may have. -/
inductive Spells (n : Int) : List Char → Prop where
  | mk {before sign cs after : List Char} {d : Char} {ds : List Char} {zeros : Nat}
      (first : ∀ c ∈ before, c ∈ blanks) (last : ∀ c ∈ after, c ∈ blanks) (signed : IsSign n sign)
      (digits : d :: ds = List.replicate zeros '0' ++ Nat.toDigits 10 n.natAbs)
      (spaced : Separated ds cs)
      (short : zeros + (Nat.toDigits 10 n.natAbs).length ≤ maxDigits) :
      Spells n (before ++ (sign ++ (d :: cs ++ after)))

/-! ## Characters -/

theorem isPadding_of_blank {c : Char} (blank : c ∈ blanks) : isPadding c = true := by
  have all : blanks.all isPadding = true := by decide
  exact List.all_eq_true.mp all c blank

/-- What holds of the first 128 characters holds of each seven-bit one. -/
theorem of_ascii (p : Char → Prop) (all : ∀ k < 0x80, p (Char.ofNat k)) {c : Char}
    (ascii : c.toNat < 0x80) : p c := by
  have here := all c.toNat ascii
  rwa [Char.ofNat_toNat] at here

theorem blank_of_isPadding {c : Char} (ascii : c.toNat < 0x80) (padding : isPadding c = true) :
    c ∈ blanks := by
  refine of_ascii (fun c => isPadding c = true → c ∈ blanks) ?_ ascii padding
  decide

theorem digitValue?_of_ascii {c : Char} (ascii : c.toNat < 0x80) :
    digitValue? c = if c.isDigit then some (c.toNat - 48) else none := by
  refine of_ascii
    (fun c => digitValue? c = if c.isDigit then some (c.toNat - 48) else none) ?_ ascii
  decide

theorem bounds_of_isDigit {c : Char} (digit : c.isDigit = true) : 48 ≤ c.toNat ∧ c.toNat ≤ 57 :=
  Char.isDigit_iff_toNat.mp digit

theorem digitValue?_of_isDigit {c : Char} (digit : c.isDigit = true) :
    digitValue? c = some (c.toNat - 48) := by
  have ascii : c.toNat < 0x80 := by
    have bounds := bounds_of_isDigit digit
    omega
  rw [digitValue?_of_ascii ascii, if_pos digit]

/-! ## Runs of digits -/

/-- What does not go on a run of digits. -/
def EndsRun (cs : List Char) : Prop :=
  ∀ c rest, cs = c :: rest → digitValue? c = none ∧ c ≠ '_'

/-- One digit of a run. -/
theorem digitRun_digit {d : Char} (digit : d.isDigit = true) (value count : Nat) (gap : Bool)
    (rest : List Char) : digitRun value count gap (d :: rest) =
      digitRun (Nat.ofDigitChars 10 [d] value) (count + 1) false rest := by
  rw [digitRun, digitValue?_of_isDigit digit, Nat.ofDigitChars_cons, Nat.ofDigitChars_nil,
    Nat.mul_comm]
  rfl

/-- A run takes digits with underscores between them, and nothing of what ends it. -/
theorem digitRun_separated {ds cs : List Char} (spaced : Separated ds cs)
    (all : ∀ d ∈ ds, d.isDigit = true) {rest : List Char} (ends : EndsRun rest)
    (value count : Nat) : digitRun value count false (cs ++ rest) =
      some ⟨Nat.ofDigitChars 10 ds value, count + ds.length, rest⟩ := by
  induction spaced generalizing value count with
  | nil =>
    cases rest with
    | nil => rfl
    | cons c more =>
      obtain ⟨noDigit, other⟩ := ends c more rfl
      rw [List.nil_append, digitRun, noDigit]
      simp [other]
  | digit d more ih =>
    rw [List.cons_append, digitRun_digit (all d (by simp)),
      ih (fun e here => all e (by simp [here])), ← Nat.ofDigitChars_append,
      List.singleton_append, List.length_cons]
    congr 2
    omega
  | @gap d ds cs more ih =>
    change digitRun value count true (d :: (cs ++ rest)) = _
    rw [digitRun_digit (all d (by simp)), ih (fun e here => all e (by simp [here])),
      ← Nat.ofDigitChars_append, List.singleton_append, List.length_cons]
    congr 2
    omega

/-- What a run of digits took is digits with underscores between them; one that comes after an
underscore begins with a digit. -/
theorem digitRun_took {cs : List Char} (ascii : ∀ c ∈ cs, c.toNat < 0x80) {value count : Nat}
    {gap : Bool} {run : Run} (ran : digitRun value count gap cs = some run) :
    ∃ ds taken, (∀ d ∈ ds, d.isDigit = true) ∧
      Separated ds ((if gap then ['_'] else []) ++ taken) ∧ cs = taken ++ run.rest ∧
      run.value = Nat.ofDigitChars 10 ds value ∧ run.count = count + ds.length := by
  -- by induction on the text for both kinds of run; the underscore before a run counts to its first
  -- digit
  induction cs generalizing value count gap with
  | nil =>
    cases gap with
    | true => cases ran
    | false =>
      obtain rfl := Option.some.inj ran
      exact ⟨[], [], nofun, .nil, rfl, rfl, rfl⟩
  | cons c rest ih =>
    have later : ∀ d ∈ rest, d.toNat < 0x80 := fun d here => ascii d (by simp [here])
    cases digit : c.isDigit with
    | true =>
      rw [digitRun_digit digit] at ran
      obtain ⟨ds, taken, all, spaced, rfl, amount, counted⟩ := ih later ran
      refine ⟨c :: ds, c :: taken, ?_, ?_, rfl, ?_, ?_⟩
      · simpa [digit] using all
      · cases gap with
        | true => exact .gap c spaced
        | false => exact .digit c spaced
      · rw [amount, ← Nat.ofDigitChars_append, List.singleton_append]
      · rw [counted, List.length_cons]
        omega
    | false =>
      have noDigit : digitValue? c = none := by
        rw [digitValue?_of_ascii (ascii c (by simp)), digit]
        rfl
      rw [digitRun, noDigit] at ran
      dsimp only at ran
      cases gap with
      | true =>
        rw [if_pos rfl] at ran
        split at ran <;> cases ran
      | false =>
        rw [if_neg Bool.false_ne_true] at ran
        split at ran
        · next underscore =>
          subst underscore
          obtain ⟨ds, taken, all, spaced, rfl, amount, counted⟩ := ih later ran
          exact ⟨ds, '_' :: taken, all, spaced, rfl, amount, counted⟩
        · obtain rfl := Option.some.inj ran
          exact ⟨[], [], nofun, .nil, rfl, rfl, rfl⟩

/-! ## Leading zeros -/

theorem digitChar_of_isDigit {c : Char} (digit : c.isDigit = true) :
    (c.toNat - 48).digitChar = c ∧ c.toNat - 48 < 10 := by
  have bounds := bounds_of_isDigit digit
  refine ⟨?_, by omega⟩
  apply Char.toNat_inj.mp
  rw [Nat.toNat_digitChar_of_lt_ten (by omega)]
  omega

/-- Digits after the numeral of a number other than zero are the rest of a numeral. -/
theorem toDigits_append_digits {ds : List Char} (all : ∀ d ∈ ds, d.isDigit = true) {n : Nat}
    (positive : 0 < n) : Nat.toDigits 10 n ++ ds = Nat.toDigits 10 (Nat.ofDigitChars 10 ds n) := by
  induction ds generalizing n with
  | nil => rw [List.append_nil, Nat.ofDigitChars_nil]
  | cons d ds ih =>
    obtain ⟨same, small⟩ := digitChar_of_isDigit (all d (by simp))
    have one : Nat.toDigits 10 n ++ [d] = Nat.toDigits 10 (10 * n + (d.toNat - 48)) := by
      rw [← Nat.toDigits_append_toDigits (by decide) positive small, Nat.toDigits_of_lt_base small,
        same]
    calc Nat.toDigits 10 n ++ d :: ds
        = Nat.toDigits 10 (10 * n + (d.toNat - 48)) ++ ds := by rw [← one]; simp
      _ = Nat.toDigits 10 (Nat.ofDigitChars 10 ds (10 * n + (d.toNat - 48))) :=
        ih (fun e here => all e (by simp [here])) (by omega)

/-- Digits are the numeral of their amount after some zeros. -/
theorem zeros_toDigits {ds : List Char} (all : ∀ d ∈ ds, d.isDigit = true) (filled : ds ≠ []) :
    ∃ zeros, ds = List.replicate zeros '0' ++ Nat.toDigits 10 (Nat.ofDigitChars 10 ds 0) := by
  induction ds with
  | nil => exact absurd rfl filled
  | cons d ds ih =>
    have others : ∀ e ∈ ds, e.isDigit = true := fun e here => all e (by simp [here])
    obtain ⟨same, small⟩ := digitChar_of_isDigit (all d (by simp))
    rw [Nat.ofDigitChars_cons, Nat.mul_zero, Nat.zero_add]
    change ∃ zeros, d :: ds = _ ++ Nat.toDigits 10 (Nat.ofDigitChars 10 ds (d.toNat - 48))
    by_cases zero : d.toNat - 48 = 0
    · rw [zero] at same ⊢
      obtain rfl : '0' = d := same
      by_cases last : ds = []
      · subst last
        exact ⟨0, rfl⟩
      · obtain ⟨zeros, digits⟩ := ih others last
        refine ⟨zeros + 1, ?_⟩
        rw [List.replicate_succ, List.cons_append, ← digits]
    · refine ⟨0, ?_⟩
      rw [← toDigits_append_digits others (by omega), Nat.toDigits_of_lt_base small, same]
      rfl

/-! ## Reading -/

theorem not_padding_of_isDigit {c : Char} (digit : c.isDigit = true) : isPadding c = false := by
  have bounds := bounds_of_isDigit digit
  refine of_ascii (fun c => c.isDigit = true → isPadding c = false) ?_ (by omega) digit
  decide

theorem endsRun_of_blanks {cs : List Char} (blank : ∀ c ∈ cs, c ∈ blanks) : EndsRun cs := by
  rintro c rest rfl
  have all : blanks.all (fun c => (digitValue? c).isNone && c != '_') = true := by decide
  simpa using List.all_eq_true.mp all c (blank c (by simp))

/-- A sign before a digit is taken off, and nothing else is. -/
theorem signed_of_isSign {n : Int} {sign : List Char} (isSign : IsSign n sign) {d : Char}
    (digit : d.isDigit = true) (rest : List Char) :
    ∃ negative, signed (sign ++ d :: rest) = (negative, d :: rest) ∧
      (if negative then -(n.natAbs : Int) else n.natAbs) = n := by
  cases isSign with
  | none nonneg =>
    refine ⟨false, ?_, Int.natAbs_of_nonneg nonneg⟩
    rw [List.nil_append, signed.eq_3]
    · rintro _ ⟨rfl, -⟩
      cases digit
    · rintro _ ⟨rfl, -⟩
      cases digit
  | plus nonneg => exact ⟨false, rfl, Int.natAbs_of_nonneg nonneg⟩
  | minus nonpos => exact ⟨true, rfl, by rw [if_pos rfl]; omega⟩

theorem head_not_padding {n : Int} {sign : List Char} (isSign : IsSign n sign) {d : Char}
    (digit : d.isDigit = true) (rest : List Char) :
    (sign ++ d :: rest).dropWhile isPadding = sign ++ d :: rest := by
  cases isSign with
  | none => exact List.dropWhile_cons_of_neg (by simp [not_padding_of_isDigit digit])
  | plus | minus => exact List.dropWhile_cons_of_neg (by decide)

/-- Every spelling of an integer is read as the integer. -/
theorem read_of_spells {n : Int} {cs : List Char} (spells : Spells n cs) : read cs = .ok n := by
  obtain ⟨first, last, isSign, digits, spaced, short⟩ := spells
  rename_i before sign cs after d ds zeros
  have all : ∀ e ∈ d :: ds, e.isDigit = true := by
    intro e here
    rw [digits] at here
    obtain zero | digit := List.mem_append.mp here
    · rw [List.eq_of_mem_replicate zero]
      rfl
    · exact Nat.isDigit_of_mem_toDigits (by decide) (by decide) digit
  have amount : Nat.ofDigitChars 10 (d :: ds) 0 = n.natAbs := by
    rw [digits, Nat.ofDigitChars_append, Nat.ofDigitChars_replicate_zero, Nat.mul_zero,
      Nat.ofDigitChars_ten_toDigits]
  have count : (d :: ds).length = zeros + (Nat.toDigits 10 n.natAbs).length := by
    rw [digits, List.length_append, List.length_replicate]
  have run : digitRun 0 0 true (d :: cs ++ after) = some ⟨n.natAbs, (d :: ds).length, after⟩ := by
    rw [List.cons_append, digitRun_digit (all d (by simp)),
      digitRun_separated spaced (fun e here => all e (by simp [here])) (endsRun_of_blanks last),
      ← Nat.ofDigitChars_append, List.singleton_append, amount, List.length_cons, Nat.zero_add,
      Nat.add_comm]
  obtain ⟨negative, signed, value⟩ := signed_of_isSign isSign (all d (by simp)) (cs ++ after)
  have padded : after.all isPadding = true := by
    rw [List.all_eq_true]
    exact fun c here => isPadding_of_blank (last c here)
  unfold read readAs
  rw [List.dropWhile_append_of_pos fun c here => isPadding_of_blank (first c here),
    List.cons_append, head_not_padding isSign (all d (by simp)), signed]
  dsimp only
  rw [← List.cons_append, run]
  dsimp only
  rw [if_neg (by omega), if_pos padded, value]

/-- What a sign says of the number before which it stands. -/
theorem sign_of_signed {cs body : List Char} {negative : Bool}
    (taken : signed cs = (negative, body)) (amount : Nat) : ∃ sign, cs = sign ++ body ∧
      IsSign (if negative then -(amount : Int) else amount) sign := by
  unfold signed at taken
  split at taken
  · obtain ⟨rfl, rfl⟩ := Prod.mk.inj taken
    exact ⟨['-'], rfl, .minus (by simp)⟩
  · obtain ⟨rfl, rfl⟩ := Prod.mk.inj taken
    exact ⟨['+'], rfl, .plus (by simp)⟩
  · obtain ⟨rfl, rfl⟩ := Prod.mk.inj taken
    exact ⟨[], rfl, .none (by simp)⟩

/-- A seven-bit text that is read as an integer spells it. -/
theorem spells_of_read {n : Int} {cs : List Char} (ascii : ∀ c ∈ cs, c.toNat < 0x80)
    (made : read cs = .ok n) : Spells n cs := by
  unfold read readAs at made
  obtain ⟨negative, body, taken⟩ : ∃ negative body,
      signed (cs.dropWhile isPadding) = (negative, body) := ⟨_, _, rfl⟩
  rw [taken] at made
  dsimp only at made
  split at made
  · cases made
  · next run ran =>
    split at made
    · cases made
    · next short =>
      split at made
      · next padded =>
        obtain rfl := Except.ok.inj made
        obtain ⟨sign, rest, isSign⟩ := sign_of_signed taken run.value
        have parts : cs = cs.takeWhile isPadding ++ (sign ++ body) := by
          rw [← rest, List.takeWhile_append_dropWhile]
        have inBody : ∀ c ∈ body, c.toNat < 0x80 := by
          intro c here
          apply ascii
          rw [parts]
          simp [here]
        obtain ⟨ds, text, all, spaced, rfl, amount, counted⟩ := digitRun_took inBody ran
        -- a run that nothing comes before begins with a digit, as after an underscore
        cases spaced with
        | digit => exact absurd (all '_' (by simp)) (by decide)
        | @gap d ds cs spaced =>
          obtain ⟨zeros, digits⟩ := zeros_toDigits all (List.cons_ne_nil d ds)
          rw [← amount] at digits
          have same : (if negative then -(run.value : Int) else run.value).natAbs = run.value := by
            cases negative <;> simp
          have count := congrArg List.length digits
          rw [List.length_append, List.length_replicate] at count
          rw [← same] at digits count
          rw [parts]
          refine .mk ?_ ?_ isSign digits spaced ?_
          · intro c here
            refine blank_of_isPadding (ascii c ?_) (List.all_eq_true.mp List.all_takeWhile c here)
            rw [parts]
            simp [here]
          · intro c here
            refine blank_of_isPadding (inBody c (by simp [here])) ?_
            exact List.all_eq_true.mp padded c here
          · omega
      · cases made

/-- **The seven-bit texts that spell an integer are just those that are read as it.** -/
theorem read_eq_ok_iff {n : Int} {cs : List Char} (ascii : ∀ c ∈ cs, c.toNat < 0x80) :
    read cs = .ok n ↔ Spells n cs :=
  ⟨spells_of_read ascii, read_of_spells⟩

end MachineDescriptor.Integer
