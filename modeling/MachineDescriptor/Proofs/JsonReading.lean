import MachineDescriptor.Proofs.JsonTexts

/-!
Reading JSON texts. Each text of a value is read as the value, if its integers keep to the limit on
digits; what follows the text is left over as it is. The fuel that reading a document starts with is
enough, because no character takes more than two steps.
-/
namespace MachineDescriptor.Json

variable {letters : Text.Letters}

/-! ## Strings -/

theorem simpleEscape?_of_short {letter c : Char} (known : (letter, c) ∈ shortEscapes) :
    simpleEscape? letter = some c ∧ letter ≠ 'u' := by
  have all : ∀ e ∈ shortEscapes, simpleEscape? e.1 = some e.2 ∧ e.1 ≠ 'u' := by decide
  exact all _ known

theorem IsUnit.digits {n : Nat} {ds : List Char} (spelled : IsUnit n ds) (left : Nat) (c : Char)
    (rest : List Char) : unicodeDigits left (ds ++ c :: rest) = .ok (n, c :: rest) := by
  obtain ⟨four, number⟩ := spelled
  match ds, four with
  | [a, b, d, e], _ =>
    simp only [List.cons_append, List.nil_append, unicodeDigits, number]

theorem not_surrogate (c : Char) :
    isHighSurrogate c.toNat = false ∧ isLowSurrogate c.toNat = false := by
  have valid : c.toNat < 0xd800 ∨ 0xdfff < c.toNat ∧ c.toNat < 0x110000 := c.valid
  constructor
  · unfold isHighSurrogate
    simp only [Bool.and_eq_false_iff, decide_eq_false_iff_not]
    omega
  · unfold isLowSurrogate
    simp only [Bool.and_eq_false_iff, decide_eq_false_iff_not]
    omega

theorem unicodeEscape_unit {c : Char} {ds : List Char} (spelled : IsUnit c.toNat ds) (left : Nat)
    (d : Char) (rest : List Char) :
    unicodeEscape letters left (ds ++ d :: rest) = .ok (c, d :: rest) := by
  obtain ⟨notHigh, notLow⟩ := not_surrogate c
  unfold unicodeEscape
  rw [spelled.digits]
  change (if isHighSurrogate c.toNat = true then _ else _) = _
  rw [notHigh, notLow, Char.ofNat_toNat]
  rfl

theorem unicodeEscape_pair {c : Char} {high low : Nat} {ds es : List Char} (first : IsUnit high ds)
    (second : IsUnit low es) (isHigh : isHighSurrogate high = true)
    (isLow : isLowSurrogate low = true)
    (together : c.toNat = 0x10000 + (high - 0xd800) * 0x400 + (low - 0xdc00)) (left : Nat)
    (d : Char) (rest : List Char) :
    unicodeEscape letters left (ds ++ '\\' :: 'u' :: (es ++ d :: rest)) = .ok (c, d :: rest) := by
  have long : ¬ (es ++ d :: rest).length ≤ 4 := by
    rw [List.length_append, second.four, List.length_cons]
    omega
  unfold unicodeEscape
  rw [first.digits]
  change (if isHighSurrogate high = true then
    if (es ++ d :: rest).length ≤ 4 then _ else _ else _) = _
  rw [isHigh, if_pos rfl, if_neg long, second.digits]
  change (if isLowSurrogate low = true then _ else _) = _
  rw [isLow, if_pos rfl, ← together, Char.ofNat_toNat]

/-- The spelling of a character is read as the character. Something has to follow it. -/
theorem stringAfter_char {c : Char} {t : List Char} (spelled : CharText c t) (opening fuel : Nat)
    (begun : List Char) (d : Char) (rest : List Char) :
    stringAfter letters opening (fuel + 1) begun (t ++ d :: rest) =
      stringAfter letters opening fuel (c :: begun) (d :: rest) := by
  cases spelled with
  | itself visible noQuote noBackslash =>
    rw [List.singleton_append, stringAfter, if_neg noQuote, if_neg noBackslash, if_neg (by omega)]
  | @short letter _ known =>
    obtain ⟨escape, notUnit⟩ := simpleEscape?_of_short known
    rw [List.cons_append, List.singleton_append, stringAfter, if_neg (by decide), if_pos rfl]
    dsimp only
    rw [if_neg notUnit, escape]
  | unit unit =>
    rw [List.cons_append, List.cons_append, stringAfter, if_neg (by decide), if_pos rfl]
    dsimp only
    rw [if_pos rfl, unicodeEscape_unit unit]
    rfl
  | pair first second isHigh isLow together =>
    rw [List.cons_append, List.cons_append, List.append_assoc, List.cons_append, List.cons_append,
      stringAfter, if_neg (by decide), if_pos rfl]
    dsimp only
    rw [if_pos rfl, unicodeEscape_pair first second isHigh isLow together]
    rfl

theorem stringAfter_quote (opening fuel : Nat) (begun rest : List Char) :
    stringAfter letters opening (fuel + 1) begun ('"' :: rest) = .ok (begun.reverse, rest) := by
  cases rest with
  | nil => rw [stringAfter, if_pos rfl]
  | cons d more => rw [stringAfter, if_pos rfl]

theorem CharText.length_pos {c : Char} {t : List Char} (spelled : CharText c t) : 0 < t.length := by
  cases spelled <;> exact Nat.succ_pos _

theorem stringAfter_text {cs t : List Char} (spelled : StringText cs t) (opening : Nat)
    {fuel : Nat} (enough : t.length < fuel) (begun rest : List Char) :
    stringAfter letters opening fuel begun (t ++ '"' :: rest) = .ok (begun.reverse ++ cs, rest) := by
  induction spelled generalizing fuel begun with
  | nil =>
    obtain ⟨fuel, rfl⟩ : ∃ n, fuel = n + 1 := ⟨fuel - 1, by omega⟩
    rw [List.nil_append, stringAfter_quote, List.append_nil]
  | @cons c cs u us first more ih =>
    have some := first.length_pos
    rw [List.length_append] at enough
    obtain ⟨fuel, rfl⟩ : ∃ n, fuel = n + 1 := ⟨fuel - 1, by omega⟩
    have short : us.length < fuel := by omega
    have next := ih short (c :: begun)
    rw [List.reverse_cons, List.append_assoc, List.singleton_append] at next
    rw [List.append_assoc]
    -- a spelling is read only when something follows: the next one, or the closing quote
    obtain ⟨d, after, follows⟩ : ∃ d after, us ++ '"' :: rest = d :: after :=
      List.exists_cons_of_ne_nil (by simp)
    rw [follows] at next ⊢
    rw [stringAfter_char first]
    exact next

theorem string_text {cs t : List Char} (spelled : StringText cs t) (rest : List Char) :
    string letters (t ++ '"' :: rest) = .ok (cs, rest) := by
  unfold string
  exact stringAfter_text spelled _ (by rw [List.length_append, List.length_cons]; omega) [] rest

/-! ## Numbers -/

/-- What does not go on a number: no digit, no point and no mark of an exponent at the start. -/
def EndsNumber (cs : List Char) : Prop :=
  ∀ c rest, cs = c :: rest → isDigit c = false ∧ c ≠ '.' ∧ c ≠ 'e' ∧ c ≠ 'E'

theorem digitsValue_toDigits (n : Nat) : digitsValue (Nat.toDigits 10 n) = n := by
  have same : digitsValue (Nat.toDigits 10 n) = Nat.ofDigitChars 10 (Nat.toDigits 10 n) 0 := by
    unfold digitsValue Nat.ofDigitChars
    congr 1
    funext m c
    rw [Nat.mul_comm]
    rfl
  rw [same, Nat.ofDigitChars_ten_toDigits]

theorem all_isDigit_toDigits (n : Nat) : ∀ c ∈ Nat.toDigits 10 n, isDigit c = true :=
  fun _ listed => Nat.isDigit_of_mem_toDigits (by omega) (by omega) listed

/-- The numeral of a number other than zero does not begin with a zero. -/
theorem toDigits_head_ne_zero {n : Nat} (positive : 0 < n) :
    ∃ c rest, Nat.toDigits 10 n = c :: rest ∧ c ≠ '0' := by
  induction n using Nat.strongRecOn with
  | ind n ih =>
    by_cases small : n < 10
    · refine ⟨n.digitChar, [], Nat.toDigits_of_lt_base small, ?_⟩
      match n, positive, small with
      | 1, _, _ | 2, _, _ | 3, _, _ | 4, _, _ | 5, _, _ | 6, _, _ | 7, _, _ | 8, _, _ | 9, _, _ =>
        decide
    · obtain ⟨c, rest, digits, notZero⟩ := ih (n / 10) (by omega) (by omega)
      refine ⟨c, rest ++ [(n % 10).digitChar], ?_, notZero⟩
      rw [Nat.toDigits_of_base_le (by omega) (by omega), digits]
      rfl

theorem length_toDigits_le {n k : Nat} (positive : 0 < k) (short : n < Nat.pow 10 k) :
    (Nat.toDigits 10 n).length ≤ k :=
  (Nat.length_toDigits_le_iff (by omega) positive).mpr short

theorem takeWhile_digits {ds rest : List Char} (all : ∀ c ∈ ds, isDigit c = true)
    (ends : EndsNumber rest) :
    (ds ++ rest).takeWhile isDigit = ds ∧ (ds ++ rest).dropWhile isDigit = rest := by
  induction ds with
  | nil =>
    cases rest with
    | nil => exact ⟨rfl, rfl⟩
    | cons c more =>
      have noDigit := (ends c more rfl).1
      rw [List.nil_append, List.takeWhile_cons_of_neg (by simp [noDigit]),
        List.dropWhile_cons_of_neg (by simp [noDigit])]
      exact ⟨rfl, rfl⟩
  | cons d ds ih =>
    have digit := all d List.mem_cons_self
    obtain ⟨taken, dropped⟩ := ih fun c listed => all c (List.mem_cons_of_mem d listed)
    rw [List.cons_append, List.takeWhile_cons_of_pos digit, List.dropWhile_cons_of_pos digit, taken,
      dropped]
    exact ⟨rfl, rfl⟩

theorem numberAfter_ends {negative : Bool} {whole rest : List Char} (ends : EndsNumber rest)
    (short : whole.length ≤ Integer.maxDigits) :
    numberAfter negative whole rest =
      .ok (.int (if negative then -digitsValue whole else digitsValue whole), rest) := by
  have noFraction : fraction? rest = none := by
    unfold fraction?
    split
    · next more => exact absurd rfl (ends '.' more rfl).2.1
    · rfl
  have noExponent : exponent? rest = none := by
    unfold exponent?
    split
    · next c more =>
      obtain ⟨-, -, noSmall, noLarge⟩ := ends c more rfl
      rw [if_neg (by simp [noSmall, noLarge])]
    · rfl
  unfold numberAfter
  rw [noFraction]
  dsimp only
  rw [noExponent]
  dsimp only
  rw [if_pos List.isEmpty_nil, if_neg (by omega)]

/-- A sign and digits of which the first is no zero are the whole part of a number. -/
theorem number_of_digits {c : Char} {ds rest : List Char} (notZero : c ≠ '0')
    (all : ∀ d ∈ c :: ds, isDigit d = true) (ends : EndsNumber rest) (negative : Bool) :
    number ((if negative then ['-'] else []) ++ (c :: ds ++ rest)) =
      numberAfter negative (c :: ds) rest := by
  obtain ⟨taken, dropped⟩ := takeWhile_digits all ends
  have noSign : c ≠ '-' := by
    rintro rfl
    exact absurd (all '-' List.mem_cons_self) (by decide)
  rw [List.cons_append] at taken dropped ⊢
  unfold number
  split
  next sign body signed =>
    have here : (negative, c :: (ds ++ rest)) = (sign, body) := by
      rw [← signed]
      cases negative with
      | true => rfl
      | false =>
        rw [if_neg Bool.false_ne_true, List.nil_append]
        split
        · next more same => exact absurd (List.cons.inj same).1 noSign
        · rfl
    obtain ⟨rfl, rfl⟩ := Prod.mk.inj here
    split
    · next more same => exact absurd (List.cons.inj same).1 notZero
    · rw [taken, dropped]
      rfl

theorem number_text {n : Int} (short : n.natAbs < Nat.pow 10 Integer.maxDigits) {rest : List Char}
    (ends : EndsNumber rest) : number (Integer.text n ++ rest) = .ok (.int n, rest) := by
  by_cases zero : n = 0
  · subst zero
    change numberAfter false ['0'] rest = _
    rw [numberAfter_ends ends (by decide)]
    rfl
  · obtain ⟨c, ds, digits, notZero⟩ := toDigits_head_ne_zero (n := n.natAbs) (by omega)
    have all := all_isDigit_toDigits n.natAbs
    have few := length_toDigits_le (by decide) short
    have value := digitsValue_toDigits n.natAbs
    rw [digits] at all few value
    by_cases negative : n < 0
    · have read := number_of_digits notZero all ends true
      rw [if_pos rfl] at read
      rw [Integer.text, digits, if_pos negative, List.append_assoc, read, numberAfter_ends ends few,
        value, if_pos rfl]
      congr 3
      omega
    · have read := number_of_digits notZero all ends false
      rw [if_neg (by decide)] at read
      rw [Integer.text, digits, if_neg negative, List.append_assoc, read, numberAfter_ends ends few,
        value, if_neg (by decide)]
      congr 3
      omega

/-! ## Values -/

theorem skipSpace_append {w : List Char} (spaces : IsSpaces w) (cs : List Char) :
    skipSpace (w ++ cs) = skipSpace cs := by
  induction w with
  | nil => rfl
  | cons c more ih =>
    have space := spaces c List.mem_cons_self
    have others : IsSpaces more := fun d listed => spaces d (List.mem_cons_of_mem c listed)
    rw [List.cons_append, skipSpace, List.dropWhile_cons_of_pos space]
    exact ih others

theorem skipSpace_solid {c : Char} (solid : isSpace c = false) (cs : List Char) :
    skipSpace (c :: cs) = c :: cs := by
  rw [skipSpace, List.dropWhile_cons_of_neg (by simp [solid])]

/-- White space is skipped up to what is none. -/
theorem skipSpace_to {w : List Char} (spaces : IsSpaces w) {c : Char} (solid : isSpace c = false)
    (cs : List Char) : skipSpace (w ++ c :: cs) = c :: cs := by
  rw [skipSpace_append spaces, skipSpace_solid solid]

theorem EndsNumber.of_spaces {w rest : List Char} (ends : EndsNumber rest) (spaces : IsSpaces w) :
    EndsNumber (w ++ rest) := by
  cases w with
  | nil => exact ends
  | cons c more =>
    intro d after same
    obtain ⟨rfl, -⟩ := List.cons.inj same
    have space := spaces c List.mem_cons_self
    simp only [isSpace, Bool.or_eq_true, beq_iff_eq] at space
    obtain ((rfl | rfl) | rfl) | rfl := space <;> decide

theorem EndsNumber.of_mark {c : Char} (mark : c ∈ [',', ']', '\x7d']) (rest : List Char) :
    EndsNumber (c :: rest) := by
  intro d after same
  obtain ⟨rfl, -⟩ := List.cons.inj same
  simp only [List.mem_cons, List.not_mem_nil, or_false] at mark
  obtain rfl | rfl | rfl := mark <;> decide

/-- A digit, or a minus before a digit, begins no word. -/
theorem named?_digit {c : Char} (digit : isDigit c = true) (rest : List Char) :
    named? (c :: rest) = none ∧ named? ('-' :: c :: rest) = none := by
  have differs : ∀ d, isDigit d = false → (d == c) = false := by
    intro d noDigit
    rw [beq_eq_false_iff_ne]
    rintro rfl
    rw [noDigit] at digit
    cases digit
  have words : namedValues.map Prod.fst = [['n', 'u', 'l', 'l'], ['t', 'r', 'u', 'e'],
    ['f', 'a', 'l', 's', 'e'], ['N', 'a', 'N'], ['I', 'n', 'f', 'i', 'n', 'i', 't', 'y'],
    ['-', 'I', 'n', 'f', 'i', 'n', 'i', 't', 'y']] := rfl
  have none_of : ∀ cs, (∀ word ∈ namedValues.map Prod.fst, word.isPrefixOf cs = false) →
      named? cs = none := by
    intro cs apart
    rw [named?, Option.map_eq_none_iff, List.find?_eq_none]
    intro w listed
    rw [apart w.1 (List.mem_map_of_mem listed)]
    decide
  constructor
  · refine none_of _ fun word listed => ?_
    rw [words] at listed
    simp only [List.mem_cons, List.not_mem_nil, or_false] at listed
    obtain rfl | rfl | rfl | rfl | rfl | rfl := listed <;>
      rw [List.isPrefixOf_cons_cons, differs _ (by decide), Bool.false_and]
  · refine none_of _ fun word listed => ?_
    rw [words] at listed
    simp only [List.mem_cons, List.not_mem_nil, or_false] at listed
    obtain rfl | rfl | rfl | rfl | rfl | rfl := listed
    · rfl
    · rfl
    · rfl
    · rfl
    · rfl
    · rw [List.isPrefixOf_cons_cons, List.isPrefixOf_cons_cons, differs _ (by decide), Bool.false_and,
        Bool.and_false]

/-- A numeral is read as a number. -/
theorem value_integer (n : Int) (fuel : Nat) (rest : List Char) :
    value letters (fuel + 1) (Integer.text n ++ rest) = number (Integer.text n ++ rest) := by
  obtain ⟨c, ds, digits, digit⟩ := beginsNumber_toDigits n.natAbs
  have other : ∀ d, isDigit d = false → c ≠ d := by
    rintro d noDigit rfl
    rw [isDigit_eq, digit] at noDigit
    cases noDigit
  rw [Integer.text, digits]
  by_cases negative : n < 0
  · rw [if_pos negative, List.append_assoc, List.singleton_append, List.cons_append, value,
      if_neg (by decide), if_neg (by decide), if_neg (by decide),
      (named?_digit digit (ds ++ rest)).2]
  · rw [if_neg negative, List.nil_append, List.cons_append, value, if_neg (other _ (by decide)),
      if_neg (other _ (by decide)), if_neg (other _ (by decide)),
      (named?_digit digit (ds ++ rest)).1]

theorem sameKey_text (s t : String) : (Value.text s).sameKey (.text t) = (s == t) := rfl

theorem sameKey_of_fresh {k l : Value} (key : ∃ name, k = .text name) (other : ∃ name, l = .text name)
    (apart : l ≠ k) : k.sameKey l = false := by
  obtain ⟨s, rfl⟩ := key
  obtain ⟨t, rfl⟩ := other
  rw [sameKey_text, beq_eq_false_iff_ne]
  rintro rfl
  exact apart rfl

/-- A member under a new name goes last. -/
theorem put_of_fresh {key value : Value} {begun : List (Value × Value)}
    (fresh : ∀ e ∈ begun, e.1.sameKey key = false) :
    Value.put key value begun = begun ++ [(key, value)] := by
  induction begun with
  | nil => rfl
  | cons e rest ih =>
    obtain ⟨k, v⟩ := e
    obtain ⟨other, others⟩ := List.forall_mem_cons.mp fresh
    rw [Value.put, other, ih others]
    rfl

theorem value_array {c : Char} {w body : List Char} (spaces : IsSpaces w)
    (solid : isSpace c = false) (opened : c ≠ ']') (fuel : Nat) :
    value letters (fuel + 1) ('[' :: (w ++ c :: body)) = elements letters fuel [] (c :: body) := by
  rw [value, if_neg (by decide), if_neg (by decide), if_pos rfl, skipSpace_to spaces solid]
  split
  · next after same => exact absurd (List.cons.inj same).1 opened
  · rfl

theorem value_object {w body : List Char} (spaces : IsSpaces w) (fuel : Nat) :
    value letters (fuel + 1) ('\x7b' :: (w ++ '"' :: body)) =
      members letters fuel [] ('"' :: body) := by
  rw [value, if_neg (by decide), if_pos rfl, skipSpace_to spaces (by decide)]
  rfl

/-- After the last element. -/
theorem elements_close {v : Value} {cs w rest : List Char} {fuel : Nat} {begun : List Value}
    (spaces : IsSpaces w) (read : value letters fuel cs = .ok (v, w ++ ']' :: rest)) :
    elements letters (fuel + 1) begun cs = .ok (.list (v :: begun).reverse, rest) := by
  rw [elements, read]
  dsimp only [bind, Except.bind]
  rw [skipSpace_to spaces (by decide)]
  rfl

/-- After an element that is not the last. -/
theorem elements_comma {v : Value} {c : Char} {cs w w' rest : List Char} {fuel : Nat}
    {begun : List Value} (before : IsSpaces w) (after : IsSpaces w') (solid : isSpace c = false)
    (read : value letters fuel cs = .ok (v, w ++ ',' :: (w' ++ c :: rest))) :
    elements letters (fuel + 1) begun cs = elements letters fuel (v :: begun) (c :: rest) := by
  rw [elements, read]
  dsimp only [bind, Except.bind]
  rw [skipSpace_to before (by decide)]
  change elements letters fuel (v :: begun) (skipSpace (w' ++ c :: rest)) = _
  rw [skipSpace_to after solid]

/-- What members do after one of them is read. -/
def membersAfter (letters : Text.Letters) (fuel : Nat) (entries : List (Value × Value))
    (cs : List Char) : Except Stop (Value × List Char) :=
  match skipSpace cs with
  | '\x7d' :: rest => .ok (.dict entries, rest)
  | ',' :: rest => members letters fuel entries (skipSpace rest)
  | rest => .error (.at .comma rest.length)

theorem membersAfter_close {w : List Char} (spaces : IsSpaces w) (fuel : Nat)
    (entries : List (Value × Value)) (rest : List Char) :
    membersAfter letters fuel entries (w ++ '\x7d' :: rest) = .ok (.dict entries, rest) := by
  rw [membersAfter, skipSpace_to spaces (by decide)]
  rfl

theorem membersAfter_comma {w w' : List Char} (before : IsSpaces w) (after : IsSpaces w')
    (fuel : Nat) (entries : List (Value × Value)) (rest : List Char) :
    membersAfter letters fuel entries (w ++ ',' :: (w' ++ '"' :: rest)) =
      members letters fuel entries ('"' :: rest) := by
  rw [membersAfter, skipSpace_to before (by decide)]
  change members letters fuel entries (skipSpace (w' ++ '"' :: rest)) = _
  rw [skipSpace_to after (by decide)]

/-- A member: its name, a colon and its value. -/
theorem members_name {name k w w' cs rest : List Char} {v : Value} {fuel : Nat}
    {begun : List (Value × Value)} (spelled : StringText name k) (before : IsSpaces w)
    (after : IsSpaces w') {c : Char} (solid : isSpace c = false)
    (read : value letters fuel (c :: cs) = .ok (v, rest)) :
    members letters (fuel + 1) begun ('"' :: (k ++ '"' :: (w ++ ':' :: (w' ++ c :: cs)))) =
      membersAfter letters fuel (Value.put (.text (String.ofList name)) v begun) rest := by
  rw [members, string_text spelled]
  dsimp only [bind, Except.bind]
  rw [skipSpace_to before (by decide)]
  split
  · next more same =>
    obtain rfl := (List.cons.inj same).2
    rw [skipSpace_to after solid, read]
    rfl
  · next other => exact absurd rfl (other _)

theorem natAbs_lt_of_isPlain {n : Int} :
    (Value.int n).isPlain = true → n.natAbs < Nat.pow 10 Integer.maxDigits := by
  intro plain
  unfold Value.isPlain Value.every Value.isPlainScalar Integer.isWritable at plain
  rw [decide_eq_true_eq] at plain
  exact plain

mutual

theorem value_text {v : Value} {t : List Char} (text : ValueText v t) (plain : v.isPlain = true)
    {fuel : Nat} (enough : 2 * t.length ≤ fuel) {rest : List Char} (ends : EndsNumber rest) :
    value letters fuel (t ++ rest) = .ok (v, rest) := by
  obtain ⟨fuel, rfl⟩ : ∃ n, fuel = n + 1 := by
    obtain ⟨c, more, begins, -⟩ := text.begins
    rw [begins, List.length_cons] at enough
    exact ⟨fuel - 1, by omega⟩
  cases text with
  | null => rfl
  | bool b => cases b <;> rfl
  | int n => rw [value_integer, number_text (natAbs_lt_of_isPlain plain) ends]
  | @text s t body =>
    rw [List.cons_append, List.append_assoc, List.singleton_append, value, if_pos rfl,
      string_text body]
    change Except.ok (Value.text (String.ofList s.toList), rest) = _
    rw [String.ofList_toList]
  | noElements space =>
    rw [List.cons_append, List.append_assoc, List.singleton_append, value, if_neg (by decide),
      if_neg (by decide), if_pos rfl, skipSpace_to space (by decide)]
    rfl
  | @list vs w t w' before elements after =>
    rw [List.length_cons, List.length_append, List.length_append, List.length_append] at enough
    have short : 2 * t.length + 1 ≤ fuel := by omega
    have read := elements_text elements plain short after [] rest
    obtain ⟨c, more, begins, opening⟩ := elements.begins
    rw [begins] at read ⊢
    simp only [List.cons_append, List.append_assoc, List.nil_append] at read ⊢
    rw [value_array before opening.solid opening.opened, read]
    rfl
  | noMembers space =>
    rw [List.cons_append, List.append_assoc, List.singleton_append, value, if_neg (by decide),
      if_pos rfl, skipSpace_to space (by decide)]
    rfl
  | @dict es w t w' before members after =>
    rw [List.length_cons, List.length_append, List.length_append, List.length_append] at enough
    have short : 2 * t.length + 1 ≤ fuel := by omega
    have alone : ∀ f ∈ ([] : List (Value × Value)), ∀ e ∈ es, f.1.sameKey e.1 = false := nofun
    have read := members_text members plain short after alone rest
    obtain ⟨more, begins⟩ := members.begins
    rw [begins] at read ⊢
    simp only [List.cons_append, List.append_assoc, List.nil_append] at read ⊢
    rw [value_object before, read]

theorem elements_text {vs : List Value} {t : List Char} (text : ElementsText vs t)
    (plain : Value.everyOf Value.isPlainScalar vs = true) {fuel : Nat}
    (enough : 2 * t.length + 1 ≤ fuel) {w : List Char} (spaces : IsSpaces w) (begun : List Value)
    (rest : List Char) :
    elements letters fuel begun (t ++ (w ++ ']' :: rest)) =
      .ok (.list (begun.reverse ++ vs), rest) := by
  obtain ⟨fuel, rfl⟩ : ∃ n, fuel = n + 1 := ⟨fuel - 1, by omega⟩
  cases text with
  | one text =>
    obtain ⟨first, -⟩ := (Bool.and_eq_true _ _).mp plain
    have read : value letters fuel (t ++ (w ++ ']' :: rest)) = .ok (_, w ++ ']' :: rest) :=
      value_text text first (by omega) (.of_spaces (.of_mark (by decide) rest) spaces)
    rw [elements_close spaces read, List.reverse_cons]
  | @cons v vs t w₁ w₂ ts text before after more =>
    rw [List.length_append, List.length_append, List.length_cons, List.length_append] at enough
    have short : 2 * ts.length + 1 ≤ fuel := by omega
    obtain ⟨first, others⟩ := (Bool.and_eq_true _ _).mp plain
    obtain ⟨c, tail, begins, opening⟩ := more.begins
    have read : value letters fuel (t ++ (w₁ ++ ',' :: (w₂ ++ c :: (tail ++ (w ++ ']' :: rest))))) =
        .ok (v, w₁ ++ ',' :: (w₂ ++ c :: (tail ++ (w ++ ']' :: rest)))) :=
      value_text text first (by omega) (.of_spaces (.of_mark (by decide) _) before)
    have later := elements_text more others short spaces (v :: begun) rest
    rw [begins] at later ⊢
    simp only [List.append_assoc, List.cons_append] at later ⊢
    rw [elements_comma before after opening.solid read, later, List.reverse_cons, List.append_assoc]
    rfl

theorem member_text {e : Value × Value} {t : List Char} (text : MemberText e t)
    (plain : e.2.isPlain = true) {fuel : Nat} (enough : 2 * t.length ≤ fuel)
    {begun : List (Value × Value)} (fresh : ∀ f ∈ begun, f.1.sameKey e.1 = false)
    {rest : List Char} (ends : EndsNumber rest) :
    members letters (fuel + 1) begun (t ++ rest) = membersAfter letters fuel (begun ++ [e]) rest := by
  cases text with
  | @mk name v k w w' t spelled before after text =>
    rw [List.length_cons, List.length_append, List.length_cons, List.length_append,
      List.length_cons, List.length_append] at enough
    obtain ⟨c, more, begins, opening⟩ := text.begins
    have short : 2 * t.length ≤ fuel := by omega
    have read := value_text text plain short ends
    rw [begins] at read ⊢
    simp only [List.append_assoc, List.cons_append] at read ⊢
    rw [members_name spelled before after opening.solid read, String.ofList_toList, put_of_fresh fresh]

theorem members_text {es : List (Value × Value)} {t : List Char} (text : MembersText es t)
    (plain : Value.everyEntry Value.isPlainScalar es = true) {fuel : Nat}
    (enough : 2 * t.length + 1 ≤ fuel) {w : List Char} (spaces : IsSpaces w)
    {begun : List (Value × Value)} (fresh : ∀ f ∈ begun, ∀ e ∈ es, f.1.sameKey e.1 = false)
    (rest : List Char) :
    members letters fuel begun (t ++ (w ++ '\x7d' :: rest)) = .ok (.dict (begun ++ es), rest) := by
  obtain ⟨fuel, rfl⟩ : ∃ n, fuel = n + 1 := ⟨fuel - 1, by omega⟩
  cases text with
  | one text =>
    obtain ⟨both, -⟩ := (Bool.and_eq_true _ _).mp plain
    have apart := fun f listed => fresh f listed _ List.mem_cons_self
    rw [member_text text ((Bool.and_eq_true _ _).mp both).2 (by omega) apart
      (.of_spaces (.of_mark (by decide) rest) spaces), membersAfter_close spaces]
  | @cons e es t w₁ w₂ ts text apart before after more =>
    rw [List.length_append, List.length_append, List.length_cons, List.length_append] at enough
    have short : 2 * ts.length + 1 ≤ fuel := by omega
    obtain ⟨both, others⟩ := (Bool.and_eq_true _ _).mp plain
    obtain ⟨tail, begins⟩ := more.begins
    have first := fun f listed => fresh f listed e List.mem_cons_self
    have second : ∀ f ∈ begun ++ [e], ∀ g ∈ es, f.1.sameKey g.1 = false := by
      intro f listed g later
      obtain early | here := List.mem_append.mp listed
      · exact fresh f early g (List.mem_cons_of_mem e later)
      · obtain rfl := List.mem_singleton.mp here
        exact sameKey_of_fresh text.isText (more.areTexts g later) (apart g later)
    have later := members_text more others short spaces second rest
    rw [begins] at later ⊢
    simp only [List.append_assoc, List.cons_append, List.nil_append] at later ⊢
    rw [member_text text ((Bool.and_eq_true _ _).mp both).2 (by omega) first
      (.of_spaces (.of_mark (by decide) _) before), membersAfter_comma before after, later]

end

/-- The white space around a document is skipped. -/
theorem skipSpace_all {w : List Char} (spaces : IsSpaces w) : skipSpace w = [] := by
  have skipped := skipSpace_append spaces []
  rw [List.append_nil] at skipped
  exact skipped

/-- **A text of a plain value is read as the value.** -/
theorem read_document {v : Value} {cs : List Char} (text : DocumentText v cs)
    (plain : v.isPlain = true) : read cs letters = .ok v := by
  cases text with
  | @mk w t w' before text after =>
    obtain ⟨c, more, begins, opening⟩ := text.begins
    have noMark : (w ++ (t ++ w')).head? ≠ some '\ufeff' := by
      intro marked
      cases w with
      | nil =>
        rw [begins] at marked
        exact opening.visible (Option.some.inj marked)
      | cons d rest =>
        have space := before d List.mem_cons_self
        rw [Option.some.inj marked] at space
        exact absurd space (by decide)
    have ends : EndsNumber w' := by
      have nothing : EndsNumber [] := nofun
      rw [← List.append_nil w']
      exact nothing.of_spaces after
    have enough : 2 * t.length ≤ 2 * (w ++ (t ++ w')).length + 1 := by
      rw [List.length_append, List.length_append]
      omega
    have found : value letters (2 * (w ++ (t ++ w')).length + 1) (t ++ w') = .ok (v, w') :=
      value_text text plain enough ends
    rw [read, if_neg noMark, skipSpace_append before]
    rw [begins] at found ⊢
    rw [List.cons_append] at found ⊢
    rw [skipSpace_solid opening.solid, found]
    dsimp only
    rw [skipSpace_all after]

end MachineDescriptor.Json
