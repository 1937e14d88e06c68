import MachineDescriptor.Json.Reader
import MachineDescriptor.Proofs.PlainValues
import MachineDescriptor.Text.Line

/-!
The texts of a value in the JSON format, for values without fractions. White space may stand around
every value, name and mark, and a character of a string may be spelled in each way that the format
knows. Such a text stays one of the same value when its line ends are unified.
-/
namespace MachineDescriptor.Json

/-! ## Strings -/

/-- The letters that spell a character after a backslash. -/
def shortEscapes : List (Char × Char) := [
  ('"', '"'), ('\\', '\\'), ('/', '/'), ('b', '\x08'), ('f', '\x0c'), ('n', '\n'), ('r', '\r'),
  ('t', '\t')]

/-- Four hexadecimal digits, in either case, of a number. -/
structure IsUnit (n : Nat) (ds : List Char) : Prop where
  four : ds.length = 4
  number : Text.hexNumber? ds = some n

/-- The spellings of a character in a string. -/
inductive CharText : Char → List Char → Prop where
  | itself {c : Char} (visible : 0x20 ≤ c.toNat) (noQuote : c ≠ '"') (noBackslash : c ≠ '\\') :
      CharText c [c]
  | short {letter c : Char} (known : (letter, c) ∈ shortEscapes) : CharText c ['\\', letter]
  | unit {c : Char} {ds : List Char} (spelled : IsUnit c.toNat ds) : CharText c ('\\' :: 'u' :: ds)
  | pair {c : Char} {high low : Nat} {ds es : List Char} (first : IsUnit high ds)
      (second : IsUnit low es) (isHigh : isHighSurrogate high = true)
      (isLow : isLowSurrogate low = true)
      (together : c.toNat = 0x10000 + (high - 0xd800) * 0x400 + (low - 0xdc00)) :
      CharText c ('\\' :: 'u' :: (ds ++ '\\' :: 'u' :: es))

/-- The spellings of a string between its quotes. -/
inductive StringText : List Char → List Char → Prop where
  | nil : StringText [] []
  | cons {c : Char} {cs t ts : List Char} (first : CharText c t) (rest : StringText cs ts) :
      StringText (c :: cs) (t ++ ts)

/-! ## Values -/

def IsSpaces (w : List Char) : Prop := ∀ c ∈ w, isSpace c = true

mutual

/-- The texts of a value, without white space around them. -/
inductive ValueText : Value → List Char → Prop where
  | null : ValueText .null "null".toList
  | bool (b : Bool) : ValueText (.bool b) (if b then "true" else "false").toList
  | int (n : Int) : ValueText (.int n) (Integer.text n)
  | text {s : String} {t : List Char} (body : StringText s.toList t) :
      ValueText (.text s) ('"' :: (t ++ ['"']))
  | noElements {w : List Char} (space : IsSpaces w) : ValueText (.list []) ('[' :: (w ++ [']']))
  | list {vs : List Value} {w t w' : List Char} (before : IsSpaces w) (elements : ElementsText vs t)
      (after : IsSpaces w') : ValueText (.list vs) ('[' :: (w ++ (t ++ (w' ++ [']']))))
  | noMembers {w : List Char} (space : IsSpaces w) :
      ValueText (.dict []) ('\x7b' :: (w ++ ['\x7d']))
  | dict {es : List (Value × Value)} {w t w' : List Char} (before : IsSpaces w)
      (members : MembersText es t) (after : IsSpaces w') :
      ValueText (.dict es) ('\x7b' :: (w ++ (t ++ (w' ++ ['\x7d']))))

/-- The texts of one or more elements of an array. -/
inductive ElementsText : List Value → List Char → Prop where
  | one {v : Value} {t : List Char} (value : ValueText v t) : ElementsText [v] t
  | cons {v : Value} {vs : List Value} {t w w' ts : List Char} (value : ValueText v t)
      (before : IsSpaces w) (after : IsSpaces w') (rest : ElementsText vs ts) :
      ElementsText (v :: vs) (t ++ (w ++ ',' :: (w' ++ ts)))

/-- The texts of a member of an object. -/
inductive MemberText : Value × Value → List Char → Prop where
  | mk {name : String} {v : Value} {k w w' t : List Char} (spelled : StringText name.toList k)
      (before : IsSpaces w) (after : IsSpaces w') (value : ValueText v t) :
      MemberText (.text name, v) ('"' :: (k ++ '"' :: (w ++ ':' :: (w' ++ t))))

/-- The texts of one or more members of an object, no two of them under one name. -/
inductive MembersText : List (Value × Value) → List Char → Prop where
  | one {e : Value × Value} {t : List Char} (member : MemberText e t) : MembersText [e] t
  | cons {e : Value × Value} {es : List (Value × Value)} {t w w' ts : List Char}
      (member : MemberText e t) (fresh : ∀ f ∈ es, f.1 ≠ e.1) (before : IsSpaces w)
      (after : IsSpaces w') (rest : MembersText es ts) :
      MembersText (e :: es) (t ++ (w ++ ',' :: (w' ++ ts)))

end

/-- A text of a value with white space around it. -/
inductive DocumentText (v : Value) : List Char → Prop where
  | mk {w t w' : List Char} (before : IsSpaces w) (value : ValueText v t) (after : IsSpaces w') :
      DocumentText v (w ++ (t ++ w'))

/-! ## How texts begin -/

theorem isDigit_eq (c : Char) : isDigit c = c.isDigit := rfl

/-- A character that a value may begin with is neither white space nor a closing mark, nor the mark
that may stand before a document. -/
structure IsOpening (c : Char) : Prop where
  solid : isSpace c = false
  opened : c ≠ ']'
  visible : c ≠ '\ufeff'

theorem IsOpening.of_number {c : Char} (number : beginsNumber c) : IsOpening c := by
  obtain digit | sign := number
  · have other : ∀ d, isDigit d = false → c ≠ d := by
      rintro d noDigit rfl
      rw [isDigit_eq, digit] at noDigit
      cases noDigit
    refine ⟨?_, other _ (by decide), other _ (by decide)⟩
    simp only [isSpace, Bool.or_eq_false_iff, beq_eq_false_iff_ne]
    exact ⟨⟨⟨other _ (by decide), other _ (by decide)⟩, other _ (by decide)⟩, other _ (by decide)⟩
  · simp only [List.mem_cons, List.not_mem_nil, or_false] at sign
    obtain rfl | rfl | rfl := sign <;> exact ⟨by decide, by decide, by decide⟩

theorem ValueText.begins {v : Value} {t : List Char} (text : ValueText v t) :
    ∃ c rest, t = c :: rest ∧ IsOpening c := by
  have word : ∀ c ∈ ['n', 't', 'f', '"', '[', '\x7b'], IsOpening c := by
    intro c listed
    simp only [List.mem_cons, List.not_mem_nil, or_false] at listed
    obtain rfl | rfl | rfl | rfl | rfl | rfl := listed <;> exact ⟨by decide, by decide, by decide⟩
  cases text with
  | null => exact ⟨'n', _, rfl, word _ (by decide)⟩
  | bool b =>
    cases b with
    | true => exact ⟨'t', _, rfl, word _ (by decide)⟩
    | false => exact ⟨'f', _, rfl, word _ (by decide)⟩
  | int n =>
    obtain ⟨c, rest, text, number⟩ := Integer.text_begins n
    exact ⟨c, rest, text, .of_number number⟩
  | text body => exact ⟨'"', _, rfl, word _ (by decide)⟩
  | noElements space => exact ⟨'[', _, rfl, word _ (by decide)⟩
  | list before elements after => exact ⟨'[', _, rfl, word _ (by decide)⟩
  | noMembers space => exact ⟨'\x7b', _, rfl, word _ (by decide)⟩
  | dict before members after => exact ⟨'\x7b', _, rfl, word _ (by decide)⟩

theorem ElementsText.begins {vs : List Value} {t : List Char} (text : ElementsText vs t) :
    ∃ c rest, t = c :: rest ∧ IsOpening c := by
  cases text with
  | one value => exact value.begins
  | cons value before after rest =>
    obtain ⟨c, more, same, opening⟩ := value.begins
    rw [same]
    exact ⟨c, _, rfl, opening⟩

theorem MemberText.begins {e : Value × Value} {t : List Char} (text : MemberText e t) :
    ∃ rest, t = '"' :: rest := by
  cases text with
  | mk => exact ⟨_, rfl⟩

theorem MembersText.begins {es : List (Value × Value)} {t : List Char} (text : MembersText es t) :
    ∃ rest, t = '"' :: rest := by
  cases text with
  | one member => exact member.begins
  | cons member fresh before after rest =>
    obtain ⟨more, same⟩ := member.begins
    rw [same]
    exact ⟨_, rfl⟩

theorem MemberText.isText {e : Value × Value} {t : List Char} (text : MemberText e t) :
    ∃ name, e.1 = .text name := by
  cases text with
  | mk => exact ⟨_, rfl⟩

theorem MembersText.areTexts {es : List (Value × Value)} {t : List Char} (text : MembersText es t) :
    ∀ e ∈ es, ∃ name, e.1 = .text name := by
  match text with
  | .one member =>
    intro f listed
    obtain rfl := List.mem_singleton.mp listed
    exact member.isText
  | .cons member fresh before after rest =>
    exact List.forall_mem_cons.mpr ⟨member.isText, rest.areTexts⟩

/-! ## Line ends -/

section

open Text (unifyLineFeeds)

/-- What does not go on a line end that a carriage return began. -/
def NoLineFeed (cs : List Char) : Prop := ∀ rest, cs ≠ '\n' :: rest

theorem unify_cons {c : Char} (other : c ≠ '\r') (cs : List Char) :
    unifyLineFeeds (c :: cs) = c :: unifyLineFeeds cs := by
  rw [unifyLineFeeds]
  · rw [if_neg other]
  · intro rest same _
    exact other same

theorem unify_return {cs : List Char} (alone : NoLineFeed cs) :
    unifyLineFeeds ('\r' :: cs) = '\n' :: unifyLineFeeds cs := by
  rw [unifyLineFeeds]
  · rw [if_pos rfl]
  · intro rest _ same
    exact alone rest same

theorem unify_append {t : List Char} (none : '\r' ∉ t) (cs : List Char) :
    unifyLineFeeds (t ++ cs) = t ++ unifyLineFeeds cs := by
  induction t with
  | nil => rfl
  | cons c rest ih =>
    have other : c ≠ '\r' := fun same => none (by simp [same])
    have later : '\r' ∉ rest := fun listed => none (List.mem_cons_of_mem c listed)
    rw [List.cons_append, unify_cons other, ih later]
    rfl

theorem IsSpaces.cons {c : Char} {w : List Char} (space : isSpace c = true) (spaces : IsSpaces w) :
    IsSpaces (c :: w) := List.forall_mem_cons.mpr ⟨space, spaces⟩

/-- White space stays white space. -/
theorem IsSpaces.unified {w : List Char} (spaces : IsSpaces w) {cs : List Char}
    (next : NoLineFeed cs) :
    ∃ w', IsSpaces w' ∧ unifyLineFeeds (w ++ cs) = w' ++ unifyLineFeeds cs := by
  match w with
  | [] => exact ⟨[], spaces, rfl⟩
  | c :: rest =>
    obtain ⟨space, others⟩ := List.forall_mem_cons.mp spaces
    by_cases pair : c = '\r' ∧ ∃ more, rest = '\n' :: more
    · obtain ⟨rfl, more, rfl⟩ := pair
      obtain ⟨-, later⟩ := List.forall_mem_cons.mp others
      obtain ⟨w', spaces', same⟩ := IsSpaces.unified later next
      refine ⟨'\n' :: w', .cons (by decide) spaces', ?_⟩
      rw [List.cons_append, List.cons_append, unifyLineFeeds, same]
      rfl
    · obtain ⟨w', spaces', same⟩ := IsSpaces.unified others next
      by_cases alone : c = '\r'
      · have noFeed : NoLineFeed (rest ++ cs) := by
          cases rest with
          | nil => exact next
          | cons d more =>
            intro tail feed
            exact pair ⟨alone, more, by rw [(List.cons.inj feed).1]⟩
        refine ⟨'\n' :: w', .cons (by decide) spaces', ?_⟩
        rw [alone, List.cons_append, unify_return noFeed, same]
        rfl
      · refine ⟨c :: w', .cons space spaces', ?_⟩
        rw [List.cons_append, unify_cons alone, same]
        rfl

theorem IsOpening.noLineFeed {c : Char} (opening : IsOpening c) (cs : List Char) :
    NoLineFeed (c :: cs) := by
  intro rest same
  obtain ⟨rfl, -⟩ := List.cons.inj same
  exact absurd opening.solid (by decide)

theorem noLineFeed_cons {c : Char} (other : c ≠ '\n') (cs : List Char) : NoLineFeed (c :: cs) :=
  fun _ same => other (List.cons.inj same).1

/-- White space before a mark stays so, and the mark stays after it. -/
theorem IsSpaces.unified_before {w : List Char} (spaces : IsSpaces w) {mark : Char}
    (noReturn : mark ≠ '\r') (noFeed : mark ≠ '\n') (cs : List Char) :
    ∃ w', IsSpaces w' ∧ unifyLineFeeds (w ++ mark :: cs) = w' ++ mark :: unifyLineFeeds cs := by
  obtain ⟨w', spaces', same⟩ := spaces.unified (noLineFeed_cons noFeed cs)
  refine ⟨w', spaces', ?_⟩
  rw [same, unify_cons noReturn]

/-- White space on both sides of a mark stays so. -/
theorem IsSpaces.unified_around {w w' cs : List Char} (before : IsSpaces w) (after : IsSpaces w')
    {mark : Char} (noReturn : mark ≠ '\r') (noFeed : mark ≠ '\n') (next : NoLineFeed cs) :
    ∃ u u', IsSpaces u ∧ IsSpaces u' ∧
      unifyLineFeeds (w ++ mark :: (w' ++ cs)) = u ++ mark :: (u' ++ unifyLineFeeds cs) := by
  obtain ⟨u', after', second⟩ := after.unified next
  obtain ⟨u, before', first⟩ := before.unified_before noReturn noFeed (w' ++ cs)
  refine ⟨u, u', before', after', ?_⟩
  rw [first, second]

/-! ### Tokens hold no line end -/

theorem hexValue?_of_number {cs : List Char} {n : Nat} (number : Text.hexNumber? cs = some n) :
    ∀ c ∈ cs, (Text.hexValue? c).isSome = true := by
  unfold Text.hexNumber? at number
  generalize 0 = start at number
  induction cs generalizing start with
  | nil => exact List.forall_mem_nil _
  | cons c rest ih =>
    rw [List.foldlM_cons] at number
    cases digit : Text.hexValue? c with
    | none =>
      rw [digit] at number
      cases number
    | some d =>
      rw [digit] at number
      exact List.forall_mem_cons.mpr ⟨by rw [digit]; rfl, ih _ number⟩

theorem IsUnit.no_return {n : Nat} {ds : List Char} (spelled : IsUnit n ds) : '\r' ∉ ds := by
  intro listed
  have digit := hexValue?_of_number spelled.number _ listed
  exact absurd digit (by decide)

theorem CharText.no_return {c : Char} {t : List Char} (spelled : CharText c t) : '\r' ∉ t := by
  cases spelled with
  | itself visible noQuote noBackslash =>
    intro listed
    obtain rfl := List.mem_singleton.mp listed
    exact absurd visible (by decide)
  | short known =>
    have all : ∀ e ∈ shortEscapes, '\r' ∉ ['\\', e.1] := by decide
    exact all _ known
  | unit unit => simpa using unit.no_return
  | pair first second isHigh isLow together =>
    simpa using ⟨first.no_return, second.no_return⟩

theorem StringText.no_return {cs t : List Char} (spelled : StringText cs t) : '\r' ∉ t := by
  induction spelled with
  | nil => exact List.not_mem_nil
  | cons first rest ih =>
    rw [List.mem_append]
    exact not_or.mpr ⟨first.no_return, ih⟩

theorem text_no_return (n : Int) : '\r' ∉ Integer.text n := by
  intro listed
  unfold Integer.text at listed
  obtain sign | digit := List.mem_append.mp listed
  · split at sign
    · exact absurd sign (by decide)
    · cases sign
  · have digit := Nat.isDigit_of_mem_toDigits (by omega) (by omega) digit
    exact absurd digit (by decide)

/-! ### Texts of values stay so -/

theorem ValueText.noLineFeed {v : Value} {t : List Char} (text : ValueText v t) (cs : List Char) :
    NoLineFeed (t ++ cs) := by
  obtain ⟨c, rest, begins, opening⟩ := text.begins
  rw [begins]
  exact opening.noLineFeed (rest ++ cs)

theorem ElementsText.noLineFeed {vs : List Value} {t : List Char} (text : ElementsText vs t)
    (cs : List Char) : NoLineFeed (t ++ cs) := by
  obtain ⟨c, rest, begins, opening⟩ := text.begins
  rw [begins]
  exact opening.noLineFeed (rest ++ cs)

theorem MembersText.noLineFeed {es : List (Value × Value)} {t : List Char}
    (text : MembersText es t) (cs : List Char) : NoLineFeed (t ++ cs) := by
  obtain ⟨rest, begins⟩ := text.begins
  rw [begins]
  exact noLineFeed_cons (by decide) (rest ++ cs)

mutual

theorem ValueText.unified {v : Value} {t : List Char} (text : ValueText v t) (cs : List Char) :
    ∃ t', ValueText v t' ∧ unifyLineFeeds (t ++ cs) = t' ++ unifyLineFeeds cs := by
  cases text with
  | null => exact ⟨_, .null, unify_append (by decide) cs⟩
  | bool b => exact ⟨_, .bool b, unify_append (by cases b <;> decide) cs⟩
  | int n => exact ⟨_, .int n, unify_append (text_no_return n) cs⟩
  | text body =>
    refine ⟨_, .text body, unify_append ?_ cs⟩
    simpa using body.no_return
  | noElements space =>
    obtain ⟨w', space', same⟩ := space.unified_before (by decide : ']' ≠ '\r') (by decide) cs
    refine ⟨_, .noElements space', ?_⟩
    simp only [List.cons_append, List.append_assoc, List.nil_append]
    rw [unify_cons (by decide), same]
  | @list vs w t w' before elements after =>
    obtain ⟨u', after', last⟩ := after.unified_before (by decide : ']' ≠ '\r') (by decide) cs
    obtain ⟨t', elements', middle⟩ := elements.unified (w' ++ ']' :: cs)
    obtain ⟨u, before', first⟩ := before.unified (elements.noLineFeed (w' ++ ']' :: cs))
    refine ⟨_, .list before' elements' after', ?_⟩
    simp only [List.cons_append, List.append_assoc, List.nil_append]
    rw [unify_cons (by decide), first, middle, last]
  | noMembers space =>
    obtain ⟨w', space', same⟩ := space.unified_before (by decide : '\x7d' ≠ '\r') (by decide) cs
    refine ⟨_, .noMembers space', ?_⟩
    simp only [List.cons_append, List.append_assoc, List.nil_append]
    rw [unify_cons (by decide), same]
  | @dict es w t w' before members after =>
    obtain ⟨u', after', last⟩ := after.unified_before (by decide : '\x7d' ≠ '\r') (by decide) cs
    obtain ⟨t', members', middle⟩ := members.unified (w' ++ '\x7d' :: cs)
    obtain ⟨u, before', first⟩ := before.unified (members.noLineFeed (w' ++ '\x7d' :: cs))
    refine ⟨_, .dict before' members' after', ?_⟩
    simp only [List.cons_append, List.append_assoc, List.nil_append]
    rw [unify_cons (by decide), first, middle, last]

theorem ElementsText.unified {vs : List Value} {t : List Char} (text : ElementsText vs t)
    (cs : List Char) :
    ∃ t', ElementsText vs t' ∧ unifyLineFeeds (t ++ cs) = t' ++ unifyLineFeeds cs := by
  cases text with
  | one value =>
    obtain ⟨t', value', same⟩ := value.unified cs
    exact ⟨t', .one value', same⟩
  | @cons v vs t w w' ts value before after rest =>
    obtain ⟨ts', rest', last⟩ := rest.unified cs
    obtain ⟨u, u', before', after', second⟩ :=
      before.unified_around after (by decide : ',' ≠ '\r') (by decide) (rest.noLineFeed cs)
    obtain ⟨t', value', first⟩ := value.unified (w ++ ',' :: (w' ++ (ts ++ cs)))
    refine ⟨_, .cons value' before' after' rest', ?_⟩
    simp only [List.cons_append, List.append_assoc]
    rw [first, second, last]

theorem MemberText.unified {e : Value × Value} {t : List Char} (text : MemberText e t)
    (cs : List Char) :
    ∃ t', MemberText e t' ∧ unifyLineFeeds (t ++ cs) = t' ++ unifyLineFeeds cs := by
  cases text with
  | @mk name v k w w' t spelled before after value =>
    obtain ⟨t', value', last⟩ := value.unified cs
    obtain ⟨u, u', before', after', second⟩ :=
      before.unified_around after (by decide : ':' ≠ '\r') (by decide) (value.noLineFeed cs)
    refine ⟨_, .mk spelled before' after' value', ?_⟩
    simp only [List.cons_append, List.append_assoc]
    rw [unify_cons (by decide), unify_append spelled.no_return, unify_cons (by decide), second,
      last]

theorem MembersText.unified {es : List (Value × Value)} {t : List Char} (text : MembersText es t)
    (cs : List Char) :
    ∃ t', MembersText es t' ∧ unifyLineFeeds (t ++ cs) = t' ++ unifyLineFeeds cs := by
  cases text with
  | one member =>
    obtain ⟨t', member', same⟩ := member.unified cs
    exact ⟨t', .one member', same⟩
  | @cons e es t w w' ts member fresh before after rest =>
    obtain ⟨ts', rest', last⟩ := rest.unified cs
    obtain ⟨u, u', before', after', second⟩ :=
      before.unified_around after (by decide : ',' ≠ '\r') (by decide) (rest.noLineFeed cs)
    obtain ⟨t', member', first⟩ := member.unified (w ++ ',' :: (w' ++ (ts ++ cs)))
    refine ⟨_, .cons member' fresh before' after' rest', ?_⟩
    simp only [List.cons_append, List.append_assoc]
    rw [first, second, last]

end

/-- **A text of a value stays one when its line ends are unified.** -/
theorem DocumentText.unified {v : Value} {cs : List Char} (text : DocumentText v cs) :
    DocumentText v (unifyLineFeeds cs) := by
  cases text with
  | @mk w t w' before value after =>
    obtain ⟨u', after', last⟩ := after.unified (nofun : NoLineFeed [])
    obtain ⟨t', value', middle⟩ := value.unified w'
    obtain ⟨u, before', first⟩ := before.unified (value.noLineFeed w')
    rw [List.append_nil, unifyLineFeeds, List.append_nil] at last
    rw [first, middle, last]
    exact .mk before' value' after'

end

end MachineDescriptor.Json
