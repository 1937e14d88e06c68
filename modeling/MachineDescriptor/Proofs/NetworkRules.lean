import MachineDescriptor.Machine.Network

/-!
# Rules for networks

A rule is text. Read at its first colon it is for one interface, and without a colon for all.

* `network?_read`: for an interface without a colon, trying a rule is reading it;
* `ofInterface_reads`: the network of such an interface is that of the first rule that applies, and
  rules for others, or after that one, are of no account;
* `rule_serves_aliases`: an interface with colons in its name is met by rules whose first colon is
  another one, so that a rule can serve an interface and its aliases at once.
-/
namespace MachineDescriptor.Network

/-! ## Rules as they are read -/

/-- What a rule is for: its network is that of every interface, or of one. -/
inductive Rule where
  | forAll (network : List Char)
  | forOne (interface network : List Char)

/-- A rule is read at its first colon. -/
def Rule.read (text : List Char) : Rule :=
  match text.dropWhile (· != ':') with
  | [] => .forAll text
  | _ :: network => .forOne (text.takeWhile (· != ':')) network

/-- Whether a rule is for an interface. -/
def Rule.applies (interface : List Char) : Rule → Bool
  | forAll _ => true
  | forOne name _ => name = interface

def Rule.network : Rule → List Char
  | forAll network => network
  | forOne _ network => network

/-- The network of an interface by the rules as they are read: that of the first one that applies,
or the default one. -/
def chosen (rules : Option (List (List Char))) (interface : List Char) : List Char :=
  match rules with
  | none => ['d', 'e', 'f', 'a', 'u', 'l', 't']
  | some rules =>
    match (rules.map Rule.read).find? (·.applies interface) with
    | none => ['d', 'e', 'f', 'a', 'u', 'l', 't']
    | some rule => rule.network

theorem ne_colon {text : List Char} (plain : ':' ∉ text) : ∀ c ∈ text, (c != ':') = true := by
  intro c listed
  apply bne_iff_ne.mpr
  rintro rfl
  exact plain listed

theorem read_plain {text : List Char} (plain : ':' ∉ text) : Rule.read text = .forAll text := by
  have rest : (text ++ []).dropWhile (· != ':') = [] :=
    List.dropWhile_append_of_pos (ne_colon plain)
  rw [List.append_nil] at rest
  rw [Rule.read, rest]

theorem read_colon {name : List Char} (plain : ':' ∉ name) (network : List Char) :
    Rule.read (name ++ ':' :: network) = .forOne name network := by
  have rest : (name ++ ':' :: network).dropWhile (· != ':') = ':' :: network := by
    rw [List.dropWhile_append_of_pos (ne_colon plain)]
    rfl
  have start : (name ++ ':' :: network).takeWhile (· != ':') = name := by
    rw [List.takeWhile_append_of_pos (ne_colon plain)]
    simp
  rw [Rule.read, rest, start]

/-- A text with a colon has a first one. -/
theorem exists_first_colon {text : List Char} (colon : ':' ∈ text) :
    ∃ name network, ':' ∉ name ∧ text = name ++ ':' :: network := by
  obtain ⟨name, network, split, plain⟩ := List.eq_append_cons_of_mem colon
  exact ⟨name, network, plain, split⟩

/-! ## Colons -/

/-- Whether a name is another with a colon and more after it, as `eth0:1` is for `eth0`. -/
def IsAliasOf (other name : List Char) : Prop := ∃ tail, other = name ++ ':' :: tail

/-- Two names before a colon of one text are the same, or one is an alias of the other. -/
theorem before_colon {a b x y : List Char} (same : a ++ ':' :: x = b ++ ':' :: y) :
    a = b ∧ x = y ∨ IsAliasOf b a ∨ IsAliasOf a b := by
  obtain ⟨tail, longer, rest⟩ | ⟨tail, longer, rest⟩ := List.append_eq_append_iff.mp same
  · cases tail with
    | nil => simp_all
    | cons c tail =>
      obtain rfl : ':' = c := by simpa using congrArg List.head? rest
      exact .inr (.inl ⟨tail, longer⟩)
  · cases tail with
    | nil => simp_all
    | cons c tail =>
      obtain rfl : ':' = c := by simpa using congrArg List.head? rest
      exact .inr (.inr ⟨tail, longer⟩)

theorem not_isAliasOf_of_plain {other : List Char} (plain : ':' ∉ other) (name : List Char) :
    ¬IsAliasOf other name := by
  rintro ⟨tail, rfl⟩
  exact plain (List.mem_append_right _ List.mem_cons_self)

/-! ## One rule -/

theorem network?_plain {rule : List Char} (plain : ':' ∉ rule) (interface : List Char) :
    network? interface rule = some rule := by
  have absent : rule.contains ':' = false := by simpa using plain
  rw [network?, absent, if_neg Bool.false_ne_true]

/-- A rule with a colon is tried by what it begins with. -/
theorem network?_colon {rule : List Char} (colon : ':' ∈ rule) {interface network : List Char} :
    network? interface rule = some network ↔ rule = interface ++ ':' :: network := by
  have present : rule.contains ':' = true := by simpa using colon
  rw [network?, present, if_pos rfl]
  constructor
  · intro said
    split at said
    · next begins =>
      obtain ⟨tail, rfl⟩ := List.isPrefixOf_iff_prefix.mp begins
      simp_all
    · cases said
  · rintro rfl
    simp

/-- For an interface without a colon, trying a rule is reading it. -/
theorem network?_read {interface : List Char} (plain : ':' ∉ interface) (rule : List Char) :
    network? interface rule =
      if (Rule.read rule).applies interface then some (Rule.read rule).network else none := by
  by_cases colon : ':' ∈ rule
  · obtain ⟨name, network, first, rfl⟩ := exists_first_colon colon
    rw [read_colon first]
    by_cases same : name = interface
    · subst same
      simp [Rule.applies, Rule.network, network?_colon colon]
    · have silent : network? interface (name ++ ':' :: network) = none := by
        apply Option.eq_none_iff_forall_ne_some.mpr
        intro other said
        obtain ⟨equal, -⟩ | aliased | aliased := before_colon ((network?_colon colon).mp said)
        · exact same equal
        · exact not_isAliasOf_of_plain plain name aliased
        · exact not_isAliasOf_of_plain first interface aliased
      simp [Rule.applies, same, silent]
  · simp [read_plain colon, network?_plain colon, Rule.applies, Rule.network]

/-! ## Lists of rules -/

/-- The second list of rules is the first one with rules for other interfaces put in anywhere. -/
inductive Inserted (interface : List Char) : List (List Char) → List (List Char) → Prop where
  | nil : Inserted interface [] []
  | keep {rules extended : List (List Char)} (rule : List Char) :
      Inserted interface rules extended →
      Inserted interface (rule :: rules) (rule :: extended)
  | insert {rules extended : List (List Char)} {name : List Char} (network : List Char) :
      ':' ∉ name → name ≠ interface → Inserted interface rules extended →
      Inserted interface rules ((name ++ ':' :: network) :: extended)

theorem ofInterface_eq_chosen {interface : List Char} (plain : ':' ∉ interface)
    (rules : Option (List (List Char))) : ofInterface rules interface = chosen rules interface := by
  cases rules with
  | none => rfl
  | some rules =>
    rw [ofInterface, chosen]
    induction rules with
    | nil => rfl
    | cons rule rest ih =>
      rw [List.findSome?_cons, List.map_cons, List.find?_cons, network?_read plain]
      cases applies : (Rule.read rule).applies interface with
      | true => rfl
      | false => simpa using ih

/-- A rule for another interface says nothing. -/
theorem network?_other {interface name : List Char} (plain : ':' ∉ interface) (first : ':' ∉ name)
    (other : name ≠ interface) (network : List Char) :
    network? interface (name ++ ':' :: network) = none := by
  rw [network?_read plain, read_colon first]
  simp [Rule.applies, other]

theorem Inserted.findSome? {interface : List Char} (plain : ':' ∉ interface)
    {rules extended : List (List Char)} (inserted : Inserted interface rules extended) :
    extended.findSome? (network? interface) = rules.findSome? (network? interface) := by
  induction inserted with
  | nil => rfl
  | keep rule _ ih => rw [List.findSome?_cons, List.findSome?_cons, ih]
  | insert network first other _ ih =>
    rw [List.findSome?_cons, network?_other plain first other]
    exact ih

/-- **The network of an interface is that of the first rule that is for it.** For an interface without
a colon in its name, the rules are read at their first colons and tried in order. Rules that are for
other interfaces change nothing wherever they stand, nor does anything that stands after a rule that
applies. -/
theorem ofInterface_reads (interface : List Char) (plain : ':' ∉ interface) :
    (∀ rules, ofInterface rules interface = chosen rules interface) ∧
    (∀ rules extended, Inserted interface rules extended →
      ofInterface (some extended) interface = ofInterface (some rules) interface) ∧
    ∀ before rule after later, (Rule.read rule).applies interface = true →
      ofInterface (some (before ++ rule :: after)) interface =
        ofInterface (some (before ++ rule :: later)) interface := by
  refine ⟨ofInterface_eq_chosen plain, ?_, ?_⟩
  · intro rules extended inserted
    rw [ofInterface, ofInterface, inserted.findSome? plain]
  · intro before rule after later applies
    have said : network? interface rule = some (Rule.read rule).network := by
      rw [network?_read plain, if_pos applies]
    rw [ofInterface, ofInterface, List.findSome?_append, List.findSome?_append,
      List.findSome?_cons, List.findSome?_cons, said]

/-- The name of one interface begins the name of another, and the network has a colon in it. -/
theorem ofInterface_eth1 :
    ofInterface (some ["eth10:ten".toList, "eth1:b:1".toList, "lan".toList]) "eth1".toList =
      "b:1".toList ∧
    ofInterface (some ["eth10:ten".toList, ":x".toList, "eth1:b:1".toList, "lan".toList])
      "eth1".toList =
      ofInterface (some ["eth10:ten".toList, "eth1:b:1".toList, "lan".toList]) "eth1".toList ∧
    ofInterface (some ["eth10:ten".toList, "eth1:b:1".toList, "lan".toList]) "eth1".toList =
      ofInterface (some ["eth10:ten".toList, "eth1:b:1".toList]) "eth1".toList := by
  obtain ⟨reads, inserts, ends⟩ := ofInterface_reads "eth1".toList (by decide)
  refine ⟨?_, ?_, ?_⟩
  · rw [reads]
    decide +kernel
  · apply inserts
    exact .keep _ (.insert ['x'] List.not_mem_nil (by decide) (.keep _ (.keep _ .nil)))
  · exact ends ["eth10:ten".toList] "eth1:b:1".toList ["lan".toList] [] (by decide +kernel)

/-! ## Rules for aliases -/

/-- The position of the rule that an interface has its network from. -/
def source? (rules : List (List Char)) (interface : List Char) : Option Nat :=
  rules.findIdx? fun rule => (network? interface rule).isSome

/-- Two interfaces have their networks from one rule with a colon. -/
def Shared (rules : List (List Char)) (rule a b : List Char) : Prop :=
  ∃ k, rules[k]? = some rule ∧ ':' ∈ rule ∧ source? rules a = some k ∧ source? rules b = some k

theorem network?_of_source {rules : List (List Char)} {interface : List Char} {k : Nat}
    (source : source? rules interface = some k) :
    ∃ rule, rules[k]? = some rule ∧
      network? interface rule = some (ofInterface (some rules) interface) := by
  induction rules generalizing k with
  | nil => cases source
  | cons rule rest ih =>
    rw [source?, List.findIdx?_cons] at source
    cases said : network? interface rule with
    | some network =>
      obtain rfl : 0 = k := by simpa [said] using source
      exact ⟨rule, rfl, by simp [ofInterface, said]⟩
    | none =>
      rw [said] at source
      obtain ⟨j, later, rfl⟩ : ∃ j, source? rest interface = some j ∧ j + 1 = k := by
        simpa [source?] using source
      obtain ⟨found, placed, network⟩ := ih later
      exact ⟨found, placed, by simpa [ofInterface, said] using network⟩

theorem Shared.begins {rules : List (List Char)} {rule a b : List Char}
    (shared : Shared rules rule a b) :
    ∃ x y, rule = a ++ ':' :: x ∧ rule = b ++ ':' :: y := by
  obtain ⟨k, placed, colon, sourceA, sourceB⟩ := shared
  obtain ⟨ruleA, placedA, saidA⟩ := network?_of_source sourceA
  obtain ⟨ruleB, placedB, saidB⟩ := network?_of_source sourceB
  obtain rfl : ruleA = rule := Option.some.inj (placedA.symm.trans placed)
  obtain rfl : ruleB = ruleA := Option.some.inj (placedB.symm.trans placedA)
  exact ⟨_, _, (network?_colon colon).mp saidA, (network?_colon colon).mp saidB⟩

theorem Shared.symm {rules : List (List Char)} {rule a b : List Char}
    (shared : Shared rules rule a b) : Shared rules rule b a := by
  obtain ⟨k, placed, colon, sourceA, sourceB⟩ := shared
  exact ⟨k, placed, colon, sourceB, sourceA⟩

/-- Different interfaces that share a rule are an interface and an alias of it. -/
theorem Shared.aliased {rules : List (List Char)} {rule a b : List Char}
    (shared : Shared rules rule a b) (distinct : a ≠ b) : IsAliasOf a b ∨ IsAliasOf b a := by
  obtain ⟨x, y, beginsA, beginsB⟩ := shared.begins
  obtain ⟨same, -⟩ | aliased | aliased := before_colon (beginsA.symm.trans beginsB)
  · exact absurd same distinct
  · exact .inr aliased
  · exact .inl aliased

/-- A rule that says something for an alias says something for the interface without it. -/
theorem network?_of_alias {other name rule : List Char} (aliased : IsAliasOf other name)
    (said : (network? other rule).isSome) : (network? name rule).isSome := by
  by_cases colon : ':' ∈ rule
  · obtain ⟨network, known⟩ := Option.isSome_iff_exists.mp said
    obtain ⟨tail, rfl⟩ := aliased
    apply Option.isSome_iff_exists.mpr
    refine ⟨tail ++ ':' :: network, (network?_colon colon).mpr ?_⟩
    rw [(network?_colon colon).mp known, List.append_assoc, List.cons_append]
  · rw [network?_plain colon]
    rfl

/-- Whether an alias has its network from the rule that is the first one for the interface without
it: that rule begins with the alias and a colon. -/
def ServesAlias (rules : List (List Char)) (rule name other : List Char) : Prop :=
  IsAliasOf other name ∧
    ∃ k network, source? rules name = some k ∧ rules[k]? = some rule ∧ rule = other ++ ':' :: network

theorem ServesAlias.shared {rules : List (List Char)} {rule name other : List Char}
    (serves : ServesAlias rules rule name other) : Shared rules rule name other := by
  obtain ⟨aliased, k, network, source, placed, begins⟩ := serves
  have colon : ':' ∈ rule := begins ▸ List.mem_append_right _ List.mem_cons_self
  obtain ⟨inside, here, first⟩ := List.findIdx?_eq_some_iff_getElem.mp source
  obtain rfl : rules[k] = rule := by simpa [inside] using placed
  refine ⟨k, placed, colon, source, List.findIdx?_eq_some_iff_getElem.mpr ⟨inside, ?_, ?_⟩⟩
  · exact Option.isSome_iff_exists.mpr ⟨network, (network?_colon colon).mpr begins⟩
  · intro j earlier said
    exact first j earlier (network?_of_alias aliased said)

theorem Shared.serves {rules : List (List Char)} {rule name other : List Char}
    (shared : Shared rules rule name other) (aliased : IsAliasOf other name) :
    ServesAlias rules rule name other := by
  obtain ⟨x, y, -, begins⟩ := shared.begins
  obtain ⟨k, placed, -, source, -⟩ := shared
  exact ⟨aliased, k, y, source, placed, begins⟩

/-- **A rule with a colon is for one interface, unless that is an alias.** An interface has its network
from the first rule that is plain or begins with its name and a colon. Two different interfaces have
theirs from one rule with a colon exactly when one of them is an alias of the other and the first rule
for that other one begins with the alias and a colon. -/
theorem rule_serves_aliases (rules : List (List Char)) (rule a b : List Char) (distinct : a ≠ b) :
    (∀ interface k, source? rules interface = some k →
      ∃ found, rules[k]? = some found ∧
        (':' ∉ found ∧ ofInterface (some rules) interface = found ∨
          found = interface ++ ':' :: ofInterface (some rules) interface)) ∧
    (Shared rules rule a b ↔ ServesAlias rules rule a b ∨ ServesAlias rules rule b a) := by
  constructor
  · intro interface k source
    obtain ⟨found, placed, said⟩ := network?_of_source source
    refine ⟨found, placed, ?_⟩
    by_cases colon : ':' ∈ found
    · exact .inr ((network?_colon colon).mp said)
    · rw [network?_plain colon] at said
      exact .inl ⟨colon, (Option.some.inj said).symm⟩
  · constructor
    · intro shared
      obtain aliased | aliased := shared.aliased distinct
      · exact .inr (shared.symm.serves aliased)
      · exact .inl (shared.serves aliased)
    · rintro (serves | serves)
      · exact serves.shared
      · exact serves.shared.symm

/-- A rule for an alias is also one for the interface without it. -/
theorem shared_eth0 :
    ofInterface (some ["eth0:1:net".toList]) "eth0".toList = "1:net".toList ∧
    ofInterface (some ["eth0:1:net".toList]) "eth0:1".toList = "net".toList ∧
    "eth0".toList ≠ "eth0:1".toList ∧
    Shared ["eth0:1:net".toList] "eth0:1:net".toList "eth0".toList "eth0:1".toList := by
  have distinct : "eth0".toList ≠ "eth0:1".toList := by decide
  have serves :
      ServesAlias ["eth0:1:net".toList] "eth0:1:net".toList "eth0".toList "eth0:1".toList :=
    ⟨⟨['1'], by decide⟩, 0, "net".toList, by decide, rfl, by decide⟩
  exact ⟨by decide, by decide, distinct,
    (rule_serves_aliases _ _ _ _ distinct).2.mpr (.inl serves)⟩

end MachineDescriptor.Network
