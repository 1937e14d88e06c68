import MachineDescriptor.Proofs.Reading
import MachineDescriptor.Text.Letters

/-!
What a processor of XML makes of a document. It refuses a text with a character that documents may
not have, it takes line ends of every kind for line feeds before it reads, and the tabs and line
ends that stand in a value of an attribute for spaces. A document that was written from nodes comes
back with its strings changed in these ways, and in no others.
-/
namespace MachineDescriptor.Xml

/-! ## Characters, line ends and breaks -/

/-- Whether a character may stand in a document; one that spells a surrogate code may not. -/
def isCharacter (letters : Text.Letters) (c : Char) : Bool :=
  let n := c.toNat
  (n == 0x9 || n == 0xa || n == 0xd || (0x20 ≤ n && n ≤ 0xd7ff) || (0xe000 ≤ n && n ≤ 0xfffd) ||
    (0x10000 ≤ n && n ≤ 0x10ffff)) && (letters.code? c).isNone

/-- The text in which every carriage return, with the line feed after it if there is one, has
become a line feed. -/
def lineEnds : List Char → List Char
  | '\r' :: '\n' :: rest => '\n' :: lineEnds rest
  | '\r' :: rest => '\n' :: lineEnds rest
  | c :: rest => c :: lineEnds rest
  | [] => []

/-- A tab or a part of the end of a line. -/
def isBreak (c : Char) : Bool := c == '\t' || c == '\n' || c == '\r'

/-- The text with a space for every break. -/
def spaced (cs : List Char) : List Char := cs.map fun c => if isBreak c then ' ' else c

theorem spaced_cons (c : Char) (cs : List Char) :
    spaced (c :: cs) = (if isBreak c then ' ' else c) :: spaced cs := rfl

theorem lineEnds_cons {c : Char} (other : c ≠ '\r') (cs : List Char) :
    lineEnds (c :: cs) = c :: lineEnds cs := by
  rw [lineEnds.eq_3] <;> simp [other]

theorem lineEnds_plain {as : List Char} (plain : '\r' ∉ as) (bs : List Char) :
    lineEnds (as ++ bs) = as ++ lineEnds bs := by
  induction as with
  | nil => rfl
  | cons c rest ih =>
    rw [List.mem_cons, not_or] at plain
    rw [List.cons_append, lineEnds_cons (Ne.symm plain.1), ih plain.2, List.cons_append]

theorem not_mem_lineEnds (cs : List Char) : '\r' ∉ lineEnds cs := by
  fun_induction lineEnds cs with
  | case1 rest ih | case2 rest _ ih => simpa using ih
  | case3 c rest _ other ih =>
    simp only [List.mem_cons, not_or]
    exact ⟨fun e => other e.symm, ih⟩
  | case4 => exact List.not_mem_nil

theorem lineEnds_eq_self_iff {cs : List Char} : lineEnds cs = cs ↔ '\r' ∉ cs := by
  constructor
  · intro same
    exact same ▸ not_mem_lineEnds cs
  · intro plain
    have whole := lineEnds_plain plain []
    rwa [List.append_nil, lineEnds, List.append_nil] at whole

/-- A text ends before any character but a line feed. -/
theorem lineEnds_append_cons (as : List Char) {c : Char} (other : c ≠ '\n') (bs : List Char) :
    lineEnds (as ++ c :: bs) = lineEnds as ++ lineEnds (c :: bs) := by
  fun_induction lineEnds as with
  | case1 rest ih =>
    simp only [List.cons_append, lineEnds, ih]
  | case2 rest split ih =>
    have split' : ∀ r, rest ++ c :: bs ≠ '\n' :: r := by
      intro r e
      cases rest with
      | nil => exact other (List.cons.inj e).1
      | cons d rest => exact split rest (by rw [(List.cons.inj e).1])
    rw [List.cons_append, lineEnds.eq_2 _ split', ih, List.cons_append]
  | case3 d rest _ plain ih => rw [List.cons_append, lineEnds_cons plain, ih, List.cons_append]
  | case4 => rfl

theorem escape_cons (c : Char) (cs : List Char) : escape (c :: cs) = escape [c] ++ escape cs :=
  escape_append [c] cs

theorem escape_cons_of_plain {c : Char} (plain : c ∉ entities.map Prod.fst) (cs : List Char) :
    escape (c :: cs) = c :: escape cs := by
  rcases escape_singleton c with special | ⟨kept, -⟩
  · exact absurd (List.mem_map_of_mem special) plain
  · rw [escape_cons, kept, List.singleton_append]

/-- An entity holds no carriage return. -/
theorem not_mem_escape_singleton {c : Char} (other : c ≠ '\r') : '\r' ∉ escape [c] := by
  rcases escape_singleton c with special | ⟨kept, -⟩
  · simp only [entities, List.mem_cons, Prod.mk.injEq, List.not_mem_nil, or_false] at special
    rcases special with ⟨-, e⟩ | ⟨-, e⟩ | ⟨-, e⟩ | ⟨-, e⟩ | ⟨-, e⟩ <;> rw [e] <;> decide
  · rw [kept, List.mem_singleton]
    exact Ne.symm other

/-- No entity begins with a line feed. -/
theorem begins_of_escape {cs rest : List Char} (h : escape cs = '\n' :: rest) :
    ∃ rest', cs = '\n' :: rest' := by
  cases cs with
  | nil => cases h
  | cons c others =>
    rw [escape_cons] at h
    rcases escape_singleton c with special | ⟨kept, -⟩
    · simp only [entities, List.mem_cons, Prod.mk.injEq, List.not_mem_nil, or_false] at special
      rcases special with ⟨-, e⟩ | ⟨-, e⟩ | ⟨-, e⟩ | ⟨-, e⟩ | ⟨-, e⟩ <;> simp [e] at h
    · rw [kept, List.singleton_append] at h
      exact ⟨others, by rw [(List.cons.inj h).1]⟩

theorem lineEnds_escape (cs : List Char) : lineEnds (escape cs) = escape (lineEnds cs) := by
  have carriage : '\r' ∉ entities.map Prod.fst := by decide
  have feed : '\n' ∉ entities.map Prod.fst := by decide
  fun_induction lineEnds cs with
  | case1 rest ih =>
    rw [escape_cons_of_plain carriage, escape_cons_of_plain feed, escape_cons_of_plain feed,
      lineEnds, ih]
  | case2 rest split ih =>
    have split' : ∀ r, escape rest ≠ '\n' :: r := by
      intro r e
      obtain ⟨r', e'⟩ := begins_of_escape e
      exact split r' e'
    rw [escape_cons_of_plain carriage, escape_cons_of_plain feed, lineEnds.eq_2 _ split', ih]
  | case3 c rest _ other ih =>
    rw [escape_cons, lineEnds_plain (not_mem_escape_singleton other), ih, ← escape_cons]
  | case4 => rfl

theorem append_of_spaced {cs rest : List Char} (word : List Char) (noSpace : ' ' ∉ word)
    (h : spaced cs = word ++ rest) : ∃ rest', cs = word ++ rest' ∧ spaced rest' = rest := by
  obtain ⟨begun, others, rfl, first, second⟩ := List.map_eq_append_iff.mp h
  refine ⟨others, ?_, second⟩
  have kept : ∀ c ∈ begun, (if isBreak c then ' ' else c) = c := by
    intro c listed
    split
    · next breaks =>
      have space : ' ' ∈ word := first ▸ List.mem_map.mpr ⟨c, listed, if_pos breaks⟩
      exact absurd space noSpace
    · rfl
  rw [← first, List.map_congr_left kept, List.map_id']

/-- To space a value and to expand its entities may be done in either order. -/
theorem unescape_spaced (cs : List Char) : unescape (spaced cs) = spaced (unescape cs) := by
  fun_induction unescape cs with
  | case1 rest ih | case2 rest ih | case3 rest ih | case4 rest ih | case5 rest ih =>
    simp [spaced_cons, isBreak, unescape, ih]
  | case6 c rest noAmp noGreater noLess noApostrophe noQuote ih =>
    rw [spaced_cons, spaced_cons, ← ih]
    split
    · exact unescape_cons (by decide) _
    · refine unescape.eq_6 _ _ ?_ ?_ ?_ ?_ ?_ <;> intro r e entity
      · obtain ⟨r', e', -⟩ := append_of_spaced ['a', 'm', 'p', ';'] (by decide) entity
        exact noAmp r' e e'
      · obtain ⟨r', e', -⟩ := append_of_spaced ['g', 't', ';'] (by decide) entity
        exact noGreater r' e e'
      · obtain ⟨r', e', -⟩ := append_of_spaced ['l', 't', ';'] (by decide) entity
        exact noLess r' e e'
      · obtain ⟨r', e', -⟩ :=
          append_of_spaced ['a', 'p', 'o', 's', ';'] (by decide) entity
        exact noApostrophe r' e e'
      · obtain ⟨r', e', -⟩ :=
          append_of_spaced ['q', 'u', 'o', 't', ';'] (by decide) entity
        exact noQuote r' e e'
  | case7 => rfl

/-! ## Strings in nodes -/

mutual

/-- The node with each text, and each value of an attribute, changed. -/
def Node.map (f g : String → String) : Node → Node
  | .comment text => .comment (f text)
  | .bare name attributes => .bare name (attributes.map fun a => (a.1, g a.2))
  | .labelled name attributes text =>
    .labelled name (attributes.map fun a => (a.1, g a.2)) (f text)
  | .parent name attributes children =>
    .parent name (attributes.map fun a => (a.1, g a.2)) (mapAll f g children)

def mapAll (f g : String → String) : List Node → List Node
  | [] => []
  | n :: rest => n.map f g :: mapAll f g rest

end

mutual

/-- Whether each text, and each value of an attribute, in a node has a property. -/
def Node.Every (p q : String → Prop) : Node → Prop
  | .comment text => p text
  | .bare _ attributes => ∀ a ∈ attributes, q a.2
  | .labelled _ attributes text => (∀ a ∈ attributes, q a.2) ∧ p text
  | .parent _ attributes children => (∀ a ∈ attributes, q a.2) ∧ Everywhere p q children

def Everywhere (p q : String → Prop) : List Node → Prop
  | [] => True
  | n :: rest => n.Every p q ∧ Everywhere p q rest

end

mutual

theorem Node.map_map (f g f' g' : String → String) (n : Node) :
    (n.map f g).map f' g' = n.map (f' ∘ f) (g' ∘ g) := by
  match n with
  | .comment _ => rfl
  | .bare _ _ | .labelled _ _ _ =>
    simp only [Node.map, List.map_map]
    rfl
  | .parent _ _ children =>
    simp only [Node.map, List.map_map, mapAll_mapAll f g f' g' children]
    rfl

theorem mapAll_mapAll (f g f' g' : String → String) (nodes : List Node) :
    mapAll f' g' (mapAll f g nodes) = mapAll (f' ∘ f) (g' ∘ g) nodes := by
  match nodes with
  | [] => rfl
  | n :: rest => simp only [mapAll, Node.map_map f g f' g' n, mapAll_mapAll f g f' g' rest]

end

theorem attributes_map_eq_self_iff {g : String → String} {attributes : List (String × String)} :
    attributes.map (fun a => (a.1, g a.2)) = attributes ↔ ∀ a ∈ attributes, g a.2 = a.2 := by
  induction attributes with
  | nil => simp
  | cons a rest ih =>
    simp only [List.map_cons, List.cons.injEq, Prod.ext_iff, true_and, ih, List.forall_mem_cons]

mutual

theorem Node.map_eq_self_iff (f g : String → String) (n : Node) :
    n.map f g = n ↔ n.Every (fun s => f s = s) (fun s => g s = s) := by
  match n with
  | .comment _ => simp [Node.map, Node.Every]
  | .bare _ _ => simp [Node.map, Node.Every, attributes_map_eq_self_iff]
  | .labelled _ _ _ => simp [Node.map, Node.Every, attributes_map_eq_self_iff]
  | .parent _ _ children =>
    simp [Node.map, Node.Every, attributes_map_eq_self_iff, mapAll_eq_self_iff f g children]

theorem mapAll_eq_self_iff (f g : String → String) (nodes : List Node) :
    mapAll f g nodes = nodes ↔ Everywhere (fun s => f s = s) (fun s => g s = s) nodes := by
  match nodes with
  | [] => simp [mapAll, Everywhere]
  | n :: rest =>
    simp [mapAll, Everywhere, Node.map_eq_self_iff f g n, mapAll_eq_self_iff f g rest]

end

/-- Whether every character of a string has a property. -/
def Each (P : Char → Prop) (s : String) : Prop := ∀ c ∈ s.toList, P c

theorem each_and (P Q : Char → Prop) :
    (Each fun c => P c ∧ Q c) = fun s => Each P s ∧ Each Q s := by
  funext s
  simp only [Each, forall_and]

/-! ## Characters of written nodes -/

/-- Whether a character is one of the seven-bit characters that can be seen, or a space. -/
def isGraphic (c : Char) : Bool := ' ' ≤ c && c ≤ '~'

theorem isGraphic_iff {c : Char} : isGraphic c = true ↔ 0x20 ≤ c.toNat ∧ c.toNat ≤ 0x7e := by
  rw [isGraphic, Bool.and_eq_true, decide_eq_true_eq, decide_eq_true_eq]
  rfl

variable {letters : Text.Letters}

theorem isCharacter_of_isGraphic {c : Char} (graphic : isGraphic c = true) :
    isCharacter letters c = true := by
  have bounds := isGraphic_iff.mp graphic
  have itself : letters.code? c = none := Text.Letters.code?_of_lt (by omega)
  simp only [isCharacter, itself, Option.isNone_none, Bool.and_true, Bool.or_eq_true,
    Bool.and_eq_true, decide_eq_true_eq, beq_iff_eq]
  omega

theorem isCharacter_lineFeed : isCharacter letters '\n' = true := by
  rw [isCharacter, Text.Letters.code?_of_lt (by decide)]
  decide

/-- Whether all characters of a text may stand in a document. -/
def Characters (letters : Text.Letters) (cs : List Char) : Prop :=
  ∀ c ∈ cs, isCharacter letters c = true

theorem characters_nil : Characters letters [] := List.forall_mem_nil _

/-- Graphic characters and line feeds may stand in every document. -/
theorem characters_of_all {cs : List Char}
    (all : (cs.all fun c => isGraphic c || c == '\n') = true) : Characters letters cs := by
  intro c listed
  rcases (Bool.or_eq_true _ _).mp (List.all_eq_true.mp all c listed) with graphic | feed
  · exact isCharacter_of_isGraphic graphic
  · rw [beq_iff_eq.mp feed]
    exact isCharacter_lineFeed

theorem characters_cons {c : Char} (allowed : (isGraphic c || c == '\n') = true)
    (cs : List Char) : Characters letters (c :: cs) ↔ Characters letters cs := by
  have alone : Characters letters [c] := characters_of_all (by simpa using allowed)
  have here : isCharacter letters c = true := alone c List.mem_cons_self
  simp only [Characters, List.forall_mem_cons, here, true_and]

theorem characters_append (as bs : List Char) :
    Characters letters (as ++ bs) ↔ Characters letters as ∧ Characters letters bs :=
  List.forall_mem_append

theorem characters_escape (cs : List Char) :
    Characters letters (escape cs) ↔ Characters letters cs := by
  induction cs with
  | nil => rfl
  | cons c rest ih =>
    have one : Characters letters (escape [c]) ↔ isCharacter letters c = true := by
      rcases escape_singleton c with special | ⟨kept, -⟩
      · have graphic : isGraphic c = true ∧ (escape [c]).all isGraphic = true := by
          simp only [entities, List.mem_cons, Prod.mk.injEq, List.not_mem_nil, or_false] at special
          rcases special with ⟨rfl, e⟩ | ⟨rfl, e⟩ | ⟨rfl, e⟩ | ⟨rfl, e⟩ | ⟨rfl, e⟩ <;> rw [e] <;>
            decide
        exact iff_of_true
          (fun d listed => isCharacter_of_isGraphic (List.all_eq_true.mp graphic.2 d listed))
          (isCharacter_of_isGraphic graphic.1)
      · rw [kept, Characters, List.forall_mem_singleton]
    rw [escape_cons, characters_append, one, ih]
    simp only [Characters, List.forall_mem_cons]

theorem isGraphic_of_isNameChar {c : Char} (named : isNameChar c = true) :
    isGraphic c = true := by
  have le : ∀ d e : Char, d ≤ e ↔ d.toNat ≤ e.toNat := fun d e => Iff.rfl
  simp only [isNameChar, isNameStart, isLetter, Bool.or_eq_true, Bool.and_eq_true,
    decide_eq_true_eq, beq_iff_eq, le, Char.reduceToNat] at named
  rw [isGraphic_iff]
  rcases named with ((((lower | upper) | rfl) | digit) | rfl) | rfl
  · omega
  · omega
  · decide
  · omega
  · decide
  · decide

/-- A name holds graphic characters and line feeds only. -/
theorem mem_name {cs : List Char} (proper : isName cs = true) {c : Char} (listed : c ∈ cs) :
    isGraphic c = true ∨ c = '\n' := by
  cases cs with
  | nil => cases listed
  | cons d rest =>
    obtain ⟨start, others⟩ : isNameStart d = true ∧ isNameRest rest = true := by
      simpa [isName] using proper
    rcases List.mem_cons.mp listed with rfl | later
    · exact .inl (isGraphic_of_isNameChar (by simp [isNameChar, start]))
    · exact (isNameChar_of_mem others c later).imp_left isGraphic_of_isNameChar

theorem characters_name {cs : List Char} (proper : isName cs = true) : Characters letters cs := by
  intro c listed
  rcases mem_name proper listed with graphic | rfl
  · exact isCharacter_of_isGraphic graphic
  · exact isCharacter_lineFeed

def Allowed (letters : Text.Letters) (s : String) : Prop := Characters letters s.toList

theorem characters_attributes {attributes : List (String × String)}
    (named : ∀ a ∈ attributes, isName a.1.toList = true) :
    Characters letters (attributes.flatMap attributeText) ↔
      ∀ a ∈ attributes, Allowed letters a.2 := by
  induction attributes with
  | nil => simp [Characters]
  | cons a rest ih =>
    obtain ⟨first, others⟩ := List.forall_mem_cons.mp named
    rw [List.flatMap_cons, characters_append, ih others, List.forall_mem_cons]
    simp (disch := decide) only [attributeText, characters_cons, characters_append,
      characters_escape, characters_name first, characters_nil, true_and, and_true, Allowed]

theorem allowed_margin {indent : String} (blank : Allowed letters indent) (depth : Nat) :
    Characters letters (Node.margin indent depth).toList := by
  induction depth with
  | zero => simp [Node.margin, Characters]
  | succ depth ih =>
    have split : (Node.margin indent (depth + 1)).toList =
        indent.toList ++ (Node.margin indent depth).toList := by
      simp [Node.margin, List.replicate_succ]
    rw [split, characters_append]
    exact ⟨blank, ih⟩

mutual

/-- The characters of a written node may stand in a document if those of its strings may. -/
theorem characters_inner {indent : String} (blank : Allowed letters indent) (n : Node) (depth : Nat)
    (proper : n.isProper = true) :
    Characters letters (n.inner indent depth) ↔ n.Every (Allowed letters) (Allowed letters) := by
  match n with
  | .comment text =>
    simp (disch := decide) only [Node.inner, Node.Every, characters_cons, characters_append,
      characters_nil, and_true, Allowed]
  | .bare name attributes =>
    obtain ⟨named, attributesNamed⟩ : isName name.toList = true ∧
        ∀ a ∈ attributes, isName a.1.toList = true := by
      simpa [Node.isProper] using proper
    simp (disch := decide) only [Node.inner, Node.Every, characters_cons, characters_append,
      characters_name named, characters_attributes attributesNamed, characters_nil, true_and,
      and_true]
  | .labelled name attributes text =>
    obtain ⟨named, attributesNamed⟩ : isName name.toList = true ∧
        ∀ a ∈ attributes, isName a.1.toList = true := by
      simpa [Node.isProper] using proper
    simp (disch := decide) only [Node.inner, Node.Every, characters_cons, characters_append,
      characters_name named, characters_attributes attributesNamed, characters_escape,
      characters_nil, true_and, and_true]
    rfl
  | .parent name attributes children =>
    obtain ⟨⟨named, attributesNamed⟩, -, inner⟩ :
        (isName name.toList = true ∧ ∀ a ∈ attributes, isName a.1.toList = true) ∧
          children ≠ [] ∧ allProper children = true := by
      simpa [Node.isProper] using proper
    simp (disch := decide) only [Node.inner, Node.Every, characters_cons, characters_append,
      characters_name named, characters_attributes attributesNamed, allowed_margin blank,
      characters_renderAll blank children (depth + 1) inner, characters_nil, true_and, and_true]

theorem characters_renderAll {indent : String} (blank : Allowed letters indent) (nodes : List Node)
    (depth : Nat) (proper : allProper nodes = true) :
    Characters letters (Node.renderAll indent depth nodes).toList ↔
      Everywhere (Allowed letters) (Allowed letters) nodes := by
  match nodes with
  | [] => simp [Node.renderAll, Everywhere, Characters]
  | n :: rest =>
    obtain ⟨head, tail⟩ : n.isProper = true ∧ allProper rest = true := by
      simpa [allProper] using proper
    simp (disch := decide) only [Node.renderAll, String.toList_append, render_toList,
      characters_append, characters_cons, allowed_margin blank, true_and, Everywhere,
      characters_inner blank n depth head, characters_renderAll blank rest depth tail]

end

/-! ## Line ends of written nodes -/

def lineFed (s : String) : String := String.ofList (lineEnds s.toList)

theorem lineEnds_name {cs : List Char} (proper : isName cs = true) (rest : List Char) :
    lineEnds (cs ++ rest) = cs ++ lineEnds rest := by
  refine lineEnds_plain (fun listed => ?_) rest
  rcases mem_name proper listed with graphic | e
  · exact absurd graphic (by decide)
  · exact absurd e (by decide)

/-- A string in front of something else than a line feed. -/
theorem lineEnds_string (s : String) {c : Char} (other : c ≠ '\n') (rest : List Char) :
    lineEnds (escape s.toList ++ c :: rest) =
      escape (lineFed s).toList ++ lineEnds (c :: rest) := by
  rw [lineEnds_append_cons _ other, lineEnds_escape, lineFed, String.toList_ofList]

theorem lineEnds_attributes {attributes : List (String × String)}
    (named : ∀ a ∈ attributes, isName a.1.toList = true) (rest : List Char) :
    lineEnds (attributes.flatMap attributeText ++ rest) =
      (attributes.map fun a => (a.1, lineFed a.2)).flatMap attributeText ++ lineEnds rest := by
  induction attributes with
  | nil => rfl
  | cons a others ih =>
    obtain ⟨first, later⟩ := List.forall_mem_cons.mp named
    simp (disch := decide) only [List.flatMap_cons, List.map_cons, attributeText, List.cons_append,
      List.append_assoc, List.nil_append, lineEnds_cons, lineEnds_name first, lineEnds_string,
      ih later]

theorem lineEnds_margin {indent : String} (plain : '\r' ∉ indent.toList) (depth : Nat)
    (rest : List Char) :
    lineEnds ((Node.margin indent depth).toList ++ rest) =
      (Node.margin indent depth).toList ++ lineEnds rest := by
  refine lineEnds_plain ?_ rest
  induction depth with
  | zero => simp [Node.margin]
  | succ depth ih =>
    have split : (Node.margin indent (depth + 1)).toList =
        indent.toList ++ (Node.margin indent depth).toList := by
      simp [Node.margin, List.replicate_succ]
    rw [split, List.mem_append, not_or]
    exact ⟨plain, ih⟩

mutual

/-- Line ends are changed in the strings of a written node and nowhere else. -/
theorem lineEnds_inner {indent : String} (plain : '\r' ∉ indent.toList) (n : Node) (depth : Nat)
    (proper : n.isProper = true) (rest : List Char) :
    lineEnds (n.inner indent depth ++ rest) =
      (n.map lineFed lineFed).inner indent depth ++ lineEnds rest := by
  match n with
  | .comment text =>
    have split := lineEnds_append_cons text.toList (c := '-') (by decide)
    simp (disch := decide) only [Node.inner, Node.map, List.cons_append, List.append_assoc,
      List.nil_append, lineEnds_cons, split, lineFed, String.toList_ofList]
  | .bare name attributes =>
    obtain ⟨named, attributesNamed⟩ : isName name.toList = true ∧
        ∀ a ∈ attributes, isName a.1.toList = true := by
      simpa [Node.isProper] using proper
    simp (disch := decide) only [Node.inner, Node.map, List.cons_append, List.append_assoc,
      List.nil_append, lineEnds_cons, lineEnds_name named, lineEnds_attributes attributesNamed]
  | .labelled name attributes text =>
    obtain ⟨named, attributesNamed⟩ : isName name.toList = true ∧
        ∀ a ∈ attributes, isName a.1.toList = true := by
      simpa [Node.isProper] using proper
    simp (disch := decide) only [Node.inner, Node.map, List.cons_append, List.append_assoc,
      List.nil_append, lineEnds_cons, lineEnds_name named, lineEnds_attributes attributesNamed,
      lineEnds_string]
  | .parent name attributes children =>
    obtain ⟨⟨named, attributesNamed⟩, -, inner⟩ :
        (isName name.toList = true ∧ ∀ a ∈ attributes, isName a.1.toList = true) ∧
          children ≠ [] ∧ allProper children = true := by
      simpa [Node.isProper] using proper
    simp (disch := decide) only [Node.inner, Node.map, List.cons_append, List.append_assoc,
      List.nil_append, lineEnds_cons, lineEnds_name named, lineEnds_attributes attributesNamed,
      lineEnds_renderAll plain children (depth + 1) inner, lineEnds_margin plain]

theorem lineEnds_renderAll {indent : String} (plain : '\r' ∉ indent.toList) (nodes : List Node)
    (depth : Nat) (proper : allProper nodes = true) (rest : List Char) :
    lineEnds ((Node.renderAll indent depth nodes).toList ++ rest) =
      (Node.renderAll indent depth (mapAll lineFed lineFed nodes)).toList ++ lineEnds rest := by
  match nodes with
  | [] => simp [Node.renderAll, mapAll]
  | n :: others =>
    obtain ⟨head, tail⟩ : n.isProper = true ∧ allProper others = true := by
      simpa [allProper] using proper
    simp (disch := decide) only [Node.renderAll, mapAll, String.toList_append, render_toList,
      List.append_assoc, List.cons_append, lineEnds_cons, lineEnds_margin plain,
      lineEnds_inner plain n depth head, lineEnds_renderAll plain others depth tail]

end

/-! ## Processing -/

theorem head?_lineEnds (cs : List Char) :
    ((lineEnds cs).head? == some '-') = (cs.head? == some '-') := by
  fun_cases lineEnds cs <;> simp

theorem hasDoubleHyphen_lineEnds (cs : List Char) :
    hasDoubleHyphen (lineEnds cs) = hasDoubleHyphen cs := by
  fun_induction lineEnds cs with
  | case1 rest ih => simp [hasDoubleHyphen_cons, ih]
  | case2 rest _ ih => simp [hasDoubleHyphen_cons, ih]
  | case3 c rest _ _ ih => rw [hasDoubleHyphen_cons, hasDoubleHyphen_cons, head?_lineEnds, ih]
  | case4 => rfl

theorem getLast?_lineEnds (cs : List Char) :
    (lineEnds cs).getLast? = cs.getLast?.map fun c => if c = '\r' then '\n' else c := by
  fun_induction lineEnds cs with
  | case1 rest ih => cases last : rest.getLast? <;> simp [List.getLast?_cons, ih, last]
  | case2 rest _ ih => cases last : rest.getLast? <;> simp [List.getLast?_cons, ih, last]
  | case3 c rest _ other ih =>
    have same : (if c = '\r' then '\n' else c) = c := if_neg other
    cases last : rest.getLast? <;> simp [List.getLast?_cons, ih, last, same]
  | case4 => rfl

theorem isComment_lineEnds (cs : List Char) : isComment (lineEnds cs) = isComment cs := by
  rw [isComment, isComment, hasDoubleHyphen_lineEnds, getLast?_lineEnds]
  cases cs.getLast? with
  | none => rfl
  | some c =>
    by_cases carriage : c = '\r'
    · subst carriage
      rfl
    · simp [carriage]

/-- A text with a space for every break in it. -/
def spacedOut (s : String) : String := String.ofList (spaced s.toList)

/-- The nodes that a processor takes from the text of a document, where all its characters may stand
in one. Breaks in the values of attributes are seen to last, since they can be seen to before or
after entities are expanded: see `unescape_spaced`. -/
def process (letters : Text.Letters) (s : String) : Option (List Node) :=
  if s.toList.all (isCharacter letters) then (readDocument (lineFed s)).map (mapAll id spacedOut)
  else none

mutual

theorem isProper_map_lineFed (n : Node) (g : String → String) :
    (n.map lineFed g).isProper = n.isProper := by
  match n with
  | .comment text => simp [Node.map, Node.isProper, lineFed, isComment_lineEnds]
  | .bare _ _ | .labelled _ _ _ => simp [Node.map, Node.isProper, List.all_map, Function.comp_def]
  | .parent _ _ children =>
    have none : (mapAll lineFed g children).isEmpty = children.isEmpty := by
      cases children <;> rfl
    simp [Node.map, Node.isProper, List.all_map, Function.comp_def, none,
      allProper_mapAll_lineFed children g]

theorem allProper_mapAll_lineFed (nodes : List Node) (g : String → String) :
    allProper (mapAll lineFed g nodes) = allProper nodes := by
  match nodes with
  | [] => rfl
  | n :: rest =>
    rw [mapAll, allProper, allProper, isProper_map_lineFed n g, allProper_mapAll_lineFed rest g]

end

theorem countP_mapAll (f g : String → String) (nodes : List Node) :
    (mapAll f g nodes).countP Node.isElement = nodes.countP Node.isElement := by
  induction nodes with
  | nil => rfl
  | cons n rest ih =>
    have same : (n.map f g).isElement = n.isElement := by cases n <;> rfl
    rw [mapAll, List.countP_cons, List.countP_cons, ih, same]

section

variable {nodes : List Node}

theorem allowed_document (proper : allProper nodes = true) :
    Allowed letters (declaration ++ Node.renderAll defaultIndent 0 nodes) ↔
      Everywhere (Allowed letters) (Allowed letters) nodes := by
  have first : Characters letters declaration.toList := characters_of_all (by decide)
  have indent : Allowed letters defaultIndent := characters_of_all (by decide)
  rw [Allowed, String.toList_append, characters_append,
    characters_renderAll indent nodes 0 proper, and_iff_right first]

theorem lineFed_document (proper : allProper nodes = true) :
    lineFed (declaration ++ Node.renderAll defaultIndent 0 nodes) =
      declaration ++ Node.renderAll defaultIndent 0 (mapAll lineFed lineFed nodes) := by
  have first : '\r' ∉ declaration.toList := by decide
  have indent : '\r' ∉ defaultIndent.toList := by decide
  have rest := lineEnds_renderAll indent nodes 0 proper []
  rw [List.append_nil, lineEnds, List.append_nil] at rest
  rw [lineFed, String.toList_append, lineEnds_plain first, rest, ← String.toList_append,
    String.ofList_toList]

/-- **What a processor takes from a written document are its nodes with changed strings,** and it
takes nothing if a string has a character that may not stand in a document. -/
theorem process_render (proper : allProper nodes = true)
    (single : nodes.countP Node.isElement ≤ 1) :
    (Everywhere (Allowed letters) (Allowed letters) nodes →
      process letters (declaration ++ Node.renderAll defaultIndent 0 nodes) =
        some (mapAll lineFed (spacedOut ∘ lineFed) nodes)) ∧
    (¬Everywhere (Allowed letters) (Allowed letters) nodes →
      process letters (declaration ++ Node.renderAll defaultIndent 0 nodes) = none) := by
  have allowed : ((declaration ++ Node.renderAll defaultIndent 0 nodes).toList.all
      (isCharacter letters) = true) ↔ Everywhere (Allowed letters) (Allowed letters) nodes := by
    rw [List.all_eq_true]
    exact allowed_document proper
  refine ⟨fun every => ?_, fun some => ?_⟩
  · have blank : (defaultIndent.toList.all fun c => c.isWhitespace) = true := by decide
    have read := readDocument_render (List.all_eq_true.mp blank)
      ((allProper_mapAll_lineFed nodes lineFed).trans proper)
      ((countP_mapAll lineFed lineFed nodes).symm ▸ single)
    rw [process, if_pos (allowed.mpr every), lineFed_document proper, read, Option.map_some,
      mapAll_mapAll]
    rfl
  · rw [process, if_neg (mt allowed.mp some)]

theorem lineFed_eq_self_iff {s : String} : lineFed s = s ↔ Each (· ≠ '\r') s := by
  rw [← String.toList_inj, lineFed, String.toList_ofList, lineEnds_eq_self_iff]
  exact List.forall_mem_ne'.symm

theorem spaced_eq_self_iff {cs : List Char} : spaced cs = cs ↔ ∀ c ∈ cs, isBreak c = false := by
  induction cs with
  | nil => simp [spaced]
  | cons c rest ih =>
    have here : (if isBreak c then ' ' else c) = c ↔ isBreak c = false := by
      cases breaks : isBreak c with
      | false => simp
      | true =>
        have other : ' ' ≠ c := by
          rintro rfl
          cases breaks
        simp [other]
    rw [spaced_cons, List.cons.injEq, here, ih, List.forall_mem_cons]

theorem not_isBreak_of_mem_spaced {cs : List Char} : ∀ c ∈ spaced cs, isBreak c = false := by
  intro c listed
  obtain ⟨d, -, rfl⟩ := List.mem_map.mp listed
  split
  · rfl
  · next plain => exact eq_false_of_ne_true plain

theorem spacedOut_lineFed_eq_self_iff {s : String} :
    spacedOut (lineFed s) = s ↔ Each (isBreak · = false) s := by
  rw [← String.toList_inj, spacedOut, lineFed, String.toList_ofList, String.toList_ofList]
  constructor
  · intro same c listed
    rw [← same] at listed
    exact not_isBreak_of_mem_spaced c listed
  · intro plain
    have noReturn : '\r' ∉ s.toList := fun listed => absurd (plain _ listed) (by decide)
    rw [lineEnds_eq_self_iff.mpr noReturn, spaced_eq_self_iff.mpr plain]

mutual

theorem Node.every_and (p q p' q' : String → Prop) (n : Node) :
    n.Every (fun s => p s ∧ p' s) (fun s => q s ∧ q' s) ↔ n.Every p q ∧ n.Every p' q' := by
  match n with
  | .comment _ => rfl
  | .bare _ _ => simp only [Node.Every, forall_and]
  | .labelled _ _ _ =>
    simp only [Node.Every, forall_and]
    exact and_and_and_comm
  | .parent _ _ children =>
    simp only [Node.Every, forall_and, everywhere_and p q p' q' children]
    exact and_and_and_comm

theorem everywhere_and (p q p' q' : String → Prop) (nodes : List Node) :
    Everywhere (fun s => p s ∧ p' s) (fun s => q s ∧ q' s) nodes ↔
      Everywhere p q nodes ∧ Everywhere p' q' nodes := by
  match nodes with
  | [] => simp [Everywhere]
  | n :: rest =>
    simp only [Everywhere, Node.every_and p q p' q' n, everywhere_and p q p' q' rest]
    exact and_and_and_comm

end

/-- A written document is processed to its very nodes if no string in it has a character that may
not stand in a document, no text a carriage return, and no value of an attribute a break. -/
theorem process_render_eq_iff (proper : allProper nodes = true)
    (single : nodes.countP Node.isElement ≤ 1) :
    process letters (declaration ++ Node.renderAll defaultIndent 0 nodes) = some nodes ↔
      Everywhere (Each fun c => isCharacter letters c = true ∧ c ≠ '\r')
        (Each fun c => isCharacter letters c = true ∧ isBreak c = false) nodes := by
  obtain ⟨taken, refused⟩ := process_render proper single
  have changed := mapAll_eq_self_iff lineFed (spacedOut ∘ lineFed) nodes
  simp only [Function.comp_apply, lineFed_eq_self_iff, spacedOut_lineFed_eq_self_iff] at changed
  have both : Everywhere (Each fun c => isCharacter letters c = true ∧ c ≠ '\r')
      (Each fun c => isCharacter letters c = true ∧ isBreak c = false) nodes ↔
      Everywhere (Allowed letters) (Allowed letters) nodes ∧
        Everywhere (Each (· ≠ '\r')) (Each (isBreak · = false)) nodes := by
    rw [← everywhere_and, each_and, each_and]
    rfl
  rw [both, ← changed]
  constructor
  · intro same
    by_cases allowed : Everywhere (Allowed letters) (Allowed letters) nodes
    · rw [taken allowed] at same
      exact ⟨allowed, Option.some.inj same⟩
    · rw [refused allowed] at same
      cases same
  · rintro ⟨allowed, same⟩
    rw [taken allowed, same]

end

end MachineDescriptor.Xml
