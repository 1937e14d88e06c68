import MachineDescriptor.Proofs.Comments
import MachineDescriptor.Proofs.Scaffold

/-!
Reading a document back. A text is read character by character, and the parts that are met in it are
put together again as those of a writer are. Of white space only that between nodes is passed over.
-/
namespace MachineDescriptor.Xml

/-- What the next character belongs to. Words that are begun have their last character first. -/
inductive Reading where
  | between
  /-- after the bracket of a tag; the text is what stands between it and the start tag before -/
  | opened (begun : Option (List Char))
  | mark (hyphens : Nat)
  | comment (begun : List Char)
  | name (begun : List Char)
  | tag
  | key (begun : List Char)
  | quote (word : List Char)
  | value (word begun : List Char)
  | slash
  | content (begun : List Char)
  | closing

/-- What comes after a name or an attribute in a start tag. -/
def afterTag (c : Char) : Option Reading :=
  if c = ' ' then some (.key [])
  else if c = '/' then some .slash
  else if c = '>' then some (.content [])
  else none

/-- A word whose last character comes first. -/
def spelled (begun : List Char) : String := String.ofList begun.reverse

/-- Reads one character, which may complete a part. -/
def Reading.read (r : Reading) (c : Char) : Option (Reading × List Part) :=
  match r with
  | .between =>
    if c = '<' then some (.opened none, [])
    else if c.isWhitespace then some (.between, []) else none
  | .opened begun =>
    if c = '/' then
      some (.closing, begun.toList.map fun text => .text (String.ofList (unescape text.reverse)))
    else if c = '!' then some (.mark 0, [])
    else some (.name [c], [])
  | .mark hyphens =>
    if c ≠ '-' then none
    else if hyphens = 0 then some (.mark 1, []) else some (.comment [], [])
  | .comment begun =>
    if c = '>' && ['-', '-'].isPrefixOf begun then
      some (.between, [.comment (spelled (begun.drop 2))])
    else some (.comment (c :: begun), [])
  | .name begun =>
    match afterTag c with
    | some r => some (r, [.startElement (spelled begun)])
    | none => some (.name (c :: begun), [])
  | .tag => (afterTag c).map fun r => (r, [])
  | .key begun => if c = '=' then some (.quote begun, []) else some (.key (c :: begun), [])
  | .quote word => if c = '"' then some (.value word [], []) else none
  | .value word begun =>
    if c = '"' then
      some (.tag, [.setAttribute (spelled word) (String.ofList (unescape begun.reverse))])
    else some (.value word (c :: begun), [])
  | .slash => if c = '>' then some (.between, [.endElement]) else none
  | .content begun =>
    if c = '<' then some (.opened (some begun), []) else some (.content (c :: begun), [])
  | .closing => if c = '>' then some (.between, [.endElement]) else some (.closing, [])

/-- Reads characters one after the other. -/
def Reading.readAll (r : Reading) : List Char → Option (Reading × List Part)
  | [] => some (r, [])
  | c :: rest =>
    (r.read c).bind fun first => (first.1.readAll rest).map fun more =>
      (more.1, first.2 ++ more.2)

/-- The nodes of a document that is given by its text. -/
def readDocument (s : String) : Option (List Node) :=
  if declaration.toList.isPrefixOf s.toList then
    match Reading.readAll .between (s.toList.drop declaration.length) with
    | some (.between, parts) => forest (.startDocument :: parts ++ [.endDocument])
    | _ => none
  else none

/-! ## The parts of nodes -/

def attributeParts (attributes : List (String × String)) : List Part :=
  attributes.map fun a => .setAttribute a.1 a.2

mutual

/-- The parts that a node is put together from. -/
def Node.parts : Node → List Part
  | .comment text => [.comment text]
  | .bare name attributes => .startElement name :: (attributeParts attributes ++ [.endElement])
  | .labelled name attributes text =>
    .startElement name :: (attributeParts attributes ++ [.text text, .endElement])
  | .parent name attributes children =>
    .startElement name :: (attributeParts attributes ++ (allParts children ++ [.endElement]))

def allParts : List Node → List Part
  | [] => []
  | n :: rest => n.parts ++ allParts rest

end

namespace Scaffold

theorem takeAll_of_some {s s' : Scaffold} {p : Part} (fits : s.take p = some s')
    (rest : List Part) : s.takeAll (p :: rest) = s'.takeAll rest := by
  rw [takeAll, fits]
  rfl

theorem takeAll_attributes (closed : List Node) (name : String) (as : List (String × String))
    (outer : List Frame) (attributes : List (String × String)) (rest : List Part) :
    (underway closed (.inside ⟨name, as, .nothing⟩ outer)).takeAll
        (attributeParts attributes ++ rest) =
      (underway closed (.inside ⟨name, as ++ attributes, .nothing⟩ outer)).takeAll rest := by
  induction attributes generalizing as with
  | nil => simp [attributeParts]
  | cons a others ih =>
    have h := ih (as ++ [a])
    rw [List.append_assoc] at h
    rw [attributeParts, List.map_cons, List.cons_append, takeAll_of_some (by rfl)]
    exact h

theorem take_start {closed : List Node} {place : Place} {frames : List Frame}
    (room : place.frames? = some frames)
    (first : place.isOutside = true → closed.any Node.isElement = false) (name : String) :
    (underway closed place).take (.startElement name) =
      some (underway closed (.inside (.start name) frames)) := by
  cases outside : place.isOutside with
  | true => simp [take, enter, outside, first outside, room]
  | false => simp [take, enter, outside, room]

mutual

/-- The parts of a node come to the node. -/
theorem takeAll_parts (n : Node) {closed : List Node} {place : Place} {frames : List Frame}
    (room : place.frames? = some frames)
    (first : n.isElement = true → place.isOutside = true → closed.any Node.isElement = false)
    (filled : n.isFilled = true) (rest : List Part) :
    (underway closed place).takeAll (n.parts ++ rest) = (settle closed n frames).takeAll rest := by
  match n with
  | .comment text =>
    have fits : (underway closed place).take (.comment text) =
        some (settle closed (.comment text) frames) := by
      simp [take, add, room]
    exact takeAll_of_some fits rest
  | .bare name attributes =>
    rw [Node.parts, List.cons_append, takeAll_of_some (take_start room (first rfl) name),
      List.append_assoc, Draft.start, takeAll_attributes]
    exact takeAll_of_some rfl rest
  | .labelled name attributes text =>
    rw [Node.parts, List.cons_append, takeAll_of_some (take_start room (first rfl) name),
      List.append_assoc, Draft.start, takeAll_attributes]
    have written : (underway closed (.inside ⟨name, [] ++ attributes, .nothing⟩ frames)).take
        (.text text) = some (underway closed (.inside ⟨name, attributes, .text text⟩ frames)) := by
      simp [take, write, Filling.text?]
    rw [List.cons_append, takeAll_of_some written]
    exact takeAll_of_some rfl rest
  | .parent name attributes children =>
    obtain ⟨nonempty, inner⟩ : children ≠ [] ∧ allFilled children = true := by
      simpa [Node.isFilled] using filled
    rw [Node.parts, List.cons_append, takeAll_of_some (take_start room (first rfl) name),
      List.append_assoc, Draft.start, takeAll_attributes, List.append_assoc,
      takeAll_allParts children (Filling.nodes?_nothing) inner]
    have laid : (⟨name, [] ++ attributes, .nothing⟩ : Draft).laid children =
        ⟨name, attributes, .nodes children⟩ := by
      simp [Draft.laid, nonempty]
    rw [laid]
    exact takeAll_of_some rfl rest

/-- The parts of nodes in an element come to the element with the nodes added. -/
theorem takeAll_allParts (nodes : List Node) {closed : List Node} {d : Draft} {outer : List Frame}
    {ns : List Node} (room : d.filling.nodes? = some ns) (filled : allFilled nodes = true)
    (rest : List Part) :
    (underway closed (.inside d outer)).takeAll (allParts nodes ++ rest) =
      (underway closed (.inside (d.laid nodes) outer)).takeAll rest := by
  match nodes with
  | [] => rfl
  | n :: others =>
    obtain ⟨head, tail⟩ : n.isFilled = true ∧ allFilled others = true := by
      simpa [allFilled] using filled
    have place : (Place.inside d outer).frames? = some (d.frame ns :: outer) := by
      simp [Place.frames?, room]
    rw [allParts, List.append_assoc, takeAll_parts n place (by simp [Place.isOutside]) head, settle,
      takeAll_allParts others (d := (d.frame ns).resume n) rfl tail]
    have laid : ((d.frame ns).resume n).laid others = d.laid (n :: others) := by
      have one : (d.frame ns).resume n = d.laid [n] := by
        simp [Frame.resume, Draft.frame, Draft.laid, room]
      rw [one, Draft.laid_laid room]
      rfl
    rw [laid]

end

/-- The parts of nodes outside of every element come to the nodes. -/
theorem takeAll_outside (nodes : List Node) {closed : List Node} (filled : allFilled nodes = true)
    (single : (closed ++ nodes).countP Node.isElement ≤ 1) (rest : List Part) :
    (underway closed .outside).takeAll (allParts nodes ++ rest) =
      (underway (closed ++ nodes) .outside).takeAll rest := by
  induction nodes generalizing closed with
  | nil => rw [List.append_nil]; rfl
  | cons n others ih =>
    obtain ⟨head, tail⟩ : n.isFilled = true ∧ allFilled others = true := by
      simpa [allFilled] using filled
    have first : n.isElement = true → closed.any Node.isElement = false := by
      intro element
      rw [List.countP_append, List.countP_cons_of_pos element] at single
      have none : closed.countP Node.isElement = 0 := by omega
      simpa [List.countP_eq_zero] using none
    have shifted : closed ++ n :: others = (closed ++ [n]) ++ others := by simp
    rw [shifted] at single ⊢
    rw [allParts, List.append_assoc, takeAll_parts n rfl (fun element _ => first element) head]
    exact ih tail single

end Scaffold

/-- Nodes are the forest of their parts. -/
theorem forest_parts {nodes : List Node} (filled : allFilled nodes = true)
    (single : nodes.countP Node.isElement ≤ 1) :
    forest (.startDocument :: allParts nodes ++ [.endDocument]) = some nodes := by
  have started : Scaffold.blank.take .startDocument = some (.underway [] .outside) := rfl
  rw [forest, List.cons_append, Scaffold.takeAll_of_some started,
    Scaffold.takeAll_outside nodes filled (by simpa using single)]
  rfl

/-! ## Reading words -/

/-- Characters lead from one state to another and complete some parts. -/
def Reads (r : Reading) (cs : List Char) (r' : Reading) (parts : List Part) : Prop :=
  r.readAll cs = some (r', parts)

variable {r r₁ r₂ : Reading} {cs : List Char} {parts more : List Part}

theorem Reads.cons {c : Char} (first : r.read c = some (r₁, parts)) (rest : Reads r₁ cs r₂ more) :
    Reads r (c :: cs) r₂ (parts ++ more) := by
  unfold Reads at rest ⊢
  rw [Reading.readAll, first, Option.bind_some, rest]
  rfl

theorem Reads.append {ds : List Char} (first : Reads r cs r₁ parts) (rest : Reads r₁ ds r₂ more) :
    Reads r (cs ++ ds) r₂ (parts ++ more) := by
  induction cs generalizing r parts with
  | nil =>
    obtain ⟨rfl, rfl⟩ := Prod.mk.inj (Option.some.inj first)
    exact rest
  | cons c cs ih =>
    unfold Reads at first
    rw [Reading.readAll, Option.bind_eq_some_iff] at first
    obtain ⟨⟨s, ps⟩, step, others⟩ := first
    obtain ⟨⟨s', qs⟩, later, e⟩ := Option.map_eq_some_iff.mp others
    obtain ⟨rfl, rfl⟩ := Prod.mk.inj e
    rw [List.cons_append, List.append_assoc]
    exact Reads.cons step (ih later)

/-- A word is kept with its last character first as long as every character goes on with it. -/
theorem reads_word (f : List Char → Reading)
    (goes : ∀ begun, ∀ c ∈ cs, (f begun).read c = some (f (c :: begun), [])) (begun : List Char) :
    Reads (f begun) cs (f (cs.reverse ++ begun)) [] := by
  induction cs generalizing begun with
  | nil => rfl
  | cons c rest ih =>
    have first := goes begun c List.mem_cons_self
    have others :=
      ih (fun begun d later => goes begun d (List.mem_cons_of_mem c later)) (c :: begun)
    rw [List.reverse_cons, List.append_assoc]
    exact Reads.cons first others

theorem reads_blank (blank : ∀ c ∈ cs, c.isWhitespace = true) : Reads .between cs .between [] := by
  refine reads_word (fun _ => Reading.between) ?_ []
  intro _ c listed
  have other : c ≠ '<' := by
    rintro rfl
    simpa using blank '<' listed
  simp [Reading.read, other, blank c listed]

theorem reads_content (plain : '<' ∉ cs) (begun : List Char) :
    Reads (.content begun) cs (.content (cs.reverse ++ begun)) [] := by
  apply reads_word
  intro begun c listed
  have other : c ≠ '<' := by
    rintro rfl
    exact plain listed
  simp [Reading.read, other]

theorem reads_value (word : List Char) (plain : '"' ∉ cs) (begun : List Char) :
    Reads (.value word begun) cs (.value word (cs.reverse ++ begun)) [] := by
  apply reads_word
  intro begun c listed
  have other : c ≠ '"' := by
    rintro rfl
    exact plain listed
  simp [Reading.read, other]

theorem isNameChar_of_mem (rest : isNameRest cs = true) :
    ∀ c ∈ cs, isNameChar c = true ∨ c = '\n' := by
  fun_induction isNameRest cs with
  | case1 => simp
  | case2 c => simpa using rest
  | case3 c others _ ih =>
    obtain ⟨here, later⟩ : isNameChar c = true ∧ isNameRest others = true := by simpa using rest
    exact List.forall_mem_cons.mpr ⟨.inl here, ih later⟩

/-- A name holds none of the characters that end it in a tag. -/
theorem not_mem_of_isName {c : Char} (ending : c ∈ [' ', '/', '>', '=', '!'])
    (proper : isName cs = true) : c ∉ cs := by
  intro listed
  have named : isNameChar c = true ∨ c = '\n' := by
    cases cs with
    | nil => cases listed
    | cons d rest =>
      obtain ⟨start, others⟩ : isNameStart d = true ∧ isNameRest rest = true := by
        simpa [isName] using proper
      rcases List.mem_cons.mp listed with rfl | later
      · exact .inl (by simp [isNameChar, start])
      · exact isNameChar_of_mem others c later
  simp only [List.mem_cons, List.not_mem_nil, or_false] at ending
  rcases ending with rfl | rfl | rfl | rfl | rfl <;> revert named <;> decide

theorem reads_name (proper : isName cs = true) (begun : Option (List Char)) :
    Reads (.opened begun) cs (.name cs.reverse) [] := by
  cases cs with
  | nil => simp [isName] at proper
  | cons c rest =>
    have noSlash := not_mem_of_isName (c := '/') (by simp) proper
    have noMark := not_mem_of_isName (c := '!') (by simp) proper
    have noBlank := not_mem_of_isName (c := ' ') (by simp) proper
    have noEnd := not_mem_of_isName (c := '>') (by simp) proper
    simp only [List.mem_cons, not_or] at noSlash noMark noBlank noEnd
    have first : (Reading.opened begun).read c = some (.name [c], []) := by
      simp [Reading.read, Ne.symm noSlash.1, Ne.symm noMark.1]
    rw [List.reverse_cons]
    refine Reads.cons first (reads_word Reading.name (fun begun d later => ?_) [c])
    have goesOn : afterTag d = none := by
      have blank : d ≠ ' ' := by rintro rfl; exact noBlank.2 later
      have slash : d ≠ '/' := by rintro rfl; exact noSlash.2 later
      have bracket : d ≠ '>' := by rintro rfl; exact noEnd.2 later
      simp [afterTag, blank, slash, bracket]
    simp [Reading.read, goesOn]

theorem reads_key (proper : isName cs = true) :
    Reads (.key []) cs (.key cs.reverse) [] := by
  rw [← List.append_nil cs.reverse]
  refine reads_word Reading.key ?_ []
  intro begun c listed
  have other : c ≠ '=' := by
    rintro rfl
    exact not_mem_of_isName (by simp) proper listed
  simp [Reading.read, other]

theorem reads_closing (proper : isName cs = true) : Reads .closing cs .closing [] := by
  refine reads_word (fun _ => Reading.closing) ?_ []
  intro _ c listed
  have other : c ≠ '>' := by
    rintro rfl
    exact not_mem_of_isName (by simp) proper listed
  simp [Reading.read, other]

/-- A comment goes on through every text without two hyphens. -/
theorem reads_comment (begun : List Char)
    (plain : hasDoubleHyphen (begun.reverse ++ cs) = false) :
    Reads (.comment begun) cs (.comment (cs.reverse ++ begun)) [] := by
  induction cs generalizing begun with
  | nil => rfl
  | cons c rest ih =>
    have shifted : begun.reverse ++ c :: rest = (c :: begun).reverse ++ rest := by simp
    rw [shifted] at plain
    have first : (Reading.comment begun).read c = some (.comment (c :: begun), []) := by
      by_cases ended : ['-', '-'] <+: begun
      · obtain ⟨earlier, rfl⟩ := ended
        have hyphens : ['-', '-'] <:+: (c :: (['-', '-'] ++ earlier)).reverse ++ rest :=
          ⟨earlier.reverse, c :: rest, by simp⟩
        rw [(hasDoubleHyphen_iff _).mpr hyphens] at plain
        cases plain
      · simp [Reading.read, ended]
    rw [List.reverse_cons, List.append_assoc]
    exact Reads.cons first (ih (c :: begun) plain)

/-! ## Reading tags -/

@[simp] theorem spelled_reverse (s : String) : spelled s.toList.reverse = s := by
  simp [spelled]

/-- The text of an attribute in a start tag. -/
def attributeText (a : String × String) : List Char :=
  ' ' :: (a.1.toList ++ '=' :: '"' :: (escape a.2.toList ++ ['"']))

theorem startTag_toList (name : String) (attributes : List (String × String)) :
    (Node.startTag name attributes).toList =
      '<' :: (name.toList ++ attributes.flatMap attributeText) := by
  have joined : (String.join (attributes.map fun a =>
      " " ++ a.1 ++ "=\"" ++ Node.escaped a.2 ++ "\"")).toList =
      attributes.flatMap attributeText := by
    induction attributes with
    | nil => rfl
    | cons a rest ih =>
      rw [List.map_cons, String.join_cons, String.toList_append, ih]
      simp [attributeText, Node.escaped_eq]
  simp [Node.startTag, joined]

theorem reads_attribute {a : String × String} (named : isName a.1.toList = true) :
    Reads .tag (attributeText a) .tag [.setAttribute a.1 a.2] := by
  have blank : Reading.tag.read ' ' = some (.key [], []) := rfl
  have equals : (Reading.key a.1.toList.reverse).read '=' = some (.quote a.1.toList.reverse, []) :=
    rfl
  have quote : (Reading.quote a.1.toList.reverse).read '"' =
      some (.value a.1.toList.reverse [], []) := rfl
  have value := reads_value a.1.toList.reverse (not_mem_escape (c := '"') (by simp) a.2.toList) []
  rw [List.append_nil] at value
  have last : (Reading.value a.1.toList.reverse (escape a.2.toList).reverse).read '"' =
      some (.tag, [.setAttribute a.1 a.2]) := by
    simp [Reading.read, unescape_escape]
  exact Reads.cons blank ((reads_key named).append
    (Reads.cons equals (Reads.cons quote (value.append (Reads.cons last rfl)))))

theorem reads_attributes {attributes : List (String × String)}
    (named : ∀ a ∈ attributes, isName a.1.toList = true) :
    Reads .tag (attributes.flatMap attributeText) .tag (attributeParts attributes) := by
  induction attributes with
  | nil => rfl
  | cons a rest ih =>
    obtain ⟨first, others⟩ := List.forall_mem_cons.mp named
    exact (reads_attribute first).append (ih others)

/-- What ends a name ends it like an attribute. -/
theorem Reads.of_tag {c : Char} (begun : List Char) (h : Reads .tag (c :: cs) r parts) :
    Reads (.name begun) (c :: cs) r (.startElement (spelled begun) :: parts) := by
  unfold Reads at h
  rw [Reading.readAll, Option.bind_eq_some_iff] at h
  obtain ⟨⟨s, ps⟩, step, others⟩ := h
  obtain ⟨⟨s', qs⟩, later, e⟩ := Option.map_eq_some_iff.mp others
  obtain ⟨rfl, rfl⟩ := Prod.mk.inj e
  obtain ⟨after, ends, e'⟩ := Option.map_eq_some_iff.mp step
  obtain ⟨rfl, rfl⟩ := Prod.mk.inj e'
  have first : (Reading.name begun).read c = some (after, [.startElement (spelled begun)]) := by
    simp only [Reading.read, ends]
  exact Reads.cons first later

/-- A start tag up to its end, and what comes after it. -/
theorem reads_start {name : String} {attributes : List (String × String)} {ending : List Char}
    (begun : Option (List Char)) (proper : isName name.toList = true)
    (named : ∀ a ∈ attributes, isName a.1.toList = true) (ends : ending ≠ [])
    (h : Reads .tag ending r more) :
    Reads (.opened begun) (name.toList ++ (attributes.flatMap attributeText ++ ending)) r
      (.startElement name :: (attributeParts attributes ++ more)) := by
  have tag := (reads_attributes named).append h
  obtain ⟨c, rest, split⟩ := List.exists_cons_of_ne_nil
    (show attributes.flatMap attributeText ++ ending ≠ [] by simp [ends])
  rw [split] at tag ⊢
  have start := Reads.of_tag name.toList.reverse tag
  rw [spelled_reverse] at start
  exact (reads_name proper begun).append start

/-! ## Reading nodes -/

mutual

/-- Whether a node has names, and comments, that can be read back, and no empty list of nodes. -/
def Node.isProper : Node → Bool
  | .comment text => isComment text.toList
  | .bare name attributes => isName name.toList && attributes.all fun a => isName a.1.toList
  | .labelled name attributes _ =>
    isName name.toList && attributes.all fun a => isName a.1.toList
  | .parent name attributes children =>
    isName name.toList && attributes.all (fun a => isName a.1.toList) &&
      (!children.isEmpty && allProper children)

def allProper : List Node → Bool
  | [] => true
  | n :: rest => n.isProper && allProper rest

end

theorem allProper_append (as bs : List Node) :
    allProper (as ++ bs) = (allProper as && allProper bs) := by
  induction as with
  | nil => simp [allProper]
  | cons a rest ih => simp [allProper, ih, Bool.and_assoc]

/-- The written form of a node after the white space and the bracket in front of it. -/
def Node.inner (indent : String) (depth : Nat) : Node → List Char
  | .comment text => '!' :: '-' :: '-' :: (text.toList ++ ['-', '-', '>', '\n'])
  | .bare name attributes =>
    name.toList ++ (attributes.flatMap attributeText ++ ['/', '>', '\n'])
  | .labelled name attributes text =>
    name.toList ++ (attributes.flatMap attributeText ++
      '>' :: (escape text.toList ++ '<' :: '/' :: (name.toList ++ ['>', '\n'])))
  | .parent name attributes children =>
    name.toList ++ (attributes.flatMap attributeText ++
      '>' :: '\n' :: ((Node.renderAll indent (depth + 1) children).toList ++
        ((Node.margin indent depth).toList ++ '<' :: '/' :: (name.toList ++ ['>', '\n']))))

theorem render_toList (indent : String) (depth : Nat) (n : Node) :
    (Node.render indent depth n).toList =
      (Node.margin indent depth).toList ++ '<' :: n.inner indent depth := by
  cases n <;> simp [Node.render, Node.inner, startTag_toList, Node.escaped_eq]

theorem margin_blank {indent : String} (blank : ∀ c ∈ indent.toList, c.isWhitespace = true)
    (depth : Nat) : ∀ c ∈ (Node.margin indent depth).toList, c.isWhitespace = true := by
  induction depth with
  | zero => simp [Node.margin]
  | succ depth ih =>
    have split : (Node.margin indent (depth + 1)).toList =
        indent.toList ++ (Node.margin indent depth).toList := by
      simp [Node.margin, List.replicate_succ]
    rw [split]
    intro c listed
    rcases List.mem_append.mp listed with here | later
    · exact blank c here
    · exact ih c later

/-- The end tag of an element. -/
theorem reads_end {name : String} (proper : isName name.toList = true) :
    Reads .closing (name.toList ++ ['>', '\n']) .between [.endElement] := by
  have ending : Reads .closing ['>', '\n'] .between [.endElement] := rfl
  exact (reads_closing proper).append ending

/-- White space and a bracket before a node that comes first in its element. -/
theorem reads_margin {indent : String} (blank : ∀ c ∈ indent.toList, c.isWhitespace = true)
    (depth : Nat) (begun : List Char) : ∃ text,
    Reads (.content begun) ((Node.margin indent depth).toList ++ ['<']) (.opened (some text))
      [] := by
  have plain : '<' ∉ (Node.margin indent depth).toList := by
    intro listed
    simpa using margin_blank blank depth '<' listed
  refine ⟨(Node.margin indent depth).toList.reverse ++ begun, ?_⟩
  exact (reads_content plain begun).append rfl

theorem reads_between {indent : String} (blank : ∀ c ∈ indent.toList, c.isWhitespace = true)
    (depth : Nat) :
    Reads .between ((Node.margin indent depth).toList ++ ['<']) (.opened none) [] :=
  (reads_blank (margin_blank blank depth)).append rfl

mutual

/-- **A node is read as its parts.** -/
theorem reads_inner {indent : String} (blank : ∀ c ∈ indent.toList, c.isWhitespace = true)
    (n : Node) (depth : Nat) (proper : n.isProper = true) (begun : Option (List Char)) :
    Reads (.opened begun) (n.inner indent depth) .between n.parts := by
  match n with
  | .comment text =>
    obtain ⟨plain, -⟩ : hasDoubleHyphen text.toList = false ∧ ¬text.toList.getLast? = some '-' := by
      simpa [Node.isProper, isComment] using proper
    have start : Reads (.opened begun) ['!', '-', '-'] (.comment []) [] := rfl
    have body : Reads (.comment []) text.toList (.comment text.toList.reverse) [] := by
      rw [← List.append_nil text.toList.reverse]
      exact reads_comment [] (by simpa using plain)
    have ending : Reads (.comment text.toList.reverse) ['-', '-', '>', '\n'] .between
        [.comment text] := by
      simp [Reads, Reading.readAll, Reading.read]
    exact start.append (body.append ending)
  | .bare name attributes =>
    obtain ⟨named, attributesNamed⟩ : isName name.toList = true ∧
        ∀ a ∈ attributes, isName a.1.toList = true := by
      simpa [Node.isProper] using proper
    have ending : Reads .tag ['/', '>', '\n'] .between [.endElement] := rfl
    exact reads_start begun named attributesNamed (by simp) ending
  | .labelled name attributes text =>
    obtain ⟨named, attributesNamed⟩ : isName name.toList = true ∧
        ∀ a ∈ attributes, isName a.1.toList = true := by
      simpa [Node.isProper] using proper
    have content := reads_content (not_mem_escape (c := '<') (by simp) text.toList) []
    rw [List.append_nil] at content
    have closes : Reads (.content (escape text.toList).reverse) ['<', '/'] .closing
        [.text text] := by
      simp [Reads, Reading.readAll, Reading.read, unescape_escape]
    have ending := Reads.cons (r := .tag) (c := '>') rfl
      (content.append (closes.append (reads_end named)))
    exact reads_start begun named attributesNamed (by simp) ending
  | .parent name attributes (first :: rest) =>
    obtain ⟨⟨named, attributesNamed⟩, head, tail⟩ :
        (isName name.toList = true ∧ ∀ a ∈ attributes, isName a.1.toList = true) ∧
          first.isProper = true ∧ allProper rest = true := by
      simpa [Node.isProper, allProper] using proper
    obtain ⟨text, margin⟩ := reads_margin blank (depth + 1) ['\n']
    have opens : Reads .tag ['>', '\n'] (.content ['\n']) [] := rfl
    have closes : Reads (.opened none) ['/'] .closing [] := rfl
    have child := margin.append (reads_inner blank first (depth + 1) head (some text))
    have children := child.append (reads_renderAll blank rest (depth + 1) tail)
    have ending := (reads_between blank depth).append (closes.append (reads_end named))
    have body := opens.append (children.append ending)
    have h := reads_start begun named attributesNamed (by simp) body
    simpa [Node.inner, Node.parts, allParts, Node.renderAll, render_toList] using h
  | .parent name attributes [] =>
    simp [Node.isProper] at proper

theorem reads_renderAll {indent : String} (blank : ∀ c ∈ indent.toList, c.isWhitespace = true)
    (nodes : List Node) (depth : Nat) (proper : allProper nodes = true) :
    Reads .between (Node.renderAll indent depth nodes).toList .between (allParts nodes) := by
  match nodes with
  | [] =>
    rw [Node.renderAll, allParts]
    rfl
  | n :: rest =>
    obtain ⟨head, tail⟩ : n.isProper = true ∧ allProper rest = true := by
      simpa [allProper] using proper
    have first := (reads_between blank depth).append (reads_inner blank n depth head none)
    have h := first.append (reads_renderAll blank rest depth tail)
    simpa [allParts, Node.renderAll, render_toList] using h

end

mutual

theorem isFilled_of_isProper (n : Node) (proper : n.isProper = true) : n.isFilled = true := by
  match n with
  | .comment _ | .bare _ _ | .labelled _ _ _ => rfl
  | .parent name attributes children =>
    obtain ⟨-, nonempty, inner⟩ : (isName name.toList && attributes.all fun a =>
        isName a.1.toList) = true ∧ (!children.isEmpty) = true ∧ allProper children = true := by
      simpa only [Node.isProper, Bool.and_eq_true] using proper
    rw [Node.isFilled, nonempty, allFilled_of_allProper children inner]
    rfl

theorem allFilled_of_allProper (nodes : List Node) (proper : allProper nodes = true) :
    allFilled nodes = true := by
  match nodes with
  | [] => rfl
  | n :: rest =>
    obtain ⟨head, tail⟩ : n.isProper = true ∧ allProper rest = true := by
      simpa only [allProper, Bool.and_eq_true] using proper
    rw [allFilled, isFilled_of_isProper n head, allFilled_of_allProper rest tail]
    rfl

end

/-- **The text of a document is read back as its nodes.** -/
theorem readDocument_render {indent : String} (blank : ∀ c ∈ indent.toList, c.isWhitespace = true)
    {nodes : List Node} (proper : allProper nodes = true)
    (single : nodes.countP Node.isElement ≤ 1) :
    readDocument (declaration ++ Node.renderAll indent 0 nodes) = some nodes := by
  have begins : declaration.toList.isPrefixOf
      (declaration ++ Node.renderAll indent 0 nodes).toList = true := by
    simp
  have rest : (declaration ++ Node.renderAll indent 0 nodes).toList.drop declaration.length =
      (Node.renderAll indent 0 nodes).toList := by
    rw [String.toList_append, ← String.length_toList, List.drop_left]
  have reads : Reading.readAll .between (Node.renderAll indent 0 nodes).toList =
      some (.between, allParts nodes) := reads_renderAll blank nodes 0 proper
  rw [readDocument, if_pos begins, rest, reads]
  exact forest_parts (allFilled_of_allProper nodes proper) single

end MachineDescriptor.Xml
