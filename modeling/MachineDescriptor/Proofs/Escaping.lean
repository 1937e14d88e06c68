import MachineDescriptor.Xml.Escape
import MachineDescriptor.Xml.Node

/-!
Escaping goes through a text character by character: what becomes of a text is what becomes of its
parts, one after the other. It can be undone, and it leaves no bracket and no quote in a text.

Texts are escaped by replacing one character after the other in the whole text, so that each
replacement meets what the earlier ones have put in. Where no character is replaced that an earlier
entity has, the order of the table makes no difference to a character: `foldl_substitute` says that
the replacements then come to one pass which looks every character up on its own, and so an escaped
text is what nodes write for it.
-/
namespace MachineDescriptor.Xml

theorem substitute_append (c : Char) (entity as bs : List Char) :
    substitute c entity (as ++ bs) = substitute c entity as ++ substitute c entity bs := by
  simp [substitute]

theorem escape_append (as bs : List Char) : escape (as ++ bs) = escape as ++ escape bs := by
  simp only [escape, entities, List.foldl_cons, List.foldl_nil, substitute_append]

/-! ## Replacing one after the other -/

/-- What a table has for a character that is looked up on its own. -/
def replacement (table : List (Char × List Char)) (c : Char) : List Char :=
  (table.lookup c).getD [c]

theorem replacement_cons (e : Char × List Char) (table : List (Char × List Char)) (c : Char) :
    replacement (e :: table) c = if c = e.1 then e.2 else replacement table c := by
  unfold replacement
  rw [List.lookup_cons]
  by_cases same : c = e.1
  · simp [same]
  · rw [if_neg same, beq_eq_false_iff_ne.mpr same]

theorem replacement_of_absent {table : List (Char × List Char)} {c : Char}
    (absent : ∀ e ∈ table, e.1 ≠ c) : replacement table c = [c] := by
  have none : table.lookup c = none := by
    rw [List.lookup_eq_none_iff]
    intro e listed
    rw [bne_iff_ne]
    exact (absent e listed).symm
  rw [replacement, none]
  rfl

theorem flatMap_of_absent {table : List (Char × List Char)} {cs : List Char}
    (absent : ∀ e ∈ table, e.1 ∉ cs) : cs.flatMap (replacement table) = cs := by
  induction cs with
  | nil => rfl
  | cons c rest ih =>
    have here : replacement table c = [c] := by
      apply replacement_of_absent
      intro e listed same
      apply absent e listed
      rw [same]
      exact List.mem_cons_self
    have later : rest.flatMap (replacement table) = rest := by
      apply ih
      intro e listed found
      exact absent e listed (List.mem_cons_of_mem c found)
    rw [List.flatMap_cons, here, later, List.singleton_append]

/-- **Replacements one after the other are one pass** if none of them meets what an earlier one has
put in. -/
theorem foldl_substitute {table : List (Char × List Char)}
    (apart : table.Pairwise fun e later => later.1 ∉ e.2) (cs : List Char) :
    table.foldl (fun text e => substitute e.1 e.2 text) cs = cs.flatMap (replacement table) := by
  induction table generalizing cs with
  | nil => exact (flatMap_of_absent (List.forall_mem_nil _)).symm
  | cons e rest ih =>
    obtain ⟨first, others⟩ := List.pairwise_cons.mp apart
    rw [List.foldl_cons, ih others, substitute, List.flatMap_assoc]
    congr 1
    funext c
    rw [replacement_cons]
    by_cases same : c = e.1
    · rw [if_pos same, if_pos same]
      exact flatMap_of_absent first
    · rw [if_neg same, if_neg same, List.flatMap_singleton]

/-- With the ampersand last, its replacement would meet those of the other entities. -/
example : entities.reverse.foldl (fun text e => substitute e.1 e.2 text) ['<'] =
    ['&', 'a', 'm', 'p', ';', 'l', 't', ';'] := by decide

theorem replacement_entities (c : Char) : replacement entities c = entityOf c := by
  have end' : replacement [] c = [c] := rfl
  simp only [entities, replacement_cons, end', entityOf]
  grind

theorem escape_eq_flatMap (cs : List Char) : escape cs = cs.flatMap entityOf := by
  have apart : entities.Pairwise fun e later => later.1 ∉ e.2 := by decide
  rw [escape, foldl_substitute apart]
  congr 1
  funext c
  exact replacement_entities c

/-- What nodes write for a text is the escaped text. -/
theorem Node.escaped_eq (s : String) : escaped s = String.ofList (escape s.toList) := by
  rw [escaped, escape_eq_flatMap]

theorem Node.escaped_append (s t : String) : escaped (s ++ t) = escaped s ++ escaped t := by
  rw [escaped, String.toList_append, List.flatMap_append, String.ofList_append]
  rfl

theorem Node.escaped_empty : escaped "" = "" := rfl

theorem Node.startTag_append (name : String) (as bs : List (String × String)) :
    startTag name (as ++ bs) = startTag name as ++
      String.join (bs.map fun a => " " ++ a.1 ++ "=\"" ++ escaped a.2 ++ "\"") := by
  simp only [startTag, List.map_append, String.join_append, String.append_assoc]

/-! ## Undoing -/

/-- The text in which the entities stand for their characters again. -/
def unescape : List Char → List Char
  | '&' :: 'a' :: 'm' :: 'p' :: ';' :: rest => '&' :: unescape rest
  | '&' :: 'g' :: 't' :: ';' :: rest => '>' :: unescape rest
  | '&' :: 'l' :: 't' :: ';' :: rest => '<' :: unescape rest
  | '&' :: 'a' :: 'p' :: 'o' :: 's' :: ';' :: rest => '\'' :: unescape rest
  | '&' :: 'q' :: 'u' :: 'o' :: 't' :: ';' :: rest => '"' :: unescape rest
  | c :: rest => c :: unescape rest
  | [] => []

/-- A single character is escaped by its entity, if it has one. -/
theorem escape_singleton (c : Char) : (c, escape [c]) ∈ entities ∨
    escape [c] = [c] ∧ c ∉ entities.map Prod.fst := by
  by_cases special : c ∈ entities.map Prod.fst
  · left
    simp only [entities, List.map_cons, List.map_nil, List.mem_cons, List.not_mem_nil, or_false]
      at special
    rcases special with rfl | rfl | rfl | rfl | rfl <;> decide
  · right
    refine ⟨?_, special⟩
    simp only [entities, List.map_cons, List.map_nil, List.mem_cons, List.not_mem_nil, or_false,
      not_or] at special
    obtain ⟨ampersand, greater, less, apostrophe, quote⟩ := special
    simp [escape, entities, substitute, ampersand, greater, less, apostrophe, quote]

theorem unescape_cons {c : Char} (other : c ≠ '&') (cs : List Char) :
    unescape (c :: cs) = c :: unescape cs := by
  rw [unescape.eq_6] <;> simp [other]

theorem unescape_escape (cs : List Char) : unescape (escape cs) = cs := by
  induction cs with
  | nil => rfl
  | cons c rest ih =>
    have split : escape (c :: rest) = escape [c] ++ escape rest := escape_append [c] rest
    rw [split]
    rcases escape_singleton c with special | ⟨kept, plain⟩
    · simp only [entities, List.mem_cons, Prod.mk.injEq, List.not_mem_nil, or_false] at special
      rcases special with ⟨rfl, e⟩ | ⟨rfl, e⟩ | ⟨rfl, e⟩ | ⟨rfl, e⟩ | ⟨rfl, e⟩ <;>
        simp [e, unescape, ih]
    · have other : c ≠ '&' := by
        rintro rfl
        exact plain (by decide)
      rw [kept, List.singleton_append, unescape_cons other, ih]

/-- No bracket and no quote is left in an escaped text. -/
theorem not_mem_escape {c : Char} (bracket : c ∈ ['<', '>', '"', '\'']) (cs : List Char) :
    c ∉ escape cs := by
  induction cs with
  | nil => exact List.not_mem_nil
  | cons d rest ih =>
    have split : escape (d :: rest) = escape [d] ++ escape rest := escape_append [d] rest
    rw [split, List.mem_append, not_or]
    refine ⟨?_, ih⟩
    simp only [List.mem_cons, List.not_mem_nil, or_false] at bracket
    rcases escape_singleton d with special | ⟨kept, plain⟩
    · simp only [entities, List.mem_cons, Prod.mk.injEq, List.not_mem_nil, or_false] at special
      rcases special with ⟨-, e⟩ | ⟨-, e⟩ | ⟨-, e⟩ | ⟨-, e⟩ | ⟨-, e⟩ <;>
        rcases bracket with rfl | rfl | rfl | rfl <;> simp [e]
    · rw [kept, List.mem_singleton]
      rintro rfl
      apply plain
      rcases bracket with rfl | rfl | rfl | rfl <;> decide
end MachineDescriptor.Xml
