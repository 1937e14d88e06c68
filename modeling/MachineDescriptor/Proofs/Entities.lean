import MachineDescriptor.Proofs.WholeElements

/-!
Entities in one pass. The replacements of the characters one after the other come to one pass over a
text (`escape_eq_flatMap`). `ampersand_begins` says where the ampersands of an escaped text are, and
`text_text` that a text may be put into an element in parts.
-/
namespace MachineDescriptor.Xml

/-! ## Ampersands -/

/-- The characters that have an entity. -/
def specials : List Char := ['&', '<', '>', '"', '\'']

/-- An entity has one ampersand, with which it begins. -/
theorem entityOf_cases (c : Char) :
    (c ∈ specials ∧ ∃ tail, entityOf c = '&' :: tail ∧ '&' ∉ tail) ∨
      c ≠ '&' ∧ entityOf c = [c] := by
  by_cases special : c ∈ specials
  · left
    refine ⟨special, ?_⟩
    simp only [specials, List.mem_cons, List.not_mem_nil, or_false] at special
    rcases special with rfl | rfl | rfl | rfl | rfl <;> exact ⟨_, rfl, by decide⟩
  · right
    simp only [specials, List.mem_cons, List.not_mem_nil, or_false, not_or] at special
    obtain ⟨ampersand, less, greater, quote, apostrophe⟩ := special
    refine ⟨ampersand, ?_⟩
    simp [entityOf, ampersand, less, greater, quote, apostrophe]

theorem suffix_of_not_mem {c : Char} {after tail rest : List Char} (absent : c ∉ tail)
    (found : c :: after <:+ tail ++ rest) : c :: after <:+ rest := by
  induction tail with
  | nil => exact found
  | cons d tail ih =>
    have other : c ≠ d := List.ne_of_not_mem_cons absent
    have elsewhere : c ∉ tail := List.not_mem_of_not_mem_cons absent
    rcases List.suffix_cons_iff.mp found with whole | within
    · exact absurd (List.cons.inj whole).1 other
    · exact ih elsewhere within

/-- Wherever an ampersand stands in an escaped text, an entity begins. -/
theorem ampersand_begins {cs after : List Char} (found : '&' :: after <:+ cs.flatMap entityOf) :
    ∃ c ∈ specials, entityOf c <+: '&' :: after := by
  induction cs with
  | nil => cases List.eq_nil_of_suffix_nil found
  | cons c rest ih =>
    rw [List.flatMap_cons] at found
    rcases entityOf_cases c with ⟨special, tail, entity, others⟩ | ⟨other, kept⟩
    · rw [entity, List.cons_append] at found
      rcases List.suffix_cons_iff.mp found with whole | within
      · refine ⟨c, special, rest.flatMap entityOf, ?_⟩
        rw [whole, entity, List.cons_append]
      · exact ih (suffix_of_not_mem others within)
    · rw [kept] at found
      apply ih
      apply suffix_of_not_mem _ found
      rw [List.mem_singleton]
      exact other.symm

/-! ## Texts in parts -/

section

variable {σ : Type} [Stream σ] {holds : σ → String → Prop} {w : Writer σ} {paper : String}
  {top : Open} {rest : List Open}

/-- The start tag of an element is closed before its text. -/
theorem closeStartTag_puts (faithful : Faithful holds) (op : Operation) (ending : String)
    (stack : w.stack = top :: rest) (held : holds w.stream paper) :
    ∃ stream, closeStartTag op ending w =
        .ok () { w with stream, stack := { top with tagOpen := false } :: rest } ∧
      holds stream (paper ++ if top.tagOpen then ending else "") := by
  cases tagOpen : top.tagOpen with
  | true => exact closeStartTag_of_open faithful op ending stack tagOpen held
  | false =>
    have same : { top with tagOpen := false } = top := by rw [← tagOpen]
    refine ⟨w.stream, ?_, ?_⟩
    · rw [closeStartTag_of_closed op ending stack tagOpen, same, ← stack]
    · rw [if_neg Bool.false_ne_true, String.append_empty]
      exact held

/-- What a text puts into an element that has no children. -/
theorem text_adds (faithful : Faithful holds) (s : String) (started : w.started = true)
    (ended : w.ended = false) (stack : w.stack = top :: rest) (room : top.hasChildren = false)
    (held : holds w.stream paper) :
    ∃ stream, text (.text s) w =
        .ok () { w with stream, stack := ⟨top.name, false, true, false⟩ :: rest } ∧
      holds stream (paper ++ (if top.tagOpen then ">" else "") ++ Node.escaped s) := by
  obtain ⟨stream, tagClosed, held₁⟩ := closeStartTag_puts faithful .text ">" stack held
  have marked : modifyTop (fun e => { e with hasText := true })
      { w with stream, stack := { top with tagOpen := false } :: rest } =
      .ok () { w with stream, stack := ⟨top.name, false, true, false⟩ :: rest } := by
    rw [modifyTop, modify_apply, room]
  obtain ⟨stream', put, held₂⟩ := emit_of_holds faithful
    (w := { w with stream, stack := ⟨top.name, false, true, false⟩ :: rest }) held₁ .text
    (Node.escaped s)
  refine ⟨stream', ?_, held₂⟩
  unfold text
  rw [bind_of_ok (requireDocument_of_started started ended _), get_bind]
  simp only [stack, room, Bool.false_eq_true, if_false]
  rw [bind_of_ok tagClosed, bind_of_ok marked, bind_of_ok (escaped_of_written rfl _)]
  exact put

end

/-- **Texts that are put one after the other are put like one.** -/
theorem text_text {w : Writer Memory} {paper : String} (held : w.stream.Holds paper)
    (s t : String) :
    (text (.text s) >>= fun _ => text (.text t)) w = text (.text (s ++ t)) w := by
  cases refused : (Stroke.text (.text s)).refusal? w with
  | some reason =>
    -- the checks do not look at the text
    have each : ∀ u, text (.text u) w = .error (w.failure .text reason none) w := by
      intro u
      have settles := text_settles w (.text u)
      rw [show (Stroke.text (.text u)).refusal? w = some reason from refused] at settles
      exact settles
    rw [each (s ++ t)]
    exact bind_of_error (each s)
  | none =>
    simp only [Stroke.refusal?, Option.or_eq_none_iff, Writer.outside?_eq_none,
      objectIf_eq_none] at refused
    obtain ⟨⟨started, ended⟩, inside, room⟩ := refused
    obtain ⟨m, indent, path, stack, _, _, hasRoot⟩ := w
    cases stack with
    | nil => cases inside
    | cons top rest =>
      have empty : top.hasChildren = false := objectIf_eq_none.mp room
      obtain ⟨m₁, first, held₁⟩ := text_adds Memory.faithful s started ended rfl empty held
      obtain ⟨m₂, second, held₂⟩ := text_adds Memory.faithful
        (w := ⟨m₁, indent, path, ⟨top.name, false, true, false⟩ :: rest, _, _, hasRoot⟩) t
        started ended rfl rfl held₁
      obtain ⟨m₃, whole, held₃⟩ :=
        text_adds Memory.faithful (s ++ t) started ended rfl empty held
      have same : m₂ = m₃ := by
        rw [held₂, held₃]
        simp [Node.escaped_append, String.append_assoc]
      rw [bind_of_ok first, second, whole, same]

/-! ## Escaping in one pass -/

/-- **Escaping maps every character on its own and is undone in one pass.** The replacements one
after the other come to one pass over the characters, so that a text may be escaped, and put into an
element, in parts. No bracket and no quote is left, every ampersand begins an entity, and expanding
the entities from left to right gives the text back. -/
theorem escape_one_pass (s : String) :
    escape s.toList = s.toList.flatMap entityOf ∧
    (∀ t : String, escape (s ++ t).toList = escape s.toList ++ escape t.toList ∧
      ∀ (w : Writer Memory) paper, w.stream.Holds paper →
        (text (.text s) >>= fun _ => text (.text t)) w = text (.text (s ++ t)) w) ∧
    (∀ c ∈ ['<', '>', '"', '\''], c ∉ escape s.toList) ∧
    (∀ before after, escape s.toList = before ++ '&' :: after →
      ∃ c ∈ specials, entityOf c <+: '&' :: after) ∧
    unescape (escape s.toList) = s.toList := by
  refine ⟨escape_eq_flatMap s.toList, ?_, ?_, ?_, unescape_escape s.toList⟩
  · intro t
    constructor
    · rw [String.toList_append, escape_append]
    · intro w paper held
      exact text_text held s t
  · intro c bracket
    exact not_mem_escape bracket s.toList
  · intro before after parted
    have found : '&' :: after <:+ s.toList.flatMap entityOf := by
      rw [← escape_eq_flatMap, parted]
      exact List.suffix_append before _
    exact ampersand_begins found

/-- A text that looks like an entity is escaped once more and comes back as it was. -/
theorem escape_entityLike :
    escape "<&lt;".toList = "&lt;&amp;lt;".toList ∧ '<' ∉ escape "<&lt;".toList ∧
    (∃ c ∈ specials, entityOf c <+: "&amp;lt;".toList) ∧
    openedWriter.stream.Holds (declaration ++ "<a") ∧
    (text (.text "<&lt;") >>= fun _ => text (.text "'")) openedWriter =
      text (.text ("<&lt;" ++ "'")) openedWriter ∧
    unescape "&lt;&amp;lt;".toList = "<&lt;".toList := by
  obtain ⟨pass, parts, brackets, ampersands, undone⟩ := escape_one_pass "<&lt;"
  have written : escape "<&lt;".toList = "&lt;&amp;lt;".toList := by rw [pass]; decide
  refine ⟨written, brackets '<' (by decide), ?_, rfl, ?_, ?_⟩
  · exact ampersands "&lt;".toList "amp;lt;".toList (by rw [written]; decide)
  · exact (parts "'").2 openedWriter (declaration ++ "<a") rfl
  · rw [← written]
    exact undone

end MachineDescriptor.Xml
