import MachineDescriptor.Proofs.Behaviours
import MachineDescriptor.Proofs.Judging
import MachineDescriptor.Proofs.Reading

/-!
The names that a writer tells. Every text that a writer puts to its stream is one of seven kinds,
and the names in it, like those of the open elements, are names that the writer was given and that
passed for names; every stroke preserves that, whatever the stream rejects. The place of a writer is
put together from the names of its open elements, and these are found in it again.
-/
namespace MachineDescriptor.Xml

/-! ## Texts with names in them -/

/-- A text that is put to a stream and has no other names in it than those of a kind. -/
inductive IsPut (indent : String) (named : String → Prop) : String → Prop
  | declaration : IsPut indent named declaration
  | comment (depth : Nat) {s : String} (proper : isComment s.toList = true) :
      IsPut indent named (Node.margin indent depth ++ "<!--" ++ s ++ "-->\n")
  | startTag (depth : Nat) {name : String} (right : named name) :
      IsPut indent named (Node.margin indent depth ++ "<" ++ name)
  | pair {name : String} (right : named name) (value : String) :
      IsPut indent named (" " ++ name ++ "=\"" ++ Node.escaped value ++ "\"")
  | tagEnd {s : String} (listed : s ∈ [">", ">\n", "/>\n"]) : IsPut indent named s
  | text (s : String) : IsPut indent named (Node.escaped s)
  | endTag (depth : Nat) {name : String} (right : named name) :
      IsPut indent named (Node.margin indent depth ++ "</" ++ name ++ ">\n")

/-- A writer that tells no other names than those of a kind, neither in the texts that it put to its
stream, the rejected ones included, nor in its place. -/
structure TellsNames (indent : String) (named : String → Prop) {b : Behaviour}
    (w : Writer (Watched b)) : Prop where
  level : w.indent = indent
  inside : ∀ name ∈ w.names, named name
  put : ∀ u, .write u ∈ w.stream.asked → IsPut indent named u

variable {b : Behaviour} {indent : String} {named named' : String → Prop} {w v : Writer (Watched b)}

theorem IsPut.mono (weaker : ∀ name, named name → named' name) {u : String}
    (put : IsPut indent named u) : IsPut indent named' u := by
  cases put with
  | declaration => exact .declaration
  | comment depth proper => exact .comment depth proper
  | startTag depth right => exact .startTag depth (weaker _ right)
  | pair right value => exact .pair (weaker _ right) value
  | tagEnd listed => exact .tagEnd listed
  | text s => exact .text s
  | endTag depth right => exact .endTag depth (weaker _ right)

theorem TellsNames.mono (weaker : ∀ name, named name → named' name)
    (tells : TellsNames indent named w) : TellsNames indent named' w := by
  constructor
  · exact tells.level
  · intro name listed
    exact weaker name (tells.inside name listed)
  · intro u asked
    exact (tells.put u asked).mono weaker

theorem TellsNames.margin (tells : TellsNames indent named w) (depth : Nat) :
    w.margin depth = Node.margin indent depth := by
  rw [← tells.level]
  rfl

/-- A change beside the stream. -/
theorem TellsNames.beside (tells : TellsNames indent named w) (level : v.indent = w.indent)
    (stream : v.stream = w.stream) (inside : ∀ name ∈ v.names, named name) :
    TellsNames indent named v := by
  constructor
  · exact level.trans tells.level
  · exact inside
  · rw [stream]
    exact tells.put

/-- A request to the stream. -/
theorem TellsNames.asking (tells : TellsNames indent named w) {r : Request}
    (legal : ∀ u, r = .write u → IsPut indent named u) :
    TellsNames indent named (w.on ⟨r :: w.stream.asked⟩) := by
  constructor
  · exact tells.level
  · exact tells.inside
  · intro u asked
    rcases List.mem_cons.mp asked with here | before
    · exact legal u here.symm
    · exact tells.put u before

/-! ## What the calls preserve -/

theorem ask_preserves (op : Operation) {r : Request}
    (legal : ∀ u, r = .write u → IsPut indent named u) :
    Preserves (TellsNames indent named)
      (onStream op (Watched.ask r) : Action (Watched b) Unit) := by
  intro w tells
  have next := tells.asking legal
  unfold onStream Watched.ask
  cases b.fault? (r :: w.stream.asked) <;> exact next

theorem emit_preserves (op : Operation) {u : String} (put : IsPut indent named u) :
    Preserves (TellsNames indent named) (emit op u : Action (Watched b) Unit) := by
  apply ask_preserves
  intro u' same
  cases same
  exact put

/-- A text with the escaped text of a value in it. -/
theorem emit_escaped_preserves (op : Operation) (value : Value) (f : String → String)
    (put : ∀ s, IsPut indent named (f (Node.escaped s))) :
    Preserves (TellsNames indent named)
      (escaped value >>= fun s => emit op (f s) : Action (Watched b) Unit) := by
  intro w tells
  cases writable : value.isWritable with
  | false =>
    rw [bind_of_error (escaped_of_not writable w)]
    exact tells
  | true =>
    rw [bind_of_ok (escaped_of_written (written_of_isWritable writable) w)]
    exact emit_preserves op (put _) w tells

theorem modifyTop_preserves {f : Open → Open} (same : ∀ e, (f e).name = e.name) :
    Preserves (TellsNames indent named) (modifyTop f : Action (Watched b) Unit) := by
  intro w tells
  have inside := tells.inside
  unfold modifyTop
  rw [modify_apply]
  cases stack : w.stack with
  | nil => exact tells
  | cons top rest =>
    refine tells.beside rfl rfl ?_
    simp only [Writer.names, stack, List.map_cons, same] at inside ⊢
    exact inside

theorem closeStartTag_preserves (op : Operation) {ending : String}
    (listed : ending ∈ [">", ">\n", "/>\n"]) :
    Preserves (TellsNames indent named) (closeStartTag op ending : Action (Watched b) Unit) := by
  intro w tells
  unfold closeStartTag
  rw [get_bind]
  cases w.stack with
  | nil => exact tells
  | cons top rest =>
    cases tagOpen : top.tagOpen with
    | false =>
      simp only [tagOpen]
      exact tells
    | true =>
      simp only [tagOpen, if_true]
      refine (modifyTop_preserves ?_ w tells).bind fun x v closed => ?_
      · exact fun _ => rfl
      · exact emit_preserves op (.tagEnd listed) v closed

theorem beginChild_preserves (op : Operation) :
    Preserves (TellsNames indent named) (beginChild op : Action (Watched b) Unit) := by
  intro w tells
  unfold beginChild
  rw [get_bind]
  cases w.stack with
  | nil => exact tells
  | cons parent rest =>
    refine Turns.check tells ?_
    intro untaken
    apply (closeStartTag_preserves op (by decide) w tells).bind
    intro x v closed
    apply modifyTop_preserves _ v closed
    exact fun _ => rfl

theorem startDocument_preserves :
    Preserves (TellsNames indent named) (startDocument : Action (Watched b) Unit) := by
  intro w tells
  unfold startDocument
  rw [get_bind]
  apply Turns.check tells
  intro fresh
  rw [bind_of_ok (modify_apply _ _)]
  apply emit_preserves _ .declaration
  exact tells.beside rfl rfl tells.inside

theorem comment_preserves (s : String) :
    Preserves (TellsNames indent named) (comment s : Action (Watched b) Unit) := by
  intro w tells
  unfold comment
  apply Turns.within tells
  intro started ended
  apply Turns.check tells
  intro legal
  have proper : isComment s.toList = true := by simpa using legal
  apply (beginChild_preserves .comment w tells).bind
  intro x v begun
  rw [get_bind, begun.margin]
  exact emit_preserves _ (.comment v.depth proper) v begun

theorem startElement_preserves {name : String} (right : isName name.toList = true → named name) :
    Preserves (TellsNames indent named) (startElement name : Action (Watched b) Unit) := by
  intro w tells
  unfold startElement
  apply Turns.within tells
  intro started ended
  rw [get_bind]
  apply Turns.check tells
  intro legal
  have proper : isName name.toList = true := by simpa using legal
  apply Turns.check tells
  intro first
  apply (beginChild_preserves .startElement w tells).bind
  intro x v begun
  rw [get_bind, begun.margin]
  apply (emit_preserves _ (.startTag v.depth (right proper)) v begun).bind
  intro x' v' put
  rw [modify_apply]
  exact put.beside rfl rfl (List.forall_mem_cons.mpr ⟨right proper, put.inside⟩)

theorem setAttribute_preserves {name : String} (right : isName name.toList = true → named name)
    (value : Value) :
    Preserves (TellsNames indent named) (setAttribute name value : Action (Watched b) Unit) := by
  intro w tells
  unfold setAttribute
  apply Turns.within tells
  intro started ended
  rw [get_bind]
  apply Turns.check tells
  intro tagOpen
  apply Turns.check tells
  intro legal
  have proper : isName name.toList = true := by simpa using legal
  exact emit_escaped_preserves _ value (fun s => " " ++ name ++ "=\"" ++ s ++ "\"")
    (.pair (right proper)) w tells

theorem text_preserves (value : Value) :
    Preserves (TellsNames indent named) (text value : Action (Watched b) Unit) := by
  intro w tells
  unfold text
  apply Turns.within tells
  intro started ended
  rw [get_bind]
  cases w.stack with
  | nil => exact tells
  | cons top rest =>
    apply Turns.check tells
    intro room
    apply (closeStartTag_preserves .text (by decide) w tells).bind
    intro x v closed
    refine (modifyTop_preserves ?_ v closed).bind fun x' v' marked => ?_
    · exact fun _ => rfl
    · exact emit_escaped_preserves .text value id .text v' marked

/-- What an element ends with. -/
theorem TellsNames.ending (tells : TellsNames indent named w) {top : Open} {rest : List Open}
    (stack : w.stack = top :: rest) :
    IsPut indent named
      (if top.tagOpen then "/>\n"
        else if top.hasText then "</" ++ top.name ++ ">\n"
        else w.margin (w.depth - 1) ++ "</" ++ top.name ++ ">\n") := by
  have right : named top.name := by
    apply tells.inside
    simp [Writer.names, stack]
  split
  · exact .tagEnd (by decide)
  · split
    · have flat : IsPut indent named (Node.margin indent 0 ++ "</" ++ top.name ++ ">\n") :=
        .endTag 0 right
      simpa [Node.margin] using flat
    · rw [tells.margin]
      exact .endTag _ right

theorem endElement_preserves :
    Preserves (TellsNames indent named) (endElement : Action (Watched b) Unit) := by
  intro w tells
  unfold endElement
  apply Turns.within tells
  intro started ended
  rw [get_bind]
  cases stack : w.stack with
  | nil => exact tells
  | cons top rest =>
    apply (emit_preserves _ (tells.ending stack) w tells).bind
    intro x v put
    rw [modify_apply]
    refine put.beside rfl rfl ?_
    intro name listed
    apply put.inside
    rw [Writer.names, List.map_tail] at listed
    exact List.mem_of_mem_tail listed

theorem endElements_preserves (n : Nat) :
    Preserves (TellsNames indent named) (endElements n : Action (Watched b) Unit) := by
  induction n with
  | zero => exact .pure ()
  | succ n ih => exact endElement_preserves.bind fun _ => ih

theorem endDocument_preserves :
    Preserves (TellsNames indent named) (endDocument : Action (Watched b) Unit) := by
  intro w tells
  unfold endDocument
  apply Turns.within tells
  intro started ended
  rw [get_bind]
  apply (endElements_preserves _ w tells).bind
  intro x v closed
  rw [bind_of_ok (modify_apply _ _)]
  apply ask_preserves
  · intro u other
    cases other
  · exact closed.beside rfl rfl closed.inside

theorem ends_preserve :
    EndsPreserve (TellsNames indent named : Writer (Watched b) → Prop) := by
  constructor
  · intro w tells
    unfold close
    rw [get_bind]
    split
    · apply ask_preserves _ _ w tells
      intro u other
      cases other
    · exact tells
  · intro w tells
    have next : TellsNames indent named (w.on ⟨.close :: w.stream.asked⟩) :=
      tells.asking fun u other => by cases other
    simp only [closeStream, Stream.close, Watched.ask]
    cases b.fault? (.close :: w.stream.asked) <;> exact next

/-- The name that a stroke gives to the writer. -/
def Stroke.name? : Stroke → Option String
  | .startElement name | .setAttribute name _ => some name
  | _ => none

/-- **Every stroke tells only names of a kind that its own name belongs to if it is accepted.** -/
theorem Stroke.run_preserves (p : Stroke)
    (right : ∀ name ∈ p.name?, isName name.toList = true → named name) :
    Preserves (TellsNames indent named) (p.run : Action (Watched b) (Option String)) := by
  cases p with
  | startDocument => exact startDocument_preserves.silently
  | endElement => exact endElement_preserves.silently
  | endDocument => exact endDocument_preserves.silently
  | close => exact ends_preserve.shut.silently
  | value =>
    apply Preserves.bind
    · intro w tells
      unfold contents
      cases Stream.value w.stream <;> exact tells
    · exact fun _ => .pure _
  | comment s => exact (comment_preserves s).silently
  | startElement name => exact (startElement_preserves (right name rfl)).silently
  | setAttribute name value => exact (setAttribute_preserves (right name rfl) value).silently
  | text value => exact (text_preserves value).silently

/-- The names that a script gives to a writer. -/
def namesGiven (script : List Step) : List String :=
  (Step.allStrokes script).filterMap Stroke.name?

/-- Whatever the stream rejects, a script makes a writer tell only names that it was given and that
were accepted. -/
theorem perform_tellsNames (b : Behaviour) (indent : String) (path : Option String)
    (script : List Step) :
    TellsNames indent (fun name => IsWordLine name ∧ name ∈ namesGiven script)
      (perform script (b.writer indent path)).2 := by
  apply perform_preserves ends_preserve
  · intro p listed
    apply p.run_preserves
    intro name given proper
    exact ⟨(isName_iff name).mp proper, List.mem_filterMap.mpr ⟨p, listed, given⟩⟩
  · exact ⟨rfl, List.forall_mem_nil _, nofun⟩

/-! ## The place -/

section

variable {σ : Type} (w : Writer σ)

theorem Writer.location_eq :
    w.location.toList = '/' :: Text.joined ['/'] (w.names.reverse.map String.toList) := by
  rw [location, String.toList_append, String.toList_intercalate, Text.joined_eq_intercalate, names,
    List.map_reverse]
  rfl

variable {w}

/-- The names of the open elements are found again in the place of a writer, from the root in. -/
theorem Writer.split_location (lines : ∀ name ∈ w.names, IsWordLine name) :
    (Text.split '/' w.location.toList).filter (!·.isEmpty) =
      w.names.reverse.map String.toList := by
  have named : ∀ part ∈ w.names.reverse.map String.toList, isName part = true := by
    intro part listed
    obtain ⟨name, inside, rfl⟩ := List.mem_map.mp listed
    exact (isName_iff name).mpr (lines name (List.mem_reverse.mp inside))
  have first : ∀ cs, Text.split '/' ('/' :: cs) = [] :: Text.split '/' cs := fun _ => rfl
  rw [location_eq, first]
  generalize w.names.reverse.map String.toList = parts at named
  by_cases none : parts = []
  · subst none
    rfl
  · have slashless : ∀ part ∈ parts, '/' ∉ part := by
      intro part listed
      exact not_mem_of_isName (by decide) (named part listed)
    rw [Text.split_joined none slashless, List.filter_cons_of_neg (by decide)]
    apply List.filter_eq_self.mpr
    intro part listed
    have proper := named part listed
    cases part with
    | nil => cases proper
    | cons c rest => rfl

/-- The place of a writer has no line break exactly if the names of all open elements are words. -/
theorem Writer.unbroken_location (lines : ∀ name ∈ w.names, IsWordLine name) :
    Text.Unbroken w.location.toList ↔ ∀ name ∈ w.names, IsWord name := by
  rw [location_eq]
  constructor
  · intro unbroken name listed
    apply (lines name listed).unbroken_iff.mp
    intro c inside
    apply unbroken
    apply List.mem_cons_of_mem
    apply Text.mem_joined_of_mem _ inside
    exact List.mem_map_of_mem (List.mem_reverse.mpr listed)
  · intro words c listed
    rcases List.mem_cons.mp listed with rfl | later
    · decide
    · rcases Text.mem_joined later with separates | ⟨part, given, inside⟩
      · obtain rfl := List.mem_singleton.mp separates
        decide
      · obtain ⟨name, entered, rfl⟩ := List.mem_map.mp given
        exact (words name (List.mem_reverse.mp entered)).unbroken c inside

end

/-! ## Words up to one line feed -/

/-- **Names are words, up to one line feed after them.** A name is accepted where an element may be
opened or an attribute may be given exactly if it is a word, with one line feed after it or with
none; that line feed is the only line break a name can have. After every script, whatever the stream
rejects, all names that the writer told are such names that it was given, its place split at the
slashes gives the names of the open elements, and the place has a line break exactly if one of these
is no word. Where no name that was given ends in a line feed, all names told are words and the place
has no line break. -/
theorem names_words_upTo_lineFeed {σ : Type} [Stream σ] (v : Writer σ) (name : String)
    (b : Behaviour) (indent : String) (path : Option String) (script : List Step) :
    ((IsWordLine name → (Text.Unbroken name.toList ↔ IsWord name)) ∧
      (name.toList.getLast? ≠ some '\n' → (IsWordLine name ↔ IsWord name))) ∧
    ((v.AllowsElement →
        Judges (startElement name) true (v.onElement name) (IsWordLine name) v) ∧
      (v.AllowsAttribute → ∀ value : Value,
        Judges (setAttribute name value) value.isWritable (v.onAttribute name value)
          (IsWordLine name) v)) ∧
    let w := (perform script (b.writer indent path)).2
    TellsNames indent (fun given => IsWordLine given ∧ given ∈ namesGiven script) w ∧
      (Text.split '/' w.location.toList).filter (!·.isEmpty) =
        w.names.reverse.map String.toList ∧
      (Text.Unbroken w.location.toList ↔ ∀ inside ∈ w.names, IsWord inside) ∧
      ((∀ given ∈ namesGiven script, given.toList.getLast? ≠ some '\n') →
        TellsNames indent IsWord w ∧ Text.Unbroken w.location.toList) := by
  refine ⟨⟨IsWordLine.unbroken_iff, ?_⟩, ⟨?_, ?_⟩, ?_⟩
  · intro ending
    constructor
    · intro line
      exact line.isWord ending
    · intro word
      exact ⟨name, word, .inl rfl⟩
  · intro allows
    exact startElement_judges allows name
  · intro allows value
    exact setAttribute_judges allows name value
  · intro w
    have tells : TellsNames indent (fun given => IsWordLine given ∧ given ∈ namesGiven script) w :=
      perform_tellsNames b indent path script
    have lines : ∀ inside ∈ w.names, IsWordLine inside := by
      intro inside listed
      exact (tells.inside inside listed).1
    refine ⟨tells, Writer.split_location lines, Writer.unbroken_location lines, ?_⟩
    intro plain
    have words : TellsNames indent IsWord w := by
      apply tells.mono
      rintro given ⟨line, listed⟩
      exact line.isWord (plain given listed)
    exact ⟨words, (Writer.unbroken_location lines).mpr words.inside⟩

/-- A writer in the start tag of its root element. -/
def taggedWriter : Writer Memory :=
  { startedWriter with stack := [⟨"a", true, false, false⟩], hasRoot := true }

/-- An element whose name ends in a line feed, with an attribute that the stream rejects. -/
def feedScript : List Step :=
  [.startDocument, .startElement "a\n", .setAttribute "k" (.text "v")]

/-- The same element without the line feed. -/
def wordScript : List Step :=
  [.startDocument, .startElement "a", .setAttribute "k" (.text "v")]

theorem names_words_upTo_lineFeed_accepted :
    ¬IsWord "a\n" ∧
    (∃ v, startElement "a\n" startedWriter = .ok () v ∧
      v.stream.Holds (declaration ++ "<a\n") ∧ v.names = ["a\n"]) ∧
    (∃ v, setAttribute "a\n" (.text "v") taggedWriter = .ok () v) ∧
    startElement "a b" startedWriter = .error (startedWriter.onElement "a b").blame startedWriter ∧
    ¬Text.Unbroken
      (perform feedScript (rejectsThird.writer defaultIndent none)).2.location.toList ∧
    TellsNames defaultIndent IsWord
      (perform wordScript (rejectsThird.writer defaultIndent none)).2 := by
  obtain ⟨⟨kinds, -⟩, ⟨opens, -⟩, -, -, broken, -⟩ :=
    names_words_upTo_lineFeed startedWriter "a\n" rejectsThird defaultIndent none feedScript
  obtain ⟨-, ⟨blames, -⟩, -, -, -, words⟩ :=
    names_words_upTo_lineFeed startedWriter "a b" rejectsThird defaultIndent none wordScript
  obtain ⟨-, ⟨-, gives⟩, -⟩ :=
    names_words_upTo_lineFeed taggedWriter "a\n" rejectsThird defaultIndent none feedScript
  have feed : IsWordLine "a\n" := (isName_iff _).mp (by decide)
  have other : ¬IsWordLine "a b" := by
    intro line
    have proper := (isName_iff _).mpr line
    revert proper
    decide
  have noWord : ¬IsWord "a\n" := by
    intro word
    have unbroken := (kinds feed).mpr word
    revert unbroken
    decide
  have room : startedWriter.AllowsElement := ⟨rfl, rfl, fun _ => rfl, by decide⟩
  have tagged : taggedWriter.AllowsAttribute := ⟨rfl, rfl, _, rfl, rfl⟩
  have names : (perform feedScript (rejectsThird.writer defaultIndent none)).2.names = ["a\n"] := by
    decide
  have tag : (startedWriter.onElement "a\n").put = "<a\n" := by decide
  have opened := ((opens room).made _ declaration Memory.faithful rfl rfl).mpr feed
  rw [tag] at opened
  obtain ⟨v, given, -⟩ :=
    ((gives tagged (.text "v")).made _ declaration Memory.faithful rfl rfl).mpr feed
  refine ⟨noWord, opened, ⟨v, given⟩, (blames room).blamed.mpr other, ?_, (words (by decide)).1⟩
  intro unbroken
  apply noWord
  apply broken.mp unbroken
  rw [names]
  exact List.mem_singleton_self _

end MachineDescriptor.Xml
