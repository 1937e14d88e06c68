import MachineDescriptor.Proofs.Rendering
import MachineDescriptor.Proofs.Telling
import MachineDescriptor.Proofs.Working

/-!
Documents on paper that refuses surrogate codes, beside the same documents in memory, where every
text is taken. As long as there is no such code in the text, the work does the same on both. The
first text with one is reported on paper; whatever the work still comes to in memory, the code stays
in the text there.
-/
namespace MachineDescriptor

theorem Context.ofList_concat (pairs : List (String × Value)) (name : String) (value : Value) :
    ofList (pairs ++ [(name, value)]) = (ofList pairs).put name value := by
  rw [ofList, List.foldl_append]
  rfl

/-- The failure with the path of a file among what it tells, if it is a report. -/
def Failure.withPath (path : String) : Failure → Failure
  | .report r => .report { r with context := r.context.put "path" (.text path) }
  | .fault f => .fault f

namespace Xml

section

variable {σ τ : Type} {letters : Text.Letters}

/-- `holds s t` says that the texts put on `s` so far come to `t`. A text with surrogate codes is
refused and changes nothing. -/
structure Encodes [Stream σ] (letters : Text.Letters) (holds : σ → String → Prop) : Prop where
  write : ∀ {s : σ} {t : String}, holds s t → ∀ u : String, letters.fault? u.toList = none →
    ∃ s', (Stream.write u : EStateM Fault σ Unit) s = .ok () s' ∧ holds s' (t ++ u)
  refuse : ∀ {s : σ} {t : String}, holds s t → ∀ {u : String} {codes : Text.Unencodable},
    letters.fault? u.toList = some codes →
    (Stream.write u : EStateM Fault σ Unit) s = .error (.unencodable codes) s
  flush : ∀ {s : σ} {t : String}, holds s t →
    ∃ s', (Stream.flush : EStateM Fault σ Unit) s = .ok () s' ∧ holds s' t

/-- A stream that takes every text refuses no surrogate codes because it knows of none. -/
theorem Faithful.encodes [Stream σ] {holds : σ → String → Prop} (faithful : Faithful holds) :
    Encodes .plain holds where
  write held u _ := faithful.write held u
  refuse _ u codes found := by
    rw [Text.Letters.fault?_plain] at found
    cases found
  flush := faithful.flush

/-- The report that a text for a file holds surrogate codes. -/
def strayReport (op : Operation) (place path : String) (codes : Text.Unencodable) : Report :=
  Report.ofMessage .writer
    ("error constructing XML near call to " ++ String.ofList (Text.quoted op.name.toList) ++ ": " ++
      codes.message) (some ⟨"UnicodeEncodeError", .ok codes.message⟩)
    (Context.ofList [("op", .text op.name), ("where", .text place), ("path", .text path)])

theorem rejection_unencodable {w : Writer σ} {path : String} (named : w.path = some path)
    {op : Operation} (writes : op ≠ .closing) (codes : Text.Unencodable) :
    w.rejection op (.unencodable codes) = .report (strayReport op w.location path codes) := by
  have ofValue : (Fault.unencodable codes).isOfValue = true := by
    simp [Fault.isOfValue, Fault.kind, Fault.valueKinds]
  have expected : op.expects (.unencodable codes) = true := by
    rw [Operation.expects, ofValue, Bool.and_true, bne_iff_ne.mpr writes, Bool.or_true]
  rw [Writer.rejection, if_pos expected, Writer.failure, Writer.contextOf, named]
  rfl

/-- A failure at a writer of a file tells its path, too. -/
theorem failure_onto {w : Writer σ} (memory : w.path = none) (s : τ) (path : String)
    (op : Operation) (reason : String) (cause : Option Report.Cause) :
    (w.onto s (some path)).failure op reason cause =
      (w.failure op reason cause).withPath path := by
  simp only [Writer.failure, Writer.contextOf, memory, Failure.withPath, Report.ofMessage,
    List.append_nil]
  rw [← Context.ofList_concat]
  rfl

end

end Xml

namespace Document

open Xml

/-! ## Texts that grow -/

section

variable {κ : Type} [Stream (κ × Files.Tree)] {letters : Text.Letters}
  {paper : κ × Files.Tree → String → Prop} {good : String → Prop}

theorem Desk.encodes (encodes : Encodes letters paper) :
    Encodes letters (Desk.Holds paper) where
  write := by
    rintro d t ⟨held, bears⟩ u clean
    obtain ⟨⟨paper', tree'⟩, put, held'⟩ := encodes.write held u clean
    refine ⟨{ d with paper := paper', tree := tree' }, ?_, held', bears⟩
    simp only [Stream.write, Desk.onPaper] at put ⊢
    rw [put]
  refuse := by
    rintro d t ⟨held, bears⟩ u codes found
    have refused := encodes.refuse held found
    simp only [Stream.write, Desk.onPaper] at refused ⊢
    rw [refused]
  flush := by
    rintro d t ⟨held, bears⟩
    obtain ⟨⟨paper', tree'⟩, flushed, held'⟩ := encodes.flush held
    refine ⟨{ d with paper := paper', tree := tree' }, ?_, held', bears⟩
    simp only [Stream.flush, Desk.onPaper] at flushed ⊢
    rw [flushed]

omit [Xml.Stream (κ × Files.Tree)] in
/-- What is said leaves the text on paper as it is. -/
theorem holds_said {d : Desk κ} {t : String} (held : Desk.Holds paper d t) (speaker : Log.Speaker)
    (level : Log.Level) (template : String) (arguments : List Value) :
    Desk.Holds paper { d with
      journal := (Log.Journal.say speaker level template arguments none (d.journal, d.tree)).1
      tree := (Log.Journal.say speaker level template arguments none (d.journal, d.tree)).2 } t := by
  have spares := Log.Journal.say_spares (p := (d.journal, d.tree)) (held.2 d.paper _) speaker level
    template arguments none held.1
  refine ⟨spares.2, ?_⟩
  rw [Log.Journal.files_of_spares spares]
  exact held.2

/-- The text on paper is of a kind. -/
def Desk.Shows (paper : κ × Files.Tree → String → Prop) (good : String → Prop) (d : Desk κ) :
    Prop :=
  ∃ t, Desk.Holds paper d t ∧ good t

/-- Nothing is taken off the paper, so that a text stays of a kind to which all longer ones belong;
and every failure can be put into words. -/
theorem Encodes.bides (encodes : Encodes letters paper) (grows : ∀ t u, good t → good (t ++ u))
    (path : Option String) :
    Bides (Desk.Shows paper good) (fun f d => Desk.Shows paper good d ∧ f.IsPlain .writer)
      path where
  write op u := by
    rintro w named ⟨t, held, kind⟩
    cases found : letters.fault? u.toList with
    | none =>
      obtain ⟨s, put, held'⟩ := (Desk.encodes encodes).write held u found
      simp only [onStream, put]
      exact ⟨⟨_, held', grows t u kind⟩, named⟩
    | some codes =>
      have refused := (Desk.encodes encodes).refuse held found
      simp only [onStream, refused]
      exact ⟨⟨⟨t, held, kind⟩, w.isPlain_rejection op ⟨_, rfl⟩ rfl⟩, named⟩
  flush op := by
    rintro w named ⟨t, held, kind⟩
    obtain ⟨s, flushed, held'⟩ := (Desk.encodes encodes).flush held
    simp only [onStream, flushed]
    exact ⟨⟨t, held', kind⟩, named⟩
  refuse op reason := fun w named shows => ⟨⟨shows, w.isPlain_failure op reason nofun⟩, named⟩
  fault goesOn shows := ⟨shows, goesOn⟩
  say speaker level template arguments := by
    rintro w named ⟨t, held, kind⟩
    exact ⟨⟨t, holds_said held speaker level template arguments, kind⟩, named⟩

end

/-! ## Two runs -/

section

variable {letters : Text.Letters} {memory : Memory × Files.Tree → String → Prop}
  {paper : Files.Handle × Files.Tree → String → Prop} {path : String} {α β : Type}

/-- Whether a text holds a surrogate code. -/
abbrev IsStray (letters : Text.Letters) (t : String) : Prop := letters.fault? t.toList ≠ none

/-- What work comes to on paper, beside what it comes to in memory: the same, while there are no
surrogate codes in the text, and else the report about one. -/
inductive Transcribed (letters : Text.Letters) (memory : Memory × Files.Tree → String → Prop)
    (paper : Files.Handle × Files.Tree → String → Prop) (path : String) :
    EStateM.Result Failure (Writer (Desk Memory)) α →
      EStateM.Result Failure (Writer (Desk Files.Handle)) α → Prop
  | ok {x : α} {w : Writer (Desk Memory)} {d : Desk Files.Handle} {t : String}
      (own : w.path = none) (held : Desk.Holds memory w.stream t) (copied : Desk.Holds paper d t)
      (clean : letters.fault? t.toList = none) :
      Transcribed letters memory paper path (.ok x w) (.ok x (w.onto d (some path)))
  | error {f : Failure} {w : Writer (Desk Memory)} {d : Desk Files.Handle} {t : String}
      (held : Desk.Holds memory w.stream t) (copied : Desk.Holds paper d t)
      (clean : letters.fault? t.toList = none) :
      Transcribed letters memory paper path (.error f w)
        (.error (f.withPath path) (w.onto d (some path)))
  | stray {r : EStateM.Result Failure (Writer (Desk Memory)) α}
      {w : Writer (Desk Files.Handle)} {op : Operation} {place : String}
      {codes : Text.Unencodable} (own : (writerAfter r).path = none)
      (strays : Desk.Shows memory (IsStray letters) (writerAfter r).stream)
      (named : w.path = some path) (copied : ∃ t, Desk.Holds paper w.stream t) :
      Transcribed letters memory paper path r
        (.error (.report (strayReport op place path codes)) w)

theorem IsStray.append {t : String} (stray : IsStray letters t) (u : String) :
    IsStray letters (t ++ u) := by
  intro clean
  rw [String.toList_append, Text.Letters.fault?_append] at clean
  exact stray clean.1

theorem IsStray.after {u : String} (stray : IsStray letters u) (t : String) :
    IsStray letters (t ++ u) := by
  intro clean
  rw [String.toList_append, Text.Letters.fault?_append] at clean
  exact stray clean.2

/-- In memory a surrogate code stays in the text. -/
theorem stray_bides (faithful : Faithful memory) (letters : Text.Letters) :
    Bides (Desk.Shows memory (IsStray letters))
      (fun f d => Desk.Shows memory (IsStray letters) d ∧ f.IsPlain .writer) none :=
  Encodes.bides faithful.encodes (fun _ u stray => stray.append u) none

/-- Work on paper that follows work in memory. -/
structure Transcribes (letters : Text.Letters) (memory : Memory × Files.Tree → String → Prop)
    (paper : Files.Handle × Files.Tree → String → Prop) (path : String) (a : Work Memory α)
    (b : Work Files.Handle α) : Prop where
  keeps : Keeps (Desk.Shows memory (IsStray letters))
    (fun f d => Desk.Shows memory (IsStray letters) d ∧ f.IsPlain .writer) none a
  copies : ∀ {w : Writer (Desk Memory)} {d : Desk Files.Handle} {t : String}, w.path = none →
    Desk.Holds memory w.stream t → Desk.Holds paper d t → letters.fault? t.toList = none →
    Transcribed letters memory paper path (a w) (b (w.onto d (some path)))

theorem shows_of_leaves {good : String → Prop}
    {r : EStateM.Result Failure (Writer (Desk Memory)) α}
    (left : Leaves (Desk.Shows memory good)
      (fun f d => Desk.Shows memory good d ∧ f.IsPlain .writer) none r) :
    (writerAfter r).path = none ∧ Desk.Shows memory good (writerAfter r).stream := by
  cases r with
  | ok x w => exact ⟨left.2, left.1⟩
  | error f w => exact ⟨left.2, left.1.1⟩

theorem Transcribes.bind {a : Work Memory α} {b : Work Files.Handle α} {f : α → Work Memory β}
    {g : α → Work Files.Handle β} (first : Transcribes letters memory paper path a b)
    (second : ∀ x, Transcribes letters memory paper path (f x) (g x)) :
    Transcribes letters memory paper path (a >>= f) (b >>= g) where
  keeps := first.keeps.bind fun x => (second x).keeps
  copies := by
    intro w d t own held copied clean
    have same := first.copies own held copied clean
    generalize here : a w = r at same
    generalize there : b (w.onto d (some path)) = r' at same
    cases same with
    | ok own' held' copied' clean' =>
      rw [bind_of_ok here, bind_of_ok there]
      exact (second _).copies own' held' copied' clean'
    | error held' copied' clean' =>
      rw [bind_of_error here, bind_of_error there]
      exact .error held' copied' clean'
    | stray own' strays named copied' =>
      rw [bind_of_error there]
      cases r with
      | ok x v =>
        rw [bind_of_ok here]
        -- the work in memory goes on, and the code stays in its text
        obtain ⟨own'', strays'⟩ := shows_of_leaves ((second x).keeps v own' strays)
        exact .stray own'' strays' named copied'
      | error e v =>
        rw [bind_of_error here]
        exact .stray own' strays named copied'

/-- A text is put on paper as it is put in memory, or it is reported. -/
theorem emit_transcribes (faithful : Faithful memory) (encodes : Encodes letters paper)
    {op : Operation} (writes : op ≠ .closing) (u : String) :
    Transcribes letters memory paper path (onStream op (Stream.write u))
      (onStream op (Stream.write u)) where
  keeps := (stray_bides faithful letters).write op u
  copies := by
    intro w d t own held copied clean
    obtain ⟨s, put, held'⟩ := (Desk.faithful faithful).write held u
    have here : onStream op (Stream.write u) w = .ok () (w.on s) := by
      simp only [onStream, put]
      rfl
    rw [here]
    cases found : letters.fault? u.toList with
    | none =>
      obtain ⟨s', copy, copied'⟩ := (Desk.encodes encodes).write copied u found
      have there : onStream op (Stream.write u) (w.onto d (some path)) =
          .ok () ((w.on s).onto s' (some path)) := by
        simp only [onStream, Writer.onto, copy]
        rfl
      rw [there]
      refine .ok own held' copied' ?_
      rw [String.toList_append, Text.Letters.fault?_append]
      exact ⟨clean, found⟩
    | some codes =>
      have refused := (Desk.encodes encodes).refuse copied found
      have there : onStream op (Stream.write u) (w.onto d (some path)) =
          .error (.report (strayReport op w.location path codes)) (w.onto d (some path)) := by
        simp only [onStream, Writer.onto, refused]
        rw [rejection_unencodable rfl writes]
        rfl
      rw [there]
      refine .stray own ⟨_, held', fun none => ?_⟩ rfl ⟨t, copied⟩
      rw [String.toList_append, Text.Letters.fault?_append, found] at none
      cases none.2

theorem flush_transcribes (faithful : Faithful memory) (encodes : Encodes letters paper)
    (op : Operation) :
    Transcribes letters memory paper path (onStream op Stream.flush)
      (onStream op Stream.flush) where
  keeps := (stray_bides faithful letters).flush op
  copies := by
    intro w d t own held copied clean
    obtain ⟨s, flushed, held'⟩ := (Desk.faithful faithful).flush held
    obtain ⟨s', copy, copied'⟩ := (Desk.encodes encodes).flush copied
    have here : onStream op Stream.flush w = .ok () (w.on s) := by
      simp only [onStream, flushed]
      rfl
    have there : onStream op Stream.flush (w.onto d (some path)) =
        .ok () ((w.on s).onto s' (some path)) := by
      simp only [onStream, Writer.onto, copy]
      rfl
    rw [here, there]
    exact .ok own held' copied' clean

/-- **What the steps of a writer do on paper follows what they do in memory**, and so does what all
its operations do. -/
theorem transcribes_composes (faithful : Faithful memory) (encodes : Encodes letters paper) :
    Composes fun {α : Type} (a : Work Memory α) (b : Work Files.Handle α) =>
      Transcribes letters memory paper path a b where
  answer x := ⟨Keeps.pure x, .ok⟩
  follow first second := first.bind second
  look each :=
    { keeps := Keeps.get fun w =>
        (each w ⟨Files.Handle.atStart (.device .null), w.stream.tree, w.stream.journal⟩ none).keeps
      copies := fun own held copied clean => (each _ _ _).copies own held copied clean }
  change {f g} beside same :=
    { keeps := Keeps.modify beside
      copies := by
        intro w d t own held copied clean
        obtain ⟨stream, named⟩ := beside w
        rw [modify_apply, modify_apply, same]
        rw [← stream] at held
        exact .ok (named.trans own) held copied clean }
  refuse op reason :=
    { keeps := (stray_bides faithful letters).refuse op reason
      copies := by
        intro w d t own held copied clean
        rw [refuse, refuse, failure_onto own]
        exact .error held copied clean }
  escape v :=
    { keeps := escaped_keeps (stray_bides faithful letters).toGuards v
      copies := by
        intro w d t own held copied clean
        unfold escaped
        cases escapeValue v with
        | ok cs => exact .ok own held copied clean
        | error f => exact .error held copied clean }
  write op u writes := emit_transcribes faithful encodes writes u
  flush op _ := flush_transcribes faithful encodes op

/-- What is said need not be the same: it is no part of the text. -/
theorem say_transcribes (faithful : Faithful memory) (speaker : Log.Speaker) (level : Log.Level)
    (template : String) (arguments arguments' : List Value) :
    Transcribes letters memory paper path (say speaker level template arguments)
      (say speaker level template arguments') where
  keeps := (stray_bides faithful letters).say speaker level template arguments
  copies own held copied clean :=
    .ok own (holds_said held speaker level template arguments)
      (holds_said copied speaker level template arguments') clean

theorem throw_transcribes (faithful : Faithful memory) {f : Fault} (goesOn : f.isStop = false) :
    Transcribes letters memory paper path (throw (.fault f) : Work Memory α)
      (throw (.fault f)) where
  keeps := throw_keeps (stray_bides faithful letters) goesOn
  copies _ held copied clean := .error held copied clean

/-- An address is looked up with the same result, although the trees need not be the same. -/
theorem lookUpAddress_transcribes {o : Order} (faithful : Faithful memory)
    (encodes : Encodes o.letters paper) {interface : String} {found : Found}
    (seen : ∀ p tree t, memory (p, tree) t → o.found tree interface = found)
    (seen' : ∀ p tree t, paper (p, tree) t → o.found tree interface = found) :
    Transcribes o.letters memory paper path (lookUpAddress o.letters o.interfaces interface)
      (lookUpAddress o.letters o.interfaces interface) where
  keeps := lookUpAddress_keeps (stray_bides faithful o.letters) o.letters o.interfaces interface
  copies := by
    intro w d t own held copied clean
    have same : o.found w.stream.tree interface = o.found d.tree interface :=
      (seen _ _ _ held.1).trans (seen' _ _ _ copied.1).symm
    have answers : Transcribes o.letters memory paper path
        (pure none : Work Memory (Option String)) (pure none : Work Files.Handle (Option String)) :=
      (transcribes_composes faithful encodes).answer none
    unfold lookUpAddress theTree
    unfold Order.found at same
    simp only [bind_assoc, pure_bind, get_bind, Writer.onto]
    cases here : Network.lookUp o.letters w.stream.tree o.interfaces interface with
    | error f =>
      cases there : Network.lookUp o.letters d.tree o.interfaces interface with
      | error f' =>
        rw [here, there] at same
        obtain rfl := Except.error.inj same
        exact .error held copied clean
      | ok finding =>
        rw [here, there] at same
        cases same
    | ok finding =>
      cases there : Network.lookUp o.letters d.tree o.interfaces interface with
      | error f =>
        rw [here, there] at same
        cases same
      | ok finding' =>
        rw [here, there] at same
        cases finding with
        | address text =>
          cases finding' with
          | address text' =>
            have texts : String.ofList text = String.ofList text' :=
              Option.some.inj (Except.ok.inj same)
            simp only [texts]
            exact .ok own held copied clean
          | unreadable path why => cases same
        | unreadable unread why =>
          cases finding' with
          | address text => cases same
          | unreadable unread' why' =>
            refine Transcribes.copies (.bind ?_ fun _ => answers) own held copied clean
            exact say_transcribes faithful networkLogger Log.debug
              "No MAC address for %s (%s): %s"
              [.text interface, .text unread.toString, .text why.message]
              [.text interface, .text unread'.toString, .text why'.message]

/-- **A document on paper is the document in memory, copied as far as it can be encoded.** -/
theorem write_transcribes {o : Order} {found : String → Found} (faithful : Faithful memory)
    (encodes : Encodes o.letters paper) (sees : Sees memory o found) (sees' : Sees paper o found) :
    Transcribes o.letters memory paper path (write o) (write o) := by
  have pervades : Pervades o fun {α : Type} (a : Work Memory α) (b : Work Files.Handle α) =>
      Transcribes o.letters memory paper path a b :=
    { transcribes_composes faithful encodes with
      say := fun speaker level template arguments =>
        say_transcribes faithful speaker level template arguments arguments
      lookUp := fun i listed =>
        lookUpAddress_transcribes faithful encodes (sees i listed) (sees' i listed)
      missingPort := throw_transcribes faithful rfl }
  exact write_pervaded pervades

end
end Document
end MachineDescriptor
