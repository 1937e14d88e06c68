import MachineDescriptor.Proofs.Strokes
import MachineDescriptor.Proofs.Tapes

/-!
Scripts on a stream that rejects a write. What is on the stream at the end are the texts that the
same script puts on a tape, up to the first that the stream did not accept. Up to there every step
comes to the same, and the step that puts the rejected text reports which operation put it.
-/
namespace MachineDescriptor.Xml

variable {flushFails : Bool}

/-! ## What is put on a tape -/

/-- The operation that puts the texts of a stroke. The end of the document puts none but those of
the elements that it closes, and neither closing a writer nor asking for its text puts any. -/
def Stroke.operation : Stroke → Operation
  | .startDocument => .startDocument
  | .endElement | .endDocument => .endElement
  | .close | .value => .closing
  | .comment _ => .comment
  | .startElement _ => .startElement
  | .setAttribute .. => .setAttribute
  | .text _ => .text

/-- The texts that a stroke puts on the tape of a writer, each with the operation that puts it. -/
def Stroke.puts (p : Stroke) (w : Writer (Tape flushFails)) : List (Operation × String) :=
  ((writerAfter (p.run w)).stream.texts.drop w.stream.texts.length).map (p.operation, ·)

/-- The texts that strokes put on a tape up to the first stroke that fails. -/
def strokePuts : List Stroke → Writer (Tape flushFails) → List (Operation × String)
  | [], _ => []
  | p :: rest, w =>
    p.puts w ++
      match p.run w with
      | .ok _ v => strokePuts rest v
      | .error _ _ => []

/-- The texts that a script puts on a tape. -/
def scriptPuts : List Step → Writer (Tape flushFails) → List (Operation × String)
  | [], _ => []
  | s :: rest, w => strokePuts s.strokes w ++ scriptPuts rest (outcomeOf s.run w).2

/-! ## Strokes on both streams -/

variable {n : Nat}

theorem Stroke.run_mirrors {p : Stroke} (other : p ≠ .close) :
    Mirrors n p.operation (p.run : Action (Tape flushFails) (Option String)) p.run := by
  cases p with
  | startDocument => exact silently_mirrors startDocument_mirrors
  | endElement => exact silently_mirrors endElement_mirrors
  | endDocument => exact silently_mirrors endDocument_mirrors
  | close => exact absurd rfl other
  | value => exact Mirrors.bind contents_mirrors fun s => Mirrors.pure _
  | comment s => exact silently_mirrors (comment_mirrors s)
  | startElement name => exact silently_mirrors (startElement_mirrors name)
  | setAttribute name v => exact silently_mirrors (setAttribute_mirrors name v)
  | text v => exact silently_mirrors (text_mirrors v)

theorem close_run {σ : Type} [Stream σ] {w : Writer σ} (memory : w.path = none) :
    Stroke.close.run w = .ok none w := by
  simp only [Stroke.run, silently, bind_of_ok (close_of_no_path memory)]
  rfl

theorem Stroke.run_grows (p : Stroke) {w : Writer (Tape flushFails)} (memory : w.path = none) :
    w.stream.texts <+: (writerAfter (p.run w)).stream.texts := by
  by_cases closes : p = .close
  · rw [closes, close_run memory]
    exact List.prefix_rfl
  · exact (Stroke.run_mirrors (n := 0) closes).grows w

theorem Stroke.run_mirrored (p : Stroke) {w : Writer (Tape flushFails)} (memory : w.path = none)
    (room : w.stream.texts.length ≤ n) :
    Mirrored n (· = p.operation) (p.run w) (p.run (w.limited n)) := by
  by_cases closes : p = .close
  · rw [closes, close_run memory, close_run (w := w.limited n) memory]
    exact .fits room rfl
  · exact (Stroke.run_mirrors closes).mirrored w room

theorem Stroke.texts_puts (p : Stroke) {w : Writer (Tape flushFails)} (memory : w.path = none) :
    (writerAfter (p.run w)).stream.texts = w.stream.texts ++ (p.puts w).map Prod.snd := by
  conv => lhs; rw [← List.prefix_iff_eq_append.mp (p.run_grows memory)]
  simp [Stroke.puts, Function.comp_def]

theorem Stroke.puts_getElem? {p : Stroke} {w : Writer (Tape flushFails)} {i : Nat}
    (inside : i < (p.puts w).length) : ∃ s, (p.puts w)[i]? = some (p.operation, s) := by
  simp only [Stroke.puts, List.length_map] at inside
  exact ⟨_, by rw [Stroke.puts, List.getElem?_map, List.getElem?_eq_getElem inside]; rfl⟩

theorem runStrokes_texts (strokes : List Stroke) (answer : Option String)
    {w : Writer (Tape flushFails)} (memory : w.path = none) :
    (writerAfter (runStrokes strokes answer w)).stream.texts =
      w.stream.texts ++ (strokePuts strokes w).map Prod.snd := by
  induction strokes generalizing answer w with
  | nil => exact (List.append_nil _).symm
  | cons p rest ih =>
    have texts := p.texts_puts memory
    have stays := p.run_stays.path_eq memory trivial
    rw [runStrokes_cons, strokePuts]
    cases result : p.run w with
    | ok next v =>
      rw [result] at texts stays
      simp only [writerAfter] at texts stays
      rw [bind_of_ok result, ih next stays]
      simp only [texts, List.map_append, List.append_assoc]
    | error e v =>
      rw [result] at texts
      rw [bind_of_error result, List.append_nil]
      exact texts

/-- Strokes on a limited stream come to the same as on the tape if all their texts fit, and else
they fail at the operation that puts the first text that does not fit. -/
theorem runStrokes_mirrored (strokes : List Stroke) (answer : Option String)
    {w : Writer (Tape flushFails)} (memory : w.path = none) (room : w.stream.texts.length ≤ n) :
    Mirrored n (fun op => ∃ s, (strokePuts strokes w)[n - w.stream.texts.length]? = some (op, s))
      (runStrokes strokes answer w) (runStrokes strokes answer (w.limited n)) := by
  induction strokes generalizing answer w with
  | nil => exact .fits room rfl
  | cons p rest ih =>
    have texts := p.texts_puts memory
    have stays := p.run_stays.path_eq memory trivial
    have first : Mirrored n
        (fun op => ∃ s, (strokePuts (p :: rest) w)[n - w.stream.texts.length]? = some (op, s))
        (p.run w) (p.run (w.limited n)) := by
      refine (p.run_mirrored memory room).imp fun full op blame => ?_
      obtain rfl := blame
      have inside : n - w.stream.texts.length < (p.puts w).length := by
        rw [texts, List.length_append, List.length_map] at full
        omega
      rw [strokePuts, List.getElem?_append_left inside]
      exact Stroke.puts_getElem? inside
    rw [runStrokes_cons, runStrokes_cons]
    refine first.bind (fun next v result => ?_) fun next v result room' => ?_
    · rw [result] at stays
      exact ⟨_, (runStrokes_texts rest next stays).symm⟩
    · rw [result] at texts stays
      refine (ih next stays room').imp fun _ op ⟨s, blame⟩ => ⟨s, ?_⟩
      simp only [writerAfter] at texts
      have later : n - w.stream.texts.length =
          (p.puts w).length + (n - v.stream.texts.length) := by
        rw [texts, List.length_append, List.length_map] at room' ⊢
        omega
      rw [strokePuts, result, later, List.getElem?_append_right (Nat.le_add_right ..),
        Nat.add_sub_cancel_left]
      exact blame

/-! ## Steps on both streams -/

/-- The texts that a step puts on the tape of a writer. -/
theorem step_texts {s : Step} (own : s.isOwn = true) {w : Writer (Tape flushFails)}
    (memory : w.path = none) :
    (outcomeOf s.run w).2.stream.texts =
      w.stream.texts ++ (strokePuts s.strokes w).map Prod.snd := by
  rw [outcomeOf_snd, run_strokes s own none w memory]
  exact runStrokes_texts s.strokes none memory

theorem step_stays {σ : Type} [Stream σ] {s : Step} (own : s.isOwn = true) {w : Writer σ}
    (memory : w.path = none) : (outcomeOf s.run w).2.path = none := by
  rw [outcomeOf_snd, run_strokes s own none w memory]
  exact (runStrokes_stays s.strokes none).path_eq memory trivial

/-- What comes of a step on a limited stream: the same as on the tape if the texts of the step fit,
and else the report about the first that does not. -/
inductive Limited (n : Nat) (s : Step) (w : Writer (Tape flushFails)) : Prop
  | fits (room : (outcomeOf s.run w).2.stream.texts.length ≤ n)
      (same : outcomeOf s.run (w.limited n) =
        ((outcomeOf s.run w).1, (outcomeOf s.run w).2.limited n))
  | rejected (full : n < (outcomeOf s.run w).2.stream.texts.length) (op : Operation) (u : String)
      (beyond : (strokePuts s.strokes w)[n - w.stream.texts.length]? = some (op, u))
      (v : Writer Memory) (memory : v.path = none)
      (stream : v.stream = (outcomeOf s.run w).2.stream.limited n)
      (failed : outcomeOf s.run (w.limited n) = (.error (v.overrun op), v))

theorem step_limited {s : Step} (own : s.isOwn = true) {w : Writer (Tape flushFails)}
    (memory : w.path = none) (room : w.stream.texts.length ≤ n) : Limited n s w := by
  have stays := step_stays own (w := w.limited n) memory
  have mirrored := runStrokes_mirrored s.strokes none memory room
  rw [← run_strokes s own none w memory, ← run_strokes s own none (w.limited n) memory] at mirrored
  rcases mirrored with ⟨room', same⟩ | ⟨full, op, ⟨u, beyond⟩, v, stream, failed⟩
  · refine .fits (by rwa [outcomeOf_snd]) ?_
    simp only [outcomeOf, same]
    cases s.run w <;> rfl
  · have outcome : outcomeOf s.run (w.limited n) = (.error (v.overrun op), v) := by
      simp only [outcomeOf, failed]
    rw [outcome] at stays
    exact .rejected (by rwa [outcomeOf_snd]) op u beyond v stays (by rwa [outcomeOf_snd])
      outcome

/-! ## Scripts on both streams -/

/-- What is seen after a step. -/
def sightOf {σ : Type} [Stream σ] (s : Step) (w : Writer σ) : Sight :=
  ⟨(outcomeOf s.run w).1, addedSince (lengthOf w.stream) (outcomeOf s.run w).2.stream,
    (outcomeOf s.run w).2.location, (outcomeOf s.run w).2.depth⟩

theorem perform_cons {σ : Type} [Stream σ] (s : Step) (rest : List Step) (w : Writer σ) :
    perform (s :: rest) w =
      (sightOf s w :: (perform rest (outcomeOf s.run w).2).1,
        (perform rest (outcomeOf s.run w).2).2) := rfl

theorem perform_texts {steps : List Step} (own : Step.allOwn steps = true)
    {w : Writer (Tape flushFails)} (memory : w.path = none) :
    (perform steps w).2.stream.texts = w.stream.texts ++ (scriptPuts steps w).map Prod.snd := by
  induction steps generalizing w with
  | nil => exact (List.append_nil _).symm
  | cons s rest ih =>
    obtain ⟨first, others⟩ := (Bool.and_eq_true _ _).mp own
    rw [perform_cons, ih others (step_stays first memory), step_texts first memory, scriptPuts,
      List.map_append, List.append_assoc]

theorem guards_spent {m : Memory} (spent : m.accepts = some 0) :
    Guards (· = m) (fun _ s => s = m) none where
  write op u w memory kept := by
    subst kept
    simp only [onStream, Stream.write, Memory.write, spent]
    exact ⟨rfl, memory⟩
  flush op w memory kept := by
    subst kept
    simp only [onStream, Stream.flush, Memory.flush]
    cases w.stream.flushFails <;> exact ⟨rfl, memory⟩
  refuse op reason w memory kept := ⟨kept, memory⟩
  fault _ kept := kept

/-- Nothing gets onto a stream that accepts no more writes. -/
theorem perform_spent {steps : List Step} (own : Step.allOwn steps = true) {w : Writer Memory}
    (memory : w.path = none) (spent : w.stream.accepts = some 0) :
    (perform steps w).2.stream = w.stream := by
  induction steps generalizing w with
  | nil => rfl
  | cons s rest ih =>
    obtain ⟨first, others⟩ := (Bool.and_eq_true _ _).mp own
    have same : (outcomeOf s.run w).2.stream = w.stream := by
      have told : Keeps (· = w.stream) (fun _ s => s = w.stream) none
          (contents : Action Memory String) := by
        intro w' memory' kept
        unfold contents
        cases Stream.value w'.stream <;> exact ⟨kept, memory'⟩
      have left := runStrokes_keeps (guards_spent spent) told s.strokes none w memory rfl
      rw [outcomeOf_snd, run_strokes s first none w memory]
      cases result : runStrokes s.strokes none w <;> rw [result] at left <;> exact left.1
    rw [perform_cons, ih others (step_stays first memory) (same ▸ spent), same]

/-- The stream at the end has got the texts of the tape that fit. -/
theorem perform_stream {steps : List Step} (own : Step.allOwn steps = true)
    {w : Writer (Tape flushFails)} (memory : w.path = none) (room : w.stream.texts.length ≤ n) :
    (perform steps (w.limited n)).2.stream = (perform steps w).2.stream.limited n := by
  induction steps generalizing w with
  | nil => rfl
  | cons s rest ih =>
    obtain ⟨first, others⟩ := (Bool.and_eq_true _ _).mp own
    have stays := step_stays first memory
    rw [perform_cons, perform_cons]
    cases step_limited first memory room with
    | fits room' same =>
      rw [same]
      exact ih others stays room'
    | rejected full op u _ v memory' stream failed =>
      have spent : v.stream.accepts = some 0 := by
        rw [stream, Tape.limited, Nat.sub_eq_zero_of_le (Nat.le_of_lt full)]
      have grown := perform_texts others stays
      rw [failed, perform_spent others memory' spent, stream]
      exact (Tape.limited_of_prefix (Nat.le_of_lt full) ⟨_, grown.symm⟩).symm

/-- A script is seen to do the same on a limited stream up to the step that puts the first text
that does not fit, and that step reports which operation put the text. -/
inductive SeenTo (n : Nat) (steps : List Step) (w : Writer (Tape flushFails)) : Prop
  | theEnd (fits : (scriptPuts steps w).length ≤ n - w.stream.texts.length)
      (same : (perform steps (w.limited n)).1 = (perform steps w).1)
  | rejection (before : List Step) (s : Step) (after : List Step)
      (split : steps = before ++ s :: after)
      (fits : (scriptPuts before w).length ≤ n - w.stream.texts.length)
      (full : n - w.stream.texts.length < (scriptPuts (before ++ [s]) w).length)
      (same : (perform steps (w.limited n)).1.take before.length =
        (perform steps w).1.take before.length)
      (op : Operation) (u : String)
      (beyond : (scriptPuts steps w)[n - w.stream.texts.length]? = some (op, u))
      (v : Writer Memory) (memory : v.path = none) (sight : Sight)
      (seen : (perform steps (w.limited n)).1[before.length]? = some sight)
      (failed : sight.outcome = .error (v.overrun op))

theorem perform_seenTo {steps : List Step} (own : Step.allOwn steps = true)
    {w : Writer (Tape flushFails)} (memory : w.path = none) (room : w.stream.texts.length ≤ n) :
    SeenTo n steps w := by
  induction steps generalizing w with
  | nil => exact .theEnd (Nat.zero_le _) rfl
  | cons s rest ih =>
    obtain ⟨first, others⟩ := (Bool.and_eq_true _ _).mp own
    have stays := step_stays first memory
    have texts := step_texts first memory
    cases step_limited first memory room with
    | fits room' same =>
      have seen : sightOf s (w.limited n) = sightOf s w := by
        simp only [sightOf, same, lengthOf, addedSince, stream_limited, Tape.value_limited room,
          Tape.value_limited room']
        rfl
      have count : n - w.stream.texts.length =
          (strokePuts s.strokes w).length +
            (n - (outcomeOf s.run w).2.stream.texts.length) := by
        rw [texts, List.length_append, List.length_map] at room' ⊢
        omega
      cases ih others stays room' with
      | theEnd fits same' =>
        refine .theEnd ?_ ?_
        · rw [scriptPuts, List.length_append]
          omega
        · rw [perform_cons, perform_cons, same, seen, same']
      | rejection before s' after split fits full same' op u beyond v memory' sight seen' failed =>
        refine .rejection (s :: before) s' after (by rw [split]; rfl) ?_ ?_ ?_ op u ?_ v memory'
          sight ?_ failed
        · rw [scriptPuts, List.length_append]
          omega
        · rw [List.cons_append, scriptPuts, List.length_append]
          omega
        · rw [perform_cons, perform_cons, same, seen]
          simp only [List.length_cons, List.take_succ_cons, same']
        · rw [scriptPuts, count, List.getElem?_append_right (Nat.le_add_right ..),
            Nat.add_sub_cancel_left]
          exact beyond
        · rw [perform_cons, same]
          exact seen'
    | rejected full op u beyond v memory' stream failed =>
      have inside : n - w.stream.texts.length < (strokePuts s.strokes w).length := by
        rw [texts, List.length_append, List.length_map] at full
        omega
      refine .rejection [] s rest rfl (Nat.zero_le _) ?_ rfl op u ?_ v memory'
        (sightOf s (w.limited n)) rfl ?_
      · rw [List.nil_append, scriptPuts, scriptPuts, List.append_nil]
        exact inside
      · rw [scriptPuts, List.getElem?_append_left inside]
        exact beyond
      · rw [sightOf, failed]

theorem overrun_eq {σ : Type} {w : Writer σ} (memory : w.path = none) (op : Operation) :
    ∃ r, w.overrun op = .report r ∧ r.kind = .writer ∧
      r.cause = some (Fault.refused .noSpace).asCause ∧
      r.context.entries = [("op", .text op.name), ("where", .text w.location)] := by
  refine ⟨_, rfl, rfl, rfl, ?_⟩
  simp only [Writer.contextOf, memory, Report.ofMessage]
  rfl

/-- **A stream that rejects a write gets the texts before it and no more.** A script that leaves the
stream to the writer is run on a tape and on a stream that accepts only so many writes. The stream
ends with the first texts of the tape. If all fit, every step is seen to do the same on both. If
not, the steps before that of the first text beyond are seen to do the same, and that step fails
with a report whose cause is the refusal and which names the operation that put the text. -/
theorem perform_limited (flushFails : Bool) (indent : String) (n : Nat) (steps : List Step)
    (own : Step.allOwn steps = true) :
    let tape : Writer (Tape flushFails) := Writer.inMemory ⟨[]⟩ indent
    let free := perform steps tape
    let tight := perform steps (Writer.inMemory (Memory.mk "" (some n) flushFails false) indent)
    let puts := scriptPuts steps tape
    free.2.stream.texts = puts.map Prod.snd ∧
    tight.2.stream.text = String.join ((puts.map Prod.snd).take n) ∧
    (puts.length ≤ n → tight.1 = free.1) ∧
    ∀ op text, puts[n]? = some (op, text) →
      ∃ before s after, steps = before ++ s :: after ∧
        (scriptPuts before tape).length ≤ n ∧ n < (scriptPuts (before ++ [s]) tape).length ∧
        tight.1.take before.length = free.1.take before.length ∧
        ∃ sight r, tight.1[before.length]? = some sight ∧ sight.outcome = .error (.report r) ∧
          r.kind = .writer ∧ r.cause = some (Fault.refused .noSpace).asCause ∧
          r.context.entries.lookup "op" = some (.text op.name) := by
  intro tape free tight puts
  have memory : tape.path = none := rfl
  have room : tape.stream.texts.length ≤ n := Nat.zero_le n
  have start : Writer.inMemory (Memory.mk "" (some n) flushFails false) indent =
      tape.limited n := by
    simp only [tape, Writer.inMemory, Writer.fresh, Writer.limited, Tape.limited, List.take_nil]
    rfl
  have texts : free.2.stream.texts = puts.map Prod.snd := perform_texts own memory
  have stream : tight.2.stream = free.2.stream.limited n := by
    simp only [tight, start]
    exact perform_stream own memory room
  refine ⟨texts, by rw [stream, Tape.limited, texts], ?_, ?_⟩
  · intro fits
    cases perform_seenTo own memory room with
    | theEnd _ same =>
      simp only [tight, start]
      exact same
    | rejection before s after split _ full same op text beyond =>
      obtain ⟨inside, -⟩ := List.getElem?_eq_some_iff.mp beyond
      exact absurd fits (Nat.not_le_of_lt inside)
  · intro op text beyond
    cases perform_seenTo own memory room with
    | theEnd fits =>
      obtain ⟨inside, -⟩ := List.getElem?_eq_some_iff.mp beyond
      exact absurd fits (Nat.not_le_of_lt inside)
    | rejection before s after split fits full same op' text' beyond' v memory' sight seen failed =>
      obtain ⟨rfl, -⟩ : op' = op ∧ text' = text :=
        Prod.mk.inj (Option.some.inj (beyond'.symm.trans beyond))
      obtain ⟨r, report, kind, cause, context⟩ := overrun_eq memory' op'
      simp only [tight, start]
      refine ⟨before, s, after, split, fits, full, same, sight, r, seen, ?_, kind, cause, ?_⟩
      · rw [failed, report]
      · rw [context]
        rfl

/-- A script with nested elements, of which one step fails on every stream. -/
def nestedScript : List Step :=
  [.startDocument, .endElement,
    .element "a" (Context.ofList [("k", .text "v")])
      [.comment "x", .closing [.singleElement "b" (.text "t")], .value],
    .endDocument]

theorem perform_limited_nested :
    Step.allOwn nestedScript = true ∧
    ∃ before s after, nestedScript = before ++ s :: after ∧
      ∃ sight r, (perform nestedScript
          (Writer.inMemory (Memory.mk "" (some 5) false false) "  ")).1[before.length]? =
          some sight ∧
        sight.outcome = .error (.report r) ∧
        r.context.entries.lookup "op" = some (.text "start_element") := by
  have own : Step.allOwn nestedScript = true := by decide
  obtain ⟨-, -, -, rejected⟩ := perform_limited false "  " 5 nestedScript own
  obtain ⟨before, s, after, split, -, -, -, sight, r, seen, failed, -, -, op⟩ :=
    rejected .startElement "  <b" (by decide)
  exact ⟨own, before, s, after, split, sight, r, seen, failed, op⟩

end MachineDescriptor.Xml
