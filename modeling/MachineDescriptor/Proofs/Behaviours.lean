import MachineDescriptor.Proofs.Preserving

/-!
Writers on streams that behave in any way. A behaviour says of each request to a stream whether it
is rejected, given all the requests before it; that is everything that a writer can learn of its
stream. Acts are calls that are made whether or not those before them failed. Whatever the acts and
whatever the behaviour, the open elements stay sound and at most one root element is opened; and a
script of steps comes to acts, because a step makes calls up to the first that fails.
-/
namespace MachineDescriptor.Xml

variable {σ : Type} [Stream σ] {intact : σ → Prop} {w v : Writer σ}

/-! ## Acts -/

/-- A call of a single operation of a writer, or the end of its stream without the writer. -/
inductive Act where
  | call (p : Stroke)
  | closeStream

def Act.run : Act → Action σ (Option String)
  | .call p => p.run
  | .closeStream => silently Xml.closeStream

/-- The writer after acts, each of them made whether or not those before it failed. -/
def afterActs (acts : List Act) (w : Writer σ) : Writer σ :=
  acts.foldl (fun w a => writerAfter (a.run w)) w

theorem afterActs_append (acts more : List Act) (w : Writer σ) :
    afterActs (acts ++ more) w = afterActs more (afterActs acts w) := List.foldl_append

theorem Act.run_course (remembers : Remembers intact) (a : Act) (w : Writer σ) :
    Course intact w (writerAfter (a.run w)) := by
  cases a with
  | call p => exact p.run_course remembers w
  | closeStream =>
    rw [Act.run, writerAfter_silently]
    exact (closeStream_course remembers w).after

theorem afterActs_course (remembers : Remembers intact) (acts : List Act) (w : Writer σ) :
    Course intact w (afterActs acts w) := by
  induction acts generalizing w with
  | nil => exact .refl
  | cons a rest ih => exact (a.run_course remembers w).trans (ih _)

/-! ## Root elements -/

/-- Whether a root element was opened on the way from one writer to the next. -/
def opensRoot (w v : Writer σ) : Bool := w.stack.isEmpty && !v.stack.isEmpty

/-- How many root elements are opened by acts. -/
def rootsOpened : List Act → Writer σ → Nat
  | [], _ => 0
  | a :: rest, w =>
    (opensRoot w (writerAfter (a.run w))).toNat + rootsOpened rest (writerAfter (a.run w))

omit [Stream σ] in
/-- A root element that is opened is the first. -/
theorem opensRoot_add_le (course : Course intact w v) (sound : Sound intact v) :
    (opensRoot w v).toNat + w.hasRoot.toNat ≤ v.hasRoot.toNat := by
  cases opens : opensRoot w v with
  | false =>
    cases root : w.hasRoot with
    | false => exact Nat.zero_le _
    | true =>
      rw [hasRoot_course course root]
      exact Nat.le_refl 1
  | true =>
    obtain ⟨outside, inside⟩ : w.stack = [] ∧ v.stack ≠ [] := by
      simpa [opensRoot] using opens
    have first : w.hasRoot = false := by
      apply Bool.eq_false_iff.mpr
      intro root
      exact inside (rootless_course course root outside)
    rw [first, (sound.within inside).2.2]
    exact Nat.le_refl 1

theorem rootsOpened_add_le (remembers : Remembers intact) (acts : List Act)
    (sound : Sound intact w) : rootsOpened acts w + w.hasRoot.toNat ≤ 1 := by
  induction acts generalizing w with
  | nil =>
    rw [rootsOpened, Nat.zero_add]
    exact Bool.toNat_le _
  | cons a rest ih =>
    have course := a.run_course remembers w
    have next := sound.course course
    have first := opensRoot_add_le course next
    have others := ih next
    rw [rootsOpened]
    omega

/-! ## Scripts come to acts -/

/-- A script comes to acts. -/
theorem perform_acts (script : List Step) (w : Writer σ) :
    ∃ acts, (perform script w).2 = afterActs acts w := by
  have made : ∀ a : Act, Preserves (fun v => ∃ acts, v = afterActs acts w) a.run := by
    rintro a v ⟨acts, rfl⟩
    apply turns_of_after
    refine ⟨acts ++ [a], ?_⟩
    rw [afterActs_append]
    rfl
  have ends : EndsPreserve fun v => ∃ acts, v = afterActs acts w := by
    constructor
    · exact Preserves.of_silently (made (.call .close))
    · exact Preserves.of_silently (made .closeStream)
  apply perform_preserves ends
  · intro p _
    exact made (.call p)
  · exact ⟨[], rfl⟩

/-! ## Streams that behave in any way -/

/-- A request to a stream. -/
inductive Request where
  | write (text : String)
  | flush
  | close
deriving DecidableEq

/-- How a stream behaves: the fault with which it rejects the last of its requests if it does,
whether it is closed, and its text where that can be told. Requests are given from the last to the
first. -/
structure Behaviour where
  fault? : List Request → Option Fault
  isClosed : List Request → Bool
  value : List Request → Except Fault String

/-- A stream with a behaviour, which keeps its requests from the last to the first. -/
structure Watched (b : Behaviour) where
  asked : List Request

namespace Watched

variable {b : Behaviour}

def ask (r : Request) : EStateM Fault (Watched b) Unit := fun s =>
  match b.fault? (r :: s.asked) with
  | none => .ok () ⟨r :: s.asked⟩
  | some f => .error f ⟨r :: s.asked⟩

instance : Stream (Watched b) where
  write u := ask (.write u)
  flush := ask .flush
  close := ask .close
  isClosed s := b.isClosed s.asked
  value s := b.value s.asked

/-- No text was rejected so far. -/
def AllWritten (s : Watched b) : Prop :=
  ∀ u before, .write u :: before <:+ s.asked → b.fault? (.write u :: before) = none

theorem AllWritten.before {r : Request} {s : Watched b}
    (all : AllWritten (⟨r :: s.asked⟩ : Watched b)) : s.AllWritten := by
  intro u before asked
  exact all u before (asked.trans (List.suffix_cons r s.asked))

theorem streamAfter_ask (r : Request) (s : Watched b) :
    streamAfter (ask r s) = ⟨r :: s.asked⟩ := by
  unfold ask
  cases b.fault? (r :: s.asked) <;> rfl

theorem remembers_allWritten : Remembers (AllWritten : Watched b → Prop) where
  wrote {u s s'} written all := by
    have asked := streamAfter_ask (.write u) s
    rw [show ask (.write u) s = .ok () s' from written] at asked
    obtain rfl : s' = ⟨.write u :: s.asked⟩ := asked
    exact all.before
  rejected {u s f s'} failed all := by
    have asked := streamAfter_ask (.write u) s
    rw [show ask (.write u) s = .error f s' from failed] at asked
    obtain rfl : s' = ⟨.write u :: s.asked⟩ := asked
    have accepted := all u s.asked (List.suffix_refl _)
    simp only [Stream.write, ask, accepted] at failed
    cases failed
  flushed s all := by
    have asked : streamAfter (Stream.flush s) = ⟨.flush :: s.asked⟩ := streamAfter_ask .flush s
    rw [asked] at all
    exact all.before
  shut s all := by
    have asked : streamAfter (Stream.close s) = ⟨.close :: s.asked⟩ := streamAfter_ask .close s
    rw [asked] at all
    exact all.before

end Watched

open Watched (AllWritten)

/-- A writer at the start of its document, on a stream with a behaviour. -/
def Behaviour.writer (b : Behaviour) (indent : String) (path : Option String) :
    Writer (Watched b) :=
  .fresh ⟨[]⟩ indent path

omit [Stream σ] in
theorem Sound.fresh (s : σ) (indent : String) (path : Option String) :
    Sound intact (Writer.fresh s indent path) where
  marks := List.forall_mem_nil _
  marked _ := List.forall_mem_nil _
  outer := List.forall_mem_nil _
  named := List.forall_mem_nil _
  within inside := absurd rfl inside
  ended past := by cases past

/-- **The open elements stay sound.** Whatever is rejected by the stream, after any acts the open
elements of a writer are sound, at most one root element was opened, and the document does not lose
its root element again; and so it is after any script. -/
theorem writer_sound (b : Behaviour) (indent : String) (path : Option String) :
    (∀ acts, Sound AllWritten (afterActs acts (b.writer indent path)) ∧
      rootsOpened acts (b.writer indent path) ≤ 1 ∧
      ∀ more, (afterActs acts (b.writer indent path)).hasRoot = true →
        (afterActs (acts ++ more) (b.writer indent path)).hasRoot = true) ∧
    ∀ script : List Step, ∃ acts,
      (perform script (b.writer indent path)).2 = afterActs acts (b.writer indent path) := by
  have fresh : Sound AllWritten (b.writer indent path) := Sound.fresh _ indent path
  have remembers : Remembers (AllWritten : Watched b → Prop) := Watched.remembers_allWritten
  constructor
  · intro acts
    refine ⟨fresh.course (afterActs_course remembers acts _), ?_, ?_⟩
    · exact rootsOpened_add_le remembers acts fresh
    · intro more root
      rw [afterActs_append]
      exact hasRoot_course (afterActs_course remembers more _) root
  · intro script
    exact perform_acts script _

/-- The behaviour of a stream that rejects its third request. -/
def rejectsThird : Behaviour where
  fault? asked := if asked.length = 3 then some (.refused .noSpace) else none
  isClosed _ := false
  value _ := .error .notInMemory

/-- The end of a start tag is rejected, and the element is left without a mark. -/
def tornActs : List Act :=
  [.call .startDocument, .call (.startElement "a"), .call (.text (.text "x"))]

theorem writer_sound_torn :
    (afterActs tornActs (rejectsThird.writer defaultIndent none)).stack =
      [⟨"a", false, false, false⟩] ∧
    Sound AllWritten (afterActs tornActs (rejectsThird.writer defaultIndent none)) ∧
    (afterActs tornActs (rejectsThird.writer defaultIndent none)).hasRoot = true ∧
    (afterActs (tornActs ++ [.call .endDocument])
      (rejectsThird.writer defaultIndent none)).hasRoot = true := by
  obtain ⟨sound, -, keeps⟩ := (writer_sound rejectsThird defaultIndent none).1 tornActs
  have root : (afterActs tornActs (rejectsThird.writer defaultIndent none)).hasRoot = true := by
    decide
  exact ⟨by decide, sound, root, keeps _ root⟩

end MachineDescriptor.Xml
