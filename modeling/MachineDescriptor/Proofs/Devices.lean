import MachineDescriptor.Proofs.Remains

/-!
Devices in the place of a file. One of them swallows everything, so that a document comes to the
same on it as in memory, as far as it can be encoded. The other is always full: what waits for it stays in wait until it is
handed over and refused, at the latest when the file is closed. Neither changes the tree.
-/
namespace MachineDescriptor

namespace Files.Handle

/-- An open file that leads to a device, in a tree that is left as it is. -/
structure Faces (device : Device) (letters : Text.Letters) (tree : Tree) (p : Placed) : Prop where
  target : p.1.target = .device device
  letters : p.1.letters = letters
  isOpen : p.1.closed = false
  same : p.2 = tree

/-- Whether bytes wait in an open file. -/
def Waits (p : Placed) : Prop := p.1.gathered ≠ [] ∨ p.1.buffered ≠ []

/-- A step leaves a file at its device. Only the full device refuses it, and when it does not,
something is known of what waits. -/
def Rests (device : Device) (letters : Text.Letters) (tree : Tree) (waiting : Placed → Prop) :
    EStateM.Result Refusal Placed Unit → Prop
  | .ok _ p => Faces device letters tree p ∧ (device = .full → waiting p)
  | .error _ p => Faces device letters tree p ∧ device = .full

variable {device : Device} {letters : Text.Letters} {tree : Tree} {p : Placed}
  {waiting waiting' : Placed → Prop}

theorem Rests.bind {a : EStateM Refusal Placed Unit} {f : Unit → EStateM Refusal Placed Unit}
    (first : Rests device letters tree waiting (a p))
    (second : ∀ q, Faces device letters tree q → (device = .full → waiting q) →
      Rests device letters tree waiting' (f () q)) :
    Rests device letters tree waiting' ((a >>= f) p) := by
  cases result : a p with
  | ok u q =>
    rw [result] at first
    rw [bind_of_ok result]
    exact second q first.1 first.2
  | error r q =>
    rw [result] at first
    rw [bind_of_error result]
    exact first

theorem Rests.mono {r : EStateM.Result Refusal Placed Unit} (h : Rests device letters tree waiting r)
    (each : device = .full → ∀ q, waiting q → waiting' q) : Rests device letters tree waiting' r := by
  cases r with
  | ok u q => exact ⟨h.1, fun full => each full q (h.2 full)⟩
  | error e q => exact h

theorem deliver_rests (faces : Faces device letters tree p) (bytes : List UInt8) :
    Rests device letters tree (fun q => q = p ∧ bytes = []) (deliver bytes p) := by
  obtain ⟨h, t⟩ := p
  have target : h.target = .device device := faces.target
  cases device with
  | null =>
    simp only [deliver, target]
    exact ⟨faces, fun full => by cases full⟩
  | full =>
    simp only [deliver, target]
    split
    · next none => exact ⟨faces, fun _ => ⟨rfl, List.isEmpty_iff.mp none⟩⟩
    · exact ⟨faces, rfl⟩

theorem drain_rests (faces : Faces device letters tree p) :
    Rests device letters tree (fun q => q = p ∧ p.1.buffered = []) (drain p) := by
  obtain ⟨h, t⟩ := p
  cases buffered : h.buffered with
  | nil =>
    have kept : drain (h, t) = .ok () (h, t) := by
      unfold drain
      rw [get_bind]
      simp only [buffered]
      rfl
    rw [kept]
    exact ⟨faces, fun _ => ⟨rfl, rfl⟩⟩
  | cons b bs =>
    rw [drain_of_cons b bs buffered]
    refine (deliver_rests faces (b :: bs)).bind fun q faces' delivered => ?_
    rw [modify_apply]
    exact ⟨⟨faces'.target, faces'.letters, faces'.isOpen, faces'.same⟩,
      fun full => nomatch (delivered full).2⟩

theorem buffer_rests (faces : Faces device letters tree p) {bytes : List UInt8} (some : bytes ≠ []) :
    Rests device letters tree (fun q => q.1.gathered = p.1.gathered ∧ q.1.buffered ≠ [])
      (buffer bytes p) := by
  obtain ⟨h, t⟩ := p
  rw [buffer_apply]
  split
  · exact ⟨⟨faces.target, faces.letters, faces.isOpen, faces.same⟩, fun _ => ⟨rfl, by simp [some]⟩⟩
  · refine (drain_rests faces).bind fun q faces' drained => ?_
    split
    · exact (deliver_rests faces' bytes).mono fun _ _ none => absurd none.2 some
    · rw [modify_apply]
      refine ⟨⟨faces'.target, faces'.letters, faces'.isOpen, faces'.same⟩, fun full => ⟨?_, some⟩⟩
      rw [(drained full).1]

theorem release_rests (faces : Faces device letters tree p) :
    Rests device letters tree (fun q => q.1.gathered = [] ∧ (Waits p → q.1.buffered ≠ []))
      (release p) := by
  obtain ⟨h, t⟩ := p
  have emptied : Faces device letters tree ({ h with gathered := [] }, t) :=
    ⟨faces.target, faces.letters, faces.isOpen, faces.same⟩
  have step : release (h, t) =
      (if h.gathered.isEmpty then pure () else buffer h.gathered)
        ({ h with gathered := [] }, t) := rfl
  rw [step]
  split
  · next none =>
    refine ⟨emptied, fun _ => ⟨rfl, fun waits => waits.resolve_left fun some => ?_⟩⟩
    exact some (List.isEmpty_iff.mp none)
  · next some =>
    have given : h.gathered ≠ [] := fun none => some (List.isEmpty_iff.mpr none)
    exact (buffer_rests emptied given).mono fun _ q ⟨kept, waits⟩ => ⟨kept, fun _ => waits⟩

theorem encode_ne_nil {s : String} (some : s ≠ "") : Text.Utf8.encode s.toList ≠ [] := by
  intro none
  have characters : s.toList = [] := by
    cases spelled : s.toList with
    | nil => rfl
    | cons c cs =>
      rw [spelled, Text.Utf8.encode, List.flatMap_cons] at none
      have first := (List.append_eq_nil_iff.mp none).1
      have size := String.length_utf8EncodeChar c
      rw [first, List.length_nil] at size
      exact absurd size (Nat.ne_of_lt (Char.utf8Size_pos c))
  exact some (String.toList_eq_nil_iff.mp characters)

theorem write_rests (faces : Faces device letters tree p) (s : String) :
    Rests device letters tree (fun q => Waits p ∨ s ≠ "" → Waits q) (write s p) := by
  rw [write_apply]
  have ready : Rests device letters tree (fun q => Waits p → Waits q)
      ((if !p.1.gathered.isEmpty &&
          blockSize < p.1.gathered.length + (Text.Utf8.encode s.toList).length
        then release else pure ()) p) := by
    split
    · exact (release_rests faces).mono fun _ q ⟨_, waits⟩ before => .inr (waits before)
    · exact ⟨faces, fun _ waits => waits⟩
  refine ready.bind fun q faces₁ kept => ?_
  rw [bind_of_ok (modify_apply _ _), get_bind]
  have faces₂ : Faces device letters tree
      ({ q.1 with gathered := q.1.gathered ++ Text.Utf8.encode s.toList }, q.2) :=
    ⟨faces₁.target, faces₁.letters, faces₁.isOpen, faces₁.same⟩
  have waits : device = .full → Waits p ∨ s ≠ "" →
      Waits ({ q.1 with gathered := q.1.gathered ++ Text.Utf8.encode s.toList }, q.2) := by
    rintro full (before | some)
    · refine (kept full before).imp_left fun given => ?_
      simp [given]
    · exact .inl (by simp [encode_ne_nil some])
  split
  · exact (release_rests faces₂).mono fun full q' ⟨_, later⟩ before =>
      .inr (later (waits full before))
  · exact ⟨faces₂, waits⟩

theorem flush_rests (faces : Faces device letters tree p) :
    Rests device letters tree (fun _ => ¬Waits p) (flush p) := by
  unfold flush
  refine (release_rests faces).bind fun q faces₁ released => ?_
  exact (drain_rests faces₁).mono fun full _ drained waits =>
    (released full).2 waits drained.2

/-- A file that is closed leaves the tree as it is; where something waits for the full device, it is
refused then. -/
theorem close_rests (faces : Faces device letters tree p) :
    ∃ q : Placed, q.2 = tree ∧ q.1.closed = true ∧
      (close p = .ok () q ∧ (device = .full → ¬Waits p) ∨
        device = .full ∧ ∃ r, close p = .error r q) := by
  have flushed := flush_rests faces
  unfold close
  cases result : flush p with
  | ok u q =>
    rw [result] at flushed
    exact ⟨({ q.1 with closed := true }, q.2), flushed.1.same, rfl, .inl ⟨rfl, flushed.2⟩⟩
  | error r q =>
    rw [result] at flushed
    have drained := drain_rests flushed.1
    dsimp only
    cases again : drain q with
    | ok u q' =>
      rw [again] at drained
      exact ⟨({ q'.1 with closed := true }, q'.2), drained.1.same, rfl, .inr ⟨flushed.2, r, rfl⟩⟩
    | error r' q' =>
      rw [again] at drained
      exact ⟨({ q'.1 with closed := true }, q'.2), drained.1.same, rfl, .inr ⟨flushed.2, r', rfl⟩⟩

end Files.Handle

namespace Document

open Xml
open Files.Handle (Faces Waits write_rests flush_rests close_rests)

variable {letters : Text.Letters} {tree : Files.Tree}

/-! ## The device that swallows everything -/

/-- Whatever is put on the device, it stays as it is. -/
def OnNull (letters : Text.Letters) (tree : Files.Tree) (s : Files.Handle × Files.Tree)
    (_ : String) : Prop :=
  Faces .null letters tree s

theorem OnNull.encodes : Encodes letters (OnNull letters tree) where
  write := by
    rintro s t faces u clean
    have rests := write_rests faces u
    rw [write_of_clean (by rw [faces.letters, clean])]
    cases put : Files.Handle.write u s with
    | ok x s' =>
      rw [put] at rests
      refine ⟨s', ?_, rests.1⟩
      simp only [onOpenFile, faces.isOpen, put]
      rfl
    | error r s' =>
      rw [put] at rests
      cases rests.2
  refuse faces _ _ stray := write_of_stray faces.isOpen (by rw [faces.letters, stray])
  flush := by
    rintro s t faces
    have rests := flush_rests faces
    cases flushed : Files.Handle.flush s with
    | ok x s' =>
      rw [flushed] at rests
      refine ⟨s', ?_, rests.1⟩
      simp only [Stream.flush, onOpenFile, faces.isOpen, flushed]
      rfl
    | error r s' =>
      rw [flushed] at rests
      cases rests.2

theorem OnNull.closes : Closes (OnNull letters tree) fun d _ => d.tree = tree := by
  rintro w t path ⟨faces, -⟩
  obtain ⟨s, same, -, ⟨closed, -⟩ | ⟨full, -⟩⟩ := close_rests faces
  · rw [close_apply path faces.isOpen, closed]
    exact ⟨⟨s.1, s.2, w.stream.journal⟩, rfl, same⟩
  · cases full

/-! ## The device that is always full -/

/-- A desk with something in wait for the full device, and without log files. -/
structure Stuck (letters : Text.Letters) (tree : Files.Tree) (d : Desk Files.Handle) : Prop where
  faces : Faces .full letters tree (d.paper, d.tree)
  waits : Waits (d.paper, d.tree)
  unlogged : d.journal.files = []

/-- What a failure leaves of such a desk: after a fault something still waits. -/
def StuckAfter (letters : Text.Letters) (tree : Files.Tree) (f : Failure)
    (d : Desk Files.Handle) : Prop :=
  f.IsPlain .writer ∧ Faces .full letters tree (d.paper, d.tree) ∧
    ∀ g, f = .fault g → Waits (d.paper, d.tree)

/-- A step on the open file of a desk. -/
theorem onPaper_apply {d : Desk Files.Handle} (isOpen : d.paper.closed = false)
    (step : EStateM Files.Refusal Files.Handle.Placed Unit) :
    Desk.onPaper (onOpenFile step) d =
      match step (d.paper, d.tree) with
      | .ok _ s => .ok () ⟨s.1, s.2, d.journal⟩
      | .error r s => .error (.refused r) ⟨s.1, s.2, d.journal⟩ := by
  simp only [Desk.onPaper, onOpenFile, isOpen, Bool.false_eq_true, if_false]
  cases step (d.paper, d.tree) <;> rfl

/-- A step on the full device that leaves something in wait, or is refused and reported. -/
theorem onStream_stuck (op : Operation) {step : EStateM Files.Refusal Files.Handle.Placed Unit}
    {w : Writer (Desk Files.Handle)}
    (faces : Faces .full letters tree (w.stream.paper, w.stream.tree))
    (unlogged : w.stream.journal.files = [])
    (rests : Files.Handle.Rests .full letters tree Waits (step (w.stream.paper, w.stream.tree))) :
    Leaves (Stuck letters tree) (StuckAfter letters tree) w.path
      (onStream op (Desk.onPaper (onOpenFile step)) w) := by
  simp only [onStream, onPaper_apply faces.isOpen]
  cases result : step (w.stream.paper, w.stream.tree) with
  | ok u s =>
    rw [result] at rests
    exact ⟨⟨rests.1, rests.2 rfl, unlogged⟩, rfl⟩
  | error r s =>
    rw [result] at rests
    let v := w.on ⟨s.1, s.2, w.stream.journal⟩
    obtain ⟨report, reported, plain⟩ := v.rejection_refused op r
    have failed : StuckAfter letters tree (v.rejection op (.refused r)) v.stream := by
      rw [reported]
      exact ⟨plain, rests.1, fun f faulty => by cases faulty⟩
    exact ⟨failed, rfl⟩

/-- A text for the full device waits there, or it is refused and reported. -/
theorem write_stuck (op : Operation) (u : String) {w : Writer (Desk Files.Handle)}
    (faces : Faces .full letters tree (w.stream.paper, w.stream.tree))
    (unlogged : w.stream.journal.files = [])
    (waits : Waits (w.stream.paper, w.stream.tree) ∨ letters.fault? u.toList = none ∧ u ≠ "") :
    Leaves (Stuck letters tree) (StuckAfter letters tree) w.path
      (onStream op (Stream.write u) w) := by
  cases found : letters.fault? u.toList with
  | none =>
    have clean : w.stream.paper.letters.fault? u.toList = none := by rw [faces.letters, found]
    have same : onStream op (Stream.write u) w =
        onStream op (Desk.onPaper (onOpenFile (Files.Handle.write u))) w := by
      simp only [onStream, Stream.write, Desk.onPaper, writeToFile, clean]
    rw [same]
    exact onStream_stuck op faces unlogged ((write_rests faces u).mono fun _ q later =>
      later (waits.imp_right And.right))
  | some codes =>
    have stray : w.stream.paper.letters.fault? u.toList = some codes := by
      rw [faces.letters, found]
    have isOpen : w.stream.paper.closed = false := faces.isOpen
    simp only [onStream, Stream.write, Desk.onPaper, writeToFile, stray, isOpen,
      Bool.false_eq_true, if_false]
    have plain : (w.rejection op (.unencodable codes)).IsPlain .writer :=
      w.isPlain_rejection op ⟨_, rfl⟩ rfl
    refine ⟨⟨plain, faces, fun _ _ => ?_⟩, rfl⟩
    exact waits.resolve_right fun clean => by rw [clean.1] at found; cases found

/-- On the full device, the work on a document keeps something in wait unless it is reported. -/
theorem stuck_bides (path : Option String) :
    Bides (Stuck letters tree) (StuckAfter letters tree) path where
  write op u := by
    rintro w rfl stuck
    exact write_stuck op u stuck.faces stuck.unlogged (.inl stuck.waits)
  flush op := by
    rintro w rfl stuck
    exact onStream_stuck op stuck.faces stuck.unlogged
      ((flush_rests stuck.faces).mono fun _ q none => absurd stuck.waits none)
  refuse op reason := fun w named stuck =>
    ⟨⟨w.isPlain_failure op reason nofun, stuck.faces, nofun⟩, named⟩
  fault goesOn stuck := ⟨goesOn, stuck.faces, fun _ _ => stuck.waits⟩
  say speaker level template arguments := fun w named stuck => by
    obtain ⟨unlogged, same⟩ := Log.Journal.say_quiet
      (p := (w.stream.journal, w.stream.tree)) ⟨stuck.unlogged, rfl⟩ speaker level template
      arguments none
    have faces := stuck.faces
    refine ⟨⟨⟨faces.target, faces.letters, faces.isOpen, same.trans faces.same⟩, stuck.waits,
      unlogged⟩, named⟩

/-- The declaration waits at the full device before anything else does. -/
theorem startDocument_stuck (indent : String) (path : Option String) {d : Desk Files.Handle}
    (faces : Faces .full letters tree (d.paper, d.tree)) (unlogged : d.journal.files = []) :
    Leaves (Stuck letters tree) (StuckAfter letters tree) path
      (startDocument (Writer.fresh d indent path)) :=
  write_stuck (w := { Writer.fresh d indent path with started := true }) .startDocument declaration
    faces unlogged (.inr ⟨declaration_clean, by decide⟩)

/-- A file on the full device can be closed only when nothing waits in it. -/
theorem close_full {w : Writer (Desk Files.Handle)} (path : w.path.isSome = true)
    (faces : Faces .full letters tree (w.stream.paper, w.stream.tree)) :
    ∃ d : Desk Files.Handle, d.tree = tree ∧
      (close w = .ok () { w with stream := d } ∧ ¬Waits (w.stream.paper, w.stream.tree) ∨
        ∃ r : Report, close w = .error (.report r) { w with stream := d } ∧
          r.IsPlain .writer) := by
  obtain ⟨s, same, -, ⟨closed, none⟩ | ⟨-, r, refused⟩⟩ := close_rests faces
  · refine ⟨⟨s.1, s.2, w.stream.journal⟩, same, .inl ⟨?_, none rfl⟩⟩
    rw [close_apply path faces.isOpen, closed]
  · let d : Desk Files.Handle := ⟨s.1, s.2, w.stream.journal⟩
    obtain ⟨report, reported, plain⟩ :=
      Writer.rejection_refused { w with stream := d } .closing r
    refine ⟨d, same, .inr ⟨report, ?_, plain⟩⟩
    rw [close_apply path faces.isOpen, refused]
    exact congrArg (EStateM.Result.error · { w with stream := d }) reported

/-- **On the full device a document fails with a report**, and the tree is left as it is. -/
theorem filed_full (o : Order) (path : Files.Path) {d : Desk Files.Handle}
    (faces : Faces .full letters tree (d.paper, d.tree)) (unlogged : d.journal.files = []) :
    ∃ r : Report, (filed o path d).1 = .error (.report r) ∧ r.IsPlain .writer ∧
      (filed o path d).2.tree = tree := by
  have left : Leaves (Stuck letters tree) (StuckAfter letters tree) (some path.toString)
      (write o (Writer.fresh d defaultIndent (some path.toString))) := by
    rw [write_eq]
    exact (startDocument_stuck defaultIndent _ faces unlogged).bind fun _ =>
      afterDeclaration_keeps (stuck_bides _) o
  unfold filed outcomeOf
  rw [Writer.onFile]
  cases result : write o (Writer.fresh d defaultIndent (some path.toString)) with
  | ok x w =>
    rw [result] at left
    obtain ⟨stuck, kept⟩ := left
    obtain ⟨d', same, ⟨-, none⟩ | ⟨r, failed, plain⟩⟩ :=
      close_full (by rw [kept]; rfl) stuck.faces
    · exact absurd stuck.waits none
    · rw [closing_of_unclosed (.inl ⟨x, result⟩) failed]
      exact ⟨r, rfl, plain, same⟩
  | error e w =>
    rw [result] at left
    obtain ⟨⟨plain, faces', waits⟩, kept⟩ := left
    obtain ⟨d', same, ⟨closed, none⟩ | ⟨r, failed, plain'⟩⟩ :=
      close_full (by rw [kept]; rfl) faces'
    · rw [closing_of_error result closed]
      cases e with
      | report r => exact ⟨r, rfl, plain, same⟩
      | fault g => exact absurd (waits g rfl) none
    · rw [closing_of_unclosed (.inr ⟨e, result⟩) failed]
      exact ⟨r, rfl, plain', same⟩

end Document
end MachineDescriptor
