import MachineDescriptor.Proofs.Overlays
import MachineDescriptor.Proofs.Streams

/-!
What becomes of the bytes that an open file is given. They are in the file, in the buffer or
gathered, in this order, and nothing else in the tree changes; a file that is closed holds them all.
-/
namespace MachineDescriptor.Files.Handle

/-! ## Contents -/

/-- The bytes that an open file was given, as far as they got. -/
structure Content where
  delivered : List UInt8
  buffered : List UInt8
  gathered : List UInt8

namespace Content

def all (c : Content) : List UInt8 := c.delivered ++ c.buffered ++ c.gathered

/-- The content after the buffer was handed over. -/
def drained (c : Content) : Content := ⟨c.delivered ++ c.buffered, [], c.gathered⟩

/-- The open file with a content, for texts with such letters. -/
def handle (c : Content) (place : Location) (letters : Text.Letters) : Handle :=
  ⟨.file place, c.delivered.length, c.gathered, c.buffered, false, letters⟩

end Content

/-- An open file with a content, in a tree that differs from another one at a few locations. -/
structure Lies (base : Tree) (places : List Location) (place : Location) (letters : Text.Letters)
    (c : Content) (p : Placed) : Prop where
  handle : p.1 = c.handle place letters
  file : p.2.find? place = some (.file c.delivered)
  overlays : base.Overlays places p.2

variable {base : Tree} {places : List Location} {place : Location} {letters : Text.Letters}
  {c : Content} {p : Placed}

/-- The tree may change around an open file. -/
theorem Lies.around (lies : Lies base places place letters c p) {t : Tree}
    (file : t.find? place = p.2.find? place) (overlays : base.Overlays places t) :
    Lies base places place letters c (p.1, t) :=
  ⟨lies.handle, file.trans lies.file, overlays⟩

theorem overwrite_at_end (old new : List UInt8) :
    Tree.overwrite old old.length new = old ++ new := by
  simp [Tree.overwrite]

theorem bytesAt_of_file {t : Tree} {bytes : List UInt8}
    (file : t.find? place = some (.file bytes)) : t.bytesAt place = bytes := by
  rw [Tree.bytesAt, file]

/-! ## Steps -/

theorem drain_of_cons (b : UInt8) (bs : List UInt8) {h : Handle} (buffered : h.buffered = b :: bs)
    (t : Tree) :
    drain (h, t) =
      (deliver (b :: bs) >>= fun _ => modify fun (h, t) => ({ h with buffered := [] }, t))
        (h, t) := by
  unfold drain
  rw [get_bind]
  simp only [buffered]
  rfl

theorem buffer_apply (bytes : List UInt8) (h : Handle) (t : Tree) :
    buffer bytes (h, t) =
      if h.buffered.length + bytes.length ≤ bufferSize then
        .ok () ({ h with buffered := h.buffered ++ bytes }, t)
      else
        (drain >>= fun _ =>
          if bufferSize < bytes.length then deliver bytes
          else modify fun (h, t) => ({ h with buffered := bytes }, t)) (h, t) := by
  unfold buffer
  rw [get_bind]
  dsimp only
  split
  · rfl
  · rfl

theorem write_apply (s : String) (p : Placed) :
    write s p =
      ((if !p.1.gathered.isEmpty &&
          blockSize < p.1.gathered.length + (Text.Utf8.encode s.toList).length
        then release else pure ()) >>= fun _ =>
        modify (fun q => ({ q.1 with gathered := q.1.gathered ++ Text.Utf8.encode s.toList }, q.2))
          >>= fun _ => get >>= fun q =>
            if blockSize ≤ q.1.gathered.length then release else pure ()) p := by
  obtain ⟨h, t⟩ := p
  unfold write
  rw [get_bind]
  dsimp only
  split
  · rfl
  · rfl

variable (root : place ≠ []) (here : place ∈ places)

include root here

/-- What is handed to the file itself goes to its end. -/
theorem deliver_lies (lies : Lies base places place letters c p) (bytes : List UInt8) :
    ∃ p', deliver bytes p = .ok () p' ∧
      Lies base places place letters { c with delivered := c.delivered ++ bytes } p' := by
  obtain ⟨h, t⟩ := p
  obtain ⟨rfl, file, overlays⟩ := lies
  have written : Tree.overwrite (t.bytesAt place) c.delivered.length bytes =
      c.delivered ++ bytes := by
    rw [bytesAt_of_file file, overwrite_at_end]
  have longer : c.delivered.length + bytes.length = (c.delivered ++ bytes).length :=
    List.length_append.symm
  refine ⟨(Content.handle { c with delivered := c.delivered ++ bytes } place letters,
    t.set place (.file (c.delivered ++ bytes))), ?_, rfl, Tree.find?_set_self t root _,
    overlays.set root here _⟩
  simp only [deliver, Content.handle, written, longer]

/-- The buffer goes to the end of the file. -/
theorem drain_lies (lies : Lies base places place letters c p) :
    ∃ p', drain p = .ok () p' ∧ Lies base places place letters c.drained p' := by
  obtain ⟨h, t⟩ := p
  obtain ⟨rfl, file, overlays⟩ := lies
  obtain ⟨delivered, buffered, gathered⟩ := c
  cases buffered with
  | nil =>
    refine ⟨_, rfl, ?_⟩
    simp only [Content.drained, List.append_nil]
    exact ⟨rfl, file, overlays⟩
  | cons b bs =>
    obtain ⟨p', handed, lies'⟩ := deliver_lies root here ⟨rfl, file, overlays⟩ (b :: bs)
    refine ⟨({ p'.1 with buffered := [] }, p'.2), ?_, ?_, lies'.file, lies'.overlays⟩
    · rw [drain_of_cons b bs rfl, bind_of_ok handed]
      rfl
    · rw [lies'.handle]
      rfl

/-- Bytes go behind all others when none are gathered. -/
theorem buffer_lies (lies : Lies base places place letters c p) (first : c.gathered = [])
    (bytes : List UInt8) :
    ∃ c' p', buffer bytes p = .ok () p' ∧ Lies base places place letters c' p' ∧
      c'.gathered = [] ∧ c'.all = c.all ++ bytes := by
  obtain ⟨h, t⟩ := p
  obtain ⟨rfl, file, overlays⟩ := lies
  rw [buffer_apply]
  by_cases fits : (c.handle place letters).buffered.length + bytes.length ≤ bufferSize
  · refine ⟨{ c with buffered := c.buffered ++ bytes }, _, if_pos fits, ⟨rfl, file, overlays⟩,
      first, ?_⟩
    simp [Content.all, first]
  · obtain ⟨p₁, drained, lies₁⟩ := drain_lies root here ⟨rfl, file, overlays⟩
    rw [if_neg fits, bind_of_ok drained]
    by_cases large : bufferSize < bytes.length
    · obtain ⟨p₂, delivered, lies₂⟩ := deliver_lies root here lies₁ bytes
      refine ⟨_, p₂, ?_, lies₂, first, ?_⟩
      · rw [if_pos large, delivered]
      · simp [Content.all, Content.drained, first]
    · refine ⟨{ c.drained with buffered := bytes }, ({ p₁.1 with buffered := bytes }, p₁.2), ?_,
        ⟨?_, lies₁.file, lies₁.overlays⟩, first, ?_⟩
      · rw [if_neg large]
        rfl
      · rw [lies₁.handle]
        rfl
      · simp [Content.all, Content.drained, first]

/-- The gathered bytes go behind all others. -/
theorem release_lies (lies : Lies base places place letters c p) :
    ∃ c' p', release p = .ok () p' ∧ Lies base places place letters c' p' ∧
      c'.gathered = [] ∧ c'.all = c.all := by
  obtain ⟨h, t⟩ := p
  obtain ⟨rfl, file, overlays⟩ := lies
  obtain ⟨delivered, buffered, gathered⟩ := c
  have moved : Lies base places place letters ⟨delivered, buffered, []⟩
      (Content.handle ⟨delivered, buffered, []⟩ place letters, t) := ⟨rfl, file, overlays⟩
  cases gathered with
  | nil => exact ⟨_, _, rfl, moved, rfl, rfl⟩
  | cons b bs =>
    obtain ⟨c', p', taken, lies', emptied, all⟩ := buffer_lies root here moved rfl (b :: bs)
    refine ⟨c', p', taken, lies', emptied, ?_⟩
    rw [all]
    simp [Content.all]

/-- A text goes behind all bytes. -/
theorem write_lies (lies : Lies base places place letters c p) (s : String) :
    ∃ c' p', write s p = .ok () p' ∧ Lies base places place letters c' p' ∧
      c'.all = c.all ++ Text.Utf8.encode s.toList := by
  obtain ⟨c₁, p₁, ready, lies₁, all₁⟩ : ∃ c₁ p₁,
      (if !p.1.gathered.isEmpty &&
          blockSize < p.1.gathered.length + (Text.Utf8.encode s.toList).length
        then release else pure ()) p = .ok () p₁ ∧
      Lies base places place letters c₁ p₁ ∧ c₁.all = c.all := by
    split
    · obtain ⟨c₁, p₁, released, lies₁, -, all₁⟩ := release_lies root here lies
      exact ⟨c₁, p₁, released, lies₁, all₁⟩
    · exact ⟨c, p, rfl, lies, rfl⟩
  rw [write_apply, bind_of_ok ready]
  have lies₂ : Lies base places place letters
      { c₁ with gathered := c₁.gathered ++ Text.Utf8.encode s.toList }
      ({ p₁.1 with gathered := p₁.1.gathered ++ Text.Utf8.encode s.toList }, p₁.2) := by
    refine ⟨?_, lies₁.file, lies₁.overlays⟩
    rw [lies₁.handle]
    rfl
  have all₂ : Content.all { c₁ with gathered := c₁.gathered ++ Text.Utf8.encode s.toList } =
      c.all ++ Text.Utf8.encode s.toList := by
    rw [← all₁]
    simp [Content.all]
  rw [bind_of_ok (modify_apply _ _), get_bind]
  split
  · obtain ⟨c₃, p₃, released, lies₃, -, all₃⟩ := release_lies root here lies₂
    exact ⟨c₃, p₃, released, lies₃, all₃.trans all₂⟩
  · exact ⟨_, _, rfl, lies₂, all₂⟩

/-- A flush brings all bytes to the file. -/
theorem flush_lies (lies : Lies base places place letters c p) :
    ∃ p', flush p = .ok () p' ∧ Lies base places place letters ⟨c.all, [], []⟩ p' := by
  obtain ⟨c₁, p₁, released, lies₁, emptied, all⟩ := release_lies root here lies
  obtain ⟨p₂, drained, lies₂⟩ := drain_lies root here lies₁
  have whole : c₁.drained = ⟨c.all, [], []⟩ := by
    rw [← all]
    simp [Content.drained, Content.all, emptied]
  rw [whole] at lies₂
  refine ⟨p₂, ?_, lies₂⟩
  unfold flush
  rw [bind_of_ok released, drained]

/-- **A file that is closed holds all bytes that it was given.** -/
theorem close_lies (lies : Lies base places place letters c p) :
    ∃ p', close p = .ok () p' ∧ p'.1.closed = true ∧ p'.2.find? place = some (.file c.all) ∧
      base.Overlays places p'.2 := by
  obtain ⟨p₁, flushed, lies₁⟩ := flush_lies root here lies
  refine ⟨({ p₁.1 with closed := true }, p₁.2), ?_, rfl, lies₁.file, lies₁.overlays⟩
  unfold close
  simp only [flushed]

end MachineDescriptor.Files.Handle
