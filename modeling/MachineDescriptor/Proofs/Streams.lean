import MachineDescriptor.Xml.Stream

/-!
Streams that never refuse a text. What was put on such a stream is told by a relation between the
stream and a text, so that one argument serves for streams in memory and for open files.
-/
namespace MachineDescriptor

/-! ## Steps that may fail -/

section

variable {ε τ α β : Type}

theorem bind_of_ok {a : EStateM ε τ α} {f : α → EStateM ε τ β} {s s' : τ} {x : α}
    (h : a s = .ok x s') : (a >>= f) s = f x s' := by
  simp only [bind, EStateM.bind, h]

theorem bind_of_error {a : EStateM ε τ α} {f : α → EStateM ε τ β} {s s' : τ} {e : ε}
    (h : a s = .error e s') : (a >>= f) s = .error e s' := by
  simp only [bind, EStateM.bind, h]

theorem get_bind (f : τ → EStateM ε τ β) (s : τ) : (get >>= f) s = f s s := rfl

theorem modify_apply (f : τ → τ) (s : τ) :
    (modify f : EStateM ε τ Unit) s = .ok () (f s) := rfl

end

namespace Xml

/-! ## Streams -/

variable {σ : Type}

/-- `holds s t` says that the texts put on `s` so far come to `t`. A text that is put on goes to
the end, and a flush changes nothing. -/
structure Faithful [Stream σ] (holds : σ → String → Prop) : Prop where
  write : ∀ {s : σ} {t : String}, holds s t → ∀ u : String,
    ∃ s', (Stream.write u : EStateM Fault σ Unit) s = .ok () s' ∧ holds s' (t ++ u)
  flush : ∀ {s : σ} {t : String}, holds s t →
    ∃ s', (Stream.flush : EStateM Fault σ Unit) s = .ok () s' ∧ holds s' t

/-- A stream in memory that is open and without limits holds its text. -/
def Memory.Holds (m : Memory) (t : String) : Prop := m = ⟨t, none, false, false⟩

theorem Memory.faithful : Faithful Memory.Holds where
  write := by
    rintro _ t rfl u
    exact ⟨⟨t ++ u, none, false, false⟩, rfl, rfl⟩
  flush := by
    rintro _ t rfl
    exact ⟨_, rfl, rfl⟩

theorem Memory.empty_holds : Memory.Holds Memory.empty "" := rfl

theorem Memory.value_of_holds {m : Memory} {t : String} (h : Memory.Holds m t) :
    m.value = .ok t := by
  subst h
  rfl

end Xml
end MachineDescriptor
