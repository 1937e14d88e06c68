import MachineDescriptor.Text.Hex

/-!
Surrogate codes in texts. An escape may put a code from U+D800 to U+DFFF into a text by itself, and
no character has such a code. A text spells it by a character out of a block of private ones that
mean nothing else there; which block that is belongs to how the text is read. Surrogate codes cannot
be encoded, but for those that stand for single bytes in the names of files.
-/
namespace MachineDescriptor.Text

/-- How texts spell surrogate codes: by one of the blocks of private characters, or not at all. -/
structure Letters where
  block? : Option (Fin 64)
deriving DecidableEq

/-- Surrogate codes side by side that cannot be encoded: the position of the first, its code, and
how many come after it. -/
structure Unencodable where
  position : Nat
  code : Nat
  more : Nat
deriving DecidableEq

def Unencodable.message (u : Unencodable) : String :=
  let place :=
    if u.more = 0 then
      "character '\\u" ++ String.ofList (hex 4 u.code) ++ "' in position " ++ toString u.position
    else
      "characters in position " ++ toString u.position ++ "-" ++ toString (u.position + u.more)
  "'utf-8' codec can't encode " ++ place ++ ": surrogates not allowed"

namespace Letters

/-- The letters of texts without surrogate codes. -/
def plain : Letters := ⟨none⟩

/-- The letters out of the first block. -/
def first : Letters := ⟨some 0⟩

/-- The first surrogate code, and how many there are. -/
def firstCode : Nat := 0xd800
def codes : Nat := 0x800

/-- The number of the first character of a block. -/
def blockStart (block : Fin 64) : Nat := 0xf0000 + codes * block

/-- The surrogate code that a character spells. -/
def code? (l : Letters) (c : Char) : Option Nat :=
  l.block?.bind fun block =>
    if blockStart block ≤ c.toNat ∧ c.toNat < blockStart block + codes then
      some (firstCode + (c.toNat - blockStart block))
    else none

/-- The character that spells a surrogate code; where none does, it is lost. -/
def letter (l : Letters) (code : Nat) : Char :=
  match l.block? with
  | some block => Char.ofNat (blockStart block + (code - firstCode))
  | none => '\ufffd'

/-- The character of a number, or the one that spells a surrogate code. -/
def character (l : Letters) (code : Nat) : Char :=
  if firstCode ≤ code ∧ code < firstCode + codes then l.letter code else Char.ofNat code

/-- Letters that spell nothing which is in a text already, if there are any. -/
def unusedIn (cs : List Char) : Letters :=
  ⟨(List.finRange 64).find? fun block => cs.all fun c => (code? ⟨some block⟩ c).isNone⟩

/-- The first surrogate codes among those of a text that cannot be encoded; `position` characters
went before, and some codes are let pass until one of those next to them is not. -/
def firstFault (passes : Nat → Bool) (position : Nat) : List (Option Nat) → Option Unencodable
  | [] => none
  | none :: rest => firstFault passes (position + 1) rest
  | some code :: rest =>
    if passes code then firstFault passes (position + 1) rest
    else some ⟨position, code, (rest.takeWhile Option.isSome).length⟩

/-- What of a text cannot be encoded. -/
def fault? (l : Letters) (cs : List Char) : Option Unencodable :=
  firstFault (fun _ => false) 0 (cs.map l.code?)

/-- Whether a surrogate code stands for a byte in the name of a file. -/
def isByte (code : Nat) : Bool := 0xdc80 ≤ code && code ≤ 0xdcff

/-- What of a path cannot be encoded. -/
def pathFault? (l : Letters) (cs : List Char) : Option Unencodable :=
  firstFault isByte 0 (cs.map l.code?)

/-- A text can be encoded unless a surrogate code stands in it that is not let pass. -/
theorem firstFault_eq_none_iff {passes : Nat → Bool} {position : Nat} {codes : List (Option Nat)} :
    firstFault passes position codes = none ↔ ∀ code, some code ∈ codes → passes code = true := by
  induction codes generalizing position with
  | nil => simp [firstFault]
  | cons first rest ih =>
    cases first with
    | none => simp [firstFault, ih]
    | some code =>
      cases passed : passes code with
      | false => simp [firstFault, passed]
      | true => simp [firstFault, passed, ih]

/-- A text can be encoded just if it spells no surrogate code. -/
theorem fault?_eq_none_iff {l : Letters} {cs : List Char} :
    l.fault? cs = none ↔ ∀ c ∈ cs, l.code? c = none := by
  rw [fault?, firstFault_eq_none_iff]
  constructor
  · intro clear c listed
    refine Option.eq_none_iff_forall_ne_some.mpr fun code spelled => ?_
    exact Bool.false_ne_true (clear code (List.mem_map.mpr ⟨c, listed, spelled⟩))
  · intro clear code listed
    obtain ⟨c, inside, spelled⟩ := List.mem_map.mp listed
    rw [clear c inside] at spelled
    cases spelled

theorem fault?_append (l : Letters) (cs ds : List Char) :
    l.fault? (cs ++ ds) = none ↔ l.fault? cs = none ∧ l.fault? ds = none := by
  simp only [fault?_eq_none_iff, List.forall_mem_append]

/-- A path can be encoded just if the surrogate codes in it stand for bytes. -/
theorem pathFault?_eq_none_iff {l : Letters} {cs : List Char} :
    l.pathFault? cs = none ↔ ∀ c ∈ cs, ∀ code, l.code? c = some code → isByte code = true := by
  rw [pathFault?, firstFault_eq_none_iff]
  constructor
  · exact fun clear c listed code spelled => clear code (List.mem_map.mpr ⟨c, listed, spelled⟩)
  · intro clear code listed
    obtain ⟨c, inside, spelled⟩ := List.mem_map.mp listed
    exact clear c inside code spelled

/-- The characters in front of the blocks spell themselves. -/
theorem code?_of_lt {l : Letters} {c : Char} (before : c.toNat < 0xf0000) : l.code? c = none := by
  obtain ⟨_ | block⟩ := l
  · rfl
  · have outside : ¬(blockStart block ≤ c.toNat ∧ c.toNat < blockStart block + codes) := by
      unfold blockStart
      omega
    simp only [code?, Option.bind_some, if_neg outside]

@[simp] theorem code?_plain (c : Char) : plain.code? c = none := rfl

@[simp] theorem fault?_plain (cs : List Char) : plain.fault? cs = none :=
  fault?_eq_none_iff.mpr fun c _ => code?_plain c

@[simp] theorem pathFault?_plain (cs : List Char) : plain.pathFault? cs = none :=
  pathFault?_eq_none_iff.mpr fun _ _ _ spelled => by cases spelled

end Letters
end MachineDescriptor.Text
