/-!
UTF-8. A byte sequence is split into pieces: a well-formed sequence is a character, and a longest
beginning of a well-formed sequence that does not go on is one broken piece. Reading with
replacement puts one replacement character for each broken piece; strict reading reports the first.
-/
namespace MachineDescriptor.Text.Utf8

/-- The bytes of a text. -/
def encode (cs : List Char) : List UInt8 := cs.flatMap String.utf8EncodeChar

/-- What a first byte announces: the bits that it gives, how many bytes follow, and the range of
the second byte, which keeps out overlong forms, surrogates and numbers beyond the last
character. -/
structure Lead where
  bits : Nat
  more : Nat
  low : Nat
  high : Nat

def lead? (b : UInt8) : Option Lead :=
  let n := b.toNat
  if n < 0x80 then some ⟨n, 0, 0, 0⟩
  else if n < 0xc2 then none
  else if n < 0xe0 then some ⟨n - 0xc0, 1, 0x80, 0xbf⟩
  else if n < 0xf0 then
    some ⟨n - 0xe0, 2, if n = 0xe0 then 0xa0 else 0x80, if n = 0xed then 0x9f else 0xbf⟩
  else if n < 0xf5 then
    some ⟨n - 0xf0, 3, if n = 0xf0 then 0x90 else 0x80, if n = 0xf4 then 0x8f else 0xbf⟩
  else none

/-- Why a piece is broken. -/
inductive Defect where
  | invalidStart
  | invalidContinuation
  | unexpectedEnd

def Defect.message : Defect → String
  | .invalidStart => "invalid start byte"
  | .invalidContinuation => "invalid continuation byte"
  | .unexpectedEnd => "unexpected end of data"

inductive Piece where
  | char (c : Char)
  | broken (length : Nat) (why : Defect)

/-- The rest of a sequence of which `used` bytes were read: `more` bytes have to come, the next
of them between `low` and `high`. -/
def follow (value used low high : Nat) : Nat → List UInt8 → Piece × List UInt8
  | 0, bs => (.char (Char.ofNat value), bs)
  | _ + 1, [] => (.broken used .unexpectedEnd, [])
  | more + 1, b :: bs =>
    if low ≤ b.toNat ∧ b.toNat ≤ high then
      follow (value * 64 + (b.toNat - 0x80)) (used + 1) 0x80 0xbf more bs
    else (.broken used .invalidContinuation, b :: bs)

/-- The first piece and the bytes after it. -/
def next (b : UInt8) (bs : List UInt8) : Piece × List UInt8 :=
  match lead? b with
  | none => (.broken 1 .invalidStart, bs)
  | some l => follow l.bits 1 l.low l.high l.more bs

theorem follow_length (value used low high more : Nat) (bs : List UInt8) :
    (follow value used low high more bs).2.length ≤ bs.length := by
  induction more generalizing value used low high bs with
  | zero => simp [follow]
  | succ more ih =>
    cases bs with
    | nil => simp [follow]
    | cons b bs =>
      simp only [follow]
      split
      · exact Nat.le_succ_of_le (ih ..)
      · simp

theorem next_length (b : UInt8) (bs : List UInt8) : (next b bs).2.length ≤ bs.length := by
  unfold next
  split
  · simp
  · exact follow_length ..

/-- The pieces of a byte sequence from first to last. -/
def pieces : List UInt8 → List Piece
  | [] => []
  | b :: bs => (next b bs).1 :: pieces (next b bs).2
termination_by bs => bs.length
decreasing_by exact Nat.lt_succ_of_le (next_length b bs)

/-- The character that stands for a broken piece. -/
def replacement : Char := '\ufffd'

def Piece.lossy : Piece → Char
  | .char c => c
  | .broken .. => replacement

/-- The text of a byte sequence, with a replacement character for each broken piece. -/
def decodeLossy (bs : List UInt8) : List Char := (pieces bs).map Piece.lossy

/-- The first broken piece of a byte sequence: where it starts and its bytes. -/
structure Fault where
  position : Nat
  bytes : List UInt8
  why : Defect

/-- The text of the pieces, or the first broken one among them; `position` bytes went before. -/
def strictly (position : Nat) : List Piece → List UInt8 → Except Fault (List Char)
  | [], _ => .ok []
  | .broken n why :: _, bs => .error ⟨position, bs.take n, why⟩
  | .char c :: rest, bs =>
    (strictly (position + c.utf8Size) rest (bs.drop c.utf8Size)).map (c :: ·)

/-- The text of a byte sequence that is wholly well-formed. -/
def decode (bs : List UInt8) : Except Fault (List Char) := strictly 0 (pieces bs) bs

end MachineDescriptor.Text.Utf8
