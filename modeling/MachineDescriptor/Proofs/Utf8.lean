import MachineDescriptor.Text.Utf8

/-!
The bytes of a text read back as the text. The bytes of one character are one piece, whatever
follows them: the first byte announces how many there are, and each of the others is in its range.
-/
namespace MachineDescriptor.Text.Utf8

theorem toNat_ofNat {n : Nat} (small : n < 256) : (UInt8.ofNat n).toNat = n := by
  rw [UInt8.toNat_ofNat']
  omega

/-- A byte that may come next adds six bits. -/
theorem follow_ofNat {n low high : Nat} (value used more : Nat) (above : low ≤ n) (below : n ≤ high)
    (small : n < 256) (bs : List UInt8) :
    follow value used low high (more + 1) (UInt8.ofNat n :: bs) =
      follow (value * 64 + (n - 0x80)) (used + 1) 0x80 0xbf more bs := by
  rw [follow, toNat_ofNat small, if_pos ⟨above, below⟩]

theorem follow_zero (value used low high : Nat) (bs : List UInt8) :
    follow value used low high 0 bs = (.char (Char.ofNat value), bs) := by
  cases bs <;> rfl

theorem toNat_valid (c : Char) : c.toNat < 0xd800 ∨ 0xdfff < c.toNat ∧ c.toNat < 0x110000 := c.valid

theorem next_one {n : Nat} (below : n < 0x80) (bs : List UInt8) :
    next (UInt8.ofNat n) bs = (.char (Char.ofNat n), bs) := by
  have lead : lead? (UInt8.ofNat n) = some ⟨n, 0, 0, 0⟩ := by
    rw [lead?, toNat_ofNat (by omega), if_pos below]
  rw [next, lead]
  exact follow_zero n 1 0 0 bs

theorem next_two {n : Nat} (above : 0x80 ≤ n) (below : n < 0x800) (bs : List UInt8) :
    next (UInt8.ofNat (n / 64 % 32 + 192)) (UInt8.ofNat (n % 64 + 128) :: bs) =
      (.char (Char.ofNat n), bs) := by
  have lead : lead? (UInt8.ofNat (n / 64 % 32 + 192)) = some ⟨n / 64, 1, 0x80, 0xbf⟩ := by
    have bits : n / 64 % 32 + 192 - 0xc0 = n / 64 := by omega
    rw [lead?, toNat_ofNat (by omega), if_neg (by omega), if_neg (by omega), if_pos (by omega),
      bits]
  have whole : n / 64 * 64 + (n % 64 + 128 - 0x80) = n := by omega
  rw [next, lead]
  dsimp only
  rw [follow_ofNat _ _ _ (by omega) (by omega) (by omega), follow_zero, whole]

theorem next_three {n : Nat} (above : 0x800 ≤ n) (below : n < 0x10000)
    (valid : n < 0xd800 ∨ 0xdfff < n) (bs : List UInt8) :
    next (UInt8.ofNat (n / 4096 % 16 + 224))
      (UInt8.ofNat (n / 64 % 64 + 128) :: UInt8.ofNat (n % 64 + 128) :: bs) =
      (.char (Char.ofNat n), bs) := by
  have lead : lead? (UInt8.ofNat (n / 4096 % 16 + 224)) =
      some ⟨n / 4096, 2, if n / 4096 % 16 + 224 = 0xe0 then 0xa0 else 0x80,
        if n / 4096 % 16 + 224 = 0xed then 0x9f else 0xbf⟩ := by
    have bits : n / 4096 % 16 + 224 - 0xe0 = n / 4096 := by omega
    rw [lead?, toNat_ofNat (by omega), if_neg (by omega), if_neg (by omega), if_neg (by omega),
      if_pos (by omega), bits]
  -- the range of the second byte leaves out overlong forms below and surrogates above
  have low : (if n / 4096 % 16 + 224 = 0xe0 then 0xa0 else 0x80) ≤ n / 64 % 64 + 128 := by
    split <;> omega
  have high : n / 64 % 64 + 128 ≤ (if n / 4096 % 16 + 224 = 0xed then 0x9f else 0xbf) := by
    split <;> omega
  have whole : (n / 4096 * 64 + (n / 64 % 64 + 128 - 0x80)) * 64 + (n % 64 + 128 - 0x80) = n := by
    omega
  rw [next, lead]
  dsimp only
  rw [follow_ofNat _ _ _ low high (by omega), follow_ofNat _ _ _ (by omega) (by omega) (by omega),
    follow_zero, whole]

theorem next_four {n : Nat} (above : 0x10000 ≤ n) (below : n < 0x110000) (bs : List UInt8) :
    next (UInt8.ofNat (n / 262144 % 8 + 240))
      (UInt8.ofNat (n / 4096 % 64 + 128) :: UInt8.ofNat (n / 64 % 64 + 128) ::
        UInt8.ofNat (n % 64 + 128) :: bs) = (.char (Char.ofNat n), bs) := by
  have lead : lead? (UInt8.ofNat (n / 262144 % 8 + 240)) =
      some ⟨n / 262144, 3, if n / 262144 % 8 + 240 = 0xf0 then 0x90 else 0x80,
        if n / 262144 % 8 + 240 = 0xf4 then 0x8f else 0xbf⟩ := by
    have bits : n / 262144 % 8 + 240 - 0xf0 = n / 262144 := by omega
    rw [lead?, toNat_ofNat (by omega), if_neg (by omega), if_neg (by omega), if_neg (by omega),
      if_neg (by omega), if_pos (by omega), bits]
  have low : (if n / 262144 % 8 + 240 = 0xf0 then 0x90 else 0x80) ≤ n / 4096 % 64 + 128 := by
    split <;> omega
  have high : n / 4096 % 64 + 128 ≤ (if n / 262144 % 8 + 240 = 0xf4 then 0x8f else 0xbf) := by
    split <;> omega
  have whole : ((n / 262144 * 64 + (n / 4096 % 64 + 128 - 0x80)) * 64 +
      (n / 64 % 64 + 128 - 0x80)) * 64 + (n % 64 + 128 - 0x80) = n := by omega
  rw [next, lead]
  dsimp only
  rw [follow_ofNat _ _ _ low high (by omega), follow_ofNat _ _ _ (by omega) (by omega) (by omega),
    follow_ofNat _ _ _ (by omega) (by omega) (by omega), follow_zero, whole]

/-- The first piece of a character's bytes and more is the character. -/
theorem next_encoded (c : Char) (bs : List UInt8) :
    ∃ b rest, String.utf8EncodeChar c = b :: rest ∧ next b (rest ++ bs) = (.char c, bs) := by
  have valid := toNat_valid c
  suffices numbered : ∃ b rest, String.utf8EncodeChar c = b :: rest ∧
      next b (rest ++ bs) = (.char (Char.ofNat c.toNat), bs) by
    rw [Char.ofNat_toNat] at numbered
    exact numbered
  unfold String.utf8EncodeChar
  dsimp only
  rw [Char.toNat_val]
  generalize c.toNat = n at valid
  split
  · next one => exact ⟨_, _, rfl, next_one (by omega) bs⟩
  · next many =>
    split
    · next two => exact ⟨_, _, rfl, next_two (by omega) (by omega) bs⟩
    · next more =>
      split
      · next three => exact ⟨_, _, rfl, next_three (by omega) (by omega) (by omega) bs⟩
      · next four => exact ⟨_, _, rfl, next_four (by omega) (by omega) bs⟩

theorem pieces_cons (b : UInt8) (bs : List UInt8) :
    pieces (b :: bs) = (next b bs).1 :: pieces (next b bs).2 := by
  rw [pieces]

/-- The characters of a text are the first pieces of its bytes and more. -/
theorem pieces_encode_append (cs : List Char) (bs : List UInt8) :
    pieces (encode cs ++ bs) = cs.map .char ++ pieces bs := by
  induction cs with
  | nil => rfl
  | cons c rest ih =>
    obtain ⟨b, more, encoded, piece⟩ := next_encoded c (encode rest ++ bs)
    rw [encode, List.flatMap_cons, encoded, List.append_assoc, List.cons_append, pieces_cons]
    change (next b (more ++ (encode rest ++ bs))).1 :: pieces (next b (more ++ (encode rest ++ bs))).2
      = _
    rw [piece, ih]
    rfl

theorem strictly_chars (cs : List Char) (position : Nat) (bs : List UInt8) :
    strictly position (cs.map .char) bs = .ok cs := by
  induction cs generalizing position bs with
  | nil => rfl
  | cons c rest ih =>
    rw [List.map_cons, strictly, ih]
    rfl

/-- **Strict reading gives back a text from its bytes.** -/
theorem decode_encode (cs : List Char) : decode (encode cs) = .ok cs := by
  have all := pieces_encode_append cs []
  rw [List.append_nil, pieces, List.append_nil] at all
  rw [decode, all]
  exact strictly_chars cs 0 _

end MachineDescriptor.Text.Utf8
