import Mathlib

/-!
# A Go string as bytes

A Go `string` is a sequence of bytes, and a string field of a gRPC request is valid UTF-8.
A Lean `String` is a sequence of Unicode scalar values, which is the same thing: the model
writes a volume ID as a `String`, and its Go bytes `[]byte(volumeID)` as `goBytes`, Lean's
UTF-8 encoding.  Two facts of that encoding are used: it is injective, and its first byte is
never a continuation byte `10xxxxxx`.  The core library states neither, so we prove both
here, through the encoding of one code point written with numbers (`utf8Bytes`).
-/

namespace SmbNode

/-- `[]byte(s)`: the bytes of a Go string. -/
def goBytes (s : String) : List UInt8 := s.toUTF8.data.toList

theorem goBytes_eq (s : String) : goBytes s = s.data.flatMap String.utf8EncodeChar := rfl

/-- The UTF-8 encoding of the code point `v`, one number per byte. -/
def utf8Bytes (v : Nat) : List Nat :=
  if v ≤ 0x7f then [v]
  else if v ≤ 0x7ff then [192 + v / 64, 128 + v % 64]
  else if v ≤ 0xffff then [224 + v / 4096, 128 + v / 64 % 64, 128 + v % 64]
  else [240 + v / 262144, 128 + v / 4096 % 64, 128 + v / 64 % 64, 128 + v % 64]

/-! ## The bytes of one character -/

section Bits

private theorem toNat_or (x y : UInt8) : (x ||| y).toNat = x.toNat ||| y.toNat :=
  BitVec.toNat_or _ _

private theorem toNat_shiftRight (v k : UInt32) (hk : k.toNat < 32) :
    (v >>> k).toNat = v.toNat / 2 ^ k.toNat := by
  show (v.toBitVec >>> (UInt32.mod k 32).toBitVec).toNat = _
  rw [BitVec.ushiftRight_eq', BitVec.toNat_ushiftRight, Nat.shiftRight_eq_div_pow]
  have : (UInt32.mod k 32).toBitVec.toNat = k.toNat := by
    show k.toNat % 32 = k.toNat
    omega
  rw [this]
  rfl

private theorem toNat_toUInt8 (v : UInt32) : v.toUInt8.toNat = v.toNat % 256 := rfl

private theorem and_mask : (∀ n, n &&& 63 = n % 64) ∧ (∀ n, n &&& 31 = n % 32) ∧
    (∀ n, n &&& 15 = n % 16) ∧ (∀ n, n &&& 7 = n % 8) :=
  ⟨fun n => Nat.and_pow_two_sub_one_eq_mod n 6, fun n => Nat.and_pow_two_sub_one_eq_mod n 5,
   fun n => Nat.and_pow_two_sub_one_eq_mod n 4, fun n => Nat.and_pow_two_sub_one_eq_mod n 3⟩

private theorem or_tag : (∀ x < 64, x ||| 128 = 128 + x) ∧ (∀ x < 32, x ||| 192 = 192 + x) ∧
    (∀ x < 16, x ||| 224 = 224 + x) ∧ (∀ x < 8, x ||| 240 = 240 + x) := by decide

theorem Char.val_toNat_lt (c : Char) : c.val.toNat < 0x110000 := by
  rcases c.valid with h | h <;> [omega; exact h.2]

/-- Lean's encoder `String.utf8EncodeChar`, read byte by byte as numbers. -/
theorem utf8EncodeChar_toNat (c : Char) :
    (String.utf8EncodeChar c).map UInt8.toNat = utf8Bytes c.val.toNat := by
  have hv := Char.val_toNat_lt c
  obtain ⟨m1, m2, m3, m4⟩ := and_mask
  obtain ⟨o1, o2, o3, o4⟩ := or_tag
  have e1 : c.val ≤ 0x7f ↔ c.val.toNat ≤ 0x7f := Iff.rfl
  have e2 : c.val ≤ 0x7ff ↔ c.val.toNat ≤ 0x7ff := Iff.rfl
  have e3 : c.val ≤ 0xffff ↔ c.val.toNat ≤ 0xffff := Iff.rfl
  unfold String.utf8EncodeChar utf8Bytes
  simp only [e1, e2, e3]
  split_ifs <;> simp only [List.map, toNat_or, UInt8.and_toNat, toNat_toUInt8,
    toNat_shiftRight _ 6 (by decide), toNat_shiftRight _ 12 (by decide),
    toNat_shiftRight _ 18 (by decide)]
  all_goals
    try simp only [show UInt32.toNat 6 = 6 from rfl, show UInt32.toNat 12 = 12 from rfl,
      show UInt32.toNat 18 = 18 from rfl, show UInt8.toNat 31 = 31 from rfl,
      show UInt8.toNat 63 = 63 from rfl, show UInt8.toNat 15 = 15 from rfl,
      show UInt8.toNat 7 = 7 from rfl, show UInt8.toNat 128 = 128 from rfl,
      show UInt8.toNat 192 = 192 from rfl, show UInt8.toNat 224 = 224 from rfl,
      show UInt8.toNat 240 = 240 from rfl, m1, m2, m3, m4]
    simp (disch := omega) only [o1, o2, o3, o4, List.cons.injEq, and_true]
    omega

end Bits

/-! ## Injectivity and the first byte -/

theorem utf8Bytes_ne_nil (v : Nat) : utf8Bytes v ≠ [] := by
  unfold utf8Bytes; split_ifs <;> exact List.cons_ne_nil _ _

theorem utf8Bytes_inj {v w : Nat} (h : utf8Bytes v = utf8Bytes w) : v = w := by
  unfold utf8Bytes at h
  split_ifs at h <;> simp only [List.cons.injEq, and_true] at h <;> omega

/-- The first byte of an encoding fixes its length: no encoding is a proper prefix of
another. -/
theorem utf8Bytes_length_eq {v w : Nat} {l l' : List Nat} (hv : v < 0x110000)
    (hw : w < 0x110000) (h : utf8Bytes v ++ l = utf8Bytes w ++ l') :
    (utf8Bytes v).length = (utf8Bytes w).length := by
  unfold utf8Bytes at h ⊢
  split_ifs at h ⊢ <;>
    simp only [List.cons_append, List.singleton_append, List.cons.injEq, List.length_cons] at h ⊢ <;>
    omega

theorem utf8Bytes_head {v : Nat} (hv : v < 0x110000) :
    ∃ b l, utf8Bytes v = b :: l ∧ (b < 128 ∨ 192 ≤ b) := by
  unfold utf8Bytes
  split_ifs <;> exact ⟨_, _, rfl, by omega⟩

theorem goBytes_toNat (s : String) :
    (goBytes s).map UInt8.toNat = s.data.flatMap fun c => utf8Bytes c.val.toNat := by
  rw [goBytes_eq, List.map_flatMap]
  simp only [utf8EncodeChar_toNat]

private theorem flatMap_utf8Bytes_inj : ∀ {cs ds : List Char},
    cs.flatMap (fun c => utf8Bytes c.val.toNat) = ds.flatMap (fun c => utf8Bytes c.val.toNat) →
      cs = ds
  | [], [], _ => rfl
  | [], d :: _, h => absurd h.symm (by simp [utf8Bytes_ne_nil])
  | c :: _, [], h => absurd h (by simp [utf8Bytes_ne_nil])
  | c :: cs, d :: ds, h => by
    simp only [List.flatMap_cons] at h
    obtain ⟨h₁, h₂⟩ := List.append_inj h
      (utf8Bytes_length_eq (Char.val_toNat_lt c) (Char.val_toNat_lt d) h)
    rw [Char.ext (UInt32.toNat.inj (utf8Bytes_inj h₁)), flatMap_utf8Bytes_inj h₂]

/-- Distinct strings have distinct bytes. -/
theorem goBytes_inj {s t : String} (h : goBytes s = goBytes t) : s = t := by
  have := congrArg (List.map UInt8.toNat) h
  rw [goBytes_toNat, goBytes_toNat] at this
  exact String.ext (flatMap_utf8Bytes_inj this)

/-- The first byte of a non-empty string is not a continuation byte `10xxxxxx`. -/
theorem goBytes_head {s : String} (hs : s ≠ "") :
    ∃ b l, goBytes s = b :: l ∧ (b.toNat < 128 ∨ 192 ≤ b.toNat) := by
  obtain ⟨cs⟩ := s
  cases cs with
  | nil => exact absurd rfl hs
  | cons c cs =>
    obtain ⟨b, l, hb, hr⟩ := utf8Bytes_head (Char.val_toNat_lt c)
    have h := goBytes_toNat ⟨c :: cs⟩
    rw [List.flatMap_cons, hb] at h
    cases hg : goBytes ⟨c :: cs⟩ with
    | nil => rw [hg] at h; exact absurd h (List.cons_ne_nil _ _).symm
    | cons b' l' =>
      rw [hg, List.map_cons, List.cons_append, List.cons.injEq] at h
      exact ⟨b', l', rfl, h.1 ▸ hr⟩

/-! ## Lengths in bytes

Linux bounds a file name by its length in bytes, which for a Go string is the length of its
UTF-8 encoding, `String.utf8ByteSize`. -/

@[simp] theorem utf8ByteSize_mk_cons (c : Char) (cs : List Char) :
    (String.mk (c :: cs)).utf8ByteSize = (String.mk cs).utf8ByteSize + c.utf8Size := rfl

theorem utf8ByteSize_mk_append (cs ds : List Char) :
    (String.mk (cs ++ ds)).utf8ByteSize =
      (String.mk cs).utf8ByteSize + (String.mk ds).utf8ByteSize := by
  induction cs with
  | nil => exact (Nat.zero_add _).symm
  | cons c cs ih => simp only [List.cons_append, utf8ByteSize_mk_cons, ih]; omega

theorem utf8ByteSize_append (s t : String) :
    (s ++ t).utf8ByteSize = s.utf8ByteSize + t.utf8ByteSize :=
  utf8ByteSize_mk_append s.data t.data

/-- A character takes at most four bytes. -/
theorem utf8ByteSize_le_length (s : String) : s.utf8ByteSize ≤ 4 * s.length := by
  obtain ⟨cs⟩ := s
  induction cs with
  | nil => exact Nat.zero_le _
  | cons c cs ih =>
    have := c.utf8Size_le_four
    simp only [utf8ByteSize_mk_cons, String.length_mk, List.length_cons] at ih ⊢
    omega

end SmbNode
