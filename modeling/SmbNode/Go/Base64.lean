import SmbNode.Go.Basic

/-!
# Base64

`base64.StdEncoding.EncodeToString`, which names a volume's Kerberos cache file, written on
numbers as the Go encoder computes it, and a decoder for its output.  The round trip
`decode_encode` is what makes the cache file name of a volume determine the volume.

The decoder accepts exactly the canonical encodings; Go's `DecodeString` also skips line
breaks.  The model of the node server takes Go's decoder as a field of `GoLib`, and
`GoLib.canonical`, which uses this decoder, agrees with Go on every output of the encoder.
-/

namespace SmbNode

namespace Base64

/-- The standard alphabet of RFC 4648, that of `base64.StdEncoding`. -/
def alphabet : List Char :=
  "ABCDEFGHIJKLMNOPQRSTUVWXYZabcdefghijklmnopqrstuvwxyz0123456789+/".toList

/-- The character of a 6-bit digit. -/
def encodeDigit (i : Nat) : Char := alphabet.getD i '='

/-- The digit of a character of the alphabet. -/
def decodeDigit (c : Char) : Option Nat := alphabet.indexOf? c

/-- `base64.StdEncoding.EncodeToString` on the bytes of its argument.  Each group of three
bytes is the 24-bit number `val`, written as the four 6-bit digits `val >> 18 & 0x3F`,
`val >> 12 & 0x3F`, `val >> 6 & 0x3F` and `val & 0x3F`; a last group of one or two bytes is
completed with zero bits, and the output with `=`. -/
def encode : List UInt8 → List Char
  | [] => []
  | [a] =>
    let val := a.toNat * 2 ^ 16
    [encodeDigit (val / 2 ^ 18 % 64), encodeDigit (val / 2 ^ 12 % 64), '=', '=']
  | [a, b] =>
    let val := a.toNat * 2 ^ 16 + b.toNat * 2 ^ 8
    [encodeDigit (val / 2 ^ 18 % 64), encodeDigit (val / 2 ^ 12 % 64),
      encodeDigit (val / 2 ^ 6 % 64), '=']
  | a :: b :: c :: rest =>
    let val := a.toNat * 2 ^ 16 + b.toNat * 2 ^ 8 + c.toNat
    encodeDigit (val / 2 ^ 18 % 64) :: encodeDigit (val / 2 ^ 12 % 64) ::
      encodeDigit (val / 2 ^ 6 % 64) :: encodeDigit (val % 64) :: encode rest

/-- `base64.StdEncoding.EncodeToString`. -/
def encodeToString (src : List UInt8) : String := ⟨encode src⟩

/-- Decoding a canonical encoding, four characters at a time, with `=` only at the end. -/
def decode : List Char → Option (List UInt8)
  | [] => some []
  | c₀ :: c₁ :: c₂ :: c₃ :: rest => do
    let i₀ ← decodeDigit c₀
    let i₁ ← decodeDigit c₁
    let val := i₀ * 2 ^ 18 + i₁ * 2 ^ 12
    if c₂ = '=' then
      if c₃ = '=' ∧ rest = [] then some [UInt8.ofNat (val / 2 ^ 16)] else none
    else
      let i₂ ← decodeDigit c₂
      let val := val + i₂ * 2 ^ 6
      if c₃ = '=' then
        if rest = [] then some [UInt8.ofNat (val / 2 ^ 16), UInt8.ofNat (val / 2 ^ 8 % 256)]
        else none
      else
        let i₃ ← decodeDigit c₃
        let val := val + i₃
        (UInt8.ofNat (val / 2 ^ 16) :: UInt8.ofNat (val / 2 ^ 8 % 256) ::
          UInt8.ofNat (val % 256) :: ·) <$> decode rest
  | _ => none

/-! ## Digits -/

theorem digit_facts : ∀ i < 64, decodeDigit (encodeDigit i) = some i ∧ encodeDigit i ≠ '=' ∧
    encodeDigit i ∈ alphabet := by decide

private theorem ofNat_toNat_eq (a : UInt8) {n : Nat} (h : n = a.toNat) : UInt8.ofNat n = a :=
  UInt8.toNat.inj (by rw [h]; exact Nat.mod_eq_of_lt a.toNat_lt_size)

/-- Decoding undoes encoding. -/
theorem decode_encode (l : List UInt8) : decode (encode l) = some l := by
  induction l using encode.induct with
  | case1 => rfl
  | case2 a =>
    have ha : a.toNat < 256 := a.toNat_lt_size
    obtain ⟨d₀, n₀, -⟩ := digit_facts (a.toNat * 2 ^ 16 / 2 ^ 18 % 64) (Nat.mod_lt _ (by decide))
    obtain ⟨d₁, -, -⟩ := digit_facts (a.toNat * 2 ^ 16 / 2 ^ 12 % 64) (Nat.mod_lt _ (by decide))
    simp only [encode, decode, d₀, d₁, n₀, Option.bind_eq_bind, Option.some_bind, if_true,
      and_self, Option.some.injEq, List.cons.injEq, and_true]
    exact ofNat_toNat_eq a (by simp only [Nat.reducePow]; omega)
  | case3 a b =>
    have ha : a.toNat < 256 := a.toNat_lt_size
    have hb : b.toNat < 256 := b.toNat_lt_size
    obtain ⟨d₀, -, -⟩ := digit_facts ((a.toNat * 2 ^ 16 + b.toNat * 2 ^ 8) / 2 ^ 18 % 64)
      (Nat.mod_lt _ (by decide))
    obtain ⟨d₁, -, -⟩ := digit_facts ((a.toNat * 2 ^ 16 + b.toNat * 2 ^ 8) / 2 ^ 12 % 64)
      (Nat.mod_lt _ (by decide))
    obtain ⟨d₂, n₂, -⟩ := digit_facts ((a.toNat * 2 ^ 16 + b.toNat * 2 ^ 8) / 2 ^ 6 % 64)
      (Nat.mod_lt _ (by decide))
    simp only [encode, decode, d₀, d₁, d₂, n₂, Option.bind_eq_bind, Option.some_bind, if_true,
      if_false, and_self, Option.some.injEq, List.cons.injEq, and_true]
    exact ⟨ofNat_toNat_eq a (by simp only [Nat.reducePow]; omega),
      ofNat_toNat_eq b (by simp only [Nat.reducePow]; omega)⟩
  | case4 a b c rest ih =>
    have ha : a.toNat < 256 := a.toNat_lt_size
    have hb : b.toNat < 256 := b.toNat_lt_size
    have hc : c.toNat < 256 := c.toNat_lt_size
    obtain ⟨d₀, -, -⟩ := digit_facts ((a.toNat * 2 ^ 16 + b.toNat * 2 ^ 8 + c.toNat) / 2 ^ 18 % 64)
      (Nat.mod_lt _ (by decide))
    obtain ⟨d₁, -, -⟩ := digit_facts ((a.toNat * 2 ^ 16 + b.toNat * 2 ^ 8 + c.toNat) / 2 ^ 12 % 64)
      (Nat.mod_lt _ (by decide))
    obtain ⟨d₂, n₂, -⟩ := digit_facts ((a.toNat * 2 ^ 16 + b.toNat * 2 ^ 8 + c.toNat) / 2 ^ 6 % 64)
      (Nat.mod_lt _ (by decide))
    obtain ⟨d₃, n₃, -⟩ := digit_facts ((a.toNat * 2 ^ 16 + b.toNat * 2 ^ 8 + c.toNat) % 64)
      (Nat.mod_lt _ (by decide))
    simp only [encode, decode, d₀, d₁, d₂, d₃, n₂, n₃, ih, Option.bind_eq_bind, Option.some_bind,
      if_false, Option.map_eq_map, Option.map_some', Option.some.injEq, List.cons.injEq, and_true]
    exact ⟨ofNat_toNat_eq a (by simp only [Nat.reducePow]; omega),
      ofNat_toNat_eq b (by simp only [Nat.reducePow]; omega),
      ofNat_toNat_eq c (by simp only [Nat.reducePow]; omega)⟩

theorem encode_injective {l l' : List UInt8} (h : encode l = encode l') : l = l' :=
  Option.some.inj ((decode_encode l).symm.trans (h ▸ decode_encode l'))

/-- Every character of an encoding is a digit or the padding `=`. -/
theorem mem_encode {l : List UInt8} {c : Char} (h : c ∈ encode l) : c ∈ alphabet ∨ c = '=' := by
  have hd : ∀ n, encodeDigit (n % 64) ∈ alphabet :=
    fun n => (digit_facts _ (Nat.mod_lt _ (by decide))).2.2
  induction l using encode.induct with
  | case1 => exact absurd h (List.not_mem_nil c)
  | case2 a | case3 a b =>
    simp only [encode, List.mem_cons, List.mem_singleton, List.not_mem_nil, or_false] at h
    rcases h with rfl | rfl | rfl | rfl <;> simp only [hd, true_or, or_true]
  | case4 a b c' rest ih =>
    simp only [encode, List.mem_cons] at h
    rcases h with rfl | rfl | rfl | rfl | h
    iterate 4 exact .inl (hd _)
    exact ih h

/-- The first character of an encoding is the digit of the first byte's top six bits. -/
theorem encode_cons (a : UInt8) (l : List UInt8) :
    ∃ rest, encode (a :: l) = encodeDigit (a.toNat / 4) :: rest := by
  have ha : a.toNat < 256 := a.toNat_lt_size
  match l with
  | [] => exact ⟨_, congrArg (· :: _) (congrArg encodeDigit (by simp only [Nat.reducePow]; omega))⟩
  | [b] =>
    have hb : b.toNat < 256 := b.toNat_lt_size
    exact ⟨_, congrArg (· :: _) (congrArg encodeDigit (by simp only [Nat.reducePow]; omega))⟩
  | b :: c :: rest =>
    have hb : b.toNat < 256 := b.toNat_lt_size
    have hc : c.toNat < 256 := c.toNat_lt_size
    exact ⟨_, congrArg (· :: _) (congrArg encodeDigit (by simp only [Nat.reducePow]; omega))⟩

end Base64

/-- A `GoLib` that agrees with Go where the model's concrete runs use it: `strings.ToLower` on
ASCII text, and `DecodeString` on the encoder's output. -/
def GoLib.canonical : GoLib where
  toLower s := ⟨s.data.map Char.toLower⟩
  decodeString s := match Base64.decode s.data with
    | some b => .ok b
    | none => .error (.other "illegal base64 data")

end SmbNode
