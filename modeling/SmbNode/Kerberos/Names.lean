import SmbNode.Go.Base64
import SmbNode.Go.Utf8

/-!
# Names in the Kerberos cache directory

Two kinds of file live in the cache directory: the canonical cache `krb5cc_<uid>`, which the
mount helper reads, and one cache file per volume, named from the volume ID.  The canonical
name is a symlink to the volume file that is live for that user.  Cleanup finds a volume's
symlinks by their target, so it rests on the names: a volume's file name is one path
component, it determines the volume, and it is never a canonical name
(`volumeKerberosCacheName_spec`).

The last fact is about bytes: a name of the form `krb5cc_…` begins with `k`, the base64 digit
36, and a first byte whose top six bits are 36 is a UTF-8 continuation byte, which no volume
ID (a gRPC string, hence valid UTF-8) starts with.
-/

namespace SmbNode

/-- `krb5Prefix` (a constant of the driver, not in the sources), modelled from the spec:
canonical caches are named `krb5cc_<uid>`. -/
def krb5Prefix : String := "krb5cc_"

/-- `getKrb5CcacheName`: `fmt.Sprintf("%s%d", krb5Prefix, credUID)`. -/
def getKrb5CcacheName (credUID : Int) : String := krb5Prefix ++ toString credUID

/-- `getKerberosFilePath`: `fmt.Sprintf("%s%s", krb5CacheDirectory, fileName)`.  The directory,
a constant of the driver that is not in the sources, is a parameter of the model. -/
def getKerberosFilePath (krb5CacheDirectory fileName : String) : String :=
  krb5CacheDirectory ++ fileName

/-- `volumeKerberosCacheName`: the base64 of the volume ID's bytes, with `/` and `+` replaced
by characters that may stand in a file name. -/
def volumeKerberosCacheName (volumeID : String) : String :=
  let encoded := Base64.encodeToString (goBytes volumeID)
  Strings.replaceAll (Strings.replaceAll encoded "/" "-") "+" "_"

theorem getKerberosFilePath_ne_empty {dir name : String} (h : name ≠ "") :
    getKerberosFilePath dir name ≠ "" := fun e =>
  h (String.ext (List.append_eq_nil.mp (congrArg String.data e)).2)

/-- Some mount flag starts with `pre`: the loop of `hasKerberosMountOption` and of
`checkGidPresentInMountFlags`. -/
def hasFlagWithPrefix (mountFlags : List String) (pre : String) : Bool :=
  mountFlags.any fun mountFlag => Strings.hasPrefix mountFlag pre

/-- `hasKerberosMountOption`. -/
def hasKerberosMountOption (mountFlags : List String) : Bool :=
  hasFlagWithPrefix mountFlags "sec=krb5"

/-- `getCredUID`: the number after the first `cruid=` flag. -/
def getCredUID (mountFlags : List String) : Except GoError Int :=
  let cruidPrefix := "cruid="
  match mountFlags.find? fun mountFlag => Strings.hasPrefix mountFlag cruidPrefix with
  | some mountFlag => Strconv.atoi (Strings.trimPrefix mountFlag cruidPrefix)
  | none => .error (.other "Can't find credUid in mount flags")

theorem getKrb5CcacheName_ne_empty (u : Int) : getKrb5CcacheName u ≠ "" := fun h => by
  have := congrArg String.length h
  rw [getKrb5CcacheName, String.length_append] at this
  have h7 : krb5Prefix.length = 7 := rfl
  have h0 : "".length = 0 := rfl
  omega

/-- A name that `getKerberosFilePath` puts directly inside the cache directory: one non-empty
path component, neither `.` nor `..`. -/
def IsFileName (name : String) : Prop :=
  name ≠ "" ∧ '/' ∉ name.data ∧ name ≠ "." ∧ name ≠ ".."

instance : DecidablePred IsFileName := fun _ => inferInstanceAs (Decidable (_ ∧ _ ∧ _ ∧ _))

/-- The name of some user's canonical cache. -/
def IsCanonical (name : String) : Prop := ∃ u : Int, name = getKrb5CcacheName u

/-! ## The volume's file name -/

/-- The two replacements of `volumeKerberosCacheName`, one character at a time. -/
def cacheChar (c : Char) : Char := if c = '/' then '-' else if c = '+' then '_' else c

theorem volumeKerberosCacheName_data (volumeID : String) :
    (volumeKerberosCacheName volumeID).data =
      (Base64.encode (goBytes volumeID)).map cacheChar := by
  simp only [volumeKerberosCacheName, Base64.encodeToString]
  rw [show "/" = ⟨['/']⟩ from rfl, show "-" = ⟨['-']⟩ from rfl, show "+" = ⟨['+']⟩ from rfl,
    show "_" = ⟨['_']⟩ from rfl, Strings.replaceAll_singleton, Strings.replaceAll_singleton,
    List.map_map]
  refine List.map_congr_left fun c _ => ?_
  unfold cacheChar
  by_cases h : c = '/' <;> simp [h]

/-- `cacheChar` changes nothing but `/` and `+`, into `-` and `_`. -/
theorem cacheChar_eq {c d : Char} (h : cacheChar c = d) (h₁ : d ≠ '-') (h₂ : d ≠ '_') :
    c = d := by
  unfold cacheChar at h
  split_ifs at h
  exacts [absurd h.symm h₁, absurd h.symm h₂, h]

/-- Undoing `cacheChar`, on characters other than `-` and `_`. -/
private def uncacheChar (c : Char) : Char :=
  if c = '_' then '+' else if c = '-' then '/' else c

private theorem uncacheChar_cacheChar {c : Char} (h₁ : c ≠ '-') (h₂ : c ≠ '_') :
    uncacheChar (cacheChar c) = c := by
  by_cases h₃ : c = '/'
  · subst h₃; decide
  · by_cases h₄ : c = '+'
    · subst h₄; decide
    · simp [cacheChar, uncacheChar, h₁, h₂, h₃, h₄]

/-- No character of an encoding is `-`, `_` or `.`. -/
private theorem encode_avoids {l : List UInt8} {c : Char} (h : c ∈ Base64.encode l) :
    c ≠ '-' ∧ c ≠ '_' ∧ c ≠ '.' := by
  rcases Base64.mem_encode h with h | rfl
  · refine ⟨?_, ?_, ?_⟩ <;> rintro rfl <;> exact absurd h (by decide)
  · decide

theorem volumeKerberosCacheName_inj {V W : String}
    (h : volumeKerberosCacheName V = volumeKerberosCacheName W) : V = W := by
  have undo : ∀ l : List UInt8, ((Base64.encode l).map cacheChar).map uncacheChar =
      Base64.encode l := fun l => by
    conv_rhs => rw [← List.map_id (Base64.encode l)]
    rw [List.map_map]
    refine List.map_congr_left fun c hc => ?_
    obtain ⟨h₁, h₂, -⟩ := encode_avoids hc
    exact uncacheChar_cacheChar h₁ h₂
  have hd := congrArg (List.map uncacheChar ∘ String.data) h
  simp only [Function.comp, volumeKerberosCacheName_data, undo] at hd
  exact goBytes_inj (Base64.encode_injective hd)

/-- The name begins with the digit of the top six bits of the ID's first byte, which is
not a UTF-8 continuation byte. -/
theorem volumeKerberosCacheName_head {V : String} (hV : V ≠ "") :
    ∃ n rest, (n < 32 ∨ 48 ≤ n) ∧ n < 64 ∧
      (volumeKerberosCacheName V).data = cacheChar (Base64.encodeDigit n) :: rest := by
  obtain ⟨b, l, hb, hr⟩ := goBytes_head hV
  obtain ⟨rest, he⟩ := Base64.encode_cons b l
  have : b.toNat < 256 := b.toNat_lt_size
  refine ⟨b.toNat / 4, rest.map cacheChar, by omega, by omega, ?_⟩
  rw [volumeKerberosCacheName_data, hb, he, List.map_cons]

/-- A volume's cache file is one path component in the cache directory. -/
theorem volumeKerberosCacheName_isFileName {V : String} (hV : V ≠ "") :
    IsFileName (volumeKerberosCacheName V) := by
  obtain ⟨n, rest, -, hn, hdata⟩ := volumeKerberosCacheName_head hV
  have hdot : cacheChar (Base64.encodeDigit n) ≠ '.' := fun e => by
    have := cacheChar_eq e (by decide) (by decide)
    exact absurd (this ▸ (Base64.digit_facts n hn).2.2) (by decide)
  refine ⟨fun e => ?_, ?_, fun e => ?_, fun e => ?_⟩
  · rw [e] at hdata; exact absurd hdata.symm (List.cons_ne_nil _ _)
  · rw [volumeKerberosCacheName_data, List.mem_map]
    rintro ⟨c, -, hc⟩
    unfold cacheChar at hc
    split_ifs at hc <;> simp_all
  · rw [e] at hdata; exact hdot (List.cons.inj hdata).1.symm
  · rw [e] at hdata; exact hdot (List.cons.inj hdata).1.symm

theorem volumeKerberosCacheName_ne_empty {V : String} (hV : V ≠ "") :
    volumeKerberosCacheName V ≠ "" :=
  (volumeKerberosCacheName_isFileName hV).1

/-- A volume's cache file never has a canonical name. -/
theorem volumeKerberosCacheName_ne_canonical {V : String} (hV : V ≠ "") (u : Int) :
    volumeKerberosCacheName V ≠ getKrb5CcacheName u := fun e => by
  obtain ⟨n, rest, hr, hn, hdata⟩ := volumeKerberosCacheName_head hV
  rw [e] at hdata
  have hk : Base64.encodeDigit n = 'k' :=
    cacheChar_eq (List.cons.inj hdata).1.symm (by decide) (by decide)
  have h36 := (Base64.digit_facts n hn).1
  rw [hk, show Base64.decodeDigit 'k' = some 36 from rfl, Option.some.injEq] at h36
  omega

/-- No volume's cache file, not even the empty ID's, has a canonical name. -/
theorem volumeKerberosCacheName_ne_krb5cc (V : String) (u : Int) :
    volumeKerberosCacheName V ≠ getKrb5CcacheName u := by
  by_cases hV : V = ""
  · subst hV
    exact fun e => getKrb5CcacheName_ne_empty u (e.symm.trans (by decide))
  · exact volumeKerberosCacheName_ne_canonical hV u

/-! ## Lengths

A directory entry's name has at most `NAME_MAX` bytes; a call on a longer name fails with
`ENAMETOOLONG`.  A canonical name is short, since `Atoi` bounds the user ID.  A volume's name has
four one-byte characters for every three bytes of the volume ID or part of three, so it fits
exactly when the ID has at most 189 bytes. -/

/-- `NAME_MAX` of Linux: the longest name of a directory entry, in bytes. -/
def nameMax : Nat := 255

/-- A name a directory entry can have: not empty, and at most `NAME_MAX` bytes long. -/
def EntryName (name : String) : Prop := name ≠ "" ∧ name.utf8ByteSize ≤ nameMax

instance : DecidablePred EntryName := fun _ => inferInstanceAs (Decidable (_ ∧ _))

/-- An `int64` has at most twenty characters in decimal. -/
private theorem toString_length_le {u : Int} (hu : -2 ^ 63 ≤ u ∧ u < 2 ^ 63) :
    (toString u).length ≤ 20 := by
  have h19 : (2 : ℕ) ^ 63 < 10 ^ 19 := by norm_num
  cases u with
  | ofNat m =>
    have : m < 2 ^ 63 := by rw [Int.ofNat_eq_coe] at hu; omega
    exact (Nat.repr_length m 19 (by decide) (by omega)).trans (by decide)
  | negSucc m =>
    have : m + 1 ≤ 2 ^ 63 := by rw [Int.negSucc_eq] at hu; omega
    show ("-" ++ Nat.repr (m + 1)).length ≤ 20
    rw [String.length_append]
    exact Nat.add_le_add_left (Nat.repr_length (m + 1) 19 (by decide) (by omega)) 1

/-- The canonical cache of an `int64` user ID has a name a directory entry can have. -/
theorem getKrb5CcacheName_entryName {u : Int} (hu : -2 ^ 63 ≤ u ∧ u < 2 ^ 63) :
    EntryName (getKrb5CcacheName u) := by
  refine ⟨getKrb5CcacheName_ne_empty u, ?_⟩
  have h₁ := toString_length_le hu
  have h₂ := utf8ByteSize_le_length (toString u)
  rw [getKrb5CcacheName, utf8ByteSize_append, show krb5Prefix.utf8ByteSize = 7 from rfl, nameMax]
  omega

/-- So has the canonical cache of the user of the mount flags. -/
theorem getCredUID_entryName {mountFlags : List String} {u : Int}
    (h : getCredUID mountFlags = .ok u) : EntryName (getKrb5CcacheName u) := by
  simp only [getCredUID] at h
  split at h
  · exact getKrb5CcacheName_entryName (Strconv.atoi_bound h)
  · cases h

theorem volumeKerberosCacheName_entryName {V : String} (hV : V ≠ "")
    (hs : (volumeKerberosCacheName V).utf8ByteSize ≤ nameMax) :
    EntryName (volumeKerberosCacheName V) :=
  ⟨volumeKerberosCacheName_ne_empty hV, hs⟩

/-- A volume's cache file name is a file of the cache directory, it determines the volume, and
it is never a canonical cache name. -/
theorem volumeKerberosCacheName_spec {V W : String} (hV : V ≠ "") (hVW : V ≠ W) (u : Int) :
    IsFileName (volumeKerberosCacheName V) ∧
      volumeKerberosCacheName V ≠ volumeKerberosCacheName W ∧
      volumeKerberosCacheName V ≠ getKrb5CcacheName u :=
  ⟨volumeKerberosCacheName_isFileName hV, fun h => hVW (volumeKerberosCacheName_inj h),
    volumeKerberosCacheName_ne_canonical hV u⟩

theorem volumeKerberosCacheName_spec_pvc :
    ("pvc-1" ≠ "" ∧ "pvc-1" ≠ "pvc-2") ∧
      (IsFileName (volumeKerberosCacheName "pvc-1") ∧
        volumeKerberosCacheName "pvc-1" ≠ volumeKerberosCacheName "pvc-2" ∧
        volumeKerberosCacheName "pvc-1" ≠ getKrb5CcacheName 1000) :=
  ⟨⟨by decide, by decide⟩, volumeKerberosCacheName_spec (by decide) (by decide) 1000⟩

end SmbNode
