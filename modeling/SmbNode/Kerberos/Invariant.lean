import SmbNode.Kerberos.Cache

/-!
# The cache directory over a node's life

Stage and unstage calls run `ensureKerberosCache` and `deleteKerberosCache` one after another,
for any volumes, mount flags and secrets, and any of them may stop on an error part-way.
`Reachable` is what such runs reach from an empty directory, together with a ghost record of
the ticket of each volume whose last cache operation was a successful `ensureKerberosCache`.

`CacheInv` is the invariant that keeps cleanup sound: every symlink is a user's canonical cache
and points at a volume's cache file that is present.  It rests on the names
(`volumeKerberosCacheName_spec`): a volume's file is never a canonical name, so it is never a
symlink, and a write to it never goes anywhere else.  Each run changes the directory as
`EnsureEffect` or `deleteEffect` says; `CacheInv.ensure` and `CacheInv.delete` show both keep the
invariant, and the theorems follow by induction over `Reachable`.
-/

namespace SmbNode

/-- The invariant of the cache directory: every name is one a directory entry can have, and every
symlink is a canonical cache that points at a volume's cache file, present as a regular file. -/
structure CacheInv (dir : String) (es : Entries) : Prop where
  names : ∀ n ∈ es, EntryName n
  symlinks : ∀ n t, es.lookup n = some (.symlink t) →
    IsCanonical n ∧ ∃ V, V ≠ "" ∧ t = getKerberosFilePath dir (volumeKerberosCacheName V) ∧
      ∃ d, es.lookup (volumeKerberosCacheName V) = some (.file d)

/-- Each volume that the ghost gives a ticket holds it in its cache file. -/
def TicketsHeld (es : Entries) (g : String → Option (List UInt8)) : Prop :=
  ∀ V c, g V = some c → es.lookup (volumeKerberosCacheName V) = some (.file c)

/-- The ghost after an `ensureKerberosCache` of `V` that returned `r` for the ticket `ticket`:
the ticket on success, unchanged where the call did nothing, and nothing after an error. -/
def ensureGhost (g : String → Option (List UInt8)) (V : String) (ticket : Option (List UInt8))
    (r : Bool × Option GoError) : String → Option (List UInt8) :=
  if r = (true, none) then Function.update g V ticket
  else if r.2 = none then g else Function.update g V none

@[simp] theorem ensureGhost_of_ne {g : String → Option (List UInt8)} {V W : String}
    (ticket : Option (List UInt8)) (r : Bool × Option GoError) (h : W ≠ V) :
    ensureGhost g V ticket r W = g W := by
  unfold ensureGhost
  split_ifs <;> simp [Function.update_noteq h]

/-- The cache directories that stage and unstage calls reach from an empty directory, with the
ghost: any sequence of `ensureKerberosCache` runs, where every call may fail, and
`deleteKerberosCache` runs, where only `Stat` may (its other calls it treats as best-effort). -/
inductive Reachable (lib : GoLib) (dir : String) :
    CacheDir → (String → Option (List UInt8)) → Prop
  | empty : Reachable lib dir (some ∅) fun _ => none
  | ensure {s : CacheDir} {g : String → Option (List UInt8)} {V : String}
      {mountFlags : List String} {secrets : List (String × String)}
      {tr : List (Event FsCall FsCall.Ret)} {r : Bool × Option GoError} {s' : CacheDir} :
      Reachable lib dir s g → V ≠ "" →
      Prog.Exec (FsStep dir anyFault) (ensureKerberosCache lib dir V mountFlags secrets) s tr r s' →
      Reachable lib dir s'
        (ensureGhost g V ((kerberosTicket lib dir mountFlags secrets).map Prod.snd) r)
  | delete {s : CacheDir} {g : String → Option (List UInt8)} {V : String}
      {tr : List (Event FsCall FsCall.Ret)} {r : Option GoError} {s' : CacheDir} :
      Reachable lib dir s g → V ≠ "" →
      Prog.Exec (FsStep dir statFault) (deleteKerberosCache dir V) s tr r s' →
      Reachable lib dir s' (Function.update g V none)

section Lemmas

variable {dir : String} {es es' : Entries}

/-- A volume's cache file is never a symlink. -/
theorem CacheInv.volume_not_symlink (h : CacheInv dir es) {V : String} (hV : V ≠ "") (t : String) :
    es.lookup (volumeKerberosCacheName V) ≠ some (.symlink t) := fun hl => by
  obtain ⟨⟨u, hu⟩, -⟩ := h.symlinks _ _ hl
  exact volumeKerberosCacheName_ne_canonical hV u hu

/-- A regular file stays one under an `EnsureEffect`. -/
theorem EnsureEffect.file_kept {V : String} {u : Int} {content : List UInt8}
    {r : Bool × Option GoError} (he : EnsureEffect dir V u content es r es') {X : String}
    (hX : X ≠ "") {d : List UInt8} (hd : es.lookup (volumeKerberosCacheName X) = some (.file d)) :
    ∃ d', es'.lookup (volumeKerberosCacheName X) = some (.file d') := by
  by_cases hXV : volumeKerberosCacheName X = volumeKerberosCacheName V
  · rw [hXV] at hd ⊢
    rcases he.volume with h | h
    · exact ⟨d, h.trans hd⟩
    · exact h
  · exact ⟨d, (he.frame _ hXV (volumeKerberosCacheName_ne_canonical hX u)).trans hd⟩

/-- `ensureKerberosCache` keeps the invariant. -/
theorem CacheInv.ensure (h : CacheInv dir es) {V : String} {u : Int} {content : List UInt8}
    {r : Bool × Option GoError} (hV : V ≠ "")
    (hshort : (volumeKerberosCacheName V).utf8ByteSize ≤ nameMax)
    (hK : EntryName (getKrb5CcacheName u)) (he : EnsureEffect dir V u content es r es') :
    CacheInv dir es' where
  names n hn := by
    by_cases h₁ : n = volumeKerberosCacheName V
    · exact h₁ ▸ volumeKerberosCacheName_entryName hV hshort
    by_cases h₂ : n = getKrb5CcacheName u
    · exact h₂ ▸ hK
    rw [← AList.lookup_isSome, he.frame n h₁ h₂, AList.lookup_isSome] at hn
    exact h.names n hn
  symlinks n t hl := by
    have old : es.lookup n = some (.symlink t) → IsCanonical n ∧ ∃ W, W ≠ "" ∧
        t = getKerberosFilePath dir (volumeKerberosCacheName W) ∧
        ∃ d, es'.lookup (volumeKerberosCacheName W) = some (.file d) := fun hl₀ => by
      obtain ⟨hc, W, hW, rfl, d, hd⟩ := h.symlinks n t hl₀
      exact ⟨hc, W, hW, rfl, he.file_kept hW hd⟩
    by_cases h₁ : n = volumeKerberosCacheName V
    · -- the volume's file is not a symlink
      subst h₁
      rcases he.volume with h₂ | ⟨d, h₂⟩
      · exact absurd (h₂.symm.trans hl) (h.volume_not_symlink hV t)
      · cases h₂.symm.trans hl
    by_cases h₂ : n = getKrb5CcacheName u
    · -- the canonical cache: new on success, old or removed otherwise
      subst h₂
      by_cases hr : r = (true, none)
      · obtain ⟨hv, hc⟩ := he.success hr
        cases hc.symm.trans hl
        exact ⟨⟨u, rfl⟩, V, hV, rfl, content, hv⟩
      · rcases he.canonical hr with h₃ | h₃
        · exact old (h₃.symm.trans hl)
        · cases h₃.symm.trans hl
    · exact old ((he.frame n h₁ h₂).symm.trans hl)

/-- `ensureKerberosCache` keeps every other volume's ticket, and records its own on success. -/
theorem TicketsHeld.ensure {g : String → Option (List UInt8)} (h : TicketsHeld es g)
    {V : String} {u : Int} {content : List UInt8} {r : Bool × Option GoError} (hV : V ≠ "")
    (he : EnsureEffect dir V u content es r es') :
    TicketsHeld es' (ensureGhost g V (some content) r) := by
  have other : ∀ W c, W ≠ V → g W = some c →
      es'.lookup (volumeKerberosCacheName W) = some (.file c) := fun W c hW hc =>
    (he.frame _ (fun e => hW (volumeKerberosCacheName_inj e))
      (volumeKerberosCacheName_ne_krb5cc W u)).trans (h W c hc)
  intro W c hc
  by_cases hWV : W = V
  · subst hWV
    unfold ensureGhost at hc
    split_ifs at hc with hr hr'
    · cases Function.update_same W (some content) g ▸ hc
      exact (he.success hr).1
    · exact absurd (he.error hr) (by simp [hr'])
    · cases Function.update_same W none g ▸ hc
  · rw [ensureGhost_of_ne _ _ hWV] at hc
    exact other W c hWV hc

/-- An `ensureKerberosCache` that did not succeed only loses tickets. -/
theorem TicketsHeld.ensure_failed {g : String → Option (List UInt8)} (h : TicketsHeld es g)
    {V : String} {ticket : Option (List UInt8)} {r : Bool × Option GoError} (hr : r.1 = false) :
    TicketsHeld es (ensureGhost g V ticket r) := by
  intro W c hc
  by_cases hWV : W = V
  · subst hWV
    have hr' : r ≠ (true, none) := fun e => by simp [e] at hr
    simp only [ensureGhost, hr', if_false] at hc
    split_ifs at hc
    · exact h W c hc
    · simp at hc
  · rw [ensureGhost_of_ne _ _ hWV] at hc
    exact h W c hc

/-- The directory after a cleanup, read entry by entry: the volume's file and every symlink to
it are gone, and nothing else changed. -/
theorem lookup_deleteEffect (W n : String) :
    (deleteEffect dir W es).lookup n =
      if n = volumeKerberosCacheName W ∨
          es.lookup n = some (.symlink (getKerberosFilePath dir (volumeKerberosCacheName W)))
      then none else es.lookup n := by
  unfold deleteEffect
  by_cases h₁ : n = volumeKerberosCacheName W
  · subst h₁; simp [AList.lookup_erase]
  · rw [AList.lookup_erase_ne h₁, lookup_eraseLinksTo]
    by_cases h₂ : es.lookup n =
        some (.symlink (getKerberosFilePath dir (volumeKerberosCacheName W)))
    · have hm : n ∈ dirNames es := mem_dirNames.mpr (AList.lookup_isSome.mp (by simp [h₂]))
      simp [h₁, h₂, hm]
    · simp [h₁, h₂]

/-- `deleteKerberosCache` keeps the invariant. -/
theorem CacheInv.delete (h : CacheInv dir es) (W : String) : CacheInv dir (deleteEffect dir W es) where
  names n hn := by
    rw [← AList.lookup_isSome, lookup_deleteEffect] at hn
    split_ifs at hn
    · simp at hn
    · exact h.names n (AList.lookup_isSome.mp hn)
  symlinks n t hl := by
    rw [lookup_deleteEffect] at hl
    split_ifs at hl with h₁
    obtain ⟨hc, X, hX, rfl, d, hd⟩ := h.symlinks n _ hl
    have hXW : volumeKerberosCacheName X ≠ volumeKerberosCacheName W := fun e =>
      h₁ (.inr (by rw [← e]; exact hl))
    refine ⟨hc, X, hX, rfl, d, ?_⟩
    rw [lookup_deleteEffect, if_neg, hd]
    rintro (e | e)
    · exact hXW e
    · exact h.volume_not_symlink hX _ e

/-- Cleanup keeps every other volume's ticket. -/
theorem TicketsHeld.delete {g : String → Option (List UInt8)} (hi : CacheInv dir es)
    (h : TicketsHeld es g) (W : String) :
    TicketsHeld (deleteEffect dir W es) (Function.update g W none) := by
  intro V c hc
  by_cases hVW : V = W
  · subst hVW; simp at hc
  · rw [Function.update_noteq hVW] at hc
    have hV : V ≠ "" := fun e => by
      have := h V c hc
      rw [e, show volumeKerberosCacheName "" = "" by decide] at this
      exact (hi.names "" (AList.lookup_isSome.mp (by simp [this]))).1 rfl
    rw [lookup_deleteEffect, if_neg, h V c hc]
    rintro (e | e)
    · exact hVW (volumeKerberosCacheName_inj e)
    · exact hi.volume_not_symlink hV _ e

/-- Forgetting a volume's ticket. -/
theorem TicketsHeld.forget {g : String → Option (List UInt8)} (h : TicketsHeld es g)
    (V : String) : TicketsHeld es (Function.update g V none) := by
  intro W c hc
  by_cases hWV : W = V
  · subst hWV; simp at hc
  · rw [Function.update_noteq hWV] at hc; exact h W c hc

/-- The cache directory after a `deleteKerberosCache` of `W` that cleans up where the volume's
file is there. -/
def deleteResult (dir W : String) (es : Entries) : Entries :=
  if volumeKerberosCacheName W ∈ es then deleteEffect dir W es else es

/-- Where nothing fails spontaneously, `deleteKerberosCache` succeeds from a missing directory,
changing nothing, and from one that keeps the invariant, where the volume's name fits, cleaning
up where the volume's file is there. -/
theorem deleteKerberosCache_wp_noFault {c : CacheDir} {W : String} (hW : W ≠ "")
    (hshort : (volumeKerberosCacheName W).utf8ByteSize ≤ nameMax ∨ c = none)
    (hinv : ∀ es, c = some es → CacheInv dir es) :
    Prog.wp (FsStep dir noFault) (deleteKerberosCache dir W)
      (fun r c' => r = none ∧ c' = c.map (deleteResult dir W)) c := by
  cases c with
  | none =>
    simp only [deleteKerberosCache, Prog.wp_bind]
    exact kerberosCacheDirectoryExists_wp (fun _ h => nomatch h) fun _ _ => by simp
  | some es =>
    have hi := hinv es rfl
    refine deleteKerberosCache_wp (fun _ h => h.elim) hW
      (hshort.resolve_right (Option.some_ne_none es)) hi.names (hi.volume_not_symlink hW)
      (fun _ h => by rcases h with h | h <;> exact h.elim) (fun hm => ?_) fun hm => ?_
    · simp [deleteResult, hm]
    · simp [deleteResult, hm]

/-- A directory that keeps the invariant keeps it through a `deleteResult`, which holds no file
for the volume. -/
theorem CacheInv.of_deleteResult (h : CacheInv dir es) (W : String) :
    CacheInv dir (deleteResult dir W es) ∧ volumeKerberosCacheName W ∉ deleteResult dir W es := by
  unfold SmbNode.deleteResult
  split_ifs with hm
  · refine ⟨h.delete W, fun h' => ?_⟩
    rw [← AList.lookup_isSome, lookup_deleteEffect, if_pos (.inl rfl)] at h'
    cases h'
  · exact ⟨h, hm⟩

/-- **No spurious failure.**  From a directory that keeps the invariant, where nothing fails
spontaneously, `ensureKerberosCache` with a ticket to write, for a volume whose name fits,
succeeds and leaves the cache ensured: `Stat` never reports a canonical cache that is there as
missing, since every symlink points at a volume's file that is present. -/
theorem CacheInv.ensureKerberosCache_wp (h : CacheInv dir es) {lib : GoLib} {V : String}
    {mountFlags : List String} {secrets : List (String × String)} {u : Int} {content : List UInt8}
    (hV : V ≠ "") (hshort : (volumeKerberosCacheName V).utf8ByteSize ≤ nameMax)
    (ht : kerberosTicket lib dir mountFlags secrets = some (u, content)) :
    Prog.wp (FsStep dir noFault) (ensureKerberosCache lib dir V mountFlags secrets)
      (fun r c' => r = (true, none) ∧ EnsuredCache lib dir V mountFlags secrets c') (some es) := by
  have hne := volumeKerberosCacheName_ne_canonical hV u
  have hK := getCredUID_entryName (kerberosTicket_eq_some ht).2.1
  refine ensureKerberosCache_wp_noFault hV hshort (h.volume_not_symlink hV) ht
    (fun hnx hm _ => ?_) fun _ => ⟨rfl, by simp only [EnsuredCache, ht]; exact ⟨hshort, _, rfl,
      by simp [AList.lookup_insert_ne hne], AList.lookup_insert _⟩⟩
  -- the canonical cache is there, and `Stat` finds it or the file its symlink points at
  obtain ⟨e, he⟩ := Option.isSome_iff_exists.mp (AList.lookup_isSome.mpr hm)
  have he' : (es.insert (volumeKerberosCacheName V) (.file content)).lookup (getKrb5CcacheName u) =
      some e := by rw [AList.lookup_insert_ne hne.symm, he]
  cases e with
  | file d =>
    rw [exec_stat_entry hK (by simp [he'])] at hnx
    simp only [AList.mem_insert, hm, or_true, if_true] at hnx
    cases hnx
  | symlink t =>
    obtain ⟨-, W, hW, rfl, d, hd⟩ := h.symlinks _ _ he
    obtain ⟨d', hd'⟩ : ∃ d', (es.insert (volumeKerberosCacheName V) (.file content)).lookup
        (volumeKerberosCacheName W) = some (.file d') := by
      by_cases hWV : volumeKerberosCacheName W = volumeKerberosCacheName V
      · exact ⟨content, by rw [hWV, AList.lookup_insert]⟩
      · exact ⟨d, by rw [AList.lookup_insert_ne hWV, hd]⟩
    rw [exec_stat_link hK (h.names _ (AList.lookup_isSome.mp (by simp [hd]))) he'
      (by simp [hd']) (AList.lookup_isSome.mp (by simp [hd']))] at hnx
    cases hnx

end Lemmas

/-! ## Every reachable directory -/

/-- Every reachable directory exists, keeps the invariant and holds the recorded tickets. -/
theorem Reachable.inv {lib : GoLib} {dir : String} {s : CacheDir}
    {g : String → Option (List UInt8)} (h : Reachable lib dir s g) :
    ∃ es, s = some es ∧ CacheInv dir es ∧ TicketsHeld es g := by
  induction h with
  | empty => exact ⟨∅, rfl, ⟨by simp, by simp⟩, fun _ _ h => by simp at h⟩
  | @ensure s g V mountFlags secrets tr r s' _ hV hrun ih =>
    obtain ⟨es, rfl, hi, ht⟩ := ih
    cases hk : kerberosTicket lib dir mountFlags secrets with
    | none =>
      obtain ⟨rfl, hr, -⟩ := hrun.wp (ensureKerberosCache_wp_none hk)
      exact ⟨es, rfl, hi, ht.ensure_failed hr⟩
    | some p =>
      obtain ⟨u, content⟩ := p
      obtain hlong | hshort := Nat.lt_or_ge nameMax (volumeKerberosCacheName V).utf8ByteSize
      · obtain ⟨rfl, hr, -⟩ := hrun.wp (ensureKerberosCache_wp_long hk hlong)
        exact ⟨es, rfl, hi, ht.ensure_failed hr⟩
      obtain ⟨es', rfl, he⟩ :=
        hrun.wp (ensureKerberosCache_wp hV hshort (hi.volume_not_symlink hV) hk)
      exact ⟨es', rfl, hi.ensure hV hshort (getCredUID_entryName (kerberosTicket_eq_some hk).2.1)
        he, ht.ensure hV he⟩
  | @delete s g V tr r s' _ hV hrun ih =>
    obtain ⟨es, rfl, hi, ht⟩ := ih
    obtain hlong | hshort := Nat.lt_or_ge nameMax (volumeKerberosCacheName V).utf8ByteSize
    · obtain ⟨rfl, -⟩ := hrun.wp (deleteKerberosCache_wp_long hlong)
      exact ⟨es, rfl, hi, ht.forget V⟩
    exact hrun.wp (Q := fun _ s' => ∃ es', s' = some es' ∧ CacheInv dir es' ∧
        TicketsHeld es' (Function.update g V none))
      (deleteKerberosCache_wp (fun _ h => h) hV hshort hi.names
      (hi.volume_not_symlink hV) (fun _ _ => ⟨es, rfl, hi, ht.forget V⟩)
      (fun _ => ⟨es, rfl, hi, ht.forget V⟩)
      (fun _ => ⟨_, rfl, hi.delete V, ht.delete hi V⟩))

/-- Over any sequence of stage and unstage calls from an empty directory, every symlink in the
cache directory is a canonical cache pointing at a present regular file of a volume, and each
volume whose last operation was a successful `ensureKerberosCache` holds that call's ticket. -/
theorem kerberosCache_invariant {lib : GoLib} {dir : String} {s : CacheDir}
    {g : String → Option (List UInt8)} (h : Reachable lib dir s g) :
    ∃ es, s = some es ∧
      (∀ n t, es.lookup n = some (.symlink t) →
        (∃ u, n = getKrb5CcacheName u) ∧ ∃ V, V ≠ "" ∧
          t = getKerberosFilePath dir (volumeKerberosCacheName V) ∧
          ∃ d, es.lookup (volumeKerberosCacheName V) = some (.file d)) ∧
      ∀ V c, g V = some c → es.lookup (volumeKerberosCacheName V) = some (.file c) := by
  obtain ⟨es, rfl, hi, ht⟩ := h.inv
  exact ⟨es, rfl, hi.symlinks, ht⟩

theorem kerberosCache_invariant_staged :
    let dir := "/var/lib/kubelet/kerberos/"
    let stage := Prog.run (fun c s => c.exec dir s) (ensureKerberosCache GoLib.canonical dir
      "pvc-1" ["sec=krb5", "cruid=1000"] [("krb5cc_1000", "dGlja2V0")]) (some ∅)
    stage.1 = (true, none) ∧ ∃ es, stage.2.1 = some es ∧
      (∀ n t, es.lookup n = some (.symlink t) →
        (∃ u, n = getKrb5CcacheName u) ∧ ∃ V, V ≠ "" ∧
          t = getKerberosFilePath dir (volumeKerberosCacheName V) ∧
          ∃ d, es.lookup (volumeKerberosCacheName V) = some (.file d)) ∧
      ∀ V c, ensureGhost (fun _ => none) "pvc-1" ((kerberosTicket GoLib.canonical dir
          ["sec=krb5", "cruid=1000"] [("krb5cc_1000", "dGlja2V0")]).map Prod.snd) stage.1 V =
          some c →
        es.lookup (volumeKerberosCacheName V) = some (.file c) :=
  ⟨by decide, kerberosCache_invariant
    (.ensure .empty (by decide) ((Prog.exec_run _ _ _).mono fun _ _ _ _ => fsStep_of_det))⟩

/-! ## Staging then unstaging a volume -/

/-- From a reachable directory, an `ensureKerberosCache` of `V` with `cruid=u` that succeeds
(so with `sec=krb5`), whatever failed on its way, followed by a `deleteKerberosCache` of `V` where nothing
fails, leaves no entry at `V`'s cache path and no symlink to it; it changes nothing but
`krb5cc_u`, `V`'s file and the symlinks that already pointed at it; and a second delete returns
`nil` and changes nothing. -/
theorem ensure_then_delete {lib : GoLib} {dir : String} {s₀ : CacheDir}
    {g : String → Option (List UInt8)} (hreach : Reachable lib dir s₀ g) {V : String}
    {mountFlags : List String} {secrets : List (String × String)} {u : Int} (hV : V ≠ "")
    (hu : getCredUID mountFlags = .ok u)
    {tr₁ : List (Event FsCall FsCall.Ret)} {s₁ : CacheDir}
    (hens : Prog.Exec (FsStep dir anyFault) (ensureKerberosCache lib dir V mountFlags secrets)
      s₀ tr₁ (true, none) s₁)
    {tr₂ : List (Event FsCall FsCall.Ret)} {r₂ : Option GoError} {s₂ : CacheDir}
    (hdel : Prog.Exec (FsStep dir noFault) (deleteKerberosCache dir V) s₁ tr₂ r₂ s₂) :
    ∃ es₀ es₂, s₀ = some es₀ ∧ s₂ = some es₂ ∧ r₂ = none ∧
      es₂.lookup (volumeKerberosCacheName V) = none ∧
      (∀ n, es₂.lookup n ≠
        some (.symlink (getKerberosFilePath dir (volumeKerberosCacheName V)))) ∧
      (∀ n, n ≠ getKrb5CcacheName u → n ≠ volumeKerberosCacheName V →
        es₀.lookup n ≠ some (.symlink (getKerberosFilePath dir (volumeKerberosCacheName V))) →
        es₂.lookup n = es₀.lookup n) ∧
      ∀ tr₃ r₃ s₃, Prog.Exec (FsStep dir noFault) (deleteKerberosCache dir V) s₂ tr₃ r₃ s₃ →
        r₃ = none ∧ s₃ = s₂ := by
  obtain ⟨es₀, rfl, hi, -⟩ := hreach.inv
  -- a run that returns `true` wrote the ticket of `u`
  obtain ⟨content, ht⟩ : ∃ content,
      kerberosTicket lib dir mountFlags secrets = some (u, content) := by
    cases ht : kerberosTicket lib dir mountFlags secrets with
    | none => exact absurd (hens.wp (ensureKerberosCache_wp_none ht)).2.1 (by decide)
    | some p =>
      obtain ⟨-, hu', -⟩ := kerberosTicket_eq_some ht
      rw [hu] at hu'
      cases hu'
      exact ⟨p.2, rfl⟩
  -- a run that returns `true` wrote the volume's file, so its name fits
  have hshort : (volumeKerberosCacheName V).utf8ByteSize ≤ nameMax :=
    (Nat.lt_or_ge _ _).resolve_left fun hlong =>
      absurd (hens.wp (ensureKerberosCache_wp_long ht hlong)).2.1 (by decide)
  obtain ⟨es₁, rfl, he⟩ :=
    hens.wp (ensureKerberosCache_wp hV hshort (hi.volume_not_symlink hV) ht)
  have hi₁ := hi.ensure hV hshort (getCredUID_entryName hu) he
  have hmem : volumeKerberosCacheName V ∈ es₁ :=
    AList.lookup_isSome.mp (by rw [(he.success rfl).1]; rfl)
  -- the delete cleans up
  obtain ⟨rfl, rfl⟩ := hdel.wp (Q := fun r s => r = none ∧ s = some (deleteEffect dir V es₁))
    (deleteKerberosCache_wp (fun _ h => False.elim h) hV hshort hi₁.names
      (hi₁.volume_not_symlink hV) (fun _ h => h.elim False.elim False.elim)
      (fun h => absurd hmem h) (fun _ => ⟨rfl, rfl⟩))
  have hi₂ := hi₁.delete V
  have hgone : (deleteEffect dir V es₁).lookup (volumeKerberosCacheName V) = none := by
    rw [lookup_deleteEffect, if_pos (.inl rfl)]
  refine ⟨es₀, _, rfl, rfl, rfl, hgone, fun n hn => ?_, fun n h₁ h₂ h₃ => ?_, ?_⟩
  · rw [lookup_deleteEffect] at hn
    split_ifs at hn with h
    exact h (.inr hn)
  · rw [lookup_deleteEffect, if_neg, he.frame n h₂ h₁]
    rintro (e | e)
    · exact h₂ e
    · exact h₃ ((he.frame n h₂ h₁).symm.trans e)
  · -- a second delete finds no file
    intro tr₃ r₃ s₃ h₃
    exact h₃.wp (Q := fun r s => r = none ∧ s = some (deleteEffect dir V es₁))
      (deleteKerberosCache_wp (fun _ h => False.elim h) hV hshort hi₂.names
        (hi₂.volume_not_symlink hV) (fun _ h => h.elim False.elim False.elim)
        (fun _ => ⟨rfl, rfl⟩)
        (fun h => absurd (AList.lookup_isSome.mpr h) (by rw [hgone]; decide)))

theorem ensure_then_delete_pvc :
    let dir := "/var/lib/kubelet/kerberos/"
    let stage := Prog.run (fun c s => c.exec dir s) (ensureKerberosCache GoLib.canonical dir
      "pvc-1" ["sec=krb5", "cruid=1000"] [("krb5cc_1000", "dGlja2V0")]) (some ∅)
    let unstage := Prog.run (fun c s => c.exec dir s) (deleteKerberosCache dir "pvc-1") stage.2.1
    stage.1 = (true, none) ∧
    ∃ es₀ es₂ : Entries, some ∅ = some es₀ ∧ unstage.2.1 = some es₂ ∧ unstage.1 = none ∧
      es₂.lookup (volumeKerberosCacheName "pvc-1") = none ∧
      (∀ n, es₂.lookup n ≠
        some (.symlink (getKerberosFilePath dir (volumeKerberosCacheName "pvc-1")))) ∧
      (∀ n, n ≠ getKrb5CcacheName 1000 → n ≠ volumeKerberosCacheName "pvc-1" →
        es₀.lookup n ≠
          some (.symlink (getKerberosFilePath dir (volumeKerberosCacheName "pvc-1"))) →
        es₂.lookup n = es₀.lookup n) ∧
      ∀ tr₃ r₃ s₃, Prog.Exec (FsStep dir noFault) (deleteKerberosCache dir "pvc-1")
          unstage.2.1 tr₃ r₃ s₃ →
        r₃ = none ∧ s₃ = unstage.2.1 := by
  intro dir stage unstage
  have hs : stage.1 = (true, none) := by decide
  have hens : Prog.Exec (FsStep dir anyFault) (ensureKerberosCache GoLib.canonical dir "pvc-1"
      ["sec=krb5", "cruid=1000"] [("krb5cc_1000", "dGlja2V0")]) (some ∅) stage.2.2 stage.1
      stage.2.1 := (Prog.exec_run _ _ _).mono fun _ _ _ _ => fsStep_of_det
  rw [hs] at hens
  exact ⟨hs, ensure_then_delete (u := 1000) .empty (by decide) (by decide) hens
    ((Prog.exec_run _ _ _).mono fun _ _ _ _ => fsStep_of_det)⟩

end SmbNode
