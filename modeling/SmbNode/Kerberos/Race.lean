import SmbNode.Kerberos.Invariant
import SmbNode.Prog.Concurrent

/-!
# A stage racing an unstage

`NodeStageVolume` of a volume `V` and `NodeUnstageVolume` of another volume `W` hold different
volume locks, so `ensureKerberosCache` of `V` and `deleteKerberosCache` of `W` may run at once,
their calls on the cache directory interleaved.  When both volumes are mounted for the same user
`u`, both touch `krb5cc_u`: the cleanup reads the link, sees that it points at `W`'s file, and
removes it by name some calls later.  If the stage re-points the link in between, the cleanup
removes the new link: `ensure_delete_race_loses_link` runs that interleaving.

What the interleaving cannot do is the subject of `ensure_delete_race`: the stage's ticket stays
in `V`'s file, and `krb5cc_u` is left pointing at it or removed, never pointing elsewhere.  The
proof is rely-guarantee: a cleanup of `W` only removes canonical caches and `W`'s file
(`DeleteStep`), a stage of `V` only writes `V`'s file and replaces `krb5cc_u` (`EnsureStep`), and
both keep every symlink at a canonical name (`LinksCanonical`), which is what lets the cleanup
tell a symlink it read from one it should keep.
-/

namespace SmbNode

open Relation Prog

/-- Every symlink of the directory is a canonical cache, and no name is empty. -/
def LinksCanonical (s : CacheDir) : Prop :=
  ∀ es, s = some es → (∀ n ∈ es, n ≠ "") ∧ ∀ n t, es.lookup n = some (.symlink t) → IsCanonical n

/-- The steps of a `deleteKerberosCache` of `W`: none, or the removal of a canonical cache or of
`W`'s file. -/
def DeleteStep (W : String) (s s' : CacheDir) : Prop :=
  s' = s ∨ ∃ es n, s = some es ∧ (IsCanonical n ∨ n = volumeKerberosCacheName W) ∧
    s' = some (es.erase n)

/-- The steps of an `ensureKerberosCache` of `V` for the user `u`: none, a write of `V`'s file, or
the removal or creation of `u`'s canonical cache as a symlink to `V`'s file. -/
def EnsureStep (dir V : String) (u : Int) (s s' : CacheDir) : Prop :=
  s' = s ∨ ∃ es, s = some es ∧ ((∃ d, s' = some (es.insert (volumeKerberosCacheName V) (.file d))) ∨
    s' = some (es.erase (getKrb5CcacheName u)) ∨
    s' = some (es.insert (getKrb5CcacheName u)
      (.symlink (getKerberosFilePath dir (volumeKerberosCacheName V)))))

section Steps

variable {dir : String}

/-- A property kept by each step is kept by any number of them. -/
theorem stable_star {R : CacheDir → CacheDir → Prop} {P : CacheDir → Prop}
    (hP : ∀ s s', P s → R s s' → P s') {s s' : CacheDir} (hs : P s) (h : ReflTransGen R s s') :
    P s' := by
  induction h with
  | refl => exact hs
  | tail _ hr ih => exact hP _ _ ih hr

theorem CacheInv.linksCanonical {es : Entries} (h : CacheInv dir es) :
    LinksCanonical (some es) := by
  rintro _ ⟨⟩
  exact ⟨fun n hn => (h.names n hn).1, fun n t hl => (h.symlinks n t hl).1⟩

theorem LinksCanonical.erase {es : Entries} (h : LinksCanonical (some es)) (n : String) :
    LinksCanonical (some (es.erase n)) := by
  rintro _ ⟨⟩
  obtain ⟨hne, hl⟩ := h es rfl
  refine ⟨fun m hm => hne m (AList.mem_erase.mp hm).2, fun m t hm => hl m t ?_⟩
  by_cases hmn : m = n
  · subst hmn; simp [AList.lookup_erase] at hm
  · rwa [AList.lookup_erase_ne hmn] at hm

theorem LinksCanonical.insert {es : Entries} (h : LinksCanonical (some es)) {n : String}
    (hn : n ≠ "") {e : Entry} (he : ∀ t, e = .symlink t → IsCanonical n) :
    LinksCanonical (some (es.insert n e)) := by
  rintro _ ⟨⟩
  obtain ⟨hne, hl⟩ := h es rfl
  refine ⟨fun m hm => ?_, fun m t hm => ?_⟩
  · rcases (AList.mem_insert _).mp hm with rfl | hm
    exacts [hn, hne m hm]
  · by_cases hmn : m = n
    · subst hmn
      rw [AList.lookup_insert, Option.some.injEq] at hm
      exact he t hm
    · rw [AList.lookup_insert_ne hmn] at hm
      exact hl m t hm

theorem LinksCanonical.deleteStep {W : String} {s s' : CacheDir} (h : LinksCanonical s)
    (hs : DeleteStep W s s') : LinksCanonical s' := by
  rcases hs with rfl | ⟨es, n, rfl, -, rfl⟩
  exacts [h, h.erase n]

theorem LinksCanonical.ensureStep {V : String} {u : Int} {s s' : CacheDir} (hV : V ≠ "")
    (h : LinksCanonical s) (hs : EnsureStep dir V u s s') : LinksCanonical s' := by
  rcases hs with rfl | ⟨es, rfl, ⟨d, rfl⟩ | rfl | rfl⟩
  · exact h
  · exact h.insert (volumeKerberosCacheName_ne_empty hV) fun _ e => nomatch e
  · exact h.erase _
  · exact h.insert (getKrb5CcacheName_ne_empty u) fun _ _ => ⟨u, rfl⟩

/-- A `Readlink` that read a target other than the empty string read a symlink. -/
theorem FsStep.readlink_target {F : FsCall → Prop} {n : String} {s s' : CacheDir}
    {r : String × Option GoError} (h : FsStep dir F (.readlink (getKerberosFilePath dir n)) s r s')
    (hn : n ≠ "") (ht : r.1 ≠ "") : ∃ es, s = some es ∧ es.lookup n = some (.symlink r.1) := by
  rcases tooLong_or_entryName dir hn with hl | hn
  · obtain ⟨-, e, rfl, -⟩ := h.tooLong hl
    exact absurd rfl ht
  cases h with
  | exec =>
    cases s with
    | none => exact absurd rfl ht
    | some es =>
      exact ⟨es, rfl, lookup_of_linkTarget (exec_readlink_entry hn).1.symm ht⟩
  | fail => exact absurd rfl ht

/-- `ReadDir` lists names of the directory, or some of them, or nothing. -/
theorem FsStep.readDir_names {F : FsCall → Prop} {s s' : CacheDir}
    {r : List String × Option GoError} (h : FsStep dir F (.readDir dir) s r s') {n : String}
    (hn : n ∈ r.1) : ∃ es, s = some es ∧ n ∈ es := by
  cases h with
  | exec =>
    cases s with
    | none => exact absurd hn (List.not_mem_nil n)
    | some es => exact ⟨es, rfl, mem_dirNames.mp (by simpa using hn)⟩
  | fail => exact absurd hn (List.not_mem_nil n)
  | partialReadDir _ _ hs => exact ⟨_, rfl, mem_dirNames.mp (hs.subset hn)⟩

/-- `Remove` of an entry removes it or changes nothing. -/
theorem FsStep.remove_any {F : FsCall → Prop} {n : String} {s s' : CacheDir} {r : Option GoError}
    (h : FsStep dir F (.remove (getKerberosFilePath dir n)) s r s') (hn : n ≠ "") :
    s' = s ∨ ∃ es, s = some es ∧ s' = some (es.erase n) := by
  rcases tooLong_or_entryName dir hn with hl | hn
  · exact .inl (h.tooLong hl).1
  cases s with
  | none => exact .inl h.absent
  | some es =>
    rcases h.remove hn with ⟨-, -, rfl⟩ | ⟨-, rfl, -⟩
    exacts [.inr ⟨es, rfl, rfl⟩, .inl rfl]

/-- `WriteFile` of `V`'s file from a directory whose symlinks are canonical: it writes that file,
or changes nothing and fails. -/
theorem FsStep.writeFile_volume {F : FsCall → Prop} {V : String} {data : List UInt8}
    {s s' : CacheDir} {r : Option GoError}
    (h : FsStep dir F (.writeFile (getKerberosFilePath dir (volumeKerberosCacheName V)) data) s r s')
    (hV : V ≠ "") (hs : LinksCanonical s) :
    (s' = s ∧ r.isSome) ∨ ∃ es d, s = some es ∧
      s' = some (es.insert (volumeKerberosCacheName V) (.file d)) ∧ (r = none → d = data) := by
  rcases tooLong_or_entryName dir (volumeKerberosCacheName_ne_empty hV) with hl | hn
  · obtain ⟨rfl, e, rfl, -⟩ := h.tooLong hl
    exact .inl ⟨rfl, rfl⟩
  cases s with
  | none => cases h with
    | exec => exact .inl ⟨rfl, rfl⟩
    | fail => exact .inl ⟨rfl, rfl⟩
  | some es =>
    have hvol : ∀ t, es.lookup (volumeKerberosCacheName V) ≠ some (.symlink t) := fun t hl => by
      obtain ⟨u, hu⟩ := (hs es rfl).2 _ t hl
      exact volumeKerberosCacheName_ne_canonical hV u hu
    rcases h.writeFile (resolve_of_not_symlink dir hn hvol _)
      with ⟨rfl, rfl⟩ | ⟨hr, rfl | ⟨d, rfl⟩⟩
    · exact .inr ⟨es, data, rfl, rfl, fun _ => rfl⟩
    · exact .inl ⟨rfl, hr⟩
    · exact .inr ⟨es, d, rfl, rfl, fun e => by simp [e] at hr⟩

/-- `Symlink` to an entry: it creates the link where the name is free, or changes nothing and
fails. -/
theorem FsStep.symlink_any {F : FsCall → Prop} {o n : String} {s s' : CacheDir}
    {r : Option GoError} (h : FsStep dir F (.symlink o (getKerberosFilePath dir n)) s r s')
    (hn : n ≠ "") :
    (s' = s ∧ r.isSome) ∨ (r = none ∧ ∃ es, s = some es ∧ n ∉ es ∧
      s' = some (es.insert n (.symlink o))) := by
  rcases tooLong_or_entryName dir hn with hl | hn
  · obtain ⟨rfl, e, rfl, -⟩ := h.tooLong hl
    exact .inl ⟨rfl, rfl⟩
  cases s with
  | none => cases h with
    | exec => exact .inl ⟨rfl, rfl⟩
    | fail => exact .inl ⟨rfl, rfl⟩
  | some es =>
    rcases h.symlink hn with ⟨rfl, hm, rfl⟩ | ⟨hr, rfl, -⟩
    exacts [.inr ⟨rfl, es, rfl, hm, rfl⟩, .inl ⟨rfl, hr⟩]

end Steps

/-! ## The cleanup's guarantee -/

section Cleanup

variable {dir : String} {F : FsCall → Prop} {V W : String} {u : Int}

/-- A return, where a property the environment keeps gives the postcondition. -/
theorem rgwp_ret_of {R G : CacheDir → CacheDir → Prop} {P : CacheDir → Prop}
    (hP : ∀ s s', P s → R s s' → P s') {α : Type} {a : α} {Q : α → CacheDir → Prop}
    (hQ : ∀ s, P s → Q a s) {s : CacheDir} (hs : P s) :
    rgwp (FsStep dir F) R G (.ret a) Q s := fun _ hR => hQ _ (stable_star hP hs hR)

/-- `kerberosCacheDirectoryExists` only reads. -/
theorem kerberosCacheDirectoryExists_rgwp {R G : CacheDir → CacheDir → Prop}
    {P : CacheDir → Prop} (hG : ∀ s, G s s) (hP : ∀ s s', P s → R s s' → P s')
    {Q : Bool × Option GoError → CacheDir → Prop} (hQ : ∀ a s, P s → Q a s) {s : CacheDir}
    (hs : P s) : rgwp (FsStep dir F) R G (kerberosCacheDirectoryExists dir) Q s := by
  simp only [kerberosCacheDirectoryExists, Os.stat, Prog.trigger_bind, rgwp_call]
  intro s₀ hR r s' h
  obtain rfl := h.query rfl
  refine ⟨hG _, ?_⟩
  have hs₀ := stable_star hP hs hR
  split
  · exact rgwp_ret_of hP (hQ _) hs₀
  · split
    · exact rgwp_ret_of hP (hQ _) hs₀
    · exact rgwp_ret_of hP (hQ _) hs₀

/-- The loop of `deleteKerberosCache` of `W`, against a concurrent stage of `V`, removes only
canonical caches: what it removes it has just read as a symlink. -/
theorem removeSymlinksTo_rgwp (hV : V ≠ "") (hW : W ≠ "") : ∀ (names : List String)
    (s : CacheDir), (∀ n ∈ names, n ≠ "") → LinksCanonical s →
    rgwp (FsStep dir F) (EnsureStep dir V u) (DeleteStep W)
      (removeSymlinksTo dir (getKerberosFilePath dir (volumeKerberosCacheName W)) names)
      (fun _ => LinksCanonical) s
  | [], _, _, hs => rgwp_ret_of (fun _ _ h => h.ensureStep hV) (fun _ h => h) hs
  | n :: ns, s, hns, hs => by
    have hn : n ≠ "" := hns n (List.mem_cons_self _ _)
    have rest := removeSymlinksTo_rgwp hV hW ns
    have hns' : ∀ m ∈ ns, m ≠ "" := fun m hm => hns m (List.mem_cons_of_mem _ hm)
    have stab : ∀ {s s'}, LinksCanonical s → ReflTransGen (EnsureStep dir V u) s s' →
        LinksCanonical s' := stable_star fun _ _ h => h.ensureStep hV
    simp only [removeSymlinksTo, Os.lstat, Os.readlink, Os.remove, Prog.trigger_bind,
      Prog.call_bind, Prog.pure_eq, Prog.ret_bind, rgwp_call]
    intro s₀ hR r₁ s₁ h₁
    obtain rfl := h₁.query rfl
    refine ⟨.inl rfl, ?_⟩
    split
    · -- `Lstat` found it: read the link
      intro s₂ hR₂ r₂ s₃ h₃
      obtain rfl := h₃.query rfl
      refine ⟨.inl rfl, ?_⟩
      have hs₂ := stab (stab hs hR) hR₂
      dsimp only
      split
      · -- it named `W`'s file, so it was a symlink, so it is a canonical cache
        rename_i heq
        obtain ⟨es, rfl, hl⟩ := h₃.readlink_target hn
          (heq ▸ getKerberosFilePath_ne_empty (volumeKerberosCacheName_ne_empty hW))
        have hcan : IsCanonical n := (hs₂ es rfl).2 n _ hl
        intro s₄ hR₄ r₄ s₅ h₅
        have hs₄ := stab hs₂ hR₄
        rcases h₅.remove_any hn with rfl | ⟨es', rfl, rfl⟩
        · exact ⟨.inl rfl, rest _ hns' hs₄⟩
        · exact ⟨.inr ⟨es', n, rfl, .inl hcan, rfl⟩, rest _ hns' (hs₄.erase n)⟩
      · exact rest _ hns' hs₂
    · exact rest _ hns' (stab hs hR)

/-- **The cleanup's guarantee.**  `deleteKerberosCache` of `W`, against a concurrent stage of
another volume, removes only canonical caches and `W`'s file. -/
theorem deleteKerberosCache_rgwp (hV : V ≠ "") (hW : W ≠ "") {s : CacheDir}
    (hs : LinksCanonical s) :
    rgwp (FsStep dir F) (EnsureStep dir V u) (DeleteStep W) (deleteKerberosCache dir W)
      (fun _ => LinksCanonical) s := by
  have stab : ∀ {s s'}, LinksCanonical s → ReflTransGen (EnsureStep dir V u) s s' →
      LinksCanonical s' := stable_star fun _ _ h => h.ensureStep hV
  have hP : ∀ s s', LinksCanonical s → EnsureStep dir V u s s' → LinksCanonical s' :=
    fun _ _ h => h.ensureStep hV
  simp only [deleteKerberosCache, rgwp_bind]
  refine kerberosCacheDirectoryExists_rgwp (fun _ => .inl rfl) hP (fun a s₁ hs₁ => ?_) hs
  split
  · exact rgwp_ret_of hP (fun _ h => h) hs₁
  split
  · exact rgwp_ret_of hP (fun _ h => h) hs₁
  simp only [Os.stat, Os.readDir, Os.remove, Prog.trigger_bind, Prog.call_bind, Prog.pure_eq,
    Prog.ret_bind, rgwp_call, rgwp_bind]
  intro s₀ hR r₂ s₂ h₂
  obtain rfl := h₂.query rfl
  refine ⟨.inl rfl, ?_⟩
  have hs₀ := stab hs₁ hR
  split
  · exact rgwp_ret_of hP (fun _ h => h) hs₀
  split
  · exact rgwp_ret_of hP (fun _ h => h) hs₀
  intro s₃ hR₃ r₃ s₄ h₄
  obtain rfl := h₄.query rfl
  refine ⟨.inl rfl, ?_⟩
  have hs₃ := stab hs₀ hR₃
  dsimp only
  rw [rgwp_bind]
  refine rgwp_mono (fun _ s h => ?_) (removeSymlinksTo_rgwp hV hW _ _ (fun n hn => ?_) hs₃)
  · -- the removal of `W`'s file
    intro s₅ hR₅ r₅ s₆ h₆
    have hs₅ := stab h hR₅
    rcases h₆.remove_any (volumeKerberosCacheName_ne_empty hW) with rfl | ⟨es, rfl, rfl⟩
    · exact ⟨.inl rfl, rgwp_ret_of hP (fun _ h => h) hs₅⟩
    · exact ⟨.inr ⟨es, _, rfl, .inr rfl, rfl⟩, rgwp_ret_of hP (fun _ h => h) (hs₅.erase _)⟩
  · obtain ⟨es, rfl, hm⟩ := h₄.readDir_names hn
    exact (hs₃ es rfl).1 n hm

end Cleanup

/-! ## The stage against a concurrent cleanup -/

section Stage

variable {lib : GoLib} {dir : String} {F : FsCall → Prop} {V W : String} {u : Int}
  {content : List UInt8}

/-- `V`'s file holds the ticket. -/
def TicketWritten (V : String) (content : List UInt8) (s : CacheDir) : Prop :=
  ∃ es, s = some es ∧ es.lookup (volumeKerberosCacheName V) = some (.file content)

/-- What a stage of `V` for `u` leaves and keeps against cleanups of other volumes: the ticket
in `V`'s file, and `krb5cc_u` a symlink to that file or absent. -/
def StageHeld (dir V : String) (u : Int) (content : List UInt8) (s : CacheDir) : Prop :=
  ∃ es, s = some es ∧ es.lookup (volumeKerberosCacheName V) = some (.file content) ∧
    (es.lookup (getKrb5CcacheName u) =
        some (.symlink (getKerberosFilePath dir (volumeKerberosCacheName V))) ∨
      getKrb5CcacheName u ∉ es)

/-- A cleanup of another volume never removes `V`'s file. -/
theorem volume_ne_of_deleteStep {n : String} (hV : V ≠ "") (hVW : V ≠ W)
    (hn : IsCanonical n ∨ n = volumeKerberosCacheName W) : volumeKerberosCacheName V ≠ n := by
  rcases hn with ⟨u, rfl⟩ | rfl
  · exact volumeKerberosCacheName_ne_canonical hV u
  · exact fun e => hVW (volumeKerberosCacheName_inj e)

theorem TicketWritten.deleteStep (hV : V ≠ "") (hVW : V ≠ W) {s s' : CacheDir}
    (h : TicketWritten V content s) (hs : DeleteStep W s s') : TicketWritten V content s' := by
  rcases hs with rfl | ⟨es, n, rfl, hn, rfl⟩
  · exact h
  · obtain ⟨_, ⟨⟩, hl⟩ := h
    exact ⟨_, rfl, (AList.lookup_erase_ne (volume_ne_of_deleteStep hV hVW hn)).trans hl⟩

theorem StageHeld.deleteStep (hV : V ≠ "") (hVW : V ≠ W) {s s' : CacheDir}
    (h : StageHeld dir V u content s) (hs : DeleteStep W s s') : StageHeld dir V u content s' := by
  rcases hs with rfl | ⟨es, n, rfl, hn, rfl⟩
  · exact h
  · obtain ⟨_, ⟨⟩, hl, hk⟩ := h
    refine ⟨_, rfl, (AList.lookup_erase_ne (volume_ne_of_deleteStep hV hVW hn)).trans hl, ?_⟩
    by_cases hkn : getKrb5CcacheName u = n
    · exact .inr fun hm => (AList.mem_erase.mp hm).1 hkn
    · rcases hk with hk | hk
      · exact .inl ((AList.lookup_erase_ne hkn).trans hk)
      · exact .inr fun hm => hk (AList.mem_erase.mp hm).2

/-- The last step of the stage, from a directory holding the ticket: the symlink, and the
return. -/
theorem rgwp_link (hV : V ≠ "") (hVW : V ≠ W) {k : Option GoError → FsProg (Bool × Option GoError)}
    (hks : ∀ e, ∃ e', k (some e) = .ret (false, some e')) (hkn : k none = .ret (true, none))
    {s : CacheDir} (hs : LinksCanonical s ∧ TicketWritten V content s) :
    rgwp (FsStep dir F) (DeleteStep W) (EnsureStep dir V u)
      (.call (.symlink (getKerberosFilePath dir (volumeKerberosCacheName V))
        (getKerberosFilePath dir (getKrb5CcacheName u))) k)
      (fun r s => LinksCanonical s ∧ (r = (true, none) → StageHeld dir V u content s)) s := by
  intro s₀ hR r s' h
  obtain ⟨hl₀, hw₀⟩ := stable_star (P := fun s => LinksCanonical s ∧ TicketWritten V content s)
    (fun _ _ h hs => ⟨h.1.deleteStep hs, h.2.deleteStep hV hVW hs⟩) hs hR
  rcases h.symlink_any (getKrb5CcacheName_ne_empty u) with ⟨rfl, hr⟩ | ⟨rfl, es, rfl, -, rfl⟩
  · refine ⟨.inl rfl, ?_⟩
    obtain ⟨e, rfl⟩ := Option.isSome_iff_exists.mp hr
    obtain ⟨e', he'⟩ := hks e
    rw [he']
    exact rgwp_ret_of (fun _ _ h hs => h.deleteStep hs) (fun _ h => ⟨h, fun e => nomatch e⟩) hl₀
  · refine ⟨.inr ⟨es, rfl, .inr (.inr rfl)⟩, ?_⟩
    rw [hkn]
    obtain ⟨_, ⟨⟩, hv⟩ := hw₀
    refine rgwp_ret_of (P := fun s => LinksCanonical s ∧ StageHeld dir V u content s)
      (fun _ _ h hs => ⟨h.1.deleteStep hs, h.2.deleteStep hV hVW hs⟩) (fun _ h => ⟨h.1, fun _ => h.2⟩)
      ⟨hl₀.insert (getKrb5CcacheName_ne_empty u) fun _ _ => ⟨u, rfl⟩, _, rfl, ?_, .inl ?_⟩
    · rw [AList.lookup_insert_ne (volumeKerberosCacheName_ne_canonical hV u)]
      exact hv
    · exact AList.lookup_insert _

/-- **The stage's guarantee.**  `ensureKerberosCache` of `V`, against a concurrent cleanup of
another volume, only writes `V`'s file and replaces `krb5cc_u`; when it succeeds, `V`'s file holds
the ticket and `krb5cc_u` points at that file or is gone, whatever the cleanup did. -/
theorem ensureKerberosCache_rgwp {mountFlags : List String} {secrets : List (String × String)}
    (hV : V ≠ "") (hVW : V ≠ W) (ht : kerberosTicket lib dir mountFlags secrets = some (u, content))
    {s : CacheDir} (hs : LinksCanonical s) :
    rgwp (FsStep dir F) (DeleteStep W) (EnsureStep dir V u)
      (ensureKerberosCache lib dir V mountFlags secrets)
      (fun r s => LinksCanonical s ∧ (r = (true, none) → StageHeld dir V u content s)) s := by
  obtain ⟨hk, hu, hc⟩ := kerberosTicket_eq_some ht
  have hP : ∀ s s', LinksCanonical s → DeleteStep W s s' → LinksCanonical s' :=
    fun _ _ h => h.deleteStep
  have hT : ∀ s s', LinksCanonical s ∧ TicketWritten V content s → DeleteStep W s s' →
      LinksCanonical s' ∧ TicketWritten V content s' :=
    fun _ _ h hs => ⟨h.1.deleteStep hs, h.2.deleteStep hV hVW hs⟩
  have fail : ∀ {s} (e : GoError), LinksCanonical s →
      rgwp (FsStep dir F) (DeleteStep W) (EnsureStep dir V u) (.ret (false, some e))
        (fun r s => LinksCanonical s ∧ (r = (true, none) → StageHeld dir V u content s)) s :=
    fun _ hs => rgwp_ret_of hP (fun _ h => ⟨h, fun e => nomatch e⟩) hs
  simp only [ensureKerberosCache, hk, if_true, rgwp_bind]
  refine kerberosCacheDirectoryExists_rgwp (fun _ => .inl rfl) hP (fun a s₁ hs₁ => ?_) hs
  split
  · exact fail _ hs₁
  simp only [hu, hc, Os.writeFile, Os.chown, Os.stat, Os.remove, Os.symlink, Prog.trigger_bind,
    Prog.call_bind, Prog.pure_eq, Prog.ret_bind, rgwp_call, rgwp_bind]
  -- `WriteFile` of `V`'s file
  intro s₀ hR r₁ s₁ h₁
  have hs₀ := stable_star hP hs₁ hR
  rcases h₁.writeFile_volume hV hs₀ with ⟨rfl, hr⟩ | ⟨es, d, rfl, rfl, hd⟩
  · obtain ⟨e, rfl⟩ := Option.isSome_iff_exists.mp hr
    exact ⟨.inl rfl, fail _ hs₀⟩
  have hl₁ := hs₀.insert (volumeKerberosCacheName_ne_empty hV) (e := .file d) fun _ e => nomatch e
  refine ⟨.inr ⟨es, rfl, .inl ⟨d, rfl⟩⟩, ?_⟩
  cases r₁
  case some e => exact fail _ hl₁
  obtain rfl := hd rfl
  have hw : LinksCanonical _ ∧ TicketWritten V d _ := ⟨hl₁, _, rfl, AList.lookup_insert es⟩
  -- `Chown`
  intro s₂ hR₂ r₂ s₃ h₃
  obtain rfl := h₃.query rfl
  have hw₂ := stable_star hT hw hR₂
  refine ⟨.inl rfl, ?_⟩
  cases r₂
  case some e => exact fail _ hw₂.1
  -- `Stat` of `krb5cc_u`, and its removal where found
  intro s₄ hR₄ r₄ s₅ h₅
  obtain rfl := h₅.query rfl
  have hw₄ := stable_star hT hw₂ hR₄
  refine ⟨.inl rfl, ?_⟩
  dsimp only
  split
  · exact rgwp_link hV hVW (fun _ => ⟨_, rfl⟩) rfl hw₄
  intro s₆ hR₆ r₆ s₇ h₇
  have hw₆ := stable_star hT hw₄ hR₆
  rcases h₇.remove_any (getKrb5CcacheName_ne_empty u) with rfl | ⟨es, rfl, rfl⟩
  · exact ⟨.inl rfl, rgwp_link hV hVW (fun _ => ⟨_, rfl⟩) rfl hw₆⟩
  obtain ⟨_, ⟨⟩, hv⟩ := hw₆.2
  refine ⟨.inr ⟨es, rfl, .inr (.inl rfl)⟩, rgwp_link hV hVW (fun _ => ⟨_, rfl⟩) rfl
    ⟨hw₆.1.erase _, _, rfl, ?_⟩⟩
  exact (AList.lookup_erase_ne (volumeKerberosCacheName_ne_canonical hV u)).trans hv

/-- With no ticket to write, `ensureKerberosCache` only reads, and does not succeed. -/
theorem ensureKerberosCache_rgwp_none {mountFlags : List String}
    {secrets : List (String × String)} {R : CacheDir → CacheDir → Prop}
    (ht : kerberosTicket lib dir mountFlags secrets = none) {s : CacheDir} :
    rgwp (FsStep dir F) R (EnsureStep dir V u) (ensureKerberosCache lib dir V mountFlags secrets)
      (fun r _ => r ≠ (true, none)) s := by
  have fail : ∀ {s} (e : Option GoError), rgwp (FsStep dir F) R (EnsureStep dir V u)
      (.ret (false, e)) (fun r _ => r ≠ (true, none)) s :=
    fun _ => rgwp_ret_of (P := fun _ => True) (fun _ _ _ _ => trivial) (fun _ _ e => nomatch e)
      trivial
  unfold kerberosTicket at ht
  split_ifs at ht with hk
  · simp only [ensureKerberosCache, hk, if_true, rgwp_bind]
    refine kerberosCacheDirectoryExists_rgwp (P := fun _ => True) (fun _ => .inl rfl)
      (fun _ _ _ _ => trivial) (fun a s _ => ?_) trivial
    split
    · exact fail _
    split at ht
    · rename_i hu
      split at ht
      · cases ht
      · rename_i he
        simp only [hu, he]
        exact fail _
    · rename_i hu
      simp only [hu]
      exact fail _
  · simp only [ensureKerberosCache, hk]
    exact fail _

end Stage

/-! ## The race -/

section Race

variable {lib : GoLib} {dir : String} {F : FsCall → Prop} {s : CacheDir}
  {g : String → Option (List UInt8)} {V W : String} {mountFlags : List String}
  {secrets : List (String × String)} {u : Int}

/-- **A stage racing a cleanup of another volume.**  From a reachable directory, run an
`ensureKerberosCache` of `V` with `cruid=u` and a `deleteKerberosCache` of another volume `W`
with their calls interleaved in any order, where any call may fail.  If the stage succeeds, `V`'s
file holds the ticket, and `krb5cc_u` is a symlink to that file or absent: the cleanup may remove
the link the stage has just made, but never redirects it or removes the ticket. -/
theorem ensure_delete_race (hreach : Reachable lib dir s g) (hV : V ≠ "") (hW : W ≠ "")
    (hVW : V ≠ W) (hu : getCredUID mountFlags = .ok u) {r : Option GoError} {t : CacheDir}
    (hpar : Par (FsStep dir F) (ensureKerberosCache lib dir V mountFlags secrets)
      (deleteKerberosCache dir W) s (true, none) r t) :
    ∃ es c, t = some es ∧ kerberosTicket lib dir mountFlags secrets = some (u, c) ∧
      es.lookup (volumeKerberosCacheName V) = some (.file c) ∧
      (es.lookup (getKrb5CcacheName u) =
          some (.symlink (getKerberosFilePath dir (volumeKerberosCacheName V))) ∨
        getKrb5CcacheName u ∉ es) := by
  obtain ⟨es, rfl, hi, -⟩ := hreach.inv
  have hdel : rgwp (FsStep dir F) (EnsureStep dir V u) (DeleteStep W) (deleteKerberosCache dir W)
      (fun _ => LinksCanonical) (some es) := deleteKerberosCache_rgwp hV hW hi.linksCanonical
  cases ht : kerberosTicket lib dir mountFlags secrets with
  | none =>
    exact absurd rfl (Par.rg_sound (fun _ _ h => h) (fun _ _ h => h) hpar
      (ensureKerberosCache_rgwp_none ht) hdel).1
  | some p =>
    obtain ⟨u', c⟩ := p
    obtain ⟨-, hu', -⟩ := kerberosTicket_eq_some ht
    obtain rfl : u' = u := Except.ok.inj (hu'.symm.trans hu)
    obtain ⟨es', rfl, hv, hk⟩ := (Par.rg_sound (fun _ _ h => h) (fun _ _ h => h) hpar
      (ensureKerberosCache_rgwp hV hVW ht hi.linksCanonical) hdel).1.2 rfl
    exact ⟨es', c, rfl, rfl, hv, hk⟩

/-- The kubelet's cache directory. -/
def kubeletKrb5Dir : String := "/var/lib/kubelet/kerberos/"

/-- Mount flags asking for Kerberos security as user 1000. -/
def uid1000Flags : List String := ["sec=krb5", "cruid=1000"]

/-- Secrets holding user 1000's ticket, the bytes of `ticket` in base64. -/
def uid1000Secrets : List (String × String) := [("krb5cc_1000", "dGlja2V0")]

/-- The cache directory a stage of `pvc-2` for user 1000 leaves from an empty one: `pvc-2`'s
file, and `krb5cc_1000` linked to it. -/
def pvc2Staged : CacheDir :=
  (Prog.run (fun c s => c.exec kubeletKrb5Dir s)
    (ensureKerberosCache GoLib.canonical kubeletKrb5Dir "pvc-2" uid1000Flags uid1000Secrets)
    (some ∅)).2.1

/-- The directory a stage of `pvc-1` for user 1000 leaves from an empty one: `pvc-1`'s file,
and `krb5cc_1000` linked to it. -/
def pvc1Linked : Entries :=
  ((∅ : Entries).insert (volumeKerberosCacheName "pvc-1")
    (.file [116, 105, 99, 107, 101, 116])).insert (getKrb5CcacheName 1000)
    (.symlink (getKerberosFilePath kubeletKrb5Dir (volumeKerberosCacheName "pvc-1")))

/-- The directory holding `pvc-1`'s file with the ticket, and nothing else. -/
def pvc1Only : Entries :=
  (∅ : Entries).insert (volumeKerberosCacheName "pvc-1") (.file [116, 105, 99, 107, 101, 116])

/-- The stage of `pvc-1` and the unstage of `pvc-2` one after the other, from the directory a
stage of `pvc-2` left: the link to `pvc-1`'s file survives. -/
theorem ensure_delete_race_serial :
    let dir := "/var/lib/kubelet/kerberos/"
    let mountFlags := ["sec=krb5", "cruid=1000"]
    let secrets := [("krb5cc_1000", "dGlja2V0")]
    let linked : Entries := ((∅ : Entries).insert (volumeKerberosCacheName "pvc-1")
      (.file [116, 105, 99, 107, 101, 116])).insert (getKrb5CcacheName 1000)
      (.symlink (getKerberosFilePath dir (volumeKerberosCacheName "pvc-1")))
    ∃ es c, some linked = some es ∧
      kerberosTicket GoLib.canonical dir mountFlags secrets = some (1000, c) ∧
      es.lookup (volumeKerberosCacheName "pvc-1") = some (.file c) ∧
      (es.lookup (getKrb5CcacheName 1000) =
          some (.symlink (getKerberosFilePath dir (volumeKerberosCacheName "pvc-1"))) ∨
        getKrb5CcacheName 1000 ∉ es) := by
  intro dir mountFlags secrets linked
  have hpar : Par (FsStep kubeletKrb5Dir noFault)
      (ensureKerberosCache GoLib.canonical kubeletKrb5Dir "pvc-1" uid1000Flags uid1000Secrets)
      (deleteKerberosCache kubeletKrb5Dir "pvc-2") pvc2Staged (true, none) none (some pvc1Linked) :=
    Par.mono (fun _ _ _ _ => fsStep_of_det)
      (Par.of_runPar _ (List.replicate 6 true ++ List.replicate 10 false) _ _ _ rfl)
  exact ensure_delete_race
    (.ensure .empty (by decide) ((Prog.exec_run _ _ _).mono fun _ _ _ _ => fsStep_of_det))
    (by decide) (by decide) (by decide) (by rfl) hpar

/-- The interleaving that loses the link.  After a stage of `pvc-2` for uid 1000, a stage of
`pvc-1` for the same user races an unstage of `pvc-2`: the cleanup reads `krb5cc_1000` as a link
to `pvc-2`'s file; the stage replaces it by a link to its own file and succeeds; the cleanup then
removes `krb5cc_1000` by name, and the user is left with no canonical cache. -/
theorem ensure_delete_race_loses_link :
    (∃ g, Reachable GoLib.canonical kubeletKrb5Dir pvc2Staged g) ∧
      Par (FsStep kubeletKrb5Dir noFault)
        (ensureKerberosCache GoLib.canonical kubeletKrb5Dir "pvc-1" uid1000Flags uid1000Secrets)
        (deleteKerberosCache kubeletKrb5Dir "pvc-2") pvc2Staged (true, none) none (some pvc1Only) ∧
      getKrb5CcacheName 1000 ∉ pvc1Only :=
  ⟨⟨_, .ensure .empty (by decide) ((Prog.exec_run _ _ _).mono fun _ _ _ _ => fsStep_of_det)⟩,
    Par.mono (fun _ _ _ _ => fsStep_of_det) (Par.of_runPar _
      (List.replicate 7 false ++ List.replicate 6 true ++ List.replicate 2 false) _ _ _ rfl),
    by decide⟩

end Race

end SmbNode
