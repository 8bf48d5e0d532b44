import SmbNode.Kerberos.CacheDir

/-!
# Creating and removing a volume's Kerberos cache

`ensureKerberosCache` and `deleteKerberosCache` of `nodeserver.go`, with the helpers they call,
as programs over the calls of `SmbNode/Kerberos/CacheDir.lean`.
-/

namespace SmbNode

/-- Programs over the cache directory. -/
abbrev FsProg := Prog FsCall FsCall.Ret

namespace Os

/-- `os.Stat`, of which the code reads only the error. -/
def stat (name : String) : FsProg (Option GoError) := Prog.trigger (.stat name)

/-- `os.Lstat`, of which the code reads only the error. -/
def lstat (name : String) : FsProg (Option GoError) := Prog.trigger (.lstat name)

/-- `os.Readlink`. -/
def readlink (name : String) : FsProg (String × Option GoError) := Prog.trigger (.readlink name)

/-- `os.ReadDir`, of which the code reads the entries' names. -/
def readDir (name : String) : FsProg (List String × Option GoError) :=
  Prog.trigger (.readDir name)

/-- `os.WriteFile`. -/
def writeFile (name : String) (data : List UInt8) : FsProg (Option GoError) :=
  Prog.trigger (.writeFile name data)

/-- `os.Chown`. -/
def chown (name : String) (uid gid : Int) : FsProg (Option GoError) :=
  Prog.trigger (.chown name uid gid)

/-- `os.Remove`. -/
def remove (name : String) : FsProg (Option GoError) := Prog.trigger (.remove name)

/-- `os.Symlink`. -/
def symlink (oldname newname : String) : FsProg (Option GoError) :=
  Prog.trigger (.symlink oldname newname)

end Os

section Code

variable (lib : GoLib) (krb5CacheDirectory : String)

/-- `kerberosCacheDirectoryExists`. -/
def kerberosCacheDirectoryExists : FsProg (Bool × Option GoError) := do
  let err ← Os.stat krb5CacheDirectory
  if isNotExist err then
    return (false, some (.status .internal
      ("Directory for kerberos caches must exist, it will not be created: " ++
        krb5CacheDirectory ++ ": " ++ errorString err)))
  else if let some err := err then
    return (false, some err)
  else
    return (true, none)

/-- `getKerberosCache`: the ticket is the value of the last secret, in the map's order, whose
lowered key is the canonical cache name. -/
def getKerberosCache (credUID : Int) (secrets : List (String × String)) :
    Except GoError (String × List UInt8) := do
  let krb5CcacheName := getKrb5CcacheName credUID
  let krb5CcacheContent := rangeLower lib.toLower (fun key v krb5CcacheContent =>
    if key = krb5CcacheName then v else krb5CcacheContent) "" secrets
  if krb5CcacheContent = "" then
    throw (.status .invalidArgument ("Empty kerberos cache in key " ++ krb5CcacheName))
  let content ← match lib.decodeString krb5CcacheContent with
    | .ok content => pure content
    | .error err => throw (.status .invalidArgument ("Malformed kerberos cache in key " ++
        krb5CcacheName ++ ", expected to be in base64 form: " ++ err.msg))
  let krb5CacheFileName := getKerberosFilePath krb5CacheDirectory (getKrb5CcacheName credUID)
  return (krb5CacheFileName, content)

/-- `ensureKerberosCache`: write the ticket to the volume's file, then point the user's
canonical cache at it. -/
def ensureKerberosCache (volumeID : String) (mountFlags : List String)
    (secrets : List (String × String)) : FsProg (Bool × Option GoError) := do
  let securityIsKerberos := hasKerberosMountOption mountFlags
  if securityIsKerberos then
    let (_, err) ← kerberosCacheDirectoryExists krb5CacheDirectory
    if let some err := err then return (false, some err)
    match getCredUID mountFlags with
    | .error err => return (false, some err)
    | .ok credUID =>
    match getKerberosCache lib krb5CacheDirectory credUID secrets with
    | .error err => return (false, some err)
    | .ok (krb5CacheFileName, content) =>
    -- Write cache into volumeId-based filename, so it can be cleaned up later
    let volumeIDCacheFileName := volumeKerberosCacheName volumeID
    let volumeIDCacheAbsolutePath := getKerberosFilePath krb5CacheDirectory volumeIDCacheFileName
    if let some err ← Os.writeFile volumeIDCacheAbsolutePath content then
      return (false, some (.status .internal ("Couldn't write kerberos cache to file " ++
        volumeIDCacheAbsolutePath ++ ": " ++ err.msg)))
    if let some err ← Os.chown volumeIDCacheAbsolutePath credUID credUID then
      return (false, some (.status .internal ("Couldn't chown kerberos cache " ++
        volumeIDCacheAbsolutePath ++ " to user " ++ toString credUID ++ ": " ++ err.msg)))
    let err ← Os.stat krb5CacheFileName
    if isNotExist err then
      pure ()
    else
      -- a failed removal is only logged
      let _ ← Os.remove krb5CacheFileName
    -- Create symlink to the cache file with expected name
    if let some err ← Os.symlink volumeIDCacheAbsolutePath krb5CacheFileName then
      return (false, some (.status .internal ("Couldn't create symlink to a cache file " ++
        krb5CacheFileName ++ "->" ++ volumeIDCacheFileName ++ " to user " ++ toString credUID ++
        ": " ++ err.msg)))
    return (true, none)
  return (false, none)

/-- The loop of `deleteKerberosCache` over the directory's entries: an entry that `Lstat` finds
and whose `Readlink` is the volume's cache path is removed; a failed removal is only logged. -/
def removeSymlinksTo (volumeIDCacheAbsolutePath : String) : List String → FsProg Unit
  | [] => pure ()
  | dirEntry :: dirEntries => do
    let filePath := getKerberosFilePath krb5CacheDirectory dirEntry
    let lStatErr ← Os.lstat filePath
    -- If it's a symlink, checking if it's pointing to the volume file in question
    if lStatErr.isNone then
      let (target, _) ← Os.readlink filePath
      if target = volumeIDCacheAbsolutePath then
        let _ ← Os.remove filePath
    removeSymlinksTo volumeIDCacheAbsolutePath dirEntries

/-- `deleteKerberosCache`. -/
def deleteKerberosCache (volumeID : String) : FsProg (Option GoError) := do
  let (cacheDirExists, err) ← kerberosCacheDirectoryExists krb5CacheDirectory
  -- If not supported, simply return
  if !cacheDirExists then return none
  if let some err := err then return some err
  let volumeIDCacheFileName := volumeKerberosCacheName volumeID
  let volumeIDCacheAbsolutePath := getKerberosFilePath krb5CacheDirectory volumeIDCacheFileName
  let err ← Os.stat volumeIDCacheAbsolutePath
  -- Not created or already removed
  if isNotExist err then return none
  if let some err := err then return some err
  -- If file with cache exists, full clean means removing symlinks to the file.
  let (dirEntries, _) ← Os.readDir krb5CacheDirectory
  removeSymlinksTo krb5CacheDirectory volumeIDCacheAbsolutePath dirEntries
  let _ ← Os.remove volumeIDCacheAbsolutePath
  return none

end Code

/-! ## What a run does

One lemma per function says what any run of it does to the directory, for the spontaneous
failures it tolerates. -/

section Spec

variable {lib : GoLib} {dir : String} {F : FsCall → Prop}

/-- The path `getKerberosCache` returns is the user's canonical cache. -/
theorem getKerberosCache_path {u : Int} {secrets : List (String × String)} {path : String}
    {content : List UInt8} (h : getKerberosCache lib dir u secrets = .ok (path, content)) :
    path = getKerberosFilePath dir (getKrb5CcacheName u) := by
  simp only [getKerberosCache, pure_bind] at h
  split_ifs at h
  · cases h
  · split at h
    · cases h; rfl
    · cases h

/-- `kerberosCacheDirectoryExists` changes nothing, and reports success exactly where the
directory exists and its `Stat` does not fail spontaneously. -/
theorem kerberosCacheDirectoryExists_wp {s : CacheDir}
    {Q : Bool × Option GoError → CacheDir → Prop}
    (hok : ∀ es, s = some es → Q (true, none) s)
    (herr : ∀ e, s = none ∨ F (.stat dir) → Q (false, some e) s) :
    Prog.wp (FsStep dir F) (kerberosCacheDirectoryExists dir) Q s := by
  simp only [kerberosCacheDirectoryExists, Os.stat, Prog.trigger_bind, Prog.wp_call]
  intro r s' h
  cases s with
  | none =>
    obtain rfl := h.absent
    cases r with
    | none => cases h
    | some e => by_cases hn : e.isNotExist <;> simp [isNotExist, hn, herr]
  | some es =>
    obtain ⟨rfl, rfl | ⟨hf, rfl⟩⟩ := h.stat_dir
    · exact hok es rfl
    · simp [isNotExist, GoError.isNotExist, FsCall.errReply, herr _ (.inr hf)]

section Ensure

variable (dir : String) (V : String) (u : Int) (content : List UInt8)

/-- What a run of `ensureKerberosCache` for the volume `V`, the user `u` and the ticket
`content` may have done to the directory `es`, leaving `es'` and returning `r`.  It changed at
most two entries, the volume's file and the user's canonical cache: the volume's file keeps its
entry or becomes a regular file, and the canonical cache keeps its entry or is removed, unless
the call succeeded.  Then the volume's file holds the ticket and the canonical cache is a
symlink to it; otherwise the call returned an error. -/
structure EnsureEffect (es : Entries) (r : Bool × Option GoError) (es' : Entries) : Prop where
  frame : ∀ n, n ≠ volumeKerberosCacheName V → n ≠ getKrb5CcacheName u →
    es'.lookup n = es.lookup n
  volume : es'.lookup (volumeKerberosCacheName V) = es.lookup (volumeKerberosCacheName V) ∨
    ∃ d, es'.lookup (volumeKerberosCacheName V) = some (.file d)
  canonical : r ≠ (true, none) →
    es'.lookup (getKrb5CcacheName u) = es.lookup (getKrb5CcacheName u) ∨
      es'.lookup (getKrb5CcacheName u) = none
  success : r = (true, none) →
    es'.lookup (volumeKerberosCacheName V) = some (.file content) ∧
      es'.lookup (getKrb5CcacheName u) =
        some (.symlink (getKerberosFilePath dir (volumeKerberosCacheName V)))
  error : r ≠ (true, none) → r.2.isSome

/-- The directory after the write of the ticket, before the symlink: the volume's file holds
the ticket and the canonical cache is as it was, or removed. -/
structure Staged (es es' : Entries) : Prop where
  frame : ∀ n, n ≠ volumeKerberosCacheName V → n ≠ getKrb5CcacheName u →
    es'.lookup n = es.lookup n
  volume : es'.lookup (volumeKerberosCacheName V) = some (.file content)
  canonical : es'.lookup (getKrb5CcacheName u) = es.lookup (getKrb5CcacheName u) ∨
    es'.lookup (getKrb5CcacheName u) = none

variable {dir V u content}

theorem EnsureEffect.failed {es es' : Entries} (e : GoError)
    (hframe : ∀ n, n ≠ volumeKerberosCacheName V → es'.lookup n = es.lookup n)
    (hvol : es'.lookup (volumeKerberosCacheName V) = es.lookup (volumeKerberosCacheName V) ∨
      ∃ d, es'.lookup (volumeKerberosCacheName V) = some (.file d)) (hV : V ≠ "") :
    EnsureEffect dir V u content es (false, some e) es' where
  frame n h _ := hframe n h
  volume := hvol
  canonical _ := .inl (hframe _ (volumeKerberosCacheName_ne_canonical hV u).symm)
  success h := absurd h (by simp)
  error _ := rfl

theorem Staged.written {es : Entries} (hV : V ≠ "") :
    Staged V u content es (es.insert (volumeKerberosCacheName V) (.file content)) where
  frame _ h _ := AList.lookup_insert_ne h
  volume := AList.lookup_insert _
  canonical := .inl (AList.lookup_insert_ne (volumeKerberosCacheName_ne_canonical hV u).symm)

theorem Staged.erase {es es' : Entries} (h : Staged V u content es es') (hV : V ≠ "") :
    Staged V u content es (es'.erase (getKrb5CcacheName u)) where
  frame n h₁ h₂ := (AList.lookup_erase_ne h₂).trans (h.frame n h₁ h₂)
  volume := (AList.lookup_erase_ne (volumeKerberosCacheName_ne_canonical hV u)).trans h.volume
  canonical := .inr (AList.lookup_erase _ _)

theorem Staged.failed {es es' : Entries} (h : Staged V u content es es') (e : GoError) :
    EnsureEffect dir V u content es (false, some e) es' where
  frame := h.frame
  volume := .inr ⟨content, h.volume⟩
  canonical _ := h.canonical
  success h := absurd h (by simp)
  error _ := rfl

theorem Staged.linked {es es' : Entries} (h : Staged V u content es es') (hV : V ≠ "") :
    EnsureEffect dir V u content es (true, none)
      (es'.insert (getKrb5CcacheName u)
        (.symlink (getKerberosFilePath dir (volumeKerberosCacheName V)))) where
  frame n h₁ h₂ := (AList.lookup_insert_ne h₂).trans (h.frame n h₁ h₂)
  volume := .inr ⟨content, (AList.lookup_insert_ne
    (volumeKerberosCacheName_ne_canonical hV u)).trans h.volume⟩
  canonical h := absurd rfl h
  success _ := ⟨(AList.lookup_insert_ne (volumeKerberosCacheName_ne_canonical hV u)).trans
    h.volume, AList.lookup_insert _⟩
  error h := absurd rfl h

/-- The last step of `ensureKerberosCache`, from a staged directory: the symlink, and the
return. -/
theorem wp_link {es es₂ : Entries} (h : Staged V u content es es₂) (hV : V ≠ "")
    (hK : EntryName (getKrb5CcacheName u)) {k : Option GoError → FsProg (Bool × Option GoError)}
    (hks : ∀ e, ∃ e', k (some e) = .ret (false, some e')) (hkn : k none = .ret (true, none)) :
    Prog.wp (FsStep dir F) (.call (.symlink (getKerberosFilePath dir (volumeKerberosCacheName V))
        (getKerberosFilePath dir (getKrb5CcacheName u))) k)
      (fun r s' => ∃ es', s' = some es' ∧ EnsureEffect dir V u content es r es') (some es₂) := by
  intro r s' hs
  rcases hs.symlink hK with ⟨rfl, -, rfl⟩ | ⟨hr, rfl, -⟩
  · rw [hkn]; exact ⟨_, rfl, h.linked hV⟩
  · obtain ⟨e, rfl⟩ := Option.isSome_iff_exists.mp hr
    obtain ⟨e', he'⟩ := hks e
    rw [he']; exact ⟨_, rfl, h.failed e'⟩

end Ensure

/-- The user and the ticket that `ensureKerberosCache` writes for these mount flags and
secrets, or `none` where it stops before writing: the part of it that reads no file. -/
def kerberosTicket (lib : GoLib) (dir : String) (mountFlags : List String)
    (secrets : List (String × String)) : Option (Int × List UInt8) :=
  if hasKerberosMountOption mountFlags then
    match getCredUID mountFlags with
    | .ok credUID => match getKerberosCache lib dir credUID secrets with
      | .ok (_, content) => some (credUID, content)
      | .error _ => none
    | .error _ => none
  else none

theorem kerberosTicket_eq_some {mountFlags : List String} {secrets : List (String × String)}
    {u : Int} {content : List UInt8}
    (h : kerberosTicket lib dir mountFlags secrets = some (u, content)) :
    hasKerberosMountOption mountFlags = true ∧ getCredUID mountFlags = .ok u ∧
      getKerberosCache lib dir u secrets =
        .ok (getKerberosFilePath dir (getKrb5CcacheName u), content) := by
  unfold kerberosTicket at h
  split_ifs at h with hk
  split at h
  · rename_i u' hu
    split at h
    · rename_i path c hc
      cases h
      exact ⟨hk, hu, getKerberosCache_path hc ▸ hc⟩
    · cases h
  · cases h

/-- `ensureKerberosCache` with a ticket to write, from an existing directory where the volume's
file, whose name fits, is not a symlink: whatever fails on the way, the run does
`EnsureEffect`. -/
theorem ensureKerberosCache_wp {es : Entries} {V : String} {mountFlags : List String}
    {secrets : List (String × String)} {u : Int} {content : List UInt8} (hV : V ≠ "")
    (hshort : (volumeKerberosCacheName V).utf8ByteSize ≤ nameMax)
    (hvol : ∀ t, es.lookup (volumeKerberosCacheName V) ≠ some (.symlink t))
    (ht : kerberosTicket lib dir mountFlags secrets = some (u, content)) :
    Prog.wp (FsStep dir F) (ensureKerberosCache lib dir V mountFlags secrets)
      (fun r s' => ∃ es', s' = some es' ∧ EnsureEffect dir V u content es r es') (some es) := by
  obtain ⟨hk, hu, hc⟩ := kerberosTicket_eq_some ht
  have hK := getCredUID_entryName hu
  simp only [ensureKerberosCache, hk, if_true, Prog.wp_bind]
  refine kerberosCacheDirectoryExists_wp (fun _ _ => ?_)
    (fun e _ => ⟨es, rfl, .failed e (fun _ _ => rfl) (.inl rfl) hV⟩)
  simp only [hu, hc, Os.writeFile, Os.chown, Os.stat, Os.remove, Os.symlink, Prog.trigger_bind,
    Prog.wp_call, Prog.wp_bind, Prog.pure_eq, Prog.ret_bind, Prog.wp_ret]
  intro r₁ s₁ h₁
  rcases h₁.writeFile (resolve_of_not_symlink dir (volumeKerberosCacheName_entryName hV hshort)
      hvol _)
    with ⟨rfl, rfl⟩ | ⟨hr, rfl | ⟨d, rfl⟩⟩
  · -- the ticket is written: `Chown`, then the canonical cache is replaced
    intro r₂ s₂ h₂
    obtain rfl := (h₂.query rfl).symm
    cases r₂ with
    | some e => exact ⟨_, rfl, (Staged.written hV).failed _⟩
    | none =>
      intro r₃ s₃ h₃
      obtain rfl := (h₃.query rfl).symm
      dsimp only
      split
      · exact wp_link (Staged.written hV) hV hK (fun _ => ⟨_, rfl⟩) rfl
      · intro r₄ s₄ h₄
        rcases h₄.remove hK with ⟨-, -, rfl⟩ | ⟨-, rfl, -⟩
        · exact wp_link ((Staged.written hV).erase hV) hV hK (fun _ => ⟨_, rfl⟩) rfl
        · exact wp_link (Staged.written hV) hV hK (fun _ => ⟨_, rfl⟩) rfl
  · -- the write failed and wrote nothing
    obtain ⟨e, rfl⟩ := Option.isSome_iff_exists.mp hr
    exact ⟨es, rfl, .failed _ (fun _ _ => rfl) (.inl rfl) hV⟩
  · -- the write failed after writing a prefix
    obtain ⟨e, rfl⟩ := Option.isSome_iff_exists.mp hr
    exact ⟨_, rfl, .failed _ (fun _ h => AList.lookup_insert_ne h)
      (.inr ⟨d, AList.lookup_insert _⟩) hV⟩

/-- `ensureKerberosCache` with a ticket to write, for a volume whose name is longer than
`NAME_MAX`: the write of the volume's file fails, if nothing failed before, and the run returns
an error and changes nothing. -/
theorem ensureKerberosCache_wp_long {s : CacheDir} {V : String} {mountFlags : List String}
    {secrets : List (String × String)} {u : Int} {content : List UInt8}
    (ht : kerberosTicket lib dir mountFlags secrets = some (u, content))
    (hlong : nameMax < (volumeKerberosCacheName V).utf8ByteSize) :
    Prog.wp (FsStep dir F) (ensureKerberosCache lib dir V mountFlags secrets)
      (fun r s' => s' = s ∧ r.1 = false ∧ r.2.isSome) s := by
  obtain ⟨hk, hu, hc⟩ := kerberosTicket_eq_some ht
  simp only [ensureKerberosCache, hk, if_true, Prog.wp_bind]
  refine kerberosCacheDirectoryExists_wp (fun _ _ => ?_) (fun _ _ => ⟨rfl, rfl, rfl⟩)
  simp only [hu, hc, Os.writeFile, Prog.trigger_bind, Prog.wp_call]
  intro r₁ s₁ h₁
  obtain ⟨rfl, e, rfl, -⟩ := h₁.tooLong (locate_getKerberosFilePath_long dir hlong)
  exact ⟨rfl, rfl, rfl⟩

/-- `ensureKerberosCache` where nothing fails spontaneously, from an existing directory where
the volume's file is not a symlink.  It writes the ticket; then it points the canonical cache at
the volume's file and succeeds, except where `Stat` reports the canonical cache missing although
the name is taken, as for a dangling symlink: then `Symlink` fails and the old entry stays. -/
theorem ensureKerberosCache_wp_noFault {es : Entries} {V : String} {mountFlags : List String}
    {secrets : List (String × String)} {u : Int} {content : List UInt8} (hV : V ≠ "")
    (hshort : (volumeKerberosCacheName V).utf8ByteSize ≤ nameMax)
    (hvol : ∀ t, es.lookup (volumeKerberosCacheName V) ≠ some (.symlink t))
    (ht : kerberosTicket lib dir mountFlags secrets = some (u, content))
    {Q : Bool × Option GoError → CacheDir → Prop}
    (hfail : isNotExist ((FsCall.stat (getKerberosFilePath dir (getKrb5CcacheName u))).exec dir
        (some (es.insert (volumeKerberosCacheName V) (.file content)))).1 →
      getKrb5CcacheName u ∈ es →
      ∀ e, Q (false, some e) (some (es.insert (volumeKerberosCacheName V) (.file content))))
    (hok : ¬(isNotExist ((FsCall.stat (getKerberosFilePath dir (getKrb5CcacheName u))).exec dir
        (some (es.insert (volumeKerberosCacheName V) (.file content)))).1 ∧
          getKrb5CcacheName u ∈ es) →
      Q (true, none) (some ((es.insert (volumeKerberosCacheName V) (.file content)).insert
        (getKrb5CcacheName u) (.symlink (getKerberosFilePath dir (volumeKerberosCacheName V)))))) :
    Prog.wp (FsStep dir noFault) (ensureKerberosCache lib dir V mountFlags secrets) Q (some es) := by
  obtain ⟨hk, hu, hc⟩ := kerberosTicket_eq_some ht
  have hV' := volumeKerberosCacheName_entryName hV hshort
  have hK := getCredUID_entryName hu
  have hmem : getKrb5CcacheName u ∈ es.insert (volumeKerberosCacheName V) (.file content) ↔
      getKrb5CcacheName u ∈ es := by
    simp [AList.mem_insert, (volumeKerberosCacheName_ne_canonical hV u).symm]
  simp only [ensureKerberosCache, hk, if_true, Prog.wp_bind]
  refine kerberosCacheDirectoryExists_wp (fun _ _ => ?_) fun _ h => ?_
  swap
  · rcases h with h | h
    · cases h
    · exact False.elim h
  simp only [hu, hc, Os.writeFile, Os.chown, Os.stat, Os.remove, Os.symlink, Prog.trigger_bind,
    Prog.wp_call, Prog.wp_bind, Prog.pure_eq, Prog.ret_bind, Prog.wp_ret]
  intro r₁ s₁ h₁
  have e₁ := h₁.exec_of_not_faulty id
  rw [exec_writeFile_entry hV' hvol, Prod.mk.injEq] at e₁
  obtain ⟨rfl, rfl⟩ := e₁
  intro r₂ s₂ h₂
  have e₂ := h₂.exec_of_not_faulty id
  rw [exec_chown_entry hV' (fun t => by simp [AList.lookup_insert]),
    if_pos ((AList.mem_insert _).mpr (.inl rfl)), Prod.mk.injEq] at e₂
  obtain ⟨rfl, rfl⟩ := e₂
  intro r₃ s₃ h₃
  have e₃ := h₃.exec_of_not_faulty id
  rw [Prod.mk.injEq, FsCall.exec_query (c := .stat _) rfl] at e₃
  obtain ⟨rfl, rfl⟩ := e₃
  dsimp only
  by_cases hst : isNotExist ((FsCall.stat (getKerberosFilePath dir (getKrb5CcacheName u))).exec
      dir (some (es.insert (volumeKerberosCacheName V) (.file content)))).1 = true
  · -- reported missing: no removal, and `Symlink` fails exactly where the name is taken
    rw [if_pos hst]
    intro r₄ s₄ h₄
    have e₄ := h₄.exec_of_not_faulty id
    rw [exec_symlink_entry hK] at e₄
    by_cases hm : getKrb5CcacheName u ∈ es
    · rw [if_pos (hmem.mpr hm), Prod.mk.injEq] at e₄
      obtain ⟨rfl, rfl⟩ := e₄
      exact hfail hst hm _
    · rw [if_neg (mt hmem.mp hm), Prod.mk.injEq] at e₄
      obtain ⟨rfl, rfl⟩ := e₄
      exact hok fun h => hm h.2
  · -- otherwise the old entry is removed, and the symlink made
    rw [if_neg hst]
    intro r₄ s₄ h₄
    have e₄ := h₄.exec_of_not_faulty id
    rw [exec_remove_entry hK] at e₄
    obtain ⟨es₂, rfl, hfree, heq⟩ : ∃ es₂, s₄ = some es₂ ∧ getKrb5CcacheName u ∉ es₂ ∧
        ∀ e, es₂.insert (getKrb5CcacheName u) e =
          (es.insert (volumeKerberosCacheName V) (.file content)).insert (getKrb5CcacheName u) e := by
      split_ifs at e₄ with hm
      · rw [Prod.mk.injEq] at e₄
        exact ⟨_, e₄.2, fun h => (AList.mem_erase.mp h).1 rfl, insert_erase_self _ _⟩
      · rw [Prod.mk.injEq] at e₄
        exact ⟨_, e₄.2, hm, fun _ => rfl⟩
    intro r₅ s₅ h₅
    have e₅ := h₅.exec_of_not_faulty id
    rw [exec_symlink_entry hK, if_neg hfree, Prod.mk.injEq, heq] at e₅
    obtain ⟨rfl, rfl⟩ := e₅
    exact hok fun h => hst h.1

/-- A dangling canonical cache is never replaced.  Where `krb5cc_u` is a symlink to an absent
entry other than the volume's file, whose name fits, as a cleanup whose listing or removals
failed leaves it,
`ensureKerberosCache` for `u`, with nothing failing, writes the ticket, finds the canonical cache
missing through `Stat` and so does not remove it, then fails at `Symlink`: it returns an error
and the dangling symlink stays. -/
theorem ensureKerberosCache_keeps_dangling {es : Entries} {V : String}
    {mountFlags : List String} {secrets : List (String × String)} {u : Int}
    {content : List UInt8} {m : String} (hV : V ≠ "")
    (hvol : ∀ t, es.lookup (volumeKerberosCacheName V) ≠ some (.symlink t))
    (ht : kerberosTicket lib dir mountFlags secrets = some (u, content))
    (hm : EntryName m) (hmV : m ≠ volumeKerberosCacheName V) (habs : m ∉ es)
    (hlink : es.lookup (getKrb5CcacheName u) = some (.symlink (getKerberosFilePath dir m))) :
    Prog.wp (FsStep dir noFault) (ensureKerberosCache lib dir V mountFlags secrets)
      (fun r s' => r.1 = false ∧ r.2.isSome ∧ ∃ es', s' = some es' ∧
        es'.lookup (getKrb5CcacheName u) = some (.symlink (getKerberosFilePath dir m)))
      (some es) := by
  obtain hlong | hshort := Nat.lt_or_ge nameMax (volumeKerberosCacheName V).utf8ByteSize
  · -- the write of the volume's file already fails
    exact Prog.wp_mono (fun _ _ ⟨hs', hr, he⟩ => ⟨hr, he, es, hs', hlink⟩)
      (ensureKerberosCache_wp_long ht hlong)
  have hl₁ : (es.insert (volumeKerberosCacheName V) (.file content)).lookup
      (getKrb5CcacheName u) = some (.symlink (getKerberosFilePath dir m)) := by
    rw [AList.lookup_insert_ne (volumeKerberosCacheName_ne_canonical hV u).symm, hlink]
  have hst := exec_stat_dangling (getCredUID_entryName (kerberosTicket_eq_some ht).2.1) hm hl₁
    (fun h => ((AList.mem_insert _).mp h).elim hmV habs)
  have hmem : getKrb5CcacheName u ∈ es := AList.lookup_isSome.mp (by rw [hlink]; rfl)
  exact ensureKerberosCache_wp_noFault hV hshort hvol ht (fun _ _ _ => ⟨rfl, rfl, _, rfl, hl₁⟩)
    fun h => absurd ⟨by rw [hst]; rfl, hmem⟩ h

theorem ensureKerberosCache_keeps_dangling_pvc :
    let dir := "/var/lib/kubelet/kerberos/"
    Prog.wp (FsStep dir noFault) (ensureKerberosCache GoLib.canonical dir "pvc-1"
        ["sec=krb5", "cruid=1000"] [("krb5cc_1000", "dGlja2V0")])
      (fun r s' => r.1 = false ∧ r.2.isSome ∧ ∃ es', s' = some es' ∧
        es'.lookup (getKrb5CcacheName 1000) =
          some (.symlink (getKerberosFilePath dir (volumeKerberosCacheName "pvc-0"))))
      (some ((∅ : Entries).insert (getKrb5CcacheName 1000)
        (.symlink (getKerberosFilePath dir (volumeKerberosCacheName "pvc-0"))))) :=
  ensureKerberosCache_keeps_dangling (by decide)
    (fun t => by rw [AList.lookup_insert_ne (by decide)]; exact fun h => nomatch h)
    (show kerberosTicket _ _ _ _ = some (1000, [116, 105, 99, 107, 101, 116]) by decide)
    (by decide) (by decide) (by decide) (by decide)

/-- `ensureKerberosCache` with no ticket to write changes nothing; it returns `(false, nil)`
without `sec=krb5` and an error otherwise. -/
theorem ensureKerberosCache_wp_none {s : CacheDir} {V : String} {mountFlags : List String}
    {secrets : List (String × String)} (ht : kerberosTicket lib dir mountFlags secrets = none) :
    Prog.wp (FsStep dir F) (ensureKerberosCache lib dir V mountFlags secrets)
      (fun r s' => s' = s ∧ r.1 = false ∧
        (r.2 = none ↔ hasKerberosMountOption mountFlags = false)) s := by
  unfold kerberosTicket at ht
  split_ifs at ht with hk
  · simp only [ensureKerberosCache, hk, if_true, Prog.wp_bind]
    refine kerberosCacheDirectoryExists_wp (fun _ _ => ?_) (fun e _ => ⟨rfl, rfl, by simp⟩)
    split at ht
    · rename_i u hu
      split at ht
      · cases ht
      · rename_i e he
        simp [hu, he]
    · rename_i e hu
      simp [hu]
  · simp only [ensureKerberosCache, hk]
    exact ⟨rfl, rfl, by simp [hk]⟩

/-! ### `deleteKerberosCache` -/

/-- The entries left when each of `names`, in order, is removed if it is then a symlink to
`target`: what the loop of `deleteKerberosCache` does. -/
def eraseLinksTo (target : String) : Entries → List String → Entries
  | es, [] => es
  | es, n :: ns =>
    eraseLinksTo target (if es.lookup n = some (.symlink target) then es.erase n else es) ns

theorem lookup_eraseLinksTo (target m : String) : ∀ (ns : List String) (es : Entries),
    (eraseLinksTo target es ns).lookup m =
      if m ∈ ns ∧ es.lookup m = some (.symlink target) then none else es.lookup m
  | [], es => by simp [eraseLinksTo]
  | n :: ns, es => by
    rw [eraseLinksTo, lookup_eraseLinksTo target m ns]
    by_cases hmn : m = n
    · subst hmn
      split_ifs <;> simp_all [AList.lookup_erase]
    · have hm : (if es.lookup n = some (.symlink target) then es.erase n else es).lookup m =
          es.lookup m := by
        split_ifs
        · exact AList.lookup_erase_ne hmn
        · rfl
      simp [hm, hmn]

/-- The loop of `deleteKerberosCache`, with `Lstat`, `Readlink` and `Remove` not failing
spontaneously, removes exactly the listed symlinks to the volume's file. -/
theorem removeSymlinksTo_wp (hF : ∀ c, F c → statFault c) {target : String} (ht : target ≠ "") :
    ∀ (names : List String) (es : Entries), (∀ n ∈ names, EntryName n) →
      ∀ {Q : Unit → CacheDir → Prop}, Q () (some (eraseLinksTo target es names)) →
        Prog.wp (FsStep dir F) (removeSymlinksTo dir target names) Q (some es)
  | [], _, _, _, hQ => hQ
  | n :: ns, es, hns, Q, hQ => by
    have hn : EntryName n := hns n (List.mem_cons_self _ _)
    have rest := removeSymlinksTo_wp hF ht ns
    simp only [removeSymlinksTo, Os.lstat, Os.readlink, Os.remove, Prog.trigger_bind,
      Prog.wp_call, Prog.wp_bind]
    intro r₁ s₁ h₁
    have e₁ := h₁.exec_of_not_faulty fun h => hF _ h
    rw [exec_lstat_entry hn, Prod.mk.injEq] at e₁
    obtain ⟨rfl, rfl⟩ := e₁
    by_cases hm : n ∈ es
    · -- `Lstat` found the entry: read its target
      simp only [hm, if_true, Option.isNone_none]
      intro r₂ s₂ h₂
      have e₂ := h₂.exec_of_not_faulty fun h => hF _ h
      have hr₂ : r₂.1 = (linkTarget es n).getD "" :=
        (congrArg (·.1.1) e₂).trans (exec_readlink_entry hn).1
      obtain rfl : s₂ = some es := (congrArg Prod.snd e₂).trans (exec_readlink_entry hn).2
      dsimp only
      split
      · -- a symlink to the volume's file: removed
        rename_i heq
        have hl := lookup_of_linkTarget (hr₂.symm.trans heq) ht
        intro r₃ s₃ h₃
        have e₃ := h₃.exec_of_not_faulty fun h => hF _ h
        rw [exec_remove_entry hn, if_pos hm, Prod.mk.injEq] at e₃
        obtain ⟨-, rfl⟩ := e₃
        exact rest (es.erase n) (fun m hm => hns m (List.mem_cons_of_mem _ hm))
          (by rwa [eraseLinksTo, if_pos hl] at hQ)
      · -- anything else stays
        rename_i hne
        have hl : es.lookup n ≠ some (.symlink target) := fun hl =>
          hne (hr₂.trans (linkTarget_of_lookup hl))
        exact rest es (fun m hm => hns m (List.mem_cons_of_mem _ hm))
          (by rwa [eraseLinksTo, if_neg hl] at hQ)
    · -- `Lstat` found nothing
      have hl : es.lookup n ≠ some (.symlink target) := fun hl =>
        hm (AList.lookup_isSome.mp (by rw [hl]; rfl))
      simp only [hm, if_false, Option.isNone_some]
      exact rest es (fun m hm => hns m (List.mem_cons_of_mem _ hm))
        (by rwa [eraseLinksTo, if_neg hl] at hQ)

/-- What a `deleteKerberosCache` that cleans up leaves: every symlink to the volume's file
removed, then the file. -/
def deleteEffect (dir W : String) (es : Entries) : Entries :=
  (eraseLinksTo (getKerberosFilePath dir (volumeKerberosCacheName W)) es (dirNames es)).erase
    (volumeKerberosCacheName W)

/-- `deleteKerberosCache`, where at most `Stat` fails spontaneously, from an existing directory
whose volume file, whose name fits, is not a symlink: it changes nothing, which without a failed
`Stat` happens only where the volume's file is absent and then returns `nil`, or it cleans up
and returns `nil`, which happens only where the file is present. -/
theorem deleteKerberosCache_wp (hF : ∀ c, F c → statFault c) {es : Entries} {W : String}
    (hW : W ≠ "") (hshort : (volumeKerberosCacheName W).utf8ByteSize ≤ nameMax)
    (hnames : ∀ n ∈ es, EntryName n)
    (hvol : ∀ t, es.lookup (volumeKerberosCacheName W) ≠ some (.symlink t))
    {Q : Option GoError → CacheDir → Prop}
    (hfail : ∀ r, F (.stat dir) ∨
      F (.stat (getKerberosFilePath dir (volumeKerberosCacheName W))) → Q r (some es))
    (habsent : volumeKerberosCacheName W ∉ es → Q none (some es))
    (hclean : volumeKerberosCacheName W ∈ es → Q none (some (deleteEffect dir W es))) :
    Prog.wp (FsStep dir F) (deleteKerberosCache dir W) Q (some es) := by
  have hW' := volumeKerberosCacheName_entryName hW hshort
  simp only [deleteKerberosCache, Prog.wp_bind]
  refine kerberosCacheDirectoryExists_wp (fun _ _ => ?_) fun e h => ?_
  · simp only [Os.stat, Os.readDir, Os.remove, Prog.trigger_bind, Prog.wp_call, Prog.wp_bind]
    intro r s' h
    obtain ⟨rfl, ⟨rfl, hm⟩ | ⟨rfl, hm⟩ | ⟨hf, rfl⟩⟩ := h.stat_entry hW' hvol
    · -- the file is there: clean up
      simp only [isNotExist, Bool.false_eq_true, if_false, Prog.pure_eq, Prog.ret_bind,
        Prog.wp_call, Prog.wp_bind]
      intro r₂ s₂ h₂
      have e₂ := h₂.exec_of_not_faulty fun h => hF _ h
      rw [exec_readDir_dir, Prod.mk.injEq] at e₂
      obtain ⟨rfl, rfl⟩ := e₂
      refine removeSymlinksTo_wp hF (getKerberosFilePath_ne_empty hW'.1) _ _
        (fun n hn => hnames n (mem_dirNames.mp hn)) ?_
      intro r₃ s₃ h₃
      have hmem : volumeKerberosCacheName W ∈ eraseLinksTo
          (getKerberosFilePath dir (volumeKerberosCacheName W)) es (dirNames es) := by
        rw [← AList.lookup_isSome, lookup_eraseLinksTo, if_neg fun h => hvol _ h.2,
          AList.lookup_isSome]
        exact hm
      have e₃ := h₃.exec_of_not_faulty fun h => hF _ h
      rw [exec_remove_entry hW', if_pos hmem, Prod.mk.injEq] at e₃
      obtain ⟨rfl, rfl⟩ := e₃
      exact hclean hm
    · exact habsent hm
    · exact hfail _ (.inr hf)
  · simp only [Bool.not_false, if_true, Prog.wp_ret]
    exact hfail none (.inl (h.resolve_left (Option.some_ne_none es)))

/-- `deleteKerberosCache` for a volume whose name is longer than `NAME_MAX`, from an existing
directory: `Stat` of the volume's file fails with an error other than `ENOENT`, so the run
changes nothing and returns that error, unless the directory's own `Stat` failed. -/
theorem deleteKerberosCache_wp_long {es : Entries} {W : String}
    (hlong : nameMax < (volumeKerberosCacheName W).utf8ByteSize) :
    Prog.wp (FsStep dir F) (deleteKerberosCache dir W)
      (fun r s' => s' = some es ∧ (r.isSome ∨ F (.stat dir))) (some es) := by
  simp only [deleteKerberosCache, Prog.wp_bind]
  refine kerberosCacheDirectoryExists_wp (fun _ _ => ?_) fun e h => ?_
  · simp only [Os.stat, Prog.trigger_bind, Prog.wp_call]
    intro r s' h
    obtain ⟨rfl, e, rfl, he⟩ := h.tooLong (locate_getKerberosFilePath_long dir hlong)
    simp only [FsCall.errReply, isNotExist, GoError.isNotExist_path (he rfl), Bool.false_eq_true,
      if_false]
    exact ⟨rfl, .inl rfl⟩
  · simp only [Bool.not_false, if_true, Prog.wp_ret]
    exact ⟨rfl, .inr (h.resolve_left (Option.some_ne_none es))⟩

end Spec

/-! ## A cache already ensured

What a successful `ensureKerberosCache` leaves behind, and that a second call for the same
volume, flags and secrets succeeds from there and leaves the same: `Stat` follows the canonical
cache to the volume's file, finds it, and the old link is removed before the new one is made. -/

section Again

variable {lib : GoLib} {dir V : String} {mountFlags : List String}
  {secrets : List (String × String)} {c : CacheDir}

/-- The cache directory after a successful `ensureKerberosCache`: with a ticket to write, the
volume's name fits, its file holds the ticket and the user's canonical cache links to that file;
without one, the flags ask for no Kerberos security. -/
def EnsuredCache (lib : GoLib) (dir V : String) (mountFlags : List String)
    (secrets : List (String × String)) (c : CacheDir) : Prop :=
  match kerberosTicket lib dir mountFlags secrets with
  | none => hasKerberosMountOption mountFlags = false
  | some (u, content) => (volumeKerberosCacheName V).utf8ByteSize ≤ nameMax ∧ ∃ es, c = some es ∧
    es.lookup (volumeKerberosCacheName V) = some (.file content) ∧
    es.lookup (getKrb5CcacheName u) =
      some (.symlink (getKerberosFilePath dir (volumeKerberosCacheName V)))

/-- A successful `ensureKerberosCache`, from a directory where the volume's file is not a
symlink, leaves the cache ensured. -/
theorem ensureKerberosCache_wp_ensured (hV : V ≠ "")
    (hvol : ∀ es t, c = some es → es.lookup (volumeKerberosCacheName V) ≠ some (.symlink t)) :
    Prog.wp (FsStep dir noFault) (ensureKerberosCache lib dir V mountFlags secrets)
      (fun r c' => r.2 = none → EnsuredCache lib dir V mountFlags secrets c') c := by
  unfold EnsuredCache
  rcases ht : kerberosTicket lib dir mountFlags secrets with _ | ⟨u, content⟩
  · exact Prog.wp_mono (fun r c' h hr => h.2.2.mp hr) (ensureKerberosCache_wp_none ht)
  obtain hlong | hshort := Nat.lt_or_ge nameMax (volumeKerberosCacheName V).utf8ByteSize
  · exact Prog.wp_mono (fun r c' h hr => by simp [hr] at h) (ensureKerberosCache_wp_long ht hlong)
  cases c with
  | none =>
    simp only [ensureKerberosCache, (kerberosTicket_eq_some ht).1, if_true, Prog.wp_bind]
    exact kerberosCacheDirectoryExists_wp (fun _ h => nomatch h) fun e _ => by simp
  | some es =>
    refine Prog.wp_mono (fun r c' ⟨es', hc', he⟩ hr => ?_)
      (ensureKerberosCache_wp hV hshort (hvol es · rfl) ht)
    have hs : r = (true, none) := by
      by_contra hne
      simpa [hr] using he.error hne
    exact ⟨hshort, es', hc', he.success hs⟩

/-- **Ensuring again.**  From an ensured cache, `ensureKerberosCache` for the same volume, flags
and secrets succeeds, where nothing fails spontaneously, and leaves the cache ensured. -/
theorem ensureKerberosCache_wp_again (hV : V ≠ "")
    (h : EnsuredCache lib dir V mountFlags secrets c) :
    Prog.wp (FsStep dir noFault) (ensureKerberosCache lib dir V mountFlags secrets)
      (fun r c' => r.2 = none ∧ EnsuredCache lib dir V mountFlags secrets c') c := by
  unfold EnsuredCache at h ⊢
  rcases ht : kerberosTicket lib dir mountFlags secrets with _ | ⟨u, content⟩ <;>
    simp only [ht] at h ⊢
  · exact Prog.wp_mono (fun r c' ⟨_, _, hr⟩ => ⟨hr.mpr h, h⟩) (ensureKerberosCache_wp_none ht)
  · obtain ⟨hshort, es, rfl, hvol, hcan⟩ := h
    have hne := volumeKerberosCacheName_ne_canonical hV u
    refine ensureKerberosCache_wp_noFault hV hshort (by simp [hvol]) ht (fun hnx _ _ => ?_) fun _ =>
      ⟨rfl, hshort, _, rfl, by simp [AList.lookup_insert_ne hne], AList.lookup_insert _⟩
    rw [exec_stat_link (getCredUID_entryName (kerberosTicket_eq_some ht).2.1)
      (volumeKerberosCacheName_entryName hV hshort)
      (by rw [AList.lookup_insert_ne hne.symm, hcan]) (by simp) (by simp)] at hnx
    cases hnx

end Again

end SmbNode
