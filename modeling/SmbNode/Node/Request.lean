import SmbNode.Node.MountPoint

/-!
# What `NodeStageVolume` reads from its request

The requests of the CSI node service as the handlers read them, and the pure part of
`NodeStageVolume`: its loops over the volume context and the secrets, and the mount options it
builds.  What the handlers read from the rest of the driver's package is a `Driver`; every
theorem holds for every `Driver`.

The loops range over Go maps, whose iteration order is not fixed.  Each loop is a `switch` on
the lowered key (`rangeLower`), and `rangeLower_perm` says when the order does not matter:
`stage_parse_perm` is the result for `NodeStageVolume`, and `stageContext_order_dependent` a
map where it does.  `posixMountOptions_split` says what the option string the mount primitive
receives splits into at commas.
-/

namespace SmbNode

/-- What the node server reads from the driver and from the rest of its package, beyond
`nodeserver.go`. -/
structure Driver where
  /-- The Go library functions that are not written out. -/
  lib : GoLib
  /-- `runtime.GOOS == "windows"`. -/
  windows : Bool
  /-- `krb5CacheDirectory`. -/
  krb5CacheDirectory : String
  /-- `defaultDomainName`. -/
  defaultDomainName : String
  /-- `hasGuestMountOptions`. -/
  hasGuestMountOptions : List String → Bool
  /-- `replaceWithMap`. -/
  replaceWithMap : String → (String → Option String) → String
  /-- `fmt.Sprintf(volumeOperationAlreadyExistsFmt, volumeID)`. -/
  volumeOperationAlreadyExists : String → String

/-! ## The keys

Constants of the driver's package, not in the sources, modelled from the spec's list of the
recognized keys. -/

/-- `sourceField`. -/
def sourceField : String := "source"
/-- `subDirField`. -/
def subDirField : String := "subdir"
/-- `pvcNamespaceKey`. -/
def pvcNamespaceKey : String := "csi.storage.k8s.io/pvc/namespace"
/-- `pvcNameKey`. -/
def pvcNameKey : String := "csi.storage.k8s.io/pvc/name"
/-- `pvNameKey`. -/
def pvNameKey : String := "csi.storage.k8s.io/pv/name"
/-- `pvcNamespaceMetadata`. -/
def pvcNamespaceMetadata : String := "${pvc.metadata.namespace}"
/-- `pvcNameMetadata`. -/
def pvcNameMetadata : String := "${pvc.metadata.name}"
/-- `pvNameMetadata`. -/
def pvNameMetadata : String := "${pv.metadata.name}"
/-- `usernameField`. -/
def usernameField : String := "username"
/-- `passwordField`. -/
def passwordField : String := "password"
/-- `domainField`. -/
def domainField : String := "domain"

/-! ## The requests -/

/-- The mount access type of a volume capability. -/
structure MountVolume where
  mountFlags : List String
  volumeMountGroup : String
  deriving DecidableEq, Repr

/-- A volume capability; `mount` is `none` for a block volume. -/
structure VolumeCapability where
  mount : Option MountVolume
  deriving DecidableEq, Repr

namespace VolumeCapability

/-- `GetMount().GetMountFlags()`. -/
def mountFlags (c : VolumeCapability) : List String := (c.mount.map (·.mountFlags)).getD []

/-- `GetMount().GetVolumeMountGroup()`. -/
def volumeMountGroup (c : VolumeCapability) : String := (c.mount.map (·.volumeMountGroup)).getD ""

end VolumeCapability

/-- A `NodeStageVolumeRequest`.  The maps are lists of their entries in one iteration order. -/
structure NodeStageVolumeRequest where
  volumeId : String
  volumeCapability : Option VolumeCapability
  stagingTargetPath : String
  volumeContext : List (String × String)
  secrets : List (String × String)
  deriving DecidableEq, Repr

/-- A `NodeUnstageVolumeRequest`. -/
structure NodeUnstageVolumeRequest where
  volumeId : String
  stagingTargetPath : String
  deriving DecidableEq, Repr

/-- A `NodePublishVolumeRequest`. -/
structure NodePublishVolumeRequest where
  volumeId : String
  volumeCapability : Option VolumeCapability
  stagingTargetPath : String
  targetPath : String
  readonly : Bool
  deriving DecidableEq, Repr

/-- A `NodeUnpublishVolumeRequest`. -/
structure NodeUnpublishVolumeRequest where
  volumeId : String
  targetPath : String
  deriving DecidableEq, Repr

/-- A `NodeGetVolumeStatsRequest`. -/
structure NodeGetVolumeStatsRequest where
  volumeId : String
  volumePath : String
  deriving DecidableEq, Repr

/-- `checkGidPresentInMountFlags`. -/
def checkGidPresentInMountFlags (mountFlags : List String) : Bool :=
  hasFlagWithPrefix mountFlags "gid"

/-- What `%v` prints for a `map[string]string`: its entries `k:v`, sorted by key. -/
def goMapString (m : List (String × String)) : String :=
  "map[" ++ " ".intercalate ((m.insertionSort fun a b => Strings.charsLe a.1.data b.1.data).map
    fun (k, v) => k ++ ":" ++ v) ++ "]"

/-! ## The loops over the volume context and the secrets -/

/-- The variables that `NodeStageVolume` sets in its loop over the volume context. -/
structure StageContext where
  source : String
  subDir : String
  /-- The Go map `subDirReplaceMap`, by its lookups. -/
  subDirReplaceMap : String → Option String

/-- The `switch` of the loop over the volume context, on the lowered key. -/
def contextSwitch (key v : String) (c : StageContext) : StageContext :=
  if key = sourceField then { c with source := v }
  else if key = subDirField then { c with subDir := v }
  else if key = pvcNamespaceKey then
    { c with subDirReplaceMap := Function.update c.subDirReplaceMap pvcNamespaceMetadata (some v) }
  else if key = pvcNameKey then
    { c with subDirReplaceMap := Function.update c.subDirReplaceMap pvcNameMetadata (some v) }
  else if key = pvNameKey then
    { c with subDirReplaceMap := Function.update c.subDirReplaceMap pvNameMetadata (some v) }
  else c

/-- The cases of `contextSwitch`. -/
def contextLabels : List String := [sourceField, subDirField, pvcNamespaceKey, pvcNameKey, pvNameKey]

/-- The loop of `NodeStageVolume` over the volume context. -/
def stageContext (lib : GoLib) (context : List (String × String)) : StageContext :=
  rangeLower lib.toLower contextSwitch ⟨"", "", fun _ => none⟩ context

/-- The credentials that `NodeStageVolume` reads from the secrets. -/
structure Credentials where
  username : String
  password : String
  domain : String
  deriving DecidableEq, Repr

/-- The `switch` of the loop over the secrets, on the lowered key. -/
def secretsSwitch (key v : String) (c : Credentials) : Credentials :=
  if key = usernameField then { c with username := Strings.trimSpace v }
  else if key = passwordField then { c with password := Strings.trimSpace v }
  else if key = domainField then { c with domain := Strings.trimSpace v }
  else c

/-- The cases of `secretsSwitch`. -/
def secretLabels : List String := [usernameField, passwordField, domainField]

/-- The loop of `NodeStageVolume` over the secrets. -/
def stageCredentials (lib : GoLib) (secrets : List (String × String)) : Credentials :=
  rangeLower lib.toLower secretsSwitch ⟨"", "", ""⟩ secrets

theorem contextSwitch_skip {key : String} (h : key ∉ contextLabels) (v : String)
    (c : StageContext) : contextSwitch key v c = c := by
  simp only [contextLabels, List.mem_cons, List.mem_singleton, not_or] at h
  simp [contextSwitch, h]

theorem contextSwitch_comm {a b : String} (hab : a ≠ b) (v w : String) (c : StageContext) :
    contextSwitch a v (contextSwitch b w c) = contextSwitch b w (contextSwitch a v c) := by
  by_cases ha : a ∈ contextLabels
  · by_cases hb : b ∈ contextLabels
    · simp only [contextLabels, List.mem_cons, List.not_mem_nil, or_false] at ha hb
      rcases ha with rfl | rfl | rfl | rfl | rfl <;> rcases hb with rfl | rfl | rfl | rfl | rfl <;>
        simp_all [contextSwitch, Function.update_comm, sourceField, subDirField, pvcNamespaceKey,
          pvcNameKey, pvNameKey, pvcNamespaceMetadata, pvcNameMetadata, pvNameMetadata]
    · simp only [contextSwitch_skip hb]
  · simp only [contextSwitch_skip ha]

theorem secretsSwitch_skip {key : String} (h : key ∉ secretLabels) (v : String)
    (c : Credentials) : secretsSwitch key v c = c := by
  simp only [secretLabels, List.mem_cons, List.mem_singleton, not_or] at h
  simp [secretsSwitch, h]

theorem secretsSwitch_comm {a b : String} (hab : a ≠ b) (v w : String) (c : Credentials) :
    secretsSwitch a v (secretsSwitch b w c) = secretsSwitch b w (secretsSwitch a v c) := by
  unfold secretsSwitch
  split_ifs <;> subst_vars <;> simp_all

/-! ## The mount options -/

/-- The mount options of the Linux branch of `NodeStageVolume`, and the sensitive ones: the
credentials, where they are required and no Kerberos cache is used. -/
def posixMountOptions (mountFlags : List String) (volumeMountGroup : String) (cred : Credentials)
    (requireUsernamePwdOption useKerberosCache gidPresent : Bool) : List String × List String :=
  (mountFlags ++
      (if !gidPresent && volumeMountGroup != "" then ["gid=" ++ volumeMountGroup] else []) ++
      (if cred.domain != "" then [domainField ++ "=" ++ cred.domain] else []),
    if requireUsernamePwdOption && !useKerberosCache then
      [(usernameField ++ "=" ++ cred.username) ++ "," ++ (passwordField ++ "=" ++ cred.password)]
    else [])

/-- The options of the Windows branch of `NodeStageVolume`: the user name, qualified by the
domain, and the password. -/
def windowsMountOptions (defaultDomainName : String) (cred : Credentials)
    (requireUsernamePwdOption : Bool) : List String × List String :=
  let domain := if cred.domain = "" then defaultDomainName else cred.domain
  if requireUsernamePwdOption then
    let username :=
      if Strings.contains cred.username "\\" then cred.username
      else domain ++ "\\" ++ cred.username
    ([username], [cred.password])
  else ([], [])

/-- The `-o` argument that the mount utilities pass to `mount`: the options, then the sensitive
ones, joined by commas. -/
def mountOptionString (options sensitiveOptions : List String) : String :=
  Strings.join (options ++ sensitiveOptions) ','

/-- A value without a comma, after a prefix without one, is one option. -/
theorem split_option {p v : String} (hp : ',' ∉ p.data) (hv : ',' ∉ v.data) :
    Strings.split (p ++ v) ',' = [p ++ v] :=
  Strings.split_of_not_mem (by simpa [String.data_append] using ⟨hp, hv⟩)

/-- Two options joined by a comma split into both. -/
theorem split_comma (a b : String) :
    Strings.split (a ++ "," ++ b) ',' = Strings.split a ',' ++ Strings.split b ',' := by
  have e : (a ++ "," ++ b).data = a.data ++ ',' :: b.data := by simp [String.data_append]
  simp only [Strings.split, e, List.splitOn,
    Strings.splitOnP_append_cons (p := fun x => x == ',') (beq_self_eq_true ','), List.map_append]

/-- **Options split as built.**  Where no mount flag, user name, password, domain or mount group
holds a comma, the option string that the mount primitive receives splits at commas into the
mount flags, then the group, then the domain, then the user name and the password. -/
theorem posixMountOptions_split {mountFlags : List String} {group : String} {cred : Credentials}
    {require kerberos gidPresent : Bool} (hflags : ∀ f ∈ mountFlags, ',' ∉ f.data)
    (hgroup : ',' ∉ group.data) (huser : ',' ∉ cred.username.data)
    (hpass : ',' ∉ cred.password.data) (hdomain : ',' ∉ cred.domain.data)
    (hne : (posixMountOptions mountFlags group cred require kerberos gidPresent).1 ++
      (posixMountOptions mountFlags group cred require kerberos gidPresent).2 ≠ []) :
    Strings.split (mountOptionString
        (posixMountOptions mountFlags group cred require kerberos gidPresent).1
        (posixMountOptions mountFlags group cred require kerberos gidPresent).2) ',' =
      mountFlags ++ (if !gidPresent && group != "" then ["gid=" ++ group] else []) ++
        (if cred.domain != "" then [domainField ++ "=" ++ cred.domain] else []) ++
        (if require && !kerberos then
          [usernameField ++ "=" ++ cred.username, passwordField ++ "=" ++ cred.password]
        else []) := by
  rw [mountOptionString, Strings.split_join _ hne]
  simp only [posixMountOptions, List.flatMap_append, List.append_assoc]
  congr 1
  · exact (List.flatMap_congr fun f hf => Strings.split_of_not_mem (hflags f hf)).trans
      (List.flatMap_singleton' _)
  · congr 1
    · split_ifs <;> simp [split_option (p := "gid=") (by decide) hgroup]
    · congr 1
      · split_ifs <;> simp [split_option (p := domainField ++ "=") (by decide) hdomain]
      · split_ifs <;> simp [split_comma, split_option (p := usernameField ++ "=") (by decide) huser,
          split_option (p := passwordField ++ "=") (by decide) hpass]

theorem ticketSwitch_comm {name a b : String} (hab : a ≠ b) (v w c : String) :
    (if a = name then v else if b = name then w else c) =
      if b = name then w else if a = name then v else c := by
  by_cases ha : a = name <;> by_cases hb : b = name <;> simp_all

/-- **The map order.**  Where no two keys of the volume context land in the same case of its
`switch`, and likewise for the secrets and the ticket's key, `NodeStageVolume` derives the same
source, sub-directory, placeholder map and credentials in every iteration order of the maps,
and `getKerberosCache` the same ticket. -/
theorem stage_parse_perm {lib : GoLib} {dir : String} {u : Int}
    {context₁ context₂ secrets₁ secrets₂ : List (String × String)}
    (hc : context₁.Perm context₂) (hs : secrets₁.Perm secrets₂)
    (hcu : CasesUnique lib.toLower contextLabels context₁)
    (hsu : CasesUnique lib.toLower secretLabels secrets₁)
    (hku : CasesUnique lib.toLower [getKrb5CcacheName u] secrets₁) :
    stageContext lib context₁ = stageContext lib context₂ ∧
      stageCredentials lib secrets₁ = stageCredentials lib secrets₂ ∧
      getKerberosCache lib dir u secrets₁ = getKerberosCache lib dir u secrets₂ := by
  refine ⟨rangeLower_perm (fun _ v c h => contextSwitch_skip h v c)
      (fun _ _ v w c h => contextSwitch_comm h v w c) hc hcu _,
    rangeLower_perm (fun _ v c h => secretsSwitch_skip h v c)
      (fun _ _ v w c h => secretsSwitch_comm h v w c) hs hsu _, ?_⟩
  have hticket := rangeLower_perm
    (fun key v c (h : key ∉ [getKrb5CcacheName u]) =>
      (if_neg (by simpa using h) : (if key = getKrb5CcacheName u then v else c) = c))
    (fun _ _ v w c h => ticketSwitch_comm h v w c) hs hku ""
  simp only [getKerberosCache, hticket]

/-- Two keys that differ only in case: the source depends on the order of the map. -/
theorem stageContext_order_dependent :
    let context : List (String × String) := [("Source", "//srv/a"), ("source", "//srv/b")]
    context.Perm context.reverse ∧ (context.map Prod.fst).Nodup ∧
      (stageContext GoLib.canonical context).source ≠
        (stageContext GoLib.canonical context.reverse).source :=
  ⟨List.reverse_perm _ |>.symm, by decide, by decide⟩

end SmbNode
