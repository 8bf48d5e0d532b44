import SmbNode.Node.Request

/-!
# The node service

The gRPC handlers of `nodeserver.go` as programs on the node.  `NodeStageVolume` and
`NodeUnstageVolume` take the volume's lock and release it when they return (`defer`);
`NodePublishVolume` and `NodeUnpublishVolume` take none.

`mount_at_most_once` is what the handlers promise about the mount primitive: on every path,
whatever the node answers, `NodeStageVolume` and `NodePublishVolume` call it at most once; a
handler that finds its target mounted and listable calls it not at all and succeeds; and one
that calls it succeeds exactly when that call does.  `wait.PollImmediate` never runs its
closure twice, since the closure reports done on its first run.

`nodeStageVolume_mount_options` says what the option string of that call splits into at
commas, and `nodeStageVolume_password_splits` runs a request whose password holds a comma.
-/

namespace SmbNode

section Handlers

variable (drv : Driver)

/-- The intervals of one second in the two minutes of `PollImmediate` in `NodeStageVolume`. -/
def stagePollTicks : Nat := 120

/-- The end of `NodeStageVolume`, from `ensureMountPoint` on: mount the share unless the
target is already mounted. -/
def stageMount (volumeID targetPath : String) (ctx : StageContext)
    (mountOptions sensitiveMountOptions : List String) : NodeProg (Except GoError Unit) := do
  let (isDirMounted, err) ← ensureMountPoint drv.windows targetPath
  if let some err := err then
    return .error (.status .internal ("Could not mount target " ++ targetPath ++ ": " ++ err.msg))
  if isDirMounted then
    return .ok ()
  if let some err ← Host.prepareStagePath targetPath then
    return .error (.other ("prepare stage path failed for " ++ targetPath ++ " with error: " ++
      err.msg))
  -- replace pv/pvc name namespace metadata in subDir
  let source := if ctx.subDir != "" then
      Strings.trimRight ctx.source "/" ++ "/" ++ drv.replaceWithMap ctx.subDir ctx.subDirReplaceMap
    else ctx.source
  let (mountComplete, err) ← pollImmediate (fun _ => do
      let err ← Host.mount source targetPath "cifs" mountOptions sensitiveMountOptions
      return (true, true, err)) stagePollTicks false
  if !mountComplete then
    return .error (.status .internal ("volume(" ++ volumeID ++ ") mount " ++ quote source ++
      " on " ++ quote targetPath ++ " failed with timeout(10m)"))
  if let some err := err then
    return .error (.status .internal ("volume(" ++ volumeID ++ ") mount " ++ quote source ++
      " on " ++ quote targetPath ++ " failed with " ++ err.msg))
  return .ok ()

/-- `NodeStageVolume` once it holds the volume's lock: read the secrets, shape the options for
the platform (on Linux, after writing the Kerberos cache and creating the target), then
`stageMount`. -/
def nodeStageVolumeLocked (volumeID targetPath : String) (volumeCapability : VolumeCapability)
    (secrets : List (String × String)) (gidPresent : Bool) (ctx : StageContext) :
    NodeProg (Except GoError Unit) := do
  let mountFlags := volumeCapability.mountFlags
  let cred := stageCredentials drv.lib secrets
  -- in guest login, username and password options are not needed
  let requireUsernamePwdOption := !drv.hasGuestMountOptions mountFlags
  if drv.windows then
    let options := windowsMountOptions drv.defaultDomainName cred requireUsernamePwdOption
    stageMount drv volumeID targetPath ctx options.1 options.2
  else
    let (useKerberosCache, err) ← liftFs
      (ensureKerberosCache drv.lib drv.krb5CacheDirectory volumeID mountFlags secrets)
    if let some err := err then
      return .error (.status .internal ("Error writing kerberos cache: " ++ err.msg))
    if let some err ← Host.mkdirAll targetPath 0o750 then
      return .error (.status .internal ("MkdirAll " ++ targetPath ++ " failed with error: " ++
        err.msg))
    let options := posixMountOptions mountFlags volumeCapability.volumeMountGroup cred
      requireUsernamePwdOption useKerberosCache gidPresent
    stageMount drv volumeID targetPath ctx options.1 options.2

/-- `NodeStageVolume`. -/
def nodeStageVolume (req : NodeStageVolumeRequest) : NodeProg (Except GoError Unit) := do
  let volumeID := req.volumeId
  if volumeID.isEmpty then
    return .error (.status .invalidArgument "Volume ID missing in request")
  let some volumeCapability := req.volumeCapability
    | return .error (.status .invalidArgument "Volume capability not provided")
  let targetPath := req.stagingTargetPath
  if targetPath.isEmpty then
    return .error (.status .invalidArgument "Staging target not provided")
  let context := req.volumeContext
  let gidPresent := checkGidPresentInMountFlags volumeCapability.mountFlags
  let ctx := stageContext drv.lib context
  if ctx.source = "" then
    return .error (.status .invalidArgument (sourceField ++
      " field is missing, current context: " ++ goMapString context))
  if !(← VolumeLocks.tryAcquire volumeID) then
    return .error (.status .aborted (drv.volumeOperationAlreadyExists volumeID))
  let r ← nodeStageVolumeLocked drv volumeID targetPath volumeCapability req.secrets gidPresent ctx
  -- defer d.volumeLocks.Release(volumeID)
  VolumeLocks.release volumeID
  return r

/-- `NodeUnstageVolume` once it holds the volume's lock. -/
def nodeUnstageVolumeLocked (volumeID stagingTargetPath : String) :
    NodeProg (Except GoError Unit) := do
  if let some err ← Host.cleanupSMBMountPoint stagingTargetPath true then
    return .error (.status .internal ("failed to unmount staging target " ++
      quote stagingTargetPath ++ ": " ++ err.msg))
  if let some err ← liftFs (deleteKerberosCache drv.krb5CacheDirectory volumeID) then
    return .error (.status .internal ("failed to delete kerberos cache: " ++ err.msg))
  return .ok ()

/-- `NodeUnstageVolume`. -/
def nodeUnstageVolume (req : NodeUnstageVolumeRequest) : NodeProg (Except GoError Unit) := do
  let volumeID := req.volumeId
  if volumeID.isEmpty then
    return .error (.status .invalidArgument "Volume ID missing in request")
  let stagingTargetPath := req.stagingTargetPath
  if stagingTargetPath.isEmpty then
    return .error (.status .invalidArgument "Staging target not provided")
  if !(← VolumeLocks.tryAcquire volumeID) then
    return .error (.status .aborted (drv.volumeOperationAlreadyExists volumeID))
  let r ← nodeUnstageVolumeLocked drv volumeID stagingTargetPath
  -- defer d.volumeLocks.Release(volumeID)
  VolumeLocks.release volumeID
  return r

/-- The end of `NodePublishVolume`, from `ensureMountPoint` on: bind-mount `source` at `target`
unless the target is already mounted, and remove the target when the mount fails. -/
def publishMount (source target : String) (mountOptions : List String) :
    NodeProg (Except GoError Unit) := do
  let (mnt, err) ← ensureMountPoint drv.windows target
  if let some err := err then
    return .error (.status .internal ("Could not mount target " ++ quote target ++ ": " ++
      err.msg))
  if mnt then
    return .ok ()
  if let some err ← Host.preparePublishPath target then
    return .error (.other ("prepare publish failed for " ++ target ++ " with error: " ++ err.msg))
  if let some err ← Mounter.mount source target "" mountOptions then
    if let some removeErr ← Host.remove target then
      return .error (.status .internal ("Could not remove mount target " ++ quote target ++
        ": " ++ removeErr.msg))
    return .error (.status .internal ("Could not mount " ++ quote source ++ " at " ++
      quote target ++ ": " ++ err.msg))
  return .ok ()

/-- `NodePublishVolume`: bind-mount the staging path at the target. -/
def nodePublishVolume (req : NodePublishVolumeRequest) : NodeProg (Except GoError Unit) := do
  if req.volumeCapability.isNone then
    return .error (.status .invalidArgument "Volume capability missing in request")
  let volumeID := req.volumeId
  if volumeID.isEmpty then
    return .error (.status .invalidArgument "Volume ID missing in request")
  let target := req.targetPath
  if target.isEmpty then
    return .error (.status .invalidArgument "Target path not provided")
  let source := req.stagingTargetPath
  if source.isEmpty then
    return .error (.status .invalidArgument "Staging target not provided")
  let mountOptions := if req.readonly then ["bind", "ro"] else ["bind"]
  publishMount drv source target mountOptions

/-- `NodeUnpublishVolume`. -/
def nodeUnpublishVolume (req : NodeUnpublishVolumeRequest) : NodeProg (Except GoError Unit) := do
  let volumeID := req.volumeId
  if volumeID.isEmpty then
    return .error (.status .invalidArgument "Volume ID missing in request")
  let targetPath := req.targetPath
  if targetPath.isEmpty then
    return .error (.status .invalidArgument "Target path missing in request")
  if let some err ← Host.cleanupMountPoint targetPath true then
    return .error (.status .internal ("failed to unmount target " ++ quote targetPath ++ ": " ++
      err.msg))
  return .ok ()

/-- The unit of a `VolumeUsage`. -/
inductive UsageUnit where
  | bytes
  | inodes
  deriving DecidableEq, Repr

/-- A `csi.VolumeUsage`. -/
structure VolumeUsage where
  unit : UsageUnit
  available : Int
  total : Int
  used : Int
  deriving DecidableEq, Repr

/-- `AsInt64` of a quantity of the metrics, or the error naming it. -/
def asInt64 (q : Quantity) (what : String) : Except GoError Int :=
  match q.asInt64 with
  | some v => .ok v
  | none => .error (.status .internal ("failed to transform " ++ what ++ "(" ++ q.text ++ ")"))

/-- `NodeGetVolumeStats`. -/
def nodeGetVolumeStats (req : NodeGetVolumeStatsRequest) :
    NodeProg (Except GoError (List VolumeUsage)) := do
  if req.volumeId.isEmpty then
    return .error (.status .invalidArgument "NodeGetVolumeStats volume ID was empty")
  if req.volumePath.isEmpty then
    return .error (.status .invalidArgument "NodeGetVolumeStats volume path was empty")
  if let some err ← Host.lstat req.volumePath then
    if err.isNotExist then
      return .error (.status .notFound ("path " ++ req.volumePath ++ " does not exist"))
    return .error (.status .internal ("failed to stat file " ++ req.volumePath ++ ": " ++ err.msg))
  let (volumeMetrics, err) ← Host.getMetrics req.volumePath
  if let some err := err then
    return .error (.status .internal ("failed to get metrics: " ++ err.msg))
  return do
    let available ← asInt64 volumeMetrics.available "volume available size"
    let capacity ← asInt64 volumeMetrics.capacity "volume capacity size"
    let used ← asInt64 volumeMetrics.used "volume used size"
    let inodesFree ← asInt64 volumeMetrics.inodesFree "disk inodes free"
    let inodes ← asInt64 volumeMetrics.inodes "disk inodes"
    let inodesUsed ← asInt64 volumeMetrics.inodesUsed "disk inodes used"
    return [⟨.bytes, available, capacity, used⟩, ⟨.inodes, inodesFree, inodes, inodesUsed⟩]

/-- `NodeExpandVolume`: not implemented for SMB. -/
def nodeExpandVolume : NodeProg (Except GoError Unit) :=
  return .error (.status .unimplemented "")

end Handlers

/-! ## The lock table and the cache directory

The mount phases call neither the lock table nor the Kerberos cache directory, nor do the
handlers that take no lock; past its lock, a handler that takes one calls the lock table no
more. -/

section Quiet

variable (drv : Driver)

theorem Quiet.avoids_lock {α : Type} {p : NodeProg α} (h : Quiet p) :
    Prog.Avoids (fun c => c.isLock) p :=
  h.mono fun c hc => by simp [NodeCall.isDriverState, hc]

theorem stageMount_quiet (volumeID targetPath : String) (ctx : StageContext)
    (mountOptions sensitiveMountOptions : List String) :
    Quiet (stageMount drv volumeID targetPath ctx mountOptions sensitiveMountOptions) := by
  simp only [stageMount, Prog.pure_eq, Prog.ret_bind]
  simp only [pollImmediate_once, Prog.bind_assoc, Prog.ret_bind]
  refine (ensureMountPoint_quiet _ _).bind fun ⟨isDirMounted, err⟩ => ?_
  split
  · exact .ret _
  · split
    · exact .ret _
    · refine quiet_trigger_bind rfl fun err => ?_
      split
      · exact .ret _
      · exact quiet_trigger_bind rfl fun err => by split <;> (try split) <;> exact .ret _

theorem publishMount_quiet (source target : String) (mountOptions : List String) :
    Quiet (publishMount drv source target mountOptions) := by
  simp only [publishMount, Prog.pure_eq, Prog.ret_bind]
  refine (ensureMountPoint_quiet _ _).bind fun ⟨mnt, err⟩ => ?_
  split
  · exact .ret _
  · split
    · exact .ret _
    · refine quiet_trigger_bind rfl fun err => ?_
      split
      · exact .ret _
      · refine quiet_trigger_bind rfl fun err => ?_
        split
        · exact quiet_trigger_bind rfl fun err => by split <;> exact .ret _
        · exact .ret _

theorem nodePublishVolume_quiet (req : NodePublishVolumeRequest) :
    Quiet (nodePublishVolume drv req) := by
  simp only [nodePublishVolume, Prog.pure_eq, Prog.ret_bind]
  split_ifs <;> first | exact .ret _ | exact publishMount_quiet drv _ _ _

theorem nodeUnpublishVolume_quiet (req : NodeUnpublishVolumeRequest) :
    Quiet (nodeUnpublishVolume req) := by
  simp only [nodeUnpublishVolume, Prog.pure_eq, Prog.ret_bind]
  split_ifs
  · exact .ret _
  · exact .ret _
  · exact quiet_trigger_bind rfl fun err => by split <;> exact .ret _

theorem nodeGetVolumeStats_quiet (req : NodeGetVolumeStatsRequest) :
    Quiet (nodeGetVolumeStats req) := by
  simp only [nodeGetVolumeStats, Prog.pure_eq, Prog.ret_bind]
  split_ifs
  · exact .ret _
  · exact .ret _
  · refine quiet_trigger_bind rfl fun err => ?_
    split
    · split <;> exact .ret _
    · exact quiet_trigger_bind rfl fun ⟨_, err⟩ => by split <;> exact .ret _

theorem nodeStageVolumeLocked_avoids_lock (volumeID targetPath : String)
    (volumeCapability : VolumeCapability) (secrets : List (String × String)) (gidPresent : Bool)
    (ctx : StageContext) : Prog.Avoids (fun c => c.isLock)
      (nodeStageVolumeLocked drv volumeID targetPath volumeCapability secrets gidPresent ctx) := by
  simp only [nodeStageVolumeLocked, Prog.pure_eq, Prog.ret_bind]
  split
  · exact (stageMount_quiet drv _ _ _ _ _).avoids_lock
  · refine (liftFs_avoids_lock _).bind fun ⟨_, err⟩ => ?_
    split
    · exact .ret _
    · refine Quiet.avoids_lock (quiet_trigger_bind rfl fun err => ?_)
      split
      · exact .ret _
      · exact stageMount_quiet drv _ _ _ _ _

theorem nodeUnstageVolumeLocked_avoids_lock (volumeID stagingTargetPath : String) :
    Prog.Avoids (fun c => c.isLock) (nodeUnstageVolumeLocked drv volumeID stagingTargetPath) := by
  simp only [nodeUnstageVolumeLocked, Host.cleanupSMBMountPoint, Prog.trigger_bind, Prog.pure_eq,
    Prog.ret_bind]
  refine Prog.Avoids.call (by simp [NodeCall.isLock]) fun err => ?_
  split
  · exact .ret _
  · exact (liftFs_avoids_lock _).bind fun err => by split <;> exact .ret _

end Quiet

/-! ## The mount primitive on every path -/

section Paths

variable {target : String} {tr tr' : List (Event NodeCall NodeCall.Ret)}

/-- What the handlers promise of the mount primitive on the path `tr` that returned `r`: at
most one call; a handler that listed its target calls it not at all and succeeds; and one that
calls it succeeds exactly when the call does. -/
def MountsOnce (target : String) (tr : List (Event NodeCall NodeCall.Ret))
    (r : Except GoError Unit) : Prop :=
  mountCount tr ≤ 1 ∧ (∀ e ∈ tr, e.call.isMount → (r = .ok () ↔ mountSucceeded e)) ∧
    (Listed target tr → mountCount tr = 0 ∧ r = .ok ())

/-- No call of `tr` is of the mount primitive, and `tr` does not list `target`. -/
def Silent (target : String) (tr : List (Event NodeCall NodeCall.Ret)) : Prop :=
  mountCount tr = 0 ∧ ¬Listed target tr

@[simp] theorem silent_append :
    Silent target (tr ++ tr') ↔ Silent target tr ∧ Silent target tr' := by
  simp only [Silent, mountCount_append, Nat.add_eq_zero, Listed, List.mem_append, not_or]
  exact and_and_and_comm

/-- One call that is neither of the mount primitive nor a listing of a directory. -/
theorem silent_single {c : NodeCall} {r : c.Ret} (hm : c.isMount = false)
    (hl : ∀ name, c ≠ .readDir name) : Silent target [⟨c, r⟩] := by
  refine ⟨by simp [hm], fun h => ?_⟩
  simp only [Listed, List.mem_singleton] at h
  exact hl target (congrArg Event.call h).symm

@[simp] theorem silent_nil : Silent target [] := ⟨rfl, by simp [Listed]⟩

theorem silent_liftFs {α : Type} {p : FsProg α} {a : α} (h : Prog.Path (liftFs p) tr a) :
    Silent target tr := by
  refine ⟨liftFs_mountCount h, fun hl => ?_⟩
  obtain ⟨c, hc⟩ := liftFs_path h _ hl
  exact NodeCall.noConfusion hc

/-- A path of `ensureMountPoint` that did not report the target mounted is silent. -/
theorem silent_ensureMountPoint {windows : Bool} {r : Bool × Option GoError}
    (h : Prog.Path (ensureMountPoint windows target) tr r) (hr : r ≠ (true, none)) :
    Silent target tr :=
  ⟨(ensureMountPoint_path h).1, fun hl => hr ((ensureMountPoint_path h).2.mpr hl)⟩

/-- A path without a call of the mount primitive keeps the promise when it succeeds if it lists
the target. -/
theorem MountsOnce.of_mountCount_eq_zero {r : Except GoError Unit} (h : mountCount tr = 0)
    (hl : Listed target tr → r = .ok ()) : MountsOnce target tr r :=
  ⟨h ▸ Nat.zero_le 1, fun e he hm => absurd hm (by simp [mountCount_eq_zero.mp h e he]),
    fun hl' => ⟨h, hl hl'⟩⟩

/-- Silent calls before and after a path keep the promise. -/
theorem MountsOnce.frame {pre post : List (Event NodeCall NodeCall.Ret)} {r : Except GoError Unit}
    (h : MountsOnce target tr r) (hpre : Silent target pre) (hpost : Silent target post) :
    MountsOnce target (pre ++ tr ++ post) r := by
  obtain ⟨h₁, h₂, h₃⟩ := h
  have quiet : ∀ e ∈ pre ++ post, e.call.isMount = false := fun e he =>
    mountCount_eq_zero.mp (by simp [hpre.1, hpost.1]) e he
  refine ⟨by simpa [hpre.1, hpost.1] using h₁, fun e he hm => ?_, fun hl => ?_⟩
  · rcases List.mem_append.mp he with he | he
    · rcases List.mem_append.mp he with he | he
      · simp [quiet e (List.mem_append_left _ he)] at hm
      · exact h₂ e he hm
    · simp [quiet e (List.mem_append_right _ he)] at hm
  · simp only [Listed, List.mem_append] at hl
    rcases hl with (hl | hl) | hl
    · exact absurd hl hpre.2
    · simpa [hpre.1, hpost.1] using h₃ hl
    · exact absurd hl hpost.2

/-- The promise, with what every call of the mount primitive on the path is: `ok` says which
source, target, file system type and options it may carry. -/
structure MountPromise (ok : NodeCall → Prop) (target : String)
    (tr : List (Event NodeCall NodeCall.Ret)) (r : Except GoError Unit) : Prop where
  once : MountsOnce target tr r
  calls : ∀ e ∈ tr, e.call.isMount → ok e.call

namespace MountPromise

variable {ok ok' : NodeCall → Prop} {pre post : List (Event NodeCall NodeCall.Ret)}
  {r : Except GoError Unit}

theorem of_mountCount_eq_zero (h : mountCount tr = 0) (hl : Listed target tr → r = .ok ()) :
    MountPromise ok target tr r :=
  ⟨.of_mountCount_eq_zero h hl, fun e he hm => absurd hm (by simp [mountCount_eq_zero.mp h e he])⟩

/-- A silent path keeps the promise, whatever it returns. -/
theorem of_silent (h : Silent target tr) : MountPromise ok target tr r :=
  of_mountCount_eq_zero h.1 fun hl => absurd hl h.2

theorem of_path_ret {a : Except GoError Unit} (h : Prog.Path (Prog.ret a) tr r) :
    MountPromise ok target tr r := by
  obtain ⟨rfl, rfl⟩ := Prog.path_ret_iff.mp h
  exact of_silent silent_nil

theorem frame (h : MountPromise ok target tr r) (hpre : Silent target pre)
    (hpost : Silent target post) : MountPromise ok target (pre ++ tr ++ post) r := by
  refine ⟨h.once.frame hpre hpost, fun e he hm => ?_⟩
  have quiet : ∀ e ∈ pre ++ post, e.call.isMount = false := fun e he =>
    mountCount_eq_zero.mp (by simp [hpre.1, hpost.1]) e he
  simp only [List.mem_append] at he
  rcases he with (he | he) | he
  · simp [quiet e (List.mem_append_left _ he)] at hm
  · exact h.calls e he hm
  · simp [quiet e (List.mem_append_right _ he)] at hm

theorem after (h : MountPromise ok target tr r) (hpre : Silent target pre) :
    MountPromise ok target (pre ++ tr) r := by
  simpa using h.frame hpre silent_nil

/-- One call of the mount primitive between silent paths, whose reply decides the result. -/
theorem single {e : Event NodeCall NodeCall.Ret} (hm : e.call.isMount = true) (hok : ok e.call)
    (hr : r = .ok () ↔ mountSucceeded e) (hpre : Silent target pre) (hpost : Silent target post) :
    MountPromise ok target (pre ++ e :: post) r := by
  have hl : ¬Listed target [e] := fun hl => by
    simp only [Listed, List.mem_singleton] at hl
    simp [← hl, NodeCall.isMount] at hm
  rw [List.append_cons]
  refine frame ⟨⟨by simp [hm], fun e' he' _ => List.mem_singleton.mp he' ▸ hr, fun hl' => ?_⟩,
    fun e' he' _ => List.mem_singleton.mp he' ▸ hok⟩ hpre hpost
  exact absurd hl' hl

theorem mono (h : MountPromise ok target tr r) (hle : ∀ c, ok c → ok' c) :
    MountPromise ok' target tr r :=
  ⟨h.once, fun e he hm => hle _ (h.calls e he hm)⟩

end MountPromise

end Paths

section Promise

variable (drv : Driver) {tr : List (Event NodeCall NodeCall.Ret)} {r : Except GoError Unit}

/-- The options a staging mount carries: those the platform's branch of `NodeStageVolume`
shapes from the capability and the secrets, for either answer of `ensureKerberosCache`. -/
def StageOptions (cap : VolumeCapability) (secrets : List (String × String))
    (options sensitiveOptions : List String) : Prop :=
  let cred := stageCredentials drv.lib secrets
  let requireUsernamePwdOption := !drv.hasGuestMountOptions cap.mountFlags
  ∃ useKerberosCache, (options, sensitiveOptions) =
    if drv.windows then windowsMountOptions drv.defaultDomainName cred requireUsernamePwdOption
    else posixMountOptions cap.mountFlags cap.volumeMountGroup cred requireUsernamePwdOption
      useKerberosCache (checkGidPresentInMountFlags cap.mountFlags)

theorem stageMount_path {volumeID target : String} {ctx : StageContext} {o s : List String}
    (h : Prog.Path (stageMount drv volumeID target ctx o s) tr r) :
    MountPromise (fun c => ∃ source, c = .mountSensitive source target "cifs" o s) target tr r := by
  obtain ⟨tr₁, tr₂, ⟨isDirMounted, err⟩, rfl, h₁, h₂⟩ := Prog.path_bind_iff.mp h
  rcases err with _ | err
  · cases isDirMounted with
    | true =>
      obtain ⟨rfl, rfl⟩ := Prog.path_ret_iff.mp h₂
      exact .of_mountCount_eq_zero (by simpa using (ensureMountPoint_path h₁).1) fun _ => rfl
    | false =>
      simp only [Prog.pure_eq, Prog.ret_bind, Bool.false_eq_true, if_false, Host.prepareStagePath,
        Prog.trigger_bind, Prog.path_call_iff] at h₂
      obtain ⟨perr, tr₃, rfl, h₃⟩ := h₂
      have hpre : Silent target (tr₁ ++ [⟨.prepareStagePath target, perr⟩]) :=
        silent_append.mpr ⟨silent_ensureMountPoint h₁ (by simp),
          silent_single rfl fun _ => NodeCall.noConfusion⟩
      rw [List.append_cons]
      rcases perr with _ | perr
      · simp only [pollImmediate_once] at h₃
        simp only [Prog.pure_eq, Prog.ret_bind, Host.mount, Prog.trigger_bind, Prog.call_bind,
          Prog.path_call_iff] at h₃
        obtain ⟨merr, tr₄, rfl, h₄⟩ := h₃
        rcases merr with _ | merr <;>
        · simp only [Prog.ret_bind, Bool.not_true, Bool.false_eq_true, if_false] at h₄
          obtain ⟨rfl, rfl⟩ := Prog.path_ret_iff.mp h₄
          exact .single rfl ⟨_, rfl⟩ (by simp [mountSucceeded]) hpre silent_nil
      · exact (MountPromise.of_path_ret h₃).after hpre
  · exact (MountPromise.of_path_ret h₂).after (silent_ensureMountPoint h₁ (by simp))

theorem publishMount_path {source target : String} {o : List String}
    (h : Prog.Path (publishMount drv source target o) tr r) :
    MountPromise (· = .mount source target "" o) target tr r := by
  obtain ⟨tr₁, tr₂, ⟨mnt, err⟩, rfl, h₁, h₂⟩ := Prog.path_bind_iff.mp h
  rcases err with _ | err
  · cases mnt with
    | true =>
      obtain ⟨rfl, rfl⟩ := Prog.path_ret_iff.mp h₂
      exact .of_mountCount_eq_zero (by simpa using (ensureMountPoint_path h₁).1) fun _ => rfl
    | false =>
      simp only [Prog.pure_eq, Prog.ret_bind, Bool.false_eq_true, if_false, Host.preparePublishPath,
        Prog.trigger_bind, Prog.path_call_iff] at h₂
      obtain ⟨perr, tr₃, rfl, h₃⟩ := h₂
      have hpre : Silent target (tr₁ ++ [⟨.preparePublishPath target, perr⟩]) :=
        silent_append.mpr ⟨silent_ensureMountPoint h₁ (by simp),
          silent_single rfl fun _ => NodeCall.noConfusion⟩
      rw [List.append_cons]
      rcases perr with _ | perr
      · simp only [Prog.ret_bind, Mounter.mount, Prog.trigger_bind, Prog.path_call_iff] at h₃
        obtain ⟨merr, tr₄, rfl, h₄⟩ := h₃
        rcases merr with _ | merr
        · obtain ⟨rfl, rfl⟩ := Prog.path_ret_iff.mp h₄
          exact .single rfl rfl (by simp [mountSucceeded]) hpre silent_nil
        · simp only [Host.remove, Prog.trigger_bind, Prog.path_call_iff] at h₄
          obtain ⟨rerr, tr₅, rfl, h₅⟩ := h₄
          have hpost : Silent target [⟨.remove target, rerr⟩] :=
            silent_single rfl fun _ => NodeCall.noConfusion
          rcases rerr with _ | rerr <;>
          · obtain ⟨rfl, rfl⟩ := Prog.path_ret_iff.mp h₅
            exact .single rfl rfl (by simp [mountSucceeded]) hpre hpost
      · exact (MountPromise.of_path_ret h₃).after hpre
  · exact (MountPromise.of_path_ret h₂).after (silent_ensureMountPoint h₁ (by simp))

theorem nodePublishVolume_path {req : NodePublishVolumeRequest}
    (h : Prog.Path (nodePublishVolume drv req) tr r) :
    MountPromise (· = .mount req.stagingTargetPath req.targetPath ""
      (if req.readonly then ["bind", "ro"] else ["bind"])) req.targetPath tr r := by
  simp only [nodePublishVolume, Prog.pure_eq, Prog.ret_bind] at h
  generalize (if req.readonly then ["bind", "ro"] else ["bind"]) = mountOptions at h ⊢
  split_ifs at h <;>
  first
  | exact .of_path_ret h
  | exact publishMount_path drv h

theorem nodeStageVolumeLocked_path {volumeID target : String} {cap : VolumeCapability}
    {secrets : List (String × String)} {ctx : StageContext}
    (h : Prog.Path (nodeStageVolumeLocked drv volumeID target cap secrets
      (checkGidPresentInMountFlags cap.mountFlags) ctx) tr r) :
    MountPromise (fun c => ∃ source o s, c = .mountSensitive source target "cifs" o s ∧
      StageOptions drv cap secrets o s) target tr r := by
  simp only [nodeStageVolumeLocked] at h
  split at h
  case isTrue hw =>
    exact (stageMount_path drv h).mono fun c ⟨source, hc⟩ =>
      ⟨source, _, _, hc, false, by simp [hw]⟩
  case isFalse hw =>
    obtain ⟨tr₁, tr₂, ⟨useKerberosCache, err⟩, rfl, h₁, h₂⟩ := Prog.path_bind_iff.mp h
    have hs₁ : Silent target tr₁ := silent_liftFs h₁
    rcases err with _ | err
    · simp only [Prog.pure_eq, Prog.ret_bind, Host.mkdirAll, Prog.trigger_bind,
        Prog.path_call_iff] at h₂
      obtain ⟨merr, tr₃, rfl, h₃⟩ := h₂
      rw [List.append_cons]
      have hs₂ : Silent target (tr₁ ++ [⟨.mkdirAll target 0o750, merr⟩]) :=
        silent_append.mpr ⟨hs₁, silent_single rfl fun _ => NodeCall.noConfusion⟩
      rcases merr with _ | merr
      · refine ((stageMount_path drv h₃).mono fun c ⟨source, hc⟩ => ?_).after hs₂
        exact ⟨source, _, _, hc, useKerberosCache, by simp [hw]⟩
      · exact (MountPromise.of_path_ret h₃).after hs₂
    · exact (MountPromise.of_path_ret h₂).after hs₁

theorem nodeStageVolume_path {req : NodeStageVolumeRequest}
    (h : Prog.Path (nodeStageVolume drv req) tr r) :
    MountPromise (fun c => ∃ source o s, c = .mountSensitive source req.stagingTargetPath "cifs" o s ∧
      ∃ cap, req.volumeCapability = some cap ∧ StageOptions drv cap req.secrets o s)
      req.stagingTargetPath tr r := by
  rcases hcap : req.volumeCapability with _ | cap <;>
  simp only [nodeStageVolume, hcap, Prog.pure_eq, Prog.ret_bind] at h <;>
  split_ifs at h <;> try exact .of_path_ret h
  simp only [VolumeLocks.tryAcquire, Prog.trigger_bind, Prog.path_call_iff] at h
  obtain ⟨acquired, tr₁, rfl, h₁⟩ := h
  have hacq : Silent req.stagingTargetPath [⟨.tryAcquire req.volumeId, acquired⟩] :=
    silent_single rfl fun _ => NodeCall.noConfusion
  cases acquired with
  | false => exact (MountPromise.of_path_ret h₁).after hacq
  | true =>
    simp only [Bool.not_true, Bool.false_eq_true, if_false] at h₁
    obtain ⟨tr₂, tr₃, r', rfl, h₂, h₃⟩ := Prog.path_bind_iff.mp h₁
    simp only [VolumeLocks.release, Prog.trigger_bind, Prog.path_call_iff] at h₃
    obtain ⟨u, tr₄, rfl, h₄⟩ := h₃
    obtain ⟨rfl, rfl⟩ := Prog.path_ret_iff.mp h₄
    refine ((nodeStageVolumeLocked_path drv h₂).mono fun c ⟨source, o, s, hc, ho⟩ =>
      ⟨source, o, s, hc, cap, rfl, ho⟩).frame hacq (silent_single rfl fun _ => NodeCall.noConfusion)

/-- **The mount primitive, at most once.**  On every path of `NodeStageVolume` and of
`NodePublishVolume`, whatever the node answers: the mount primitive is called at most once; a
handler whose `ensureMountPoint` listed the target (reported it validly mounted) does not call
it and succeeds; and a handler that calls it succeeds exactly when that call does. -/
theorem mount_at_most_once :
    (∀ req tr r, Prog.Path (nodeStageVolume drv req) tr r →
      MountsOnce req.stagingTargetPath tr r) ∧
    (∀ req tr r, Prog.Path (nodePublishVolume drv req) tr r → MountsOnce req.targetPath tr r) :=
  ⟨fun _ _ _ h => (nodeStageVolume_path drv h).once,
    fun _ _ _ h => (nodePublishVolume_path drv h).once⟩

/-- **The option string, split.**  On Linux, where no mount flag, mount group, user name,
password or domain holds a comma, the option string of every call of the mount primitive in
`NodeStageVolume` splits at commas into the mount flags, then the group, then the domain, then
the user name and the password when they are passed. -/
theorem nodeStageVolume_mount_options (hlinux : drv.windows = false)
    {req : NodeStageVolumeRequest} {cap : VolumeCapability} (hcap : req.volumeCapability = some cap)
    (hflags : ∀ f ∈ cap.mountFlags, ',' ∉ f.data) (hgroup : ',' ∉ cap.volumeMountGroup.data)
    (huser : ',' ∉ (stageCredentials drv.lib req.secrets).username.data)
    (hpass : ',' ∉ (stageCredentials drv.lib req.secrets).password.data)
    (hdomain : ',' ∉ (stageCredentials drv.lib req.secrets).domain.data)
    {tr : List (Event NodeCall NodeCall.Ret)} {r : Except GoError Unit}
    (h : Prog.Path (nodeStageVolume drv req) tr r) {e : Event NodeCall NodeCall.Ret} (he : e ∈ tr)
    {source target fstype : String} {options sensitiveOptions : List String}
    (hcall : e.call = .mountSensitive source target fstype options sensitiveOptions)
    (hne : options ++ sensitiveOptions ≠ []) :
    let cred := stageCredentials drv.lib req.secrets
    ∃ useKerberosCache : Bool,
      Strings.split (mountOptionString options sensitiveOptions) ',' =
        cap.mountFlags ++
        (if !checkGidPresentInMountFlags cap.mountFlags && cap.volumeMountGroup != "" then
          ["gid=" ++ cap.volumeMountGroup] else []) ++
        (if cred.domain != "" then [domainField ++ "=" ++ cred.domain] else []) ++
        (if !drv.hasGuestMountOptions cap.mountFlags && !useKerberosCache then
          [usernameField ++ "=" ++ cred.username, passwordField ++ "=" ++ cred.password]
        else []) := by
  obtain ⟨_, o, s, hc, cap', hcap', k, hk⟩ :=
    (nodeStageVolume_path drv h).calls e he (by simp [hcall, NodeCall.isMount])
  rw [hcall] at hc
  cases hc
  cases hcap.symm.trans hcap'
  simp only [hlinux, Bool.false_eq_true, if_false] at hk
  obtain ⟨rfl, rfl⟩ := Prod.ext_iff.mp hk
  exact ⟨k, posixMountOptions_split hflags hgroup huser hpass hdomain hne⟩

/-- A request whose credentials hold no comma: its password is trimmed, and the option string
splits into the flag, the user name and the password. -/
theorem nodeStageVolume_mount_options_fresh :
    let drv : Driver := ⟨GoLib.canonical, false, "/var/lib/kubelet/kerberos/", "AZURE",
      fun flags => flags.contains "guest", fun subDir _ => subDir, fun volumeID => volumeID⟩
    let req : NodeStageVolumeRequest := ⟨"vol-1", some ⟨some ⟨["vers=3.0"], ""⟩⟩,
      "/var/lib/kubelet/staging", [("source", "//srv/share")],
      [("username", "alice"), ("password", " secret ")]⟩
    (∃ tr r, Prog.Path (nodeStageVolume drv req) tr r ∧
      NodeCall.mountSensitive "//srv/share" "/var/lib/kubelet/staging" "cifs" ["vers=3.0"]
        ["username=alice,password=secret"] ∈ tr.map Event.call) ∧
    ∃ useKerberosCache : Bool,
      Strings.split (mountOptionString ["vers=3.0"] ["username=alice,password=secret"]) ',' =
        ["vers=3.0"] ++ [] ++ [] ++
          (if !false && !useKerberosCache then ["username=alice", "password=secret"] else []) := by
  intro drv req
  let v : MountView := ⟨true, none, false, [], none, "/var/lib/kubelet/staging", none, none, none,
    none⟩
  have hmem : NodeCall.mountSensitive "//srv/share" "/var/lib/kubelet/staging" "cifs" ["vers=3.0"]
      ["username=alice,password=secret"] ∈
        (Prog.run v.answer (nodeStageVolume drv req) ()).2.2.map Event.call := by decide
  obtain ⟨e, he, hc⟩ := List.mem_map.mp hmem
  exact ⟨⟨_, _, (Prog.exec_run v.answer _ ()).path, hmem⟩,
    nodeStageVolume_mount_options drv rfl
      (rfl : req.volumeCapability = some ⟨some ⟨["vers=3.0"], ""⟩⟩) (by decide) (by decide) (by decide) (by decide)
      (by decide) (Prog.exec_run v.answer _ ()).path he hc (by decide)⟩

/-- A password holding a comma splits into two options: the mount primitive receives an
option `b` that no secret names. -/
theorem nodeStageVolume_password_splits :
    let drv : Driver := ⟨GoLib.canonical, false, "/var/lib/kubelet/kerberos/", "AZURE",
      fun flags => flags.contains "guest", fun subDir _ => subDir, fun volumeID => volumeID⟩
    let req : NodeStageVolumeRequest := ⟨"vol-1", some ⟨some ⟨["vers=3.0"], ""⟩⟩,
      "/var/lib/kubelet/staging", [("source", "//srv/share")],
      [("username", "alice"), ("password", "a,b")]⟩
    ∃ tr r, Prog.Path (nodeStageVolume drv req) tr r ∧
      NodeCall.mountSensitive "//srv/share" "/var/lib/kubelet/staging" "cifs" ["vers=3.0"]
        ["username=alice,password=a,b"] ∈ tr.map Event.call ∧
      Strings.split (mountOptionString ["vers=3.0"] ["username=alice,password=a,b"]) ',' =
        ["vers=3.0", "username=alice", "password=a", "b"] ∧
      ∀ useKerberosCache : Bool,
        Strings.split (mountOptionString ["vers=3.0"] ["username=alice,password=a,b"]) ',' ≠
          ["vers=3.0"] ++
            (if !useKerberosCache then ["username=alice", "password=a,b"] else []) := by
  intro drv req
  let v : MountView := ⟨true, none, false, [], none, "/var/lib/kubelet/staging", none, none, none,
    none⟩
  refine ⟨_, _, (Prog.exec_run v.answer (nodeStageVolume drv req) ()).path, by decide, by decide,
    by decide⟩

end Promise

end SmbNode
