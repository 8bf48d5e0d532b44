import SmbNode.Node.Call

/-!
# Is the target mounted?

`ensureMountPoint` and `makeDir` of `nodeserver.go`.  `ensureMountPoint` asks the mount
utilities whether the target is a mount point, tolerating a corrupted one, and on Linux also
looks for it in the mount table, since a bind mount does not show in the first probe.  A target
found mounted is listed: if that works it is mounted; if not, the broken mount is unmounted.  A
target not mounted is created.  The result is whether the target is mounted, and an error.

The calls `ensureMountPoint` makes are all about the target, and it makes each at most once, so
what the node answers is a `MountView`: one reply for each call.  `MountView.ensure` runs
`ensureMountPoint` against it.  Over views we prove what the function decides:

* `ensure_mounted_iff`: it reports the target mounted with no error exactly when the probes
  succeed, find the target mounted, and the target can be listed;
* `ensureMountPoint_recovery_fails`: when a target found mounted cannot be listed and the
  recovery unmount works, it reports the target not mounted, and returns the error of the
  listing, not `nil`: the `err` it returns is the one of `os.ReadDir`, as the unmount's `err` is
  scoped to its `if`;
* `ensure_error_iff`: when it returns an error, and which.

For the callers, `ensureMountPoint_path` says the same of each path of the program: it never
calls the mount primitive, and it reports the target mounted with no error exactly when it
listed the target.
-/

namespace SmbNode

section Code

variable (windows : Bool)

/-- `makeDir`: `os.MkdirAll(pathname, 0755)`, where an existing path is no error. -/
def makeDir (pathname : String) : NodeProg (Option GoError) := do
  let err ← Host.mkdirAll pathname 0o755
  if let some err := err then
    if !err.isExist then
      return some err
  return none

/-- `ensureMountPoint`, where `windows` is `runtime.GOOS == "windows"`.  The loop over the mount
points, which stops at the first whose path is `targetAbs`, is `List.contains`. -/
def ensureMountPoint (target : String) : NodeProg (Bool × Option GoError) := do
  let (notMnt, err) ← Mounter.isLikelyNotMountPoint target
  let mut notMnt := notMnt
  if err.isSome && !isNotExist err then
    if ← Host.isCorruptedDir target then
      notMnt := false
    else
      return (!notMnt, err)
  if !windows then
    -- Check all the mountpoints in case IsLikelyNotMountPoint cannot handle --bind mount
    let (mountList, err) ← Mounter.list
    if err.isSome then
      return (!notMnt, err)
    let (targetAbs, err) ← Host.abs target
    if err.isSome then
      return (!notMnt, err)
    if mountList.contains targetAbs then
      notMnt := false
  if !notMnt then
    -- testing original mount point, make sure the mount link is valid
    let err ← Host.readDir target
    if err.isNone then
      return (!notMnt, none)
    -- mount link is invalid, now unmount and remount later
    if let some err ← Mounter.unmount target then
      return (!notMnt, some err)
    notMnt := true
    return (!notMnt, err)
  if let some err ← makeDir target then
    return (!notMnt, some err)
  return (false, none)

end Code

/-! ## The phases of `ensureMountPoint` -/

section Phases

variable (windows : Bool) (target : String)

/-- The end of `ensureMountPoint`, once `notMnt` is settled: a target found mounted is listed,
and unmounted where that fails; a target not mounted is created. -/
def mountPointVerdict (notMnt : Bool) : NodeProg (Bool × Option GoError) := do
  if !notMnt then
    let err ← Host.readDir target
    if err.isNone then
      return (!notMnt, none)
    if let some err ← Mounter.unmount target then
      return (!notMnt, some err)
    return (!true, err)
  if let some err ← makeDir target then
    return (!notMnt, some err)
  return (false, none)

/-- The middle of `ensureMountPoint`: on Linux, a target that the mount table lists is
mounted. -/
def mountTableCheck (notMnt : Bool) : NodeProg (Bool × Option GoError) := do
  if !windows then
    let (mountList, err) ← Mounter.list
    if err.isSome then
      return (!notMnt, err)
    let (targetAbs, err) ← Host.abs target
    if err.isSome then
      return (!notMnt, err)
    if mountList.contains targetAbs then
      mountPointVerdict target false
    else
      mountPointVerdict target notMnt
  else
    mountPointVerdict target notMnt

/-- `ensureMountPoint` is the probe, then `mountTableCheck`. -/
theorem ensureMountPoint_eq : ensureMountPoint windows target = (do
    let (notMnt, err) ← Mounter.isLikelyNotMountPoint target
    if err.isSome && !isNotExist err then
      if ← Host.isCorruptedDir target then
        mountTableCheck windows target false
      else
        return (!notMnt, err)
    else
      mountTableCheck windows target notMnt) :=
  rfl

end Phases

/-! ## The driver's state is left alone

`ensureMountPoint` calls the mount utilities and the host's directories only, never the lock
table or the Kerberos cache directory. -/

section Quiet

variable (windows : Bool) (target : String)

theorem makeDir_quiet : Quiet (makeDir target) :=
  quiet_trigger_bind rfl fun err => by split <;> (try split) <;> exact .ret _

theorem mountPointVerdict_quiet (notMnt : Bool) : Quiet (mountPointVerdict target notMnt) := by
  simp only [mountPointVerdict, Prog.pure_eq, Prog.ret_bind]
  split
  · refine quiet_trigger_bind rfl fun err => ?_
    split
    · exact .ret _
    · exact quiet_trigger_bind rfl fun err => by split <;> exact .ret _
  · exact (makeDir_quiet target).bind fun err => by split <;> exact .ret _

theorem mountTableCheck_quiet (notMnt : Bool) : Quiet (mountTableCheck windows target notMnt) := by
  simp only [mountTableCheck, Prog.pure_eq, Prog.ret_bind]
  split
  · refine quiet_trigger_bind rfl fun ⟨_, err⟩ => ?_
    split
    · exact .ret _
    · refine quiet_trigger_bind rfl fun ⟨_, err⟩ => ?_
      split
      · exact .ret _
      · split <;> exact mountPointVerdict_quiet target _
  · exact mountPointVerdict_quiet target _

theorem ensureMountPoint_quiet : Quiet (ensureMountPoint windows target) := by
  simp only [ensureMountPoint_eq, Prog.pure_eq, Prog.ret_bind]
  refine quiet_trigger_bind rfl fun ⟨_, err⟩ => ?_
  split
  · exact quiet_trigger_bind rfl fun c => by
      split
      · exact mountTableCheck_quiet windows target _
      · exact .ret _
  · exact mountTableCheck_quiet windows target _

end Quiet

/-! ## What the node answers -/

/-- The replies to the calls of `ensureMountPoint` on one target. -/
structure MountView where
  /-- `IsLikelyNotMountPoint`: whether the target is likely not a mount point, and the error. -/
  notMnt : Bool
  probeErr : Option GoError
  /-- `IsCorruptedDir`. -/
  corrupted : Bool
  /-- `d.mounter.List()`: the mount points' paths, and the error. -/
  mountList : List String
  listErr : Option GoError
  /-- `filepath.Abs`: the absolute path, and the error. -/
  targetAbs : String
  absErr : Option GoError
  /-- The errors of `os.ReadDir`, `d.mounter.Unmount` and `os.MkdirAll`. -/
  readDirErr : Option GoError
  unmountErr : Option GoError
  mkdirErr : Option GoError
  deriving DecidableEq, Repr

namespace MountView

variable (v : MountView)

/-- The node answering every call of `ensureMountPoint` as the view says. -/
def answer : (c : NodeCall) → Unit → c.Ret × Unit
  | .isLikelyNotMountPoint _, _ => ((v.notMnt, v.probeErr), ())
  | .isCorruptedDir _, _ => (v.corrupted, ())
  | .list, _ => ((v.mountList, v.listErr), ())
  | .abs _, _ => ((v.targetAbs, v.absErr), ())
  | .readDir _, _ => (v.readDirErr, ())
  | .unmount _, _ => (v.unmountErr, ())
  | .mkdirAll _ _, _ => (v.mkdirErr, ())
  | .fs c, _ => (c.errReply .io, ())
  | .remove _, _ => (none, ())
  | .lstat _, _ => (none, ())
  | .mount .., _ => (none, ())
  | .mountSensitive .., _ => (none, ())
  | .prepareStagePath _, _ => (none, ())
  | .preparePublishPath _, _ => (none, ())
  | .cleanupMountPoint .., _ => (none, ())
  | .cleanupSMBMountPoint .., _ => (none, ())
  | .tryAcquire _, _ => (true, ())
  | .release _, _ => ((), ())
  | .getMetrics _, _ =>
    ((⟨⟨none, ""⟩, ⟨none, ""⟩, ⟨none, ""⟩, ⟨none, ""⟩, ⟨none, ""⟩, ⟨none, ""⟩⟩, none), ())

/-- What `ensureMountPoint` returns on Linux when the node answers as `v`. -/
def ensure (target : String) : Bool × Option GoError :=
  (Prog.run v.answer (ensureMountPoint false target) ()).1

/-- The probe failed with an error other than not-exist. -/
def probeFailed : Bool := v.probeErr.isSome && !isNotExist v.probeErr

/-- The probe failed on a path that is not a corrupted directory: `ensureMountPoint` gives up. -/
def probeFatal : Bool := v.probeFailed && !v.corrupted

/-- The target is detected as mounted: the probe reports a mount point, or fails on a
corrupted directory, or the mount table lists the target's absolute path. -/
def detected : Bool :=
  !v.notMnt || (v.probeFailed && v.corrupted) || v.mountList.contains v.targetAbs

/-- `MkdirAll` failed, with an error other than exist. -/
def mkdirFailed : Bool := match v.mkdirErr with
  | some e => !e.isExist
  | none => false

theorem mkdirErr_ne_none {v : MountView} (h : v.mkdirFailed) : v.mkdirErr ≠ none := by
  unfold mkdirFailed at h
  split at h <;> simp_all

/-- What the end of `ensureMountPoint` decides for a target found mounted or not. -/
def verdictOutcome (mounted : Bool) : Bool × Option GoError :=
  if mounted then
    if v.readDirErr.isNone then (true, none)
    else if v.unmountErr.isSome then (true, v.unmountErr)
    else (false, v.readDirErr)
  else if v.mkdirFailed then (false, v.mkdirErr)
  else (false, none)

/-- What `ensureMountPoint` decides on Linux, in the terms of its documentation: the probe
gives up on a path that fails and is not corrupted; then the mount table and the absolute path
must be read; then a target detected as mounted is listed, one not mounted is created. -/
def outcome : Bool × Option GoError :=
  if v.probeFatal then (!v.notMnt, v.probeErr)
  else if v.listErr.isSome then (!v.notMnt || v.probeFailed, v.listErr)
  else if v.absErr.isSome then (!v.notMnt || v.probeFailed, v.absErr)
  else v.verdictOutcome v.detected

section Runs

variable (target : String)

theorem run_mountPointVerdict (notMnt : Bool) :
    (Prog.run v.answer (mountPointVerdict target notMnt) ()).1 = v.verdictOutcome !notMnt := by
  obtain ⟨_, _, _, _, _, _, _, readDirErr, unmountErr, mkdirErr⟩ := v
  cases notMnt
  · cases readDirErr <;> cases unmountErr <;> rfl
  · rcases mkdirErr with _ | e
    · rfl
    · cases h : e.isExist <;>
        simp [mountPointVerdict, makeDir, Host.mkdirAll, answer, verdictOutcome, mkdirFailed, h]

theorem run_mountTableCheck (notMnt : Bool) :
    (Prog.run v.answer (mountTableCheck false target notMnt) ()).1 =
      if v.listErr.isSome then (!notMnt, v.listErr)
      else if v.absErr.isSome then (!notMnt, v.absErr)
      else v.verdictOutcome (!notMnt || v.mountList.contains v.targetAbs) := by
  simp only [mountTableCheck, Mounter.list, Host.abs, Prog.trigger_bind, Bool.not_false, if_true,
    Prog.run_call_fst, answer]
  by_cases hc : v.mountList.contains v.targetAbs <;> split_ifs <;>
    simp_all [run_mountPointVerdict, answer]

/-- The spec of `ensureMountPoint` on Linux: it decides `outcome`. -/
theorem ensure_eq_outcome : v.ensure target = v.outcome := by
  simp only [ensure, ensureMountPoint_eq, Mounter.isLikelyNotMountPoint, Host.isCorruptedDir,
    Prog.trigger_bind, Prog.run_call_fst, answer]
  change (Prog.run v.answer (if v.probeFailed = true then _ else _) ()).1 = _
  unfold outcome probeFatal detected
  by_cases hp : v.probeFailed <;> by_cases hc : v.corrupted <;>
    simp [hp, hc, run_mountTableCheck, answer]

end Runs

/-! ## What `ensureMountPoint` decides -/

section Decides

variable {v} {target : String}

/-- `ensureMountPoint` reports the target mounted with no error exactly when the probe does
not give up, the mount table and the absolute path are read, the target is detected as
mounted, and it can be listed. -/
theorem ensure_mounted_iff : v.ensure target = (true, none) ↔
    v.probeFatal = false ∧ v.listErr = none ∧ v.absErr = none ∧ v.detected ∧
      v.readDirErr = none := by
  rw [ensure_eq_outcome]
  unfold outcome verdictOutcome probeFatal probeFailed
  split_ifs <;> simp_all [Option.isSome_iff_ne_none]

/-- **The recovery of a broken mount fails.**  A target detected as mounted that cannot be
listed is unmounted; when the unmount works, `ensureMountPoint` reports the target not mounted
but returns the error of `os.ReadDir`, so that its caller fails instead of mounting again. -/
theorem ensureMountPoint_recovery_fails {e : GoError} (hprobe : v.probeFatal = false)
    (hlist : v.listErr = none) (habs : v.absErr = none) (hdet : v.detected)
    (hread : v.readDirErr = some e) (hunmount : v.unmountErr = none) :
    v.ensure target = (false, some e) := by
  rw [ensure_eq_outcome]
  simp [outcome, verdictOutcome, hprobe, hlist, habs, hdet, hread, hunmount]

/-- A stale mount: the probe reports a mount point, listing it fails with `EIO`, and the
unmount works. -/
theorem ensureMountPoint_recovery_fails_stale :
    let v : MountView := ⟨false, none, false, ["/var/lib/kubelet/staging"], none,
      "/var/lib/kubelet/staging", none, some (.path "open" "/var/lib/kubelet/staging" .io),
      none, none⟩
    v.ensure "/var/lib/kubelet/staging" =
      (false, some (.path "open" "/var/lib/kubelet/staging" .io)) :=
  ensureMountPoint_recovery_fails rfl rfl rfl rfl rfl rfl

/-- `ensureMountPoint` returns an error exactly when the probe gives up, the mount table or
the absolute path cannot be read, a target detected as mounted cannot be listed, or a target
not mounted cannot be created. -/
theorem ensure_error_iff : (v.ensure target).2 ≠ none ↔
    v.probeFatal ∨ v.listErr ≠ none ∨ v.absErr ≠ none ∨ (v.detected ∧ v.readDirErr ≠ none) ∨
      (v.detected = false ∧ v.mkdirFailed) := by
  rw [ensure_eq_outcome]
  unfold outcome verdictOutcome probeFatal probeFailed
  split_ifs <;> simp_all [Option.isSome_iff_ne_none, mkdirErr_ne_none]

end Decides

end MountView

/-! ## Every path of `ensureMountPoint` -/

section Paths

/-- The path `tr` lists `target` with `os.ReadDir`, successfully. -/
def Listed (target : String) (tr : List (Event NodeCall NodeCall.Ret)) : Prop :=
  (⟨.readDir target, none⟩ : Event NodeCall NodeCall.Ret) ∈ tr

variable {windows : Bool} {target : String} {tr : List (Event NodeCall NodeCall.Ret)}

theorem makeDir_path {err : Option GoError} (h : Prog.Path (makeDir target) tr err) :
    ∃ r, tr = [⟨.mkdirAll target 0o755, r⟩] := by
  simp only [makeDir, Host.mkdirAll, Prog.trigger_bind, Prog.path_call_iff] at h
  obtain ⟨r, tr', rfl, h⟩ := h
  refine ⟨r, ?_⟩
  rcases r with _ | e
  · simp at h
    rw [h.1]
  · by_cases he : e.isExist <;> simp [he] at h <;> rw [h.1]

theorem mountPointVerdict_path {notMnt : Bool} {r : Bool × Option GoError}
    (h : Prog.Path (mountPointVerdict target notMnt) tr r) :
    mountCount tr = 0 ∧ (r = (true, none) ↔ Listed target tr) := by
  cases notMnt with
  | false =>
    simp only [mountPointVerdict, Host.readDir, Mounter.unmount, Prog.trigger_bind,
      Prog.call_bind, Prog.ret_bind, Prog.pure_eq, Bool.not_false, if_true,
      Prog.path_call_iff] at h
    obtain ⟨e, tr', rfl, h₁⟩ := h
    rcases e with _ | e
    · obtain ⟨rfl, rfl⟩ := Prog.path_ret_iff.mp h₁
      simp [Listed, NodeCall.isMount]
    · obtain ⟨u, tr'', rfl, h₂⟩ := Prog.path_call_iff.mp h₁
      rcases u with _ | u <;> obtain ⟨rfl, rfl⟩ := Prog.path_ret_iff.mp h₂ <;>
        simp [Listed, NodeCall.isMount]
  | true =>
    simp only [mountPointVerdict, Bool.not_true, Prog.pure_eq, Prog.ret_bind] at h
    obtain ⟨tr₁, tr₂, err, rfl, h₁, h₂⟩ := Prog.path_bind_iff.mp h
    obtain ⟨m, rfl⟩ := makeDir_path h₁
    rcases err with _ | err <;> obtain ⟨rfl, rfl⟩ := Prog.path_ret_iff.mp h₂ <;>
      simp [Listed, NodeCall.isMount]

theorem mountTableCheck_path {notMnt : Bool} {r : Bool × Option GoError}
    (h : Prog.Path (mountTableCheck windows target notMnt) tr r) :
    mountCount tr = 0 ∧ (r = (true, none) ↔ Listed target tr) := by
  cases windows with
  | true => exact mountPointVerdict_path h
  | false =>
    simp only [mountTableCheck, Mounter.list, Host.abs, Prog.trigger_bind, Bool.not_false,
      if_true, Prog.path_call_iff] at h
    obtain ⟨⟨mountList, listErr⟩, tr', rfl, h₁⟩ := h
    rcases listErr with _ | e
    · obtain ⟨⟨targetAbs, absErr⟩, tr'', rfl, h₂⟩ := Prog.path_call_iff.mp h₁
      rcases absErr with _ | e
      · simp only [Option.isSome_none, Bool.false_eq_true, if_false, Prog.pure_eq,
          Prog.ret_bind] at h₂
        have h₃ : mountCount tr'' = 0 ∧ (r = (true, none) ↔ Listed target tr'') := by
          split at h₂ <;> exact mountPointVerdict_path h₂
        simpa [Listed, NodeCall.isMount] using h₃
      · obtain ⟨rfl, rfl⟩ := Prog.path_ret_iff.mp h₂
        simp [Listed, NodeCall.isMount]
    · obtain ⟨rfl, rfl⟩ := Prog.path_ret_iff.mp h₁
      simp [Listed, NodeCall.isMount]

/-- **Every path of `ensureMountPoint`.**  It never calls the mount primitive, and it reports
the target mounted with no error exactly when it lists the target successfully. -/
theorem ensureMountPoint_path {r : Bool × Option GoError}
    (h : Prog.Path (ensureMountPoint windows target) tr r) :
    mountCount tr = 0 ∧ (r = (true, none) ↔ Listed target tr) := by
  rw [ensureMountPoint_eq] at h
  simp only [Mounter.isLikelyNotMountPoint, Host.isCorruptedDir, Prog.trigger_bind,
    Prog.path_call_iff] at h
  obtain ⟨⟨notMnt, err⟩, tr', rfl, h₁⟩ := h
  split at h₁
  · rename_i hfail
    obtain ⟨corrupted, tr'', rfl, h₂⟩ := Prog.path_call_iff.mp h₁
    cases corrupted
    · obtain ⟨rfl, rfl⟩ := Prog.path_ret_iff.mp h₂
      have herr : err ≠ none := by
        simpa [Option.isSome_iff_ne_none] using (Bool.and_eq_true _ _).mp hfail |>.1
      simp [Listed, NodeCall.isMount, herr]
    · simpa [Listed, NodeCall.isMount] using mountTableCheck_path h₂
  · simpa [Listed, NodeCall.isMount] using mountTableCheck_path h₁

end Paths

end SmbNode
