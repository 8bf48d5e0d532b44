import SmbNode.Node.Server

/-!
# The host

The handlers run against a host whose state is a `Node`: the directories the mount targets are
made of, the mount table, the mounts whose connection is broken, the lock table of the driver,
and the Kerberos cache directory.  `NodeStep` is how such a host answers each call when nothing
fails spontaneously: a call fails only where the state says it must.

Two things the host does are not fixed by the code, and `NodeStep` leaves them open.
`IsLikelyNotMountPoint` may miss a mount (the code says so of bind mounts), but it never reports
a mount the table does not hold.  The mount primitive may fail, with any error; when it returns
`nil`, the target is listed in the mount table at its absolute path and can be listed.  The
absolute path of a target is `absPath`, the host's `filepath.Abs`.

The state also counts the calls of the mount primitive so far (`mountCalls`, a ghost no code
reads), so that what a run does to it says how often it mounted (`Exec.mountCalls`).
-/

namespace SmbNode

/-- The state of the host. -/
structure Node where
  /-- The directories that exist, other than the Kerberos cache directory. -/
  dirs : List String
  /-- The mount table: the absolute paths of the mount points. -/
  mounts : List String
  /-- The targets whose mount has lost its connection: probing or listing them fails. -/
  stale : List String
  /-- The volume IDs whose lock is held. -/
  locks : List String
  /-- The Kerberos cache directory. -/
  cache : CacheDir
  /-- The calls of the mount primitive so far. -/
  mountCalls : Nat

namespace Node

variable (absPath : String → String)

/-- `t` is validly mounted: the mount table lists its absolute path, and it can be listed. -/
def Mounted (s : Node) (t : String) : Prop :=
  absPath t ∈ s.mounts ∧ t ∈ s.dirs ∧ t ∉ s.stale

/-- The state after a call of the mount primitive on `t` that returned `err`. -/
def afterMount (s : Node) (t : String) (err : Option GoError) : Node :=
  match err with
  | some _ => { s with mountCalls := s.mountCalls + 1 }
  | none =>
    { s with mounts := s.mounts.insert (absPath t), dirs := s.dirs.insert t,
             stale := s.stale.filter (· != t), mountCalls := s.mountCalls + 1 }

/-- The state after `t` is unmounted. -/
def afterUnmount (s : Node) (t : String) : Node :=
  { s with mounts := s.mounts.erase (absPath t), stale := s.stale.filter (· != t) }

@[simp] theorem afterMount_locks (s : Node) (t : String) (err : Option GoError) :
    (s.afterMount absPath t err).locks = s.locks := by
  cases err <;> rfl

@[simp] theorem afterMount_cache (s : Node) (t : String) (err : Option GoError) :
    (s.afterMount absPath t err).cache = s.cache := by
  cases err <;> rfl

@[simp] theorem afterUnmount_locks (s : Node) (t : String) :
    (s.afterUnmount absPath t).locks = s.locks := rfl

@[simp] theorem afterUnmount_cache (s : Node) (t : String) :
    (s.afterUnmount absPath t).cache = s.cache := rfl

theorem afterMount_mounted (s : Node) (t : String) :
    (s.afterMount absPath t none).Mounted absPath t := by
  simp [Mounted, afterMount]

end Node

section Step

variable (dir : String) (absPath : String → String)

/-- The host answering each call where nothing fails spontaneously.  `dir` is the Kerberos cache
directory and `absPath` the host's `filepath.Abs`. -/
def NodeStep : (c : NodeCall) → Node → c.Ret → Node → Prop
  | .fs c, s, r, s' => ∃ cache, FsStep dir noFault c s.cache r cache ∧ s' = { s with cache }
  | .isLikelyNotMountPoint t, s, r, s' => s' = s ∧
    if t ∉ s.dirs then r = (true, some (.path "stat" t .noent))
    else if t ∈ s.stale then r = (true, some (.path "stat" t .io))
    else r.2 = none ∧ (r.1 = false → absPath t ∈ s.mounts) ∧ (absPath t ∉ s.mounts → r.1 = true)
  | .isCorruptedDir t, s, r, s' => s' = s ∧ r = decide (t ∈ s.stale)
  | .list, s, r, s' => s' = s ∧ r = (s.mounts, none)
  | .abs t, s, r, s' => s' = s ∧ r = (absPath t, none)
  | .readDir t, s, r, s' => s' = s ∧ (r = none ↔ t ∈ s.dirs ∧ t ∉ s.stale)
  | .unmount t, s, r, s' =>
    if absPath t ∈ s.mounts then r = none ∧ s' = s.afterUnmount absPath t
    else r.isSome ∧ s' = s
  | .mkdirAll t _, s, r, s' =>
    if t ∈ s.stale then r.isSome ∧ s' = s else r = none ∧ s' = { s with dirs := s.dirs.insert t }
  | .remove t, s, r, s' =>
    if absPath t ∈ s.mounts then r.isSome ∧ s' = s
    else r = none ∧ s' = { s with dirs := s.dirs.erase t }
  | .lstat t, s, r, s' => s' = s ∧ (r = none ↔ t ∈ s.dirs)
  | .mount _ t _ _, s, r, s' => s' = s.afterMount absPath t r
  | .mountSensitive _ t _ _ _, s, r, s' => s' = s.afterMount absPath t r
  | .prepareStagePath _, s, r, s' => r = none ∧ s' = s
  | .preparePublishPath _, s, r, s' => r = none ∧ s' = s
  | .cleanupMountPoint t _, s, r, s' =>
    r = none ∧ s' = { s.afterUnmount absPath t with dirs := s.dirs.erase t }
  | .cleanupSMBMountPoint t _, s, r, s' =>
    r = none ∧ s' = { s.afterUnmount absPath t with dirs := s.dirs.erase t }
  | .tryAcquire v, s, r, s' =>
    if v ∈ s.locks then r = false ∧ s' = s else r = true ∧ s' = { s with locks := v :: s.locks }
  | .release v, s, _, s' => s' = { s with locks := s.locks.erase v }
  | .getMetrics _, s, r, s' => s' = s ∧ r.2 = none

/-- A host that answers each call one way: its probe sees every mount in the table, and every
mount succeeds. -/
def nodeAnswer : (c : NodeCall) → Node → c.Ret × Node
  | .fs c, s => ((c.exec dir s.cache).1, { s with cache := (c.exec dir s.cache).2 })
  | .isLikelyNotMountPoint t, s =>
    (if t ∉ s.dirs then (true, some (.path "stat" t .noent))
      else if t ∈ s.stale then (true, some (.path "stat" t .io))
      else (decide (absPath t ∉ s.mounts), none), s)
  | .isCorruptedDir t, s => (decide (t ∈ s.stale), s)
  | .list, s => ((s.mounts, none), s)
  | .abs t, s => ((absPath t, none), s)
  | .readDir t, s => (if t ∈ s.dirs ∧ t ∉ s.stale then none else some (.path "open" t .noent), s)
  | .unmount t, s =>
    if absPath t ∈ s.mounts then (none, s.afterUnmount absPath t)
    else (some (.other "not mounted"), s)
  | .mkdirAll t _, s =>
    if t ∈ s.stale then (some (.path "mkdir" t .io), s)
    else (none, { s with dirs := s.dirs.insert t })
  | .remove t, s =>
    if absPath t ∈ s.mounts then (some (.other "device or resource busy"), s)
    else (none, { s with dirs := s.dirs.erase t })
  | .lstat t, s => (if t ∈ s.dirs then none else some (.path "lstat" t .noent), s)
  | .mount _ t _ _, s => (none, s.afterMount absPath t none)
  | .mountSensitive _ t _ _ _, s => (none, s.afterMount absPath t none)
  | .prepareStagePath _, s => (none, s)
  | .preparePublishPath _, s => (none, s)
  | .cleanupMountPoint t _, s => (none, { s.afterUnmount absPath t with dirs := s.dirs.erase t })
  | .cleanupSMBMountPoint t _, s => (none, { s.afterUnmount absPath t with dirs := s.dirs.erase t })
  | .tryAcquire v, s => if v ∈ s.locks then (false, s) else (true, { s with locks := v :: s.locks })
  | .release v, s => ((), { s with locks := s.locks.erase v })
  | .getMetrics _, s =>
    ((⟨⟨none, ""⟩, ⟨none, ""⟩, ⟨none, ""⟩, ⟨none, ""⟩, ⟨none, ""⟩, ⟨none, ""⟩⟩, none), s)

/-- `nodeAnswer` is one of the hosts `NodeStep` allows. -/
theorem nodeStep_nodeAnswer (c : NodeCall) (s : Node) :
    NodeStep dir absPath c s (nodeAnswer dir absPath c s).1 (nodeAnswer dir absPath c s).2 := by
  cases c <;> simp only [nodeAnswer, NodeStep]
  case fs c => exact ⟨_, .exec, rfl⟩
  all_goals (try split_ifs) <;> simp_all

/-- The host answers every call. -/
theorem nodeStep_total (c : NodeCall) (s : Node) : ∃ r s', NodeStep dir absPath c s r s' :=
  ⟨_, _, nodeStep_nodeAnswer dir absPath c s⟩

theorem nodeStep_of_det {c : NodeCall} {s s' : Node} {r : c.Ret}
    (h : Prog.det (nodeAnswer dir absPath) c s r s') : NodeStep dir absPath c s r s' := by
  have h' : nodeAnswer dir absPath c s = (r, s') := h
  rw [show r = (nodeAnswer dir absPath c s).1 by rw [h'],
    show s' = (nodeAnswer dir absPath c s).2 by rw [h']]
  exact nodeStep_nodeAnswer dir absPath c s

/-- A step counts a call of the mount primitive, and nothing else. -/
theorem NodeStep.mountCalls {c : NodeCall} {s s' : Node} {r : c.Ret}
    (h : NodeStep dir absPath c s r s') :
    s'.mountCalls = s.mountCalls + if c.isMount then 1 else 0 := by
  cases c with
  | fs c => obtain ⟨_, _, rfl⟩ := h; rfl
  | mount | mountSensitive => subst h; cases r <;> rfl
  | unmount t | mkdirAll t | remove t | tryAcquire t =>
    simp only [NodeStep] at h
    split_ifs at h <;> obtain ⟨-, rfl⟩ := h <;> rfl
  | release | prepareStagePath | preparePublishPath | cleanupMountPoint | cleanupSMBMountPoint =>
    simp only [NodeStep] at h
    first | subst h; rfl | obtain ⟨-, rfl⟩ := h; rfl
  | _ => obtain ⟨rfl, -⟩ := h; rfl

/-- Only the lock table's calls change the lock table, and only the cache directory's calls
change the cache directory. -/
theorem NodeStep.frame {c : NodeCall} {s s' : Node} {r : c.Ret}
    (h : NodeStep dir absPath c s r s') :
    (c.isLock = false → s'.locks = s.locks) ∧ (c.isFs = false → s'.cache = s.cache) := by
  cases c with
  | fs c => obtain ⟨_, _, rfl⟩ := h; exact ⟨fun _ => rfl, fun h => nomatch h⟩
  | tryAcquire | release =>
    refine ⟨(fun h => nomatch h), fun _ => ?_⟩
    simp only [NodeStep] at h
    first | (split_ifs at h <;> obtain ⟨-, rfl⟩ := h <;> rfl) | (subst h; rfl)
  | mount | mountSensitive => subst h; cases r <;> exact ⟨fun _ => rfl, fun _ => rfl⟩
  | unmount t | mkdirAll t | remove t =>
    simp only [NodeStep] at h
    split_ifs at h <;> obtain ⟨-, rfl⟩ := h <;> exact ⟨fun _ => rfl, fun _ => rfl⟩
  | prepareStagePath | preparePublishPath | cleanupMountPoint | cleanupSMBMountPoint =>
    obtain ⟨-, rfl⟩ := h; exact ⟨fun _ => rfl, fun _ => rfl⟩
  | _ => obtain ⟨rfl, -⟩ := h; exact ⟨fun _ => rfl, fun _ => rfl⟩

/-- A program that leaves the driver's state alone keeps the lock table and the cache
directory. -/
theorem Quiet.wp {α : Type} {p : NodeProg α} (h : Quiet p) (s : Node) :
    Prog.wp (NodeStep dir absPath) p (fun _ t => t.locks = s.locks ∧ t.cache = s.cache) s :=
  Prog.wp_mono (fun _ _ h => Prod.ext_iff.mp h) (Prog.Avoids.wp (f := fun s => (s.locks, s.cache))
    (fun c _ _ _ hc hs => by
      have hc : c.isLock = false ∧ c.isFs = false := by
        simpa [NodeCall.isDriverState, not_or] using hc
      exact Prod.ext ((hs.frame dir absPath).1 hc.1) ((hs.frame dir absPath).2 hc.2)) h s)

/-- A run counts its calls of the mount primitive. -/
theorem Exec.mountCalls {α : Type} {p : NodeProg α} {s t : Node}
    {tr : List (Event NodeCall NodeCall.Ret)} {a : α}
    (h : Prog.Exec (NodeStep dir absPath) p s tr a t) : t.mountCalls = s.mountCalls + mountCount tr := by
  induction h with
  | ret => rfl
  | call hr _ ih =>
    rw [ih, hr.mountCalls, mountCount_cons]
    dsimp only
    omega

/-- A program on the cache directory runs on the host as on the directory, leaving the rest of
the host as it is. -/
theorem wp_liftFs {α : Type} (p : FsProg α) (Q : α → Node → Prop) (s : Node) :
    Prog.wp (NodeStep dir absPath) (liftFs p) Q s ↔
      Prog.wp (FsStep dir noFault) p (fun a cache => Q a { s with cache }) s.cache := by
  induction p generalizing s with
  | ret a => rfl
  | call c k ih =>
    simp only [liftFs, Prog.wp_call, NodeStep]
    constructor
    · intro h r cache hr
      exact (ih r _).mp (h r _ ⟨cache, hr, rfl⟩)
    · rintro h r _ ⟨cache, hr, rfl⟩
      exact (ih r _).mpr (h r cache hr)

end Step

end SmbNode
