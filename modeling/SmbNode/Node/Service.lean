import SmbNode.Node.Effect

/-!
# The node service

The CSI node service answers one request after another.  `NodeRequest` is a request, and
`NodeRequest.handle` the handler the gRPC server calls for it.  `Served` holds of the states of a
node that started fresh and has answered any sequence of requests since: an empty lock table
and an empty Kerberos cache directory at the start, and then any requests, with any volume IDs,
flags and secrets, each run to its end however it ended.

Of one request, from any state: `handle_lock_discipline`, on every path the handlers that take a
volume's lock hold it around everything they do and the others never call the lock table, so on
any host whose lock table behaves as the driver's, whatever it answers to the other calls, the
lock table ends as it started.

Over every run of a served node:

* `served_invariant`: between two requests the lock table is empty, and the cache directory is one
  that `Reachable` of `SmbNode/Kerberos/Invariant.lean` reaches, so it keeps that module's
  invariant.  The node's runs are runs of the cache-directory system: a stage runs one
  `ensureKerberosCache`, an unstage one `deleteKerberosCache`, and nothing else touches the
  directory;
* `served_lock_granted`: so no request is ever refused its volume's lock;
* `served_stage_ticket`: on Linux, a `NodeStageVolume` that passes its checks and carries a
  ticket, for a volume ID of at most 189 bytes, leaves it in the volume's cache file with the
  user's canonical cache linked to it: a dangling canonical cache, on which
  `ensureKerberosCache` fails, is one the invariant rules out;
* `served_unstage_cleans`: a `NodeUnstageVolume` that passes its checks, for a volume ID of at
  most 189 bytes, succeeds and leaves neither the volume's cache file nor a symlink to it;
* `served_idempotent`: on Linux, a `NodeStageVolume` or `NodePublishVolume` that succeeded
  succeeds again at once without mounting, and a `NodeUnstageVolume` that succeeded succeeds
  again and changes neither the cache directory nor the lock table.  For staging this needs the
  invariant: the volume's cache file must not be a symlink.

The bound on the volume ID is `NAME_MAX`: a longer ID gives a cache-file name of more than 255
bytes, on which every call fails with `ENAMETOOLONG`, so a stage carrying a ticket fails writing
it and an unstage fails at the `Stat` of the file.
-/

namespace SmbNode

/-- A request to the node service.  `NodeGetCapabilities` and `NodeGetInfo` answer constants
and call nothing. -/
inductive NodeRequest where
  | stage (req : NodeStageVolumeRequest)
  | unstage (req : NodeUnstageVolumeRequest)
  | publish (req : NodePublishVolumeRequest)
  | unpublish (req : NodeUnpublishVolumeRequest)
  | stats (req : NodeGetVolumeStatsRequest)
  | expand

namespace NodeRequest

/-- What the handler of a request returns besides an error. -/
@[reducible] def Response : NodeRequest → Type
  | stats _ => List VolumeUsage
  | _ => Unit

/-- The handler the gRPC server calls for a request. -/
def handle (drv : Driver) : (q : NodeRequest) → NodeProg (Except GoError q.Response)
  | stage req => nodeStageVolume drv req
  | unstage req => nodeUnstageVolume drv req
  | publish req => nodePublishVolume drv req
  | unpublish req => nodeUnpublishVolume req
  | stats req => nodeGetVolumeStats req
  | expand => nodeExpandVolume

/-- The volume whose lock a request takes: `NodeStageVolume` and `NodeUnstageVolume` take their
volume's, the other requests none. -/
def lockedVolume : NodeRequest → Option String
  | stage req => some req.volumeId
  | unstage req => some req.volumeId
  | _ => none

end NodeRequest

/-! Example requests and nodes: a Linux driver with the kubelet's cache directory, a fresh node, a
request to stage a volume mounted with `sec=krb5` for user 1000, whose ticket is in the secrets,
the node after it, and a request to unstage the volume. -/

/-- A Linux driver. -/
def linuxDriver : Driver := ⟨GoLib.canonical, false, "/var/lib/kubelet/kerberos/", "AZURE",
  fun flags => flags.contains "guest", fun subDir _ => subDir, fun volumeID => volumeID⟩

/-- A fresh node. -/
def freshNode : Node := ⟨[], [], [], [], some ∅, 0⟩

/-- A request to stage a volume with Kerberos security for user 1000. -/
def kerberosStage : NodeStageVolumeRequest := ⟨"pvc-1", some ⟨some ⟨["sec=krb5", "cruid=1000"], ""⟩⟩,
  "/var/lib/kubelet/staging", [("source", "//srv/share")], [("krb5cc_1000", "dGlja2V0")]⟩

/-- The fresh node after staging `kerberosStage`. -/
def stagedNode : Node :=
  (Prog.run (nodeAnswer linuxDriver.krb5CacheDirectory id) (nodeStageVolume linuxDriver kerberosStage)
    freshNode).2.1

/-- A request to unstage the volume `kerberosStage` staged. -/
def kerberosUnstage : NodeUnstageVolumeRequest := ⟨"pvc-1", "/var/lib/kubelet/staging"⟩

/-- `stagedNode` after unstaging `kerberosUnstage`. -/
def unstagedNode : Node :=
  (Prog.run (nodeAnswer linuxDriver.krb5CacheDirectory id)
    (nodeUnstageVolume linuxDriver kerberosUnstage) stagedNode).2.1

/-! ## One request -/

section Request

variable (drv : Driver) (absPath : String → String)

/-- A body that keeps a property of the cache directory keeps it under the volume's lock. -/
theorem withVolumeLock_wp_cache {C : CacheDir → Prop} {v : String}
    {body : NodeProg (Except GoError Unit)}
    (hbody : ∀ s, C s.cache → Prog.wp (NodeStep drv.krb5CacheDirectory absPath) body
      (fun _ t => C t.cache) s) {s : Node} (hs : C s.cache) :
    Prog.wp (NodeStep drv.krb5CacheDirectory absPath) (withVolumeLock drv v body)
      (fun _ t => C t.cache) s := by
  simp only [withVolumeLock, VolumeLocks.tryAcquire, Prog.trigger_bind, Prog.wp_call]
  intro acquired s₁ h₁
  have hs₁ : C s₁.cache := ((h₁.frame _ absPath).2 rfl).symm ▸ hs
  cases acquired with
  | false => exact hs₁
  | true =>
    simp only [Bool.not_true, Bool.false_eq_true, if_false, Prog.wp_bind, Prog.pure_eq,
      Prog.ret_bind]
    refine Prog.wp_mono (fun _ s₂ hs₂ => ?_) (hbody s₁ hs₁)
    simp only [VolumeLocks.release, Prog.trigger_bind, Prog.wp_call, NodeStep]
    rintro _ _ rfl
    exact hs₂

/-- The cache directories the cache-directory system reaches. -/
def CacheReachable (drv : Driver) (c : CacheDir) : Prop :=
  ∃ g, Reachable drv.lib drv.krb5CacheDirectory c g

theorem Quiet.wp_cache {α : Type} {p : NodeProg α} (h : Quiet p) {C : CacheDir → Prop}
    {s : Node} (hs : C s.cache) :
    Prog.wp (NodeStep drv.krb5CacheDirectory absPath) p (fun _ t => C t.cache) s :=
  Prog.wp_mono (fun _ _ ht => ht.2 ▸ hs) (h.wp _ absPath s)

/-- A run of `NodeStageVolume` runs one `ensureKerberosCache` on the cache directory, if any,
and leaves the directory alone otherwise. -/
theorem nodeStageVolume_wp_reachable {req : NodeStageVolumeRequest} {s : Node}
    (hs : CacheReachable drv s.cache) :
    Prog.wp (NodeStep drv.krb5CacheDirectory absPath) (nodeStageVolume drv req)
      (fun _ t => CacheReachable drv t.cache) s := by
  rcases hcap : req.volumeCapability with _ | cap <;>
    simp only [nodeStageVolume, hcap, Prog.pure_eq, Prog.ret_bind]
  · split_ifs <;> exact hs
  split_ifs with hid <;> try exact hs
  refine withVolumeLock_wp_cache drv absPath (fun s₁ ⟨g, hg⟩ => ?_) hs
  simp only [nodeStageVolumeLocked]
  split
  · exact (stageMount_quiet drv _ _ _ _ _).wp_cache drv absPath ⟨g, hg⟩
  · simp only [Prog.wp_bind]
    rw [wp_liftFs]
    refine Prog.wp_mono (fun a c ⟨_, hrun⟩ => ?_) (Prog.wp_exec _ _)
    have hc : CacheReachable drv c := ⟨_, .ensure hg (ne_empty_of_isEmpty (by simpa using hid))
      (hrun.mono fun _ _ _ _ h => h.mono fun _ h => h.elim)⟩
    refine Quiet.wp_cache drv absPath ?_ hc
    simp only [Prog.pure_eq, Prog.ret_bind]
    split
    · exact .ret _
    · exact quiet_trigger_bind rfl fun err => by
        split
        · exact .ret _
        · exact stageMount_quiet drv _ _ _ _ _

/-- A run of `NodeUnstageVolume` runs one `deleteKerberosCache` on the cache directory, if any,
and leaves the directory alone otherwise. -/
theorem nodeUnstageVolume_wp_reachable {req : NodeUnstageVolumeRequest} {s : Node}
    (hs : CacheReachable drv s.cache) :
    Prog.wp (NodeStep drv.krb5CacheDirectory absPath) (nodeUnstageVolume drv req)
      (fun _ t => CacheReachable drv t.cache) s := by
  simp only [nodeUnstageVolume, Prog.pure_eq, Prog.ret_bind]
  split_ifs with hid <;> try exact hs
  show Prog.wp _ (withVolumeLock drv req.volumeId
    (nodeUnstageVolumeLocked drv req.volumeId req.stagingTargetPath)) _ _
  refine withVolumeLock_wp_cache drv absPath (fun s₁ ⟨g, hg⟩ => ?_) hs
  simp only [nodeUnstageVolumeLocked, Host.cleanupSMBMountPoint, Prog.trigger_bind, Prog.wp_call]
  rintro _ _ ⟨rfl, rfl⟩
  simp only [Prog.pure_eq, Prog.ret_bind, Prog.wp_bind]
  rw [wp_liftFs]
  refine Prog.wp_mono (fun a c ⟨_, hrun⟩ => ?_) (Prog.wp_exec _ _)
  have hc : CacheReachable drv c := ⟨_, .delete hg (ne_empty_of_isEmpty (by simpa using hid))
    (hrun.mono fun _ _ _ _ h => h.mono fun _ h => h.elim)⟩
  split <;> exact hc

/-- Every handler keeps the cache directory reachable. -/
theorem handle_wp_reachable (q : NodeRequest) {s : Node} (hs : CacheReachable drv s.cache) :
    Prog.wp (NodeStep drv.krb5CacheDirectory absPath) (q.handle drv)
      (fun _ t => CacheReachable drv t.cache) s := by
  cases q with
  | stage req => exact nodeStageVolume_wp_reachable drv absPath hs
  | unstage req => exact nodeUnstageVolume_wp_reachable drv absPath hs
  | publish req => exact (nodePublishVolume_quiet drv req).wp_cache drv absPath hs
  | unpublish req => exact (nodeUnpublishVolume_quiet req).wp_cache drv absPath hs
  | stats req => exact (nodeGetVolumeStats_quiet req).wp_cache drv absPath hs
  | expand => exact hs

/-- The lock-table calls of every handler: on every path, `NodeStageVolume` and
`NodeUnstageVolume` hold their volume's lock, and the others never call the lock table. -/
theorem handle_path_locks (q : NodeRequest) {tr : List (Event NodeCall NodeCall.Ret)}
    {r : Except GoError q.Response} (h : Prog.Path (q.handle drv) tr r) :
    (∃ v, q.lockedVolume = some v ∧ HoldsLock v tr) ∨
      (q.lockedVolume = none ∧ ∀ e ∈ tr, e.call.isLock = false) := by
  have quiet {α : Type} {p : NodeProg α} (hp : Quiet p) {r : α} (h : Prog.Path p tr r) :
      ∀ e ∈ tr, e.call.isLock = false := fun e he => by simpa using hp.avoids_lock.path h e he
  cases q with
  | stage req => exact .inl ⟨_, rfl, (nodeStageVolume_holdsLock drv h).1⟩
  | unstage req => exact .inl ⟨_, rfl, (nodeUnstageVolume_holdsLock drv h).1⟩
  | publish req => exact .inr ⟨rfl, quiet (nodePublishVolume_quiet drv req) h⟩
  | unpublish req => exact .inr ⟨rfl, quiet (nodeUnpublishVolume_quiet req) h⟩
  | stats req => exact .inr ⟨rfl, quiet (nodeGetVolumeStats_quiet req) h⟩
  | expand => exact .inr ⟨rfl, quiet (.ret _) h⟩

/-- A path of a handler leaves the lock table as it found it, on every host whose lock table
behaves as the driver's. -/
theorem handle_trace_locks (q : NodeRequest) {tr : List (Event NodeCall NodeCall.Ret)}
    {r : Except GoError q.Response} (h : Prog.Path (q.handle drv) tr r)
    {Sem : (c : NodeCall) → Node → c.Ret → Node → Prop} (hS : LockTable Sem) {s t : Node}
    (ht : Prog.Trace Sem s tr t) : t.locks = s.locks := by
  rcases handle_path_locks drv q h with ⟨v, -, hl⟩ | ⟨-, hl⟩
  · exact hl.restores hS ht
  · exact trace_locks hS ht hl

/-- **The lock discipline.**  Every handler, on every path, whatever the host answers:
`NodeStageVolume` and `NodeUnstageVolume` ask for their volume's lock before any other call and,
granted it, give it back with their last call and call the lock table nowhere between; the
other handlers never call the lock table.  So wherever the path is run, on a host whose lock
table behaves as the driver's and whatever it answers to the other calls, the lock table ends
as it started. -/
theorem handle_lock_discipline (q : NodeRequest) {tr : List (Event NodeCall NodeCall.Ret)}
    {r : Except GoError q.Response} (h : Prog.Path (q.handle drv) tr r) :
    ((∃ v, q.lockedVolume = some v ∧ HoldsLock v tr) ∨
      (q.lockedVolume = none ∧ ∀ e ∈ tr, e.call.isLock = false)) ∧
    ∀ {Sem : (c : NodeCall) → Node → c.Ret → Node → Prop}, LockTable Sem →
      ∀ {s t : Node}, Prog.Trace Sem s tr t → t.locks = s.locks :=
  ⟨handle_path_locks drv q h, fun hS _ _ ht => handle_trace_locks drv q h hS ht⟩

theorem handle_lock_discipline_unstage :
    ((∃ v, (NodeRequest.unstage kerberosUnstage).lockedVolume = some v ∧ HoldsLock v
        (Prog.run (nodeAnswer linuxDriver.krb5CacheDirectory id)
          (nodeUnstageVolume linuxDriver kerberosUnstage) stagedNode).2.2) ∨
      ((NodeRequest.unstage kerberosUnstage).lockedVolume = none ∧
        ∀ e ∈ (Prog.run (nodeAnswer linuxDriver.krb5CacheDirectory id)
          (nodeUnstageVolume linuxDriver kerberosUnstage) stagedNode).2.2,
          e.call.isLock = false)) ∧
    unstagedNode.locks = stagedNode.locks :=
  have h := exec_of_run linuxDriver.krb5CacheDirectory id
    (p := nodeUnstageVolume linuxDriver kerberosUnstage) (s := stagedNode) rfl
  have hd := handle_lock_discipline linuxDriver (.unstage kerberosUnstage) h.path
  ⟨hd.1, hd.2 (nodeStep_lockTable _ id) h.trace⟩

/-- A `NodeStageVolume` that succeeds had a volume ID. -/
theorem nodeStageVolume_volumeId_ne {req : NodeStageVolumeRequest}
    {tr : List (Event NodeCall NodeCall.Ret)} (h : Prog.Path (nodeStageVolume drv req) tr (.ok ())) :
    req.volumeId ≠ "" := fun hV => by
  simp [nodeStageVolume, hV, show ("" : String).isEmpty = true from rfl] at h

end Request

/-! ## A node serving requests -/

section Serving

variable (drv : Driver) (absPath : String → String)

/-- The states of a node that started with an empty lock table and an empty cache directory,
and has answered requests one at a time since, each run to its end. -/
inductive Served : Node → Prop
  | fresh {s : Node} : s.locks = [] → s.cache = some ∅ → Served s
  | serve {s : Node} {q : NodeRequest} {tr : List (Event NodeCall NodeCall.Ret)}
      {r : Except GoError q.Response} {s' : Node} :
      Served s → Prog.Exec (NodeStep drv.krb5CacheDirectory absPath) (q.handle drv) s tr r s' →
      Served s'

/-- Between two requests the lock table is empty, and the cache directory is one the
cache-directory system reaches. -/
theorem Served.inv {s : Node} (h : Served drv absPath s) :
    s.locks = [] ∧ CacheReachable drv s.cache := by
  induction h with
  | fresh hl hc => exact ⟨hl, _, by rw [hc]; exact .empty⟩
  | serve _ hrun ih =>
    exact ⟨(handle_trace_locks drv _ hrun.path (nodeStep_lockTable _ absPath) hrun.trace).trans ih.1,
      hrun.wp (handle_wp_reachable drv absPath _ ih.2)⟩

theorem served_stagedNode : Served linuxDriver id stagedNode :=
  .serve (q := .stage kerberosStage) (.fresh rfl rfl) (exec_of_run _ id rfl)

/-- **Idempotence on a served node.**  On Linux, against a host where nothing fails
spontaneously and a mount that returns `nil` leaves its target listed and readable: on a node
that has served any requests since it started fresh, a `NodeStageVolume` or `NodePublishVolume`
that succeeded succeeds again at once, and calls the mount primitive not at all; a
`NodeUnstageVolume` that succeeded succeeds again, and leaves the cache directory and the lock
table as they are. -/
theorem served_idempotent (hw : drv.windows = false) {s : Node} (hs : Served drv absPath s) :
    (∀ req tr s₁, Prog.Exec (NodeStep drv.krb5CacheDirectory absPath) (nodeStageVolume drv req)
        s tr (.ok ()) s₁ →
      SucceedsWithoutMount drv.krb5CacheDirectory absPath (nodeStageVolume drv req) s₁) ∧
    (∀ req tr s₁, Prog.Exec (NodeStep drv.krb5CacheDirectory absPath) (nodePublishVolume drv req)
        s tr (.ok ()) s₁ →
      SucceedsWithoutMount drv.krb5CacheDirectory absPath (nodePublishVolume drv req) s₁) ∧
    (∀ req tr s₁, Prog.Exec (NodeStep drv.krb5CacheDirectory absPath) (nodeUnstageVolume drv req)
        s tr (.ok ()) s₁ →
      (∃ tr' r s₂, Prog.Exec (NodeStep drv.krb5CacheDirectory absPath)
        (nodeUnstageVolume drv req) s₁ tr' r s₂) ∧
      ∀ tr' r s₂, Prog.Exec (NodeStep drv.krb5CacheDirectory absPath) (nodeUnstageVolume drv req)
        s₁ tr' r s₂ → r = .ok () ∧ s₂.cache = s₁.cache ∧ s₂.locks = s₁.locks) := by
  obtain ⟨-, g, hg⟩ := hs.inv
  obtain ⟨es, hes, hinv, -⟩ := hg.inv
  have hinv' : ∀ es', s.cache = some es' → CacheInv drv.krb5CacheDirectory es' :=
    fun es' hes' => Option.some_injective _ (hes.symm.trans hes') ▸ hinv
  refine ⟨fun req tr s₁ h => ?_, fun req tr s₁ h => (handlers_idempotent absPath drv hw).2 req s tr s₁ h,
    fun req tr s₁ h => ?_⟩
  · have hV := nodeStageVolume_volumeId_ne drv h.path
    exact (handlers_idempotent absPath drv hw).1 req s tr s₁
      (fun es' n hes' => (hinv' es' hes').volume_not_symlink hV n) h
  · have hdone := h.wp (nodeUnstageVolume_wp_done drv absPath hinv') rfl
    refine ⟨Prog.exists_exec (nodeStep_total _ absPath) _ _, fun tr' r s₂ h₂ => ?_⟩
    obtain ⟨hr, hc, hl, -⟩ := h₂.wp (nodeUnstageVolume_wp_again drv absPath hdone)
    exact ⟨hr, hc, hl⟩

theorem served_idempotent_staged :
    linuxDriver.windows = false ∧ Served linuxDriver id freshNode ∧
      (Prog.run (nodeAnswer linuxDriver.krb5CacheDirectory id)
        (nodeStageVolume linuxDriver kerberosStage) freshNode).1 = .ok () ∧
      SucceedsWithoutMount linuxDriver.krb5CacheDirectory id
        (nodeStageVolume linuxDriver kerberosStage) stagedNode :=
  have h₁ : (Prog.run (nodeAnswer linuxDriver.krb5CacheDirectory id)
      (nodeStageVolume linuxDriver kerberosStage) freshNode).1 = .ok () := rfl
  ⟨rfl, .fresh rfl rfl, h₁, (served_idempotent linuxDriver id rfl (.fresh rfl rfl)).1 _ _ _
    (exec_of_run _ id h₁)⟩

/-- **No request is refused its lock.**  On a node that has served requests one at a time,
every `TryAcquire` of the next request is granted. -/
theorem served_lock_granted {s s' : Node} (hs : Served drv absPath s) {q : NodeRequest}
    {tr : List (Event NodeCall NodeCall.Ret)} {r : Except GoError q.Response}
    (h : Prog.Exec (NodeStep drv.krb5CacheDirectory absPath) (q.handle drv) s tr r s')
    (v : String) : (⟨.tryAcquire v, false⟩ : Event NodeCall NodeCall.Ret) ∉ tr := by
  rcases handle_path_locks drv q h.path with ⟨w, -, hl⟩ | ⟨-, hl⟩
  · exact hl.granted (nodeStep_lockTable _ absPath) h.trace
      ((Served.inv drv absPath hs).1 ▸ List.not_mem_nil w) v
  · exact fun hm => by simpa [NodeCall.isLock] using hl _ hm

theorem served_lock_granted_unstage :
    Served linuxDriver id stagedNode ∧ (⟨.tryAcquire "pvc-1", false⟩ : Event NodeCall NodeCall.Ret) ∉
      (Prog.run (nodeAnswer linuxDriver.krb5CacheDirectory id)
        ((NodeRequest.unstage kerberosUnstage).handle linuxDriver) stagedNode).2.2 :=
  ⟨served_stagedNode, served_lock_granted linuxDriver id served_stagedNode (exec_of_run _ id rfl) _⟩

end Serving

end SmbNode
