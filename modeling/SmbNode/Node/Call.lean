import SmbNode.Kerberos.Cache

/-!
# The calls of the node server

Beyond the Kerberos cache directory, the gRPC handlers of `nodeserver.go` call the host's file
system, the mount utilities (`d.mounter` and the package's helpers around it), the volume lock
table, and the file system statistics of a volume.  `NodeCall` lists those calls with the
arguments the code passes, `NodeCall.Ret` what the code reads of each reply, and `NodeProg` the
programs over them; a program on the cache directory runs on the node through `liftFs`.

`wait.PollImmediate` is not a call but a loop of the `wait` package around a closure; it is
written out here (`pollImmediate`), with the time it may wait counted in intervals.
-/

namespace SmbNode

/-- A `resource.Quantity` as `NodeGetVolumeStats` reads it: `AsInt64`, and what `%v` prints. -/
structure Quantity where
  /-- `AsInt64()`: the value when it fits in an `int64`. -/
  asInt64 : Option Int
  /-- What `%v` prints for it. -/
  text : String
  deriving DecidableEq, Repr

/-- The fields of `volume.Metrics` that `NodeGetVolumeStats` reads. -/
structure Metrics where
  available : Quantity
  capacity : Quantity
  used : Quantity
  inodesFree : Quantity
  inodes : Quantity
  inodesUsed : Quantity
  deriving DecidableEq, Repr

/-- The calls of the node server. -/
inductive NodeCall where
  /-- A call on the Kerberos cache directory. -/
  | fs (c : FsCall)
  /-- `d.mounter.IsLikelyNotMountPoint(file)`. -/
  | isLikelyNotMountPoint (file : String)
  /-- `IsCorruptedDir(dir)`. -/
  | isCorruptedDir (dir : String)
  /-- `d.mounter.List()`. -/
  | list
  /-- `filepath.Abs(path)`. -/
  | abs (path : String)
  /-- `os.ReadDir(name)` of a mount target. -/
  | readDir (name : String)
  /-- `d.mounter.Unmount(target)`. -/
  | unmount (target : String)
  /-- `os.MkdirAll(path, perm)`. -/
  | mkdirAll (path : String) (perm : Nat)
  /-- `os.Remove(name)` of a mount target. -/
  | remove (name : String)
  /-- `os.Lstat(name)` of a volume path. -/
  | lstat (name : String)
  /-- `d.mounter.Mount(source, target, fstype, options)`. -/
  | mount (source target fstype : String) (options : List String)
  /-- `Mount(d.mounter, source, target, fstype, options, sensitiveOptions)`. -/
  | mountSensitive (source target fstype : String) (options sensitiveOptions : List String)
  /-- `prepareStagePath(path, d.mounter)`. -/
  | prepareStagePath (path : String)
  /-- `preparePublishPath(path, d.mounter)`. -/
  | preparePublishPath (path : String)
  /-- `CleanupMountPoint(d.mounter, path, extensiveMountPointCheck)`. -/
  | cleanupMountPoint (path : String) (extensiveMountPointCheck : Bool)
  /-- `CleanupSMBMountPoint(d.mounter, path, extensiveMountPointCheck)`. -/
  | cleanupSMBMountPoint (path : String) (extensiveMountPointCheck : Bool)
  /-- `d.volumeLocks.TryAcquire(volumeID)`. -/
  | tryAcquire (volumeID : String)
  /-- `d.volumeLocks.Release(volumeID)`. -/
  | release (volumeID : String)
  /-- `volume.NewMetricsStatFS(path).GetMetrics()`. -/
  | getMetrics (path : String)
  deriving DecidableEq

namespace NodeCall

/-- What the code reads of each reply.  Of `d.mounter.List()` it reads the mount points' paths,
of `os.ReadDir`, `os.Lstat` and the mount helpers only the error. -/
@[reducible] def Ret : NodeCall → Type
  | fs c => c.Ret
  | isLikelyNotMountPoint _ => Bool × Option GoError
  | isCorruptedDir _ => Bool
  | list => List String × Option GoError
  | abs _ => String × Option GoError
  | tryAcquire _ => Bool
  | release _ => Unit
  | getMetrics _ => Metrics × Option GoError
  | _ => Option GoError

/-- The calls of the mount primitive. -/
def isMount : NodeCall → Bool
  | mount .. | mountSensitive .. => true
  | _ => false

/-- The calls of the volume lock table. -/
def isLock : NodeCall → Bool
  | tryAcquire _ | release _ => true
  | _ => false

/-- The calls on the Kerberos cache directory. -/
def isFs : NodeCall → Bool
  | fs _ => true
  | _ => false

/-- The calls on the driver's own state: the lock table and the Kerberos cache directory. -/
def isDriverState (c : NodeCall) : Bool := c.isLock || c.isFs

end NodeCall

/-- Programs on the node. -/
abbrev NodeProg := Prog NodeCall NodeCall.Ret

/-- A program on the cache directory, run on the node. -/
def liftFs {α : Type} : FsProg α → NodeProg α
  | .ret a => .ret a
  | .call c k => .call (.fs c) fun r => liftFs (k r)

/-- The calls of a program, with their replies, that call the mount primitive. -/
def mountCount (tr : List (Event NodeCall NodeCall.Ret)) : Nat :=
  tr.countP fun e => e.call.isMount

@[simp] theorem mountCount_nil : mountCount [] = 0 := rfl

@[simp] theorem mountCount_cons (e : Event NodeCall NodeCall.Ret)
    (tr : List (Event NodeCall NodeCall.Ret)) :
    mountCount (e :: tr) = mountCount tr + if e.call.isMount then 1 else 0 := by
  by_cases h : e.call.isMount <;> simp [mountCount, List.countP_cons, h]

@[simp] theorem mountCount_append (tr tr' : List (Event NodeCall NodeCall.Ret)) :
    mountCount (tr ++ tr') = mountCount tr + mountCount tr' := List.countP_append _ _ _

/-- The call of the mount primitive in `e` succeeded. -/
def mountSucceeded : Event NodeCall NodeCall.Ret → Bool
  | ⟨.mount .., err⟩ => err.isNone
  | ⟨.mountSensitive .., err⟩ => err.isNone
  | _ => false

theorem mountCount_eq_zero {tr : List (Event NodeCall NodeCall.Ret)} :
    mountCount tr = 0 ↔ ∀ e ∈ tr, e.call.isMount = false := by
  simp [mountCount, List.countP_eq_zero]

/-- A program that never calls the lock table or the cache directory: what the mount utilities
and the host's directories see of the handlers. -/
abbrev Quiet {α : Type} (p : NodeProg α) : Prop := Prog.Avoids (fun c => c.isDriverState) p

theorem quiet_trigger_bind {β : Type} {c : NodeCall} {f : c.Ret → NodeProg β}
    (hc : c.isDriverState = false) (hf : ∀ r, Quiet (f r)) : Quiet (Prog.trigger c >>= f) :=
  .call (by simp [hc]) hf

/-- A program on the cache directory never calls the lock table. -/
theorem liftFs_avoids_lock {α : Type} (p : FsProg α) :
    Prog.Avoids (fun c => c.isLock) (liftFs p) := by
  induction p with
  | ret a => exact .ret a
  | call c k ih => exact .call (by simp [NodeCall.isLock]) ih

/-- Every call of a program on the cache directory is a call on the cache directory. -/
theorem liftFs_path {α : Type} {p : FsProg α} {tr : List (Event NodeCall NodeCall.Ret)} {a : α}
    (h : Prog.Path (liftFs p) tr a) : ∀ e ∈ tr, ∃ c, e.call = .fs c := by
  induction p generalizing tr with
  | ret b => cases h; simp
  | call c k ih =>
    cases h with
    | call r h =>
      intro e he
      rcases List.mem_cons.mp he with rfl | he
      exacts [⟨c, rfl⟩, ih r h e he]

/-- A program on the cache directory never calls the mount primitive. -/
theorem liftFs_mountCount {α : Type} {p : FsProg α} {tr : List (Event NodeCall NodeCall.Ret)}
    {a : α} (h : Prog.Path (liftFs p) tr a) : mountCount tr = 0 :=
  mountCount_eq_zero.mpr fun e he => by
    obtain ⟨c, hc⟩ := liftFs_path h e he
    rw [hc]
    rfl

/-! ## The calls, as the code writes them -/

namespace Mounter

/-- `d.mounter.IsLikelyNotMountPoint(file)`. -/
def isLikelyNotMountPoint (file : String) : NodeProg (Bool × Option GoError) :=
  Prog.trigger (.isLikelyNotMountPoint file)

/-- `d.mounter.List()`. -/
def list : NodeProg (List String × Option GoError) := Prog.trigger .list

/-- `d.mounter.Unmount(target)`. -/
def unmount (target : String) : NodeProg (Option GoError) := Prog.trigger (.unmount target)

/-- `d.mounter.Mount(source, target, fstype, options)`. -/
def mount (source target fstype : String) (options : List String) : NodeProg (Option GoError) :=
  Prog.trigger (.mount source target fstype options)

end Mounter

namespace Host

/-- `IsCorruptedDir(dir)`. -/
def isCorruptedDir (dir : String) : NodeProg Bool := Prog.trigger (.isCorruptedDir dir)

/-- `filepath.Abs(path)`. -/
def abs (path : String) : NodeProg (String × Option GoError) := Prog.trigger (.abs path)

/-- `os.ReadDir(name)`. -/
def readDir (name : String) : NodeProg (Option GoError) := Prog.trigger (.readDir name)

/-- `os.MkdirAll(path, perm)`. -/
def mkdirAll (path : String) (perm : Nat) : NodeProg (Option GoError) :=
  Prog.trigger (.mkdirAll path perm)

/-- `os.Remove(name)`. -/
def remove (name : String) : NodeProg (Option GoError) := Prog.trigger (.remove name)

/-- `os.Lstat(name)`. -/
def lstat (name : String) : NodeProg (Option GoError) := Prog.trigger (.lstat name)

/-- `Mount(d.mounter, source, target, fstype, options, sensitiveOptions)`. -/
def mount (source target fstype : String) (options sensitiveOptions : List String) :
    NodeProg (Option GoError) :=
  Prog.trigger (.mountSensitive source target fstype options sensitiveOptions)

/-- `prepareStagePath(path, d.mounter)`. -/
def prepareStagePath (path : String) : NodeProg (Option GoError) :=
  Prog.trigger (.prepareStagePath path)

/-- `preparePublishPath(path, d.mounter)`. -/
def preparePublishPath (path : String) : NodeProg (Option GoError) :=
  Prog.trigger (.preparePublishPath path)

/-- `CleanupMountPoint(d.mounter, path, extensiveMountPointCheck)`. -/
def cleanupMountPoint (path : String) (extensiveMountPointCheck : Bool) :
    NodeProg (Option GoError) :=
  Prog.trigger (.cleanupMountPoint path extensiveMountPointCheck)

/-- `CleanupSMBMountPoint(d.mounter, path, extensiveMountPointCheck)`. -/
def cleanupSMBMountPoint (path : String) (extensiveMountPointCheck : Bool) :
    NodeProg (Option GoError) :=
  Prog.trigger (.cleanupSMBMountPoint path extensiveMountPointCheck)

/-- `volume.NewMetricsStatFS(path).GetMetrics()`. -/
def getMetrics (path : String) : NodeProg (Metrics × Option GoError) :=
  Prog.trigger (.getMetrics path)

end Host

namespace VolumeLocks

/-- `d.volumeLocks.TryAcquire(volumeID)`. -/
def tryAcquire (volumeID : String) : NodeProg Bool := Prog.trigger (.tryAcquire volumeID)

/-- `d.volumeLocks.Release(volumeID)`. -/
def release (volumeID : String) : NodeProg Unit := Prog.trigger (.release volumeID)

end VolumeLocks

/-! ## `wait.PollImmediate` -/

/-- `wait.ErrWaitTimeout`. -/
def errWaitTimeout : GoError := .other "timed out waiting for the condition"

/-- `wait.PollImmediate(interval, timeout, condition)`, where `ticks` intervals fit in the
timeout: run `condition` at once, then once per interval, until it fails or reports done; when
the time is up, `ErrWaitTimeout`.  The state `σ` is what the closure captures. -/
def pollImmediate {σ : Type} (condition : σ → NodeProg (σ × Bool × Option GoError)) :
    Nat → σ → NodeProg (σ × Option GoError)
  | ticks, s => do
    let (s, done, err) ← condition s
    if let some err := err then return (s, some err)
    if done then return (s, none)
    match ticks with
    | 0 => return (s, some errWaitTimeout)
    | n + 1 => pollImmediate condition n s

/-- A condition that reports done on its first run is run once: `pollImmediate` returns its
error. -/
theorem pollImmediate_once {σ : Type} (c : σ → NodeProg (Option GoError)) (next : σ → σ)
    (ticks : Nat) (s : σ) :
    pollImmediate (fun s => c s >>= fun err => .ret (next s, true, err)) ticks s =
      c s >>= fun err => .ret (next s, err) := by
  cases ticks <;>
  · rw [pollImmediate, Prog.bind_assoc]
    congr 1
    funext err
    cases err <;> rfl

end SmbNode
