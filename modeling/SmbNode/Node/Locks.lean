import SmbNode.Node.Host

/-!
# The volume locks

`NodeStageVolume` and `NodeUnstageVolume` take their volume's lock with `TryAcquire` once the
request passes its checks, and give it back with a deferred `Release`; `withVolumeLock` is that
code, which the two handlers share.  `HoldsLock` is the shape it gives every path: a path that
calls the lock table asks for the lock first; refused, it stops there; granted, its last call
gives the lock back, and nothing between calls the lock table.  `nodeStageVolume_holdsLock` and
`nodeUnstageVolume_holdsLock` prove it of every path, whatever the node answers, and add that a
refused request returns `Aborted`.  The other handlers never call the lock table.

On a host the shape alone restores the lock table (`HoldsLock.restores`): whatever the
request does and wherever it fails, the lock table after the run is the one before it.  This
holds of every host whose lock table behaves as the driver's (`LockTable`), whatever it answers
to the other calls; `NodeStep` is one.
-/

namespace SmbNode

/-- The code `NodeStageVolume` and `NodeUnstageVolume` share once the request passes its
checks: take the lock of `volumeID`, run `body`, and give the lock back
(`defer d.volumeLocks.Release(volumeID)`). -/
def withVolumeLock (drv : Driver) (volumeID : String) (body : NodeProg (Except GoError Unit)) :
    NodeProg (Except GoError Unit) := do
  if !(← VolumeLocks.tryAcquire volumeID) then
    return .error (.status .aborted (drv.volumeOperationAlreadyExists volumeID))
  let r ← body
  VolumeLocks.release volumeID
  return r

/-- The path `tr` holds the lock of `v` around everything it does: it makes no call; or its
only call is a refused `TryAcquire` of `v`; or it starts with a granted `TryAcquire` of `v`,
ends with the `Release` of `v`, and calls the lock table nowhere between. -/
def HoldsLock (v : String) (tr : List (Event NodeCall NodeCall.Ret)) : Prop :=
  tr = [] ∨ tr = [⟨.tryAcquire v, false⟩] ∨
    ∃ mid, tr = ⟨.tryAcquire v, true⟩ :: (mid ++ [⟨.release v, ()⟩]) ∧
      ∀ e ∈ mid, e.call.isLock = false

/-! ## Every path -/

section Paths

variable (drv : Driver) {tr : List (Event NodeCall NodeCall.Ret)} {r : Except GoError Unit}

/-- A body that never calls the lock table, run under the lock: every path holds the lock, and
a refused one returns `Aborted`. -/
theorem withVolumeLock_path {v : String} {body : NodeProg (Except GoError Unit)}
    (hbody : Prog.Avoids (fun c => c.isLock) body) (h : Prog.Path (withVolumeLock drv v body) tr r) :
    HoldsLock v tr ∧
      (tr = [⟨.tryAcquire v, false⟩] →
        r = .error (.status .aborted (drv.volumeOperationAlreadyExists v))) := by
  simp only [withVolumeLock, VolumeLocks.tryAcquire, Prog.trigger_bind, Prog.path_call_iff] at h
  obtain ⟨acquired, tr₁, rfl, h₁⟩ := h
  cases acquired with
  | false =>
    obtain ⟨rfl, rfl⟩ := Prog.path_ret_iff.mp h₁
    exact ⟨.inr (.inl rfl), fun _ => rfl⟩
  | true =>
    simp only [Bool.not_true, Bool.false_eq_true, if_false, Prog.pure_eq, Prog.ret_bind] at h₁
    obtain ⟨tr₂, tr₃, r', rfl, h₂, h₃⟩ := Prog.path_bind_iff.mp h₁
    simp only [VolumeLocks.release, Prog.trigger_bind, Prog.path_call_iff] at h₃
    obtain ⟨⟨⟩, tr₄, rfl, h₄⟩ := h₃
    obtain ⟨rfl, rfl⟩ := Prog.path_ret_iff.mp h₄
    refine ⟨.inr (.inr ⟨tr₂, rfl, fun e he => ?_⟩), fun h => by simp at h⟩
    simpa using hbody.path h₂ e he

/-- **The lock of `NodeStageVolume`.**  On every path, whatever the node answers, the handler
holds its volume's lock around everything it does, and returns `Aborted` when refused it. -/
theorem nodeStageVolume_holdsLock {req : NodeStageVolumeRequest}
    (h : Prog.Path (nodeStageVolume drv req) tr r) :
    HoldsLock req.volumeId tr ∧
      (tr = [⟨.tryAcquire req.volumeId, false⟩] →
        r = .error (.status .aborted (drv.volumeOperationAlreadyExists req.volumeId))) := by
  rcases hcap : req.volumeCapability with _ | cap <;>
    simp only [nodeStageVolume, hcap, Prog.pure_eq, Prog.ret_bind] at h <;>
    split_ifs at h <;>
    first
    | (obtain ⟨rfl, rfl⟩ := Prog.path_ret_iff.mp h; exact ⟨.inl rfl, fun h => by simp at h⟩)
    | exact withVolumeLock_path drv (nodeStageVolumeLocked_avoids_lock drv _ _ _ _ _ _) h

/-- **The lock of `NodeUnstageVolume`.**  On every path, whatever the node answers, the handler
holds its volume's lock around everything it does, and returns `Aborted` when refused it. -/
theorem nodeUnstageVolume_holdsLock {req : NodeUnstageVolumeRequest}
    (h : Prog.Path (nodeUnstageVolume drv req) tr r) :
    HoldsLock req.volumeId tr ∧
      (tr = [⟨.tryAcquire req.volumeId, false⟩] →
        r = .error (.status .aborted (drv.volumeOperationAlreadyExists req.volumeId))) := by
  simp only [nodeUnstageVolume, Prog.pure_eq, Prog.ret_bind] at h
  split_ifs at h <;>
    first
    | (obtain ⟨rfl, rfl⟩ := Prog.path_ret_iff.mp h; exact ⟨.inl rfl, fun h => by simp at h⟩)
    | exact withVolumeLock_path drv (nodeUnstageVolumeLocked_avoids_lock drv _ _) h

end Paths

/-! ## On a host -/

/-- A host whose lock table behaves as the driver's `volumeLocks`: `TryAcquire` takes a free
lock and is refused a held one, `Release` gives the lock back, and no other call touches the
table.  What it answers to the other calls is left open: any of them may fail, with any
error. -/
structure LockTable (Sem : (c : NodeCall) → Node → c.Ret → Node → Prop) : Prop where
  tryAcquire : ∀ {v s r s'}, Sem (.tryAcquire v) s r s' →
    if v ∈ s.locks then r = false ∧ s'.locks = s.locks else r = true ∧ s'.locks = v :: s.locks
  release : ∀ {v s r s'}, Sem (.release v) s r s' → s'.locks = s.locks.erase v
  frame : ∀ {c s r s'}, Sem c s r s' → c.isLock = false → s'.locks = s.locks

theorem nodeStep_lockTable (dir : String) (absPath : String → String) :
    LockTable (NodeStep dir absPath) where
  tryAcquire {v s r s'} h := by
    simp only [NodeStep] at h
    split_ifs at h ⊢ <;> obtain ⟨rfl, rfl⟩ := h <;> exact ⟨rfl, rfl⟩
  release h := by subst h; rfl
  frame h hc := (h.frame dir absPath).1 hc

/-- A program that never calls the lock table keeps it. -/
theorem wp_locks_of_avoids (dir : String) (absPath : String → String) {α : Type}
    {p : NodeProg α} (h : Prog.Avoids (fun c => c.isLock) p) (s : Node) :
    Prog.wp (NodeStep dir absPath) p (fun _ t => t.locks = s.locks) s :=
  Prog.Avoids.wp (f := Node.locks) (fun _ _ _ _ hc hs => (hs.frame dir absPath).1 (by simpa using hc))
    h s

section Host

variable {Sem : (c : NodeCall) → Node → c.Ret → Node → Prop} (hS : LockTable Sem) {v : String}
  {tr : List (Event NodeCall NodeCall.Ret)} {s t : Node}
include hS

/-- A trace that calls the lock table nowhere leaves it as it is. -/
theorem trace_locks (h : Prog.Trace Sem s tr t) (htr : ∀ e ∈ tr, e.call.isLock = false) :
    t.locks = s.locks :=
  h.frame (P := fun c => c.isLock) (f := Node.locks)
    (fun _ _ _ _ hc hs => hS.frame hs (by simpa using hc)) (by simpa using htr)

/-- **The lock table is restored.**  A run whose path holds a lock leaves the lock table as it
found it: a refused request changes nothing, and a granted lock is released. -/
theorem HoldsLock.restores (hl : HoldsLock v tr) (h : Prog.Trace Sem s tr t) :
    t.locks = s.locks := by
  rcases hl with rfl | rfl | ⟨mid, rfl, hmid⟩
  · rw [Prog.trace_nil_iff.mp h]
  · have h := hS.tryAcquire (Prog.trace_singleton_iff.mp h)
    split_ifs at h with hv
    · exact h.2
    · exact nomatch h.1
  · obtain _ | ⟨hacq, h⟩ := h
    obtain ⟨u, hmid', hrel⟩ := Prog.trace_append_iff.mp h
    have hacq := hS.tryAcquire hacq
    split_ifs at hacq with hv
    · exact nomatch hacq.1
    · rw [hS.release (Prog.trace_singleton_iff.mp hrel), trace_locks hS hmid' hmid, hacq.2]
      exact List.erase_cons_head v _

/-- A run whose path holds the lock of `v`, from a state where that lock is free, is refused no
lock. -/
theorem HoldsLock.granted (hl : HoldsLock v tr) (h : Prog.Trace Sem s tr t)
    (hfree : v ∉ s.locks) (w : String) :
    (⟨.tryAcquire w, false⟩ : Event NodeCall NodeCall.Ret) ∉ tr := by
  rcases hl with rfl | rfl | ⟨mid, rfl, hmid⟩
  · simp
  · have h := hS.tryAcquire (Prog.trace_singleton_iff.mp h)
    rw [if_neg hfree] at h
    exact absurd h.1 Bool.false_ne_true
  · intro hm
    simp only [List.mem_cons, List.mem_append, List.mem_singleton] at hm
    rcases hm with hm | hm | hm
    · simp at hm
    · simpa [NodeCall.isLock] using hmid _ hm
    · simp at hm

end Host

end SmbNode
