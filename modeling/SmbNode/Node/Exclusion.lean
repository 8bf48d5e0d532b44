import SmbNode.Node.Service
import SmbNode.Prog.Concurrent

/-!
# Requests for one volume

The gRPC server runs each request in a goroutine of its own, so two requests run at once and
their calls on the node interleave in any order (`Prog.Par`).  `NodeStageVolume` and
`NodeUnstageVolume` take their volume's lock before any other call and give it back with their
last (`HoldsLock`), so two of them for one volume exclude each other.
`sameVolume_serializable`: every interleaved run of two such requests, from a node where the
volume's lock is free, is a run of one request after the other, or the run of one alone while
the other was refused the lock and returned `Aborted`.  So on a node serving requests
(`Served`), such a pair leaves a node that serving them one at a time reaches too
(`served_sameVolume_par`).

The proof follows where each request is in the lock's code: before its `TryAcquire`
(`LockFresh`) or holding the lock (`LockHeld`).  While one holds the lock the other's
`TryAcquire` is refused, and the holder's calls up to its `Release` leave the lock table alone
(`Prog.Par.serial_of_held`); from a free lock, whichever asks first holds it
(`Prog.Par.serial_of_first`, `Prog.Par.serial_of_fresh`).
-/

namespace SmbNode

/-! ## Where a request is in the lock's code -/

section Phases

variable (v : String) {α : Type}

/-- Before the lock: every path of `p` holds the lock of `v`, and a path refused the lock returns
`abort`. -/
def LockFresh (abort : α) (p : NodeProg α) : Prop :=
  ∀ tr r, Prog.Path p tr r → HoldsLock v tr ∧ (tr = [⟨.tryAcquire v, false⟩] → r = abort)

/-- Holding the lock: every path of `p` gives the lock of `v` back with its last call, and calls
the lock table nowhere before. -/
def LockHeld (p : NodeProg α) : Prop :=
  ∀ tr r, Prog.Path p tr r →
    ∃ mid, tr = mid ++ [⟨.release v, ()⟩] ∧ ∀ e ∈ mid, e.call.isLock = false

variable {v} {abort : α} {c : NodeCall} {k : c.Ret → NodeProg α}
  {tr : List (Event NodeCall NodeCall.Ret)} {a : α}

/-- A request before the lock asks for it first. -/
theorem LockFresh.call_eq (h : LockFresh v abort (.call c k)) {r : c.Ret}
    (hp : Prog.Path (k r) tr a) : c = .tryAcquire v := by
  rcases (h _ _ (.call r hp)).1 with h | h | ⟨mid, h, -⟩
  · cases h
  all_goals exact congrArg Event.call (List.cons.inj h).1

/-- Granted the lock, it holds it. -/
theorem LockFresh.granted {k : Bool → NodeProg α} (h : LockFresh v abort (.call (.tryAcquire v) k)) :
    LockHeld v (k true) := fun tr r hp => by
  rcases (h _ _ (.call true hp)).1 with h | h | ⟨mid, h, hmid⟩
  · cases h
  · simp at h
  · exact ⟨mid, (List.cons.inj h).2, hmid⟩

/-- Refused the lock, it returns `abort` at once. -/
theorem LockFresh.refused {k : Bool → NodeProg α} (h : LockFresh v abort (.call (.tryAcquire v) k))
    (hp : Prog.Path (k false) tr a) : tr = [] ∧ a = abort := by
  have hl := h _ _ (.call false hp)
  rcases hl.1 with h | h | ⟨mid, h, -⟩
  · cases h
  · have htr := (List.cons.inj h).2
    exact ⟨htr, hl.2 (by rw [htr])⟩
  · simp at h

/-- A request holding the lock has not returned. -/
theorem LockHeld.not_ret : ¬LockHeld v (.ret a) := fun h => by
  obtain ⟨mid, hm, -⟩ := h _ _ (.ret a)
  simp at hm

/-- Holding the lock, a request's next call gives it back, after which it returns, or leaves
the lock table alone. -/
theorem LockHeld.call_cases (h : LockHeld v (.call c k)) {r : c.Ret} (hp : Prog.Path (k r) tr a) :
    (c = .release v ∧ tr = []) ∨ c.isLock = false := by
  obtain ⟨mid, hm, hmid⟩ := h _ _ (.call r hp)
  cases mid with
  | nil =>
    obtain ⟨he, htr⟩ := List.cons.inj hm
    exact .inl ⟨congrArg Event.call he, htr⟩
  | cons e mid =>
    obtain ⟨rfl, -⟩ := List.cons.inj hm
    exact .inr (hmid _ (List.mem_cons_self _ _))

/-- A call off the lock table keeps the lock held. -/
theorem LockHeld.next (h : LockHeld v (.call c k)) (hc : c.isLock = false) (r : c.Ret) :
    LockHeld v (k r) := fun tr a hp => by
  obtain ⟨mid, hm, hmid⟩ := h _ _ (.call r hp)
  cases mid with
  | nil =>
    obtain rfl := congrArg Event.call (List.cons.inj hm).1
    exact nomatch hc
  | cons e mid =>
    obtain ⟨rfl, rfl⟩ := List.cons.inj hm
    exact ⟨mid, rfl, fun e he => hmid e (List.mem_cons_of_mem _ he)⟩

end Phases

/-! ## Interleaved on the host -/

section Host

variable (dir : String) (absPath : String → String) {v : String} {α β : Type}

/-- While `p` holds the lock of `v` and `q` has not asked for it, an interleaving runs `p` to its
end first: `q` runs after it, or was refused the lock meanwhile and returned `abort`. -/
theorem Prog.Par.serial_of_held {abort : β} {p : NodeProg α} {q : NodeProg β} {s t : Node} {a : α}
    {b : β} (h : Prog.Par (NodeStep dir absPath) p q s a b t) (hp : LockHeld v p)
    (hq : LockFresh v abort q) (hin : v ∈ s.locks) (hone : v ∉ s.locks.erase v) :
    (∃ tr₁ s₁ tr₂, Prog.Exec (NodeStep dir absPath) p s tr₁ a s₁ ∧
      Prog.Exec (NodeStep dir absPath) q s₁ tr₂ b t) ∨
    (b = abort ∧ ∃ tr, Prog.Exec (NodeStep dir absPath) p s tr a t) := by
  induction h with
  | done => exact absurd hp LockHeld.not_ret
  | @left c k q s r s' a b t hs hpar ih =>
    obtain ⟨tr, hk⟩ := hpar.path_left
    rcases hp.call_cases hk with ⟨rfl, rfl⟩ | hc
    · -- `p` gives the lock back and returns; `q` runs alone after it
      have hret := Prog.eq_ret_of_path_nil hk
      rw [hret] at hpar
      obtain ⟨-, tr₂, h₂⟩ := hpar.ret_left
      exact .inl ⟨_, s', tr₂, .call hs (by rw [hret]; exact .ret a s'), h₂⟩
    · have hl : s'.locks = s.locks := (hs.frame dir absPath).1 hc
      rcases ih (hp.next hc r) hq (hl ▸ hin) (hl ▸ hone) with ⟨tr₁, s₁, tr₂, h₁, h₂⟩ | ⟨hb, tr₁, h₁⟩
      · exact .inl ⟨_, s₁, tr₂, .call hs h₁, h₂⟩
      · exact .inr ⟨hb, _, .call hs h₁⟩
  | @right p c k s r s' a b t hs hpar =>
    -- `q` asks for the lock `p` holds, is refused, and returns
    obtain ⟨tr, hk⟩ := hpar.swap.path_left
    obtain rfl := hq.call_eq hk
    obtain ⟨rfl, rfl⟩ : r = false ∧ s' = s := by simpa [NodeStep, hin] using hs
    obtain ⟨rfl, rfl⟩ := hq.refused hk
    rw [Prog.eq_ret_of_path_nil hk] at hpar
    exact .inr ⟨rfl, (hpar.swap.ret_left).2⟩

/-- From a free lock, the request that makes the first call of an interleaving takes the lock,
and runs to its end before the other starts or while the other is refused. -/
theorem Prog.Par.serial_of_first {ea : α} {eb : β} {c : NodeCall} {k : c.Ret → NodeProg α}
    {q : NodeProg β} {s s' t : Node} {r : c.Ret} {a : α} {b : β}
    (hs : NodeStep dir absPath c s r s') (h : Prog.Par (NodeStep dir absPath) (k r) q s' a b t)
    (hp : LockFresh v ea (.call c k)) (hq : LockFresh v eb q) (hfree : v ∉ s.locks) :
    (∃ tr₁ s₁ tr₂, Prog.Exec (NodeStep dir absPath) (.call c k) s tr₁ a s₁ ∧
      Prog.Exec (NodeStep dir absPath) q s₁ tr₂ b t) ∨
    (b = eb ∧ ∃ tr, Prog.Exec (NodeStep dir absPath) (.call c k) s tr a t) := by
  obtain ⟨tr, hk⟩ := h.path_left
  obtain rfl := hp.call_eq hk
  obtain ⟨rfl, rfl⟩ : r = true ∧ s' = { s with locks := v :: s.locks } := by
    simpa [NodeStep, hfree] using hs
  rcases h.serial_of_held dir absPath hp.granted hq (List.mem_cons_self _ _)
      (by simpa using hfree) with ⟨tr₁, s₁, tr₂, h₁, h₂⟩ | ⟨hb, tr₁, h₁⟩
  · exact .inl ⟨_, s₁, tr₂, .call hs h₁, h₂⟩
  · exact .inr ⟨hb, _, .call hs h₁⟩

/-- From a free lock, two requests that each take it run one after the other, or one is
refused and returns its `abort` while the other runs alone. -/
theorem Prog.Par.serial_of_fresh {ea : α} {eb : β} {p : NodeProg α} {q : NodeProg β} {s t : Node}
    {a : α} {b : β} (h : Prog.Par (NodeStep dir absPath) p q s a b t) (hp : LockFresh v ea p)
    (hq : LockFresh v eb q) (hfree : v ∉ s.locks) :
    (∃ tr₁ s₁ tr₂, Prog.Exec (NodeStep dir absPath) p s tr₁ a s₁ ∧
      Prog.Exec (NodeStep dir absPath) q s₁ tr₂ b t) ∨
    (∃ tr₂ s₂ tr₁, Prog.Exec (NodeStep dir absPath) q s tr₂ b s₂ ∧
      Prog.Exec (NodeStep dir absPath) p s₂ tr₁ a t) ∨
    (a = ea ∧ ∃ tr, Prog.Exec (NodeStep dir absPath) q s tr b t) ∨
    (b = eb ∧ ∃ tr, Prog.Exec (NodeStep dir absPath) p s tr a t) := by
  cases h with
  | done => exact .inl ⟨[], s, [], .ret _ _, .ret _ _⟩
  | left hs h => exact (h.serial_of_first dir absPath hs hp hq hfree).imp_right fun h => .inr (.inr h)
  | right hs h =>
    exact .inr ((h.swap.serial_of_first dir absPath hs hq hp hfree).imp_right Or.inl)

end Host

/-! ## Two requests -/

/-- A request that takes a volume's lock starts before it, and returns `Aborted` when refused. -/
theorem handle_lockFresh (drv : Driver) {q : NodeRequest} {v : String}
    (hq : q.lockedVolume = some v) :
    LockFresh v (.error (.status .aborted (drv.volumeOperationAlreadyExists v))) (q.handle drv) := by
  cases q with
  | stage req => cases hq; exact fun _ _ h => nodeStageVolume_holdsLock drv h
  | unstage req => cases hq; exact fun _ _ h => nodeUnstageVolume_holdsLock drv h
  | _ => cases hq

/-- A `NodeUnstageVolume` request for the volume `stagedNode` staged. -/
def unstagePvc : NodeRequest := .unstage kerberosUnstage

/-- Two `unstagePvc` requests on `stagedNode`, the second asking for the lock just after the
first took it: the first succeeds, the second is refused. -/
theorem unstagePvc_twice :
    Prog.Par (NodeStep linuxDriver.krb5CacheDirectory id) (unstagePvc.handle linuxDriver)
      (unstagePvc.handle linuxDriver) stagedNode (.ok ())
      (.error (.status .aborted (linuxDriver.volumeOperationAlreadyExists "pvc-1"))) unstagedNode :=
  (Prog.Par.of_runPar (nodeAnswer linuxDriver.krb5CacheDirectory id)
    (true :: false :: List.replicate 11 true) (unstagePvc.handle linuxDriver)
    (unstagePvc.handle linuxDriver) stagedNode (a := .ok ())
    (b := .error (.status .aborted (linuxDriver.volumeOperationAlreadyExists "pvc-1")))
    (t := unstagedNode) rfl).mono fun _ _ _ _ => nodeStep_of_det _ id

/-- **Concurrency refines serving.**  On a node that has served requests one at a time, two
requests for one volume, run at once with their calls interleaved in any order, leave a node
that requests served one at a time reach as well, so every fact proved of served nodes holds
after them too. -/
theorem served_sameVolume_par (drv : Driver) (absPath : String → String) {s t : Node}
    (hs : Served drv absPath s) {q₁ q₂ : NodeRequest} {v : String} (h₁ : q₁.lockedVolume = some v)
    (h₂ : q₂.lockedVolume = some v) {a : Except GoError q₁.Response}
    {b : Except GoError q₂.Response}
    (h : Prog.Par (NodeStep drv.krb5CacheDirectory absPath) (q₁.handle drv) (q₂.handle drv) s a b t) :
    Served drv absPath t := by
  rcases h.serial_of_fresh _ absPath (handle_lockFresh drv h₁) (handle_lockFresh drv h₂)
      ((Served.inv drv absPath hs).1 ▸ List.not_mem_nil v) with
    ⟨_, _, _, e₁, e₂⟩ | ⟨_, _, _, e₂, e₁⟩ | ⟨-, _, e⟩ | ⟨-, _, e⟩
  · exact .serve (.serve hs e₁) e₂
  · exact .serve (.serve hs e₂) e₁
  · exact .serve hs e
  · exact .serve hs e

theorem served_sameVolume_par_unstage :
    Served linuxDriver id stagedNode ∧ unstagePvc.lockedVolume = some "pvc-1" ∧
      Served linuxDriver id unstagedNode :=
  have hv : unstagePvc.lockedVolume = some "pvc-1" := rfl
  ⟨served_stagedNode, hv, served_sameVolume_par linuxDriver id served_stagedNode hv hv
    unstagePvc_twice⟩

end SmbNode
