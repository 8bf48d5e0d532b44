import Mathlib

/-!
# Programs that call the node

The node server is Go code that alternates pure computation with calls on the operating
system, the mount utilities and the volume lock table.  We model each of its functions as a
finite tree of calls: a `Prog E Ret α` has either returned an `α`, or it issues one call
`c : E` and continues with whatever reply of type `Ret c` comes back.  The text of a function
is the tree; what the node answers is kept apart, so that one tree is read in three ways:

* `Path p tr a` — with the replies listed in `tr`, `p` issues exactly the calls of `tr` and
  returns `a`.  Nothing constrains the replies: a fact that holds on every path holds
  whatever the node does.
* `Exec Sem p s tr a s'` and `wp Sem p Q s` — the replies and state changes are those a
  relation `Sem` allows, for a node whose state is `s`.
* `run step p s` — a node that answers deterministically.

The interleaving of two programs on one node is in `SmbNode/Prog/Concurrent.lean`.
-/

namespace SmbNode

/-- A program over the call interface `E`, where a call `c` is answered by a `Ret c`. -/
inductive Prog (E : Type) (Ret : E → Type) (α : Type) : Type where
  /-- The program has returned `a`. -/
  | ret (a : α)
  /-- The program issues the call `c` and continues with `k` applied to the reply. -/
  | call (c : E) (k : Ret c → Prog E Ret α)

/-- One call together with the reply it received. -/
structure Event (E : Type) (Ret : E → Type) where
  /-- The call. -/
  call : E
  /-- Its reply. -/
  reply : Ret call

namespace Prog

variable {E : Type} {Ret : E → Type} {α β γ : Type}

/-- Sequencing: run `p`, then `f` on its result. -/
def bind : Prog E Ret α → (α → Prog E Ret β) → Prog E Ret β
  | ret a, f => f a
  | call c k, f => call c fun r => bind (k r) f

instance : Monad (Prog E Ret) where
  pure := ret
  bind := bind

/-- Issue the call `c` and return its reply. -/
def trigger (c : E) : Prog E Ret (Ret c) := call c ret

@[simp] theorem pure_eq (a : α) : (pure a : Prog E Ret α) = ret a := rfl

@[simp] theorem ret_bind (a : α) (f : α → Prog E Ret β) : ret a >>= f = f a := rfl

@[simp] theorem call_bind (c : E) (k : Ret c → Prog E Ret α) (f : α → Prog E Ret β) :
    call c k >>= f = call c fun r => k r >>= f := rfl

@[simp] theorem trigger_bind (c : E) (f : Ret c → Prog E Ret β) :
    trigger c >>= f = call c f := rfl

theorem bind_ret (p : Prog E Ret α) : p >>= ret = p := by
  induction p with
  | ret a => rfl
  | call c k ih => exact congrArg (call c) (funext ih)

theorem bind_assoc (p : Prog E Ret α) (f : α → Prog E Ret β) (g : β → Prog E Ret γ) :
    p >>= f >>= g = p >>= fun a => f a >>= g := by
  induction p with
  | ret a => rfl
  | call c k ih => exact congrArg (call c) (funext ih)

instance : LawfulMonad (Prog E Ret) :=
  LawfulMonad.mk' _ (fun p => bind_ret p) (fun _ _ => rfl) bind_assoc

/-! ## Paths: every reply

A path fixes a reply for each call the program makes.  Facts proved for every path of a
program hold for every node, however it answers. -/

/-- `Path p tr a`: given the replies recorded in `tr`, `p` makes exactly the calls of `tr`, in
order, and returns `a`. -/
inductive Path : Prog E Ret α → List (Event E Ret) → α → Prop
  /-- A returned program has the empty path. -/
  | ret (a : α) : Path (ret a) [] a
  /-- A call, answered `r`, followed by a path of the continuation at `r`. -/
  | call {c : E} {k : Ret c → Prog E Ret α} (r : Ret c) {tr : List (Event E Ret)} {a : α} :
      Path (k r) tr a → Path (call c k) (⟨c, r⟩ :: tr) a

@[simp] theorem path_ret_iff {a b : α} {tr : List (Event E Ret)} :
    Path (ret a : Prog E Ret α) tr b ↔ tr = [] ∧ b = a := by
  constructor
  · rintro ⟨⟩; exact ⟨rfl, rfl⟩
  · rintro ⟨rfl, rfl⟩; exact .ret _

/-- A program with an empty path has returned. -/
theorem eq_ret_of_path_nil {p : Prog E Ret α} {a : α} (h : Path p [] a) : p = ret a := by
  cases h; rfl

theorem path_call_iff {c : E} {k : Ret c → Prog E Ret α} {tr : List (Event E Ret)} {a : α} :
    Path (call c k) tr a ↔ ∃ r tr', tr = ⟨c, r⟩ :: tr' ∧ Path (k r) tr' a := by
  constructor
  · intro h; cases h with | call r h => exact ⟨r, _, rfl, h⟩
  · rintro ⟨r, tr', rfl, h⟩; exact .call r h

/-- A path of `p >>= f` is a path of `p` followed by a path of `f` at what `p` returned. -/
theorem path_bind_iff {p : Prog E Ret α} {f : α → Prog E Ret β} {tr : List (Event E Ret)}
    {b : β} : Path (p >>= f) tr b ↔
      ∃ tr₁ tr₂ a, tr = tr₁ ++ tr₂ ∧ Path p tr₁ a ∧ Path (f a) tr₂ b := by
  induction p generalizing tr with
  | ret a =>
    simp only [ret_bind, path_ret_iff]
    constructor
    · exact fun h => ⟨[], tr, a, rfl, ⟨rfl, rfl⟩, h⟩
    · rintro ⟨_, tr₂, _, rfl, ⟨rfl, rfl⟩, h⟩; exact h
  | call c k ih =>
    simp only [call_bind, path_call_iff, ih]
    constructor
    · rintro ⟨r, tr', rfl, tr₁, tr₂, a, rfl, h₁, h₂⟩
      exact ⟨⟨c, r⟩ :: tr₁, tr₂, a, rfl, ⟨r, tr₁, rfl, h₁⟩, h₂⟩
    · rintro ⟨_, tr₂, a, rfl, ⟨r, tr₁, rfl, h₁⟩, h₂⟩
      exact ⟨r, tr₁ ++ tr₂, rfl, tr₁, tr₂, a, rfl, h₁, h₂⟩

/-! ## Runs against a node

`Sem c s r s'` says that a node in state `s` may answer the call `c` with `r` and move to
`s'`.  A relation and not a function, so that a node may fail a call spontaneously. -/

section Sem

variable {σ : Type} (Sem : (c : E) → σ → Ret c → σ → Prop)

/-- `Exec Sem p s tr a s'`: run against a node that answers by `Sem`, from state `s`, the
program `p` makes the calls of `tr`, returns `a` and leaves the node in `s'`. -/
inductive Exec : Prog E Ret α → σ → List (Event E Ret) → α → σ → Prop
  /-- A returned program leaves the node as it is. -/
  | ret (a : α) (s : σ) : Exec (ret a) s [] a s
  /-- One call answered by the node, then the rest of the run. -/
  | call {c : E} {k : Ret c → Prog E Ret α} {s : σ} {r : Ret c} {s' : σ}
      {tr : List (Event E Ret)} {a : α} {t : σ} :
      Sem c s r s' → Exec (k r) s' tr a t → Exec (call c k) s (⟨c, r⟩ :: tr) a t

variable {Sem} in
/-- A run against a node is a run against any node that allows more replies. -/
theorem Exec.mono {Sem' : (c : E) → σ → Ret c → σ → Prop}
    (hle : ∀ c s r s', Sem c s r s' → Sem' c s r s') {p : Prog E Ret α} {s t : σ}
    {tr : List (Event E Ret)} {a : α} (h : Exec Sem p s tr a t) : Exec Sem' p s tr a t := by
  induction h with
  | ret a s => exact .ret a s
  | call hr _ ih => exact .call (hle _ _ _ _ hr) ih

variable {Sem} in
/-- Every run is a path. -/
theorem Exec.path {p : Prog E Ret α} {s t : σ} {tr : List (Event E Ret)} {a : α}
    (h : Exec Sem p s tr a t) : Path p tr a := by
  induction h with
  | ret a s => exact .ret a
  | call _ _ ih => exact .call _ ih

/-- The weakest precondition: from `s`, every run of `p` against `Sem` ends in a state where
`Q` holds of the result. -/
def wp : Prog E Ret α → (α → σ → Prop) → σ → Prop
  | ret a, Q, s => Q a s
  | call c k, Q, s => ∀ r s', Sem c s r s' → wp (k r) Q s'

@[simp] theorem wp_ret (a : α) (Q : α → σ → Prop) (s : σ) :
    wp Sem (ret a : Prog E Ret α) Q s = Q a s := rfl

@[simp] theorem wp_call (c : E) (k : Ret c → Prog E Ret α) (Q : α → σ → Prop) (s : σ) :
    wp Sem (call c k) Q s = ∀ r s', Sem c s r s' → wp Sem (k r) Q s' := rfl

@[simp] theorem wp_bind (p : Prog E Ret α) (f : α → Prog E Ret β) (Q : β → σ → Prop) :
    wp Sem (p >>= f) Q = wp Sem p fun a => wp Sem (f a) Q := by
  induction p with
  | ret a => rfl
  | call c k ih => funext s; simp only [call_bind, wp_call, ih]

variable {Sem} in
theorem wp_mono {p : Prog E Ret α} {Q Q' : α → σ → Prop} (h : ∀ a s, Q a s → Q' a s) :
    ∀ {s}, wp Sem p Q s → wp Sem p Q' s := by
  induction p with
  | ret a => exact h a _
  | call c k ih => exact fun hs r s' hr => ih r (hs r s' hr)

variable {Sem} in
theorem wp_and {p : Prog E Ret α} {Q Q' : α → σ → Prop} :
    ∀ {s}, wp Sem p Q s → wp Sem p Q' s → wp Sem p (fun a t => Q a t ∧ Q' a t) s := by
  induction p with
  | ret a => exact fun h h' => ⟨h, h'⟩
  | call c k ih => exact fun h h' r s' hr => ih r (h r s' hr) (h' r s' hr)

variable {Sem} in
/-- A postcondition that holds of every result in every state holds after every run. -/
theorem wp_of_forall {p : Prog E Ret α} {Q : α → σ → Prop} (h : ∀ a t, Q a t) :
    ∀ {s}, wp Sem p Q s := by
  induction p with
  | ret a => exact h a _
  | call c k ih => exact fun r s' _ => ih r

variable {Sem} in
/-- A node that allows fewer replies satisfies more: `wp` is antitone in the reply relation. -/
theorem wp_of_le {Sem' : (c : E) → σ → Ret c → σ → Prop}
    (hle : ∀ c s r s', Sem c s r s' → Sem' c s r s') {p : Prog E Ret α} {Q : α → σ → Prop} :
    ∀ {s}, wp Sem' p Q s → wp Sem p Q s := by
  induction p with
  | ret a => exact id
  | call c k ih => exact fun hs r s' hr => ih r (hs r s' (hle _ _ _ _ hr))

variable {Sem} in
/-- `wp` is sound: a run from a state meeting the precondition ends where `Q` holds. -/
theorem Exec.wp {p : Prog E Ret α} {s t : σ} {tr : List (Event E Ret)} {a : α}
    (h : Exec Sem p s tr a t) {Q : α → σ → Prop} (hs : SmbNode.Prog.wp Sem p Q s) : Q a t := by
  induction h with
  | ret => exact hs
  | call hr _ ih => exact ih (hs _ _ hr)

variable {Sem} in
/-- Against a node that answers every call somehow, every program has a run. -/
theorem exists_exec (htot : ∀ c s, ∃ r s', Sem c s r s') (p : Prog E Ret α) (s : σ) :
    ∃ tr a t, Exec Sem p s tr a t := by
  induction p generalizing s with
  | ret a => exact ⟨[], a, s, .ret a s⟩
  | call c k ih =>
    obtain ⟨r, s', hr⟩ := htot c s
    obtain ⟨tr, a, t, h⟩ := ih r s'
    exact ⟨_, a, t, .call hr h⟩

variable {Sem} in
/-- Every end of a run, together with the run that reaches it. -/
theorem wp_exec (p : Prog E Ret α) (s : σ) :
    SmbNode.Prog.wp Sem p (fun a t => ∃ tr, Exec Sem p s tr a t) s := by
  induction p generalizing s with
  | ret a => exact ⟨[], .ret a s⟩
  | call c k ih => exact fun r s' hr => wp_mono (fun _ _ ⟨_, h⟩ => ⟨_, .call hr h⟩) (ih r s')

/-- `Trace Sem s tr t`: answering the calls of `tr` with the replies it records can take the
node from `s` to `t`.  What a run does to the node, read off its calls alone. -/
inductive Trace : σ → List (Event E Ret) → σ → Prop
  | nil (s : σ) : Trace s [] s
  | cons {c : E} {r : Ret c} {s s' t : σ} {tr : List (Event E Ret)} :
      Sem c s r s' → Trace s' tr t → Trace s (⟨c, r⟩ :: tr) t

variable {Sem}

theorem Exec.trace {p : Prog E Ret α} {s t : σ} {tr : List (Event E Ret)} {a : α}
    (h : Exec Sem p s tr a t) : Trace Sem s tr t := by
  induction h with
  | ret a s => exact .nil s
  | call hr _ ih => exact .cons hr ih

theorem trace_append_iff {s t : σ} {tr tr' : List (Event E Ret)} :
    Trace Sem s (tr ++ tr') t ↔ ∃ u, Trace Sem s tr u ∧ Trace Sem u tr' t := by
  induction tr generalizing s with
  | nil => exact ⟨fun h => ⟨s, .nil s, h⟩, fun ⟨_, h₁, h₂⟩ => by cases h₁; exact h₂⟩
  | cons e tr ih =>
    constructor
    · rintro (_ | ⟨hr, h⟩)
      obtain ⟨u, h₁, h₂⟩ := ih.mp h
      exact ⟨u, .cons hr h₁, h₂⟩
    · rintro ⟨u, _ | ⟨hr, h₁⟩, h₂⟩
      exact .cons hr (ih.mpr ⟨u, h₁, h₂⟩)

@[simp] theorem trace_nil_iff {s t : σ} : Trace Sem s ([] : List (Event E Ret)) t ↔ t = s :=
  ⟨fun h => by cases h; rfl, fun h => by subst h; exact .nil t⟩

theorem trace_singleton_iff {s t : σ} {e : Event E Ret} :
    Trace Sem s [e] t ↔ Sem e.call s e.reply t := by
  constructor
  · rintro (_ | ⟨hr, ⟨⟩⟩)
    exact hr
  · exact fun h => .cons h (.nil t)

/-- An observation `f` that every step of the node on a call outside `P` keeps is kept along a
trace that makes no call in `P`. -/
theorem Trace.frame {P : E → Prop} {β : Type} {f : σ → β}
    (hstep : ∀ c s r s', ¬P c → Sem c s r s' → f s' = f s) {s t : σ} {tr : List (Event E Ret)}
    (h : Trace Sem s tr t) (htr : ∀ e ∈ tr, ¬P e.call) : f t = f s := by
  induction h with
  | nil => rfl
  | cons hr _ ih =>
    rw [ih fun e he => htr e (List.mem_cons_of_mem _ he),
      hstep _ _ _ _ (htr _ (List.mem_cons_self _ _)) hr]

end Sem

/-! ## Calls a program never makes -/

/-- `Avoids P p`: on no path does `p` make a call that satisfies `P`. -/
inductive Avoids (P : E → Prop) : Prog E Ret α → Prop
  /-- A returned program makes no call. -/
  | ret (a : α) : Avoids P (ret a)
  /-- A call outside `P`, then, whatever its reply, a program that avoids `P`. -/
  | call {c : E} {k : Ret c → Prog E Ret α} : ¬P c → (∀ r, Avoids P (k r)) → Avoids P (call c k)

namespace Avoids

variable {P Q : E → Prop}

theorem bind {p : Prog E Ret α} {f : α → Prog E Ret β} (hp : Avoids P p)
    (hf : ∀ a, Avoids P (f a)) : Avoids P (p >>= f) := by
  induction hp with
  | ret a => exact hf a
  | call hc _ ih => exact .call hc ih

theorem mono {p : Prog E Ret α} (h : Avoids P p) (hle : ∀ c, Q c → P c) : Avoids Q p := by
  induction h with
  | ret a => exact .ret a
  | call hc _ ih => exact .call (fun hq => hc (hle _ hq)) ih

/-- No call on a path of a program that avoids `P` is in `P`. -/
theorem path {p : Prog E Ret α} {tr : List (Event E Ret)} {a : α} (h : Avoids P p)
    (hp : Path p tr a) : ∀ e ∈ tr, ¬P e.call := by
  induction h generalizing tr with
  | ret b => simp [(path_ret_iff.mp hp).1]
  | call hc _ ih =>
    obtain ⟨r, tr', rfl, hk⟩ := path_call_iff.mp hp
    rintro e (_ | ⟨_, he⟩)
    exacts [hc, ih r hk e he]

/-- A program that avoids `P` keeps every observation that the node's steps on the other calls
keep. -/
theorem wp {σ β : Type} {Sem : (c : E) → σ → Ret c → σ → Prop} {f : σ → β}
    (hstep : ∀ c s r s', ¬P c → Sem c s r s' → f s' = f s) {p : Prog E Ret α} (h : Avoids P p)
    (s : σ) : SmbNode.Prog.wp Sem p (fun _ t => f t = f s) s := by
  induction h generalizing s with
  | ret a => rfl
  | call hc _ ih =>
    exact fun r s' hr => wp_mono (fun _ _ ht => ht.trans (hstep _ _ _ _ hc hr)) (ih r s')

end Avoids

/-! ## Deterministic nodes -/

section Det

variable {σ : Type} (step : (c : E) → σ → Ret c × σ)

/-- The reply relation of a node that answers every call by `step`. -/
def det : (c : E) → σ → Ret c → σ → Prop := fun c s r s' => step c s = (r, s')

/-- Run `p` against a deterministic node: its result, the node's final state and the calls
with their replies. -/
def run : Prog E Ret α → σ → α × σ × List (Event E Ret)
  | ret a, s => (a, s, [])
  | call c k, s =>
    let (r, s') := step c s
    let (a, t, tr) := run (k r) s'
    (a, t, ⟨c, r⟩ :: tr)

@[simp] theorem run_ret (a : α) (s : σ) : run step (ret a : Prog E Ret α) s = (a, s, []) := rfl

@[simp] theorem run_call_fst (c : E) (k : Ret c → Prog E Ret α) (s : σ) :
    (run step (call c k) s).1 = (run step (k (step c s).1) (step c s).2).1 := rfl

/-- The deterministic run is a run of `det step`. -/
theorem exec_run (p : Prog E Ret α) (s : σ) :
    Exec (det step) p s (run step p s).2.2 (run step p s).1 (run step p s).2.1 := by
  induction p generalizing s with
  | ret a => exact .ret a s
  | call c k ih => exact .call (rfl : step c s = ((step c s).1, (step c s).2)) (ih _ _)

end Det

end Prog

end SmbNode
