import SmbNode.Prog.Basic

/-!
# Two programs on one node

The node server handles each gRPC request in a goroutine of its own.  Two requests for different
volumes hold different volume locks, so they run at once and their calls on the node interleave
in any order.  A call is the unit of interleaving: the node answers each one atomically.

`Par Sem p q s a b t` says that `p` and `q`, run together from `s` with their calls interleaved,
return `a` and `b` and leave the node in `t`; `runPar` runs them on a deterministic node along a
given schedule, and `Par.of_runPar` makes such a run an interleaving.

Facts about interleavings are proved rely-guarantee style.  `rgwp Sem R G p Q s` is the weakest
precondition of `p` when the other thread may move the state by any number of `R` steps before
each call of `p` and after its last: every step `p` itself makes is in `G`, and `Q` holds at the
end.  `Par.rg_sound`: when each program's guarantee lies within the other's rely, every
interleaved run ends where both postconditions hold.
-/

namespace SmbNode

namespace Prog

variable {E : Type} {Ret : E → Type} {σ α β : Type}

open Relation

section Interleave

variable (Sem : (c : E) → σ → Ret c → σ → Prop)

/-- `Par Sem p q s a b t`: run together from `s`, each call answered by `Sem`, the programs `p`
and `q` return `a` and `b` and leave `t`. -/
inductive Par : Prog E Ret α → Prog E Ret β → σ → α → β → σ → Prop
  /-- Both have returned. -/
  | done (a : α) (b : β) (s : σ) : Par (ret a) (ret b) s a b s
  /-- The left program makes its next call. -/
  | left {c : E} {k : Ret c → Prog E Ret α} {q : Prog E Ret β} {s : σ} {r : Ret c} {s' : σ}
      {a : α} {b : β} {t : σ} :
      Sem c s r s' → Par (k r) q s' a b t → Par (call c k) q s a b t
  /-- The right program makes its next call. -/
  | right {p : Prog E Ret α} {c : E} {k : Ret c → Prog E Ret β} {s : σ} {r : Ret c} {s' : σ}
      {a : α} {b : β} {t : σ} :
      Sem c s r s' → Par p (k r) s' a b t → Par p (call c k) s a b t

variable {Sem}

/-- An interleaving under one semantics is one under any semantics that allows more. -/
theorem Par.mono {Sem' : (c : E) → σ → Ret c → σ → Prop}
    (hle : ∀ c s r s', Sem c s r s' → Sem' c s r s') {p : Prog E Ret α} {q : Prog E Ret β}
    {s : σ} {a : α} {b : β} {t : σ} (h : Par Sem p q s a b t) : Par Sem' p q s a b t := by
  induction h with
  | done a b s => exact .done a b s
  | left hs _ ih => exact .left (hle _ _ _ _ hs) ih
  | right hs _ ih => exact .right (hle _ _ _ _ hs) ih

/-- Interleaving is symmetric. -/
theorem Par.swap {p : Prog E Ret α} {q : Prog E Ret β} {s : σ} {a : α} {b : β} {t : σ}
    (h : Par Sem p q s a b t) : Par Sem q p s b a t := by
  induction h with
  | done a b s => exact .done b a s
  | left hs _ ih => exact .right hs ih
  | right hs _ ih => exact .left hs ih

/-- The left program of an interleaving runs along one of its paths. -/
theorem Par.path_left {p : Prog E Ret α} {q : Prog E Ret β} {s : σ} {a : α} {b : β} {t : σ}
    (h : Par Sem p q s a b t) : ∃ tr, Path p tr a := by
  induction h with
  | done a b s => exact ⟨[], .ret a⟩
  | left _ _ ih => obtain ⟨_, h⟩ := ih; exact ⟨_, .call _ h⟩
  | right _ _ ih => exact ih

/-- Once the left program has returned, the right one runs alone. -/
theorem Par.ret_left {a' : α} {q : Prog E Ret β} {s : σ} {a : α} {b : β} {t : σ}
    (h : Par Sem (ret a') q s a b t) : a = a' ∧ ∃ tr, Exec Sem q s tr b t := by
  generalize hp : (ret a' : Prog E Ret α) = p at h
  induction h with
  | done a b s => cases hp; exact ⟨rfl, [], .ret b s⟩
  | left => cases hp
  | right hs _ ih => exact (ih hp).imp_right fun ⟨_, h⟩ => ⟨_, .call hs h⟩

end Interleave

section Schedule

variable (step : (c : E) → σ → Ret c × σ)

/-- Run `p` and `q` against a deterministic node along a schedule: `true` takes the next call of
`p`, `false` that of `q`.  `none` when the schedule names a program that has returned, or ends
before both have. -/
def runPar : List Bool → Prog E Ret α → Prog E Ret β → σ → Option (α × β × σ)
  | [], ret a, ret b, s => some (a, b, s)
  | true :: sch, call c k, q, s => runPar sch (k (step c s).1) q (step c s).2
  | false :: sch, p, call c k, s => runPar sch p (k (step c s).1) (step c s).2
  | _, _, _, _ => none

/-- A scheduled run is an interleaving. -/
theorem Par.of_runPar : ∀ (sch : List Bool) (p : Prog E Ret α) (q : Prog E Ret β) (s : σ)
    {a : α} {b : β} {t : σ}, runPar step sch p q s = some (a, b, t) → Par (det step) p q s a b t
  | [], ret a, ret b, s, _, _, _, h => by cases h; exact .done a b s
  | true :: sch, call c k, q, s, _, _, _, h => .left rfl (Par.of_runPar sch _ q _ h)
  | false :: sch, ret a, call c k, s, _, _, _, h => .right rfl (Par.of_runPar sch _ _ _ h)
  | false :: sch, call c' k', call c k, s, _, _, _, h => .right rfl (Par.of_runPar sch _ _ _ h)
  | [], ret _, call _ _, _, _, _, _, h => nomatch h
  | [], call _ _, _, _, _, _, _, h => nomatch h
  | true :: _, ret _, _, _, _, _, _, h => nomatch h
  | false :: _, _, ret _, _, _, _, _, h => nomatch h

end Schedule

/-! ## Rely and guarantee -/

section RelyGuarantee

variable (Sem : (c : E) → σ → Ret c → σ → Prop) (R G : σ → σ → Prop)

/-- `rgwp Sem R G p Q s`: from `s`, with the environment moving the state by `R` steps before
each call of `p` and after its last, every step of `p` is in `G` and `Q` holds at the end. -/
def rgwp : Prog E Ret α → (α → σ → Prop) → σ → Prop
  | ret a, Q, s => ∀ s', ReflTransGen R s s' → Q a s'
  | call c k, Q, s =>
    ∀ s₀, ReflTransGen R s s₀ → ∀ r s', Sem c s₀ r s' → G s₀ s' ∧ rgwp (k r) Q s'

variable {Sem R G}

/-- What holds before a program's next call holds after any steps of the environment. -/
theorem rgwp_stable {p : Prog E Ret α} {Q : α → σ → Prop} {s s' : σ}
    (h : rgwp Sem R G p Q s) (hR : ReflTransGen R s s') : rgwp Sem R G p Q s' := by
  cases p with
  | ret a => exact fun s'' h' => h s'' (hR.trans h')
  | call c k => exact fun s₀ h' => h s₀ (hR.trans h')

theorem rgwp_ret {a : α} {Q : α → σ → Prop} {s : σ} :
    rgwp Sem R G (ret a) Q s ↔ ∀ s', ReflTransGen R s s' → Q a s' := Iff.rfl

theorem rgwp_call {c : E} {k : Ret c → Prog E Ret α} {Q : α → σ → Prop} {s : σ} :
    rgwp Sem R G (call c k) Q s ↔
      ∀ s₀, ReflTransGen R s s₀ → ∀ r s', Sem c s₀ r s' → G s₀ s' ∧ rgwp Sem R G (k r) Q s' :=
  Iff.rfl

/-- Sequencing: `p >>= f` meets `Q` where `p` ends in states from which `f` meets it. -/
theorem rgwp_bind {p : Prog E Ret α} {f : α → Prog E Ret β} {Q : β → σ → Prop} {s : σ} :
    rgwp Sem R G (p >>= f) Q s ↔ rgwp Sem R G p (fun a => rgwp Sem R G (f a) Q) s := by
  induction p generalizing s with
  | ret a => exact ⟨fun h s' hR => rgwp_stable h hR, fun h => h s .refl⟩
  | call c k ih =>
    simp only [call_bind, rgwp_call]
    exact forall_congr' fun s₀ => forall_congr' fun _ => forall_congr' fun r =>
      forall_congr' fun _ => forall_congr' fun _ => and_congr_right' (ih r)

theorem rgwp_mono {p : Prog E Ret α} {Q Q' : α → σ → Prop} (hQ : ∀ a s, Q a s → Q' a s) :
    ∀ {s}, rgwp Sem R G p Q s → rgwp Sem R G p Q' s := by
  induction p with
  | ret a => exact fun h s' hR => hQ a s' (h s' hR)
  | call c k ih => exact fun h s₀ hR r s' hs => (h s₀ hR r s' hs).imp_right (ih r)

/-- **Parallel soundness.**  If each program's steps are steps the other relies on, an
interleaved run ends where both postconditions hold. -/
theorem Par.rg_sound {R₁ G₁ R₂ G₂ : σ → σ → Prop} (h₁₂ : ∀ s s', G₁ s s' → R₂ s s')
    (h₂₁ : ∀ s s', G₂ s s' → R₁ s s') {p : Prog E Ret α} {q : Prog E Ret β} {s : σ} {a : α}
    {b : β} {t : σ} (h : Par Sem p q s a b t) {Q₁ : α → σ → Prop} {Q₂ : β → σ → Prop}
    (hp : rgwp Sem R₁ G₁ p Q₁ s) (hq : rgwp Sem R₂ G₂ q Q₂ s) : Q₁ a t ∧ Q₂ b t := by
  induction h with
  | done a b s => exact ⟨hp s .refl, hq s .refl⟩
  | left hs _ ih =>
    obtain ⟨hg, hk⟩ := hp _ .refl _ _ hs
    exact ih hk (rgwp_stable hq (.single (h₁₂ _ _ hg)))
  | right hs _ ih =>
    obtain ⟨hg, hk⟩ := hq _ .refl _ _ hs
    exact ih (rgwp_stable hp (.single (h₂₁ _ _ hg))) hk

end RelyGuarantee

end Prog

end SmbNode
