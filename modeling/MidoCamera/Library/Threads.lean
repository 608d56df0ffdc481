import MidoCamera.Library.Run

/-!
# Threads that share a state

A number of threads share a state; each has a state of its own besides. In a step one of the threads
changes both. Which thread has which number does not matter to an invariant that is told of the
threads in any order, so that the thread that steps may be taken to be the first.
-/

namespace Loop

variable {σ π α β : Type*}

/-! ## One element of a list -/

theorem perm_cons_eraseIdx {l : List π} {i : ℕ} {p : π} (h : l[i]? = some p) :
    l.Perm (p :: l.eraseIdx i) := by
  obtain ⟨hi, rfl⟩ := List.getElem?_eq_some_iff.mp h
  exact (List.getElem_cons_eraseIdx_perm hi).symm

theorem set_perm_cons_eraseIdx {l : List π} {i : ℕ} {p : π} (h : l[i]? = some p) (p' : π) :
    (l.set i p').Perm (p' :: l.eraseIdx i) :=
  List.set_perm_cons_eraseIdx (List.getElem?_eq_some_iff.mp h).1 p'

/-! ## Threads -/

/-- What the threads share, and the states of the threads. -/
structure Threads (σ π : Type*) where
  shared : σ
  locals : List π

namespace Threads

/-- Thread `l.1` takes the step `l.2`, where `ok` holds of the step and of what it sees. -/
def Step (act : α → σ → π → Option (σ × π)) (ok : α → σ → π → Prop) (l : ℕ × α)
    (s t : Threads σ π) : Prop :=
  ∃ p r, s.locals[l.1]? = some p ∧ ok l.2 s.shared p ∧ act l.2 s.shared p = some r ∧
    t = ⟨r.1, s.locals.set l.1 r.2⟩

variable {act : α → σ → π → Option (σ × π)} {ok : α → σ → π → Prop} {l : ℕ × α} {s t : Threads σ π}

/-- **A step** changes the state of one thread, and leaves the others. -/
theorem Step.perm (h : Step act ok l s t) : ∃ p p' rest, s.locals.Perm (p :: rest) ∧
    t.locals.Perm (p' :: rest) ∧ ok l.2 s.shared p ∧
      act l.2 s.shared p = some (t.shared, p') := by
  obtain ⟨p, r, hget, hok, hact, rfl⟩ := h
  exact ⟨p, r.2, s.locals.eraseIdx l.1, perm_cons_eraseIdx hget,
    set_perm_cons_eraseIdx hget r.2, hok, hact⟩

/-- **The invariant rule**: what does not turn on the order of the threads is kept by every step, if
it is kept where the first thread steps. -/
theorem Step.invariant {I : σ → List π → Prop} (h : Step act ok l s t)
    (perm : ∀ s ps qs, ps.Perm qs → I s ps → I s qs)
    (keep : ∀ a s t p p' rest, ok a s p → act a s p = some (t, p') → I s (p :: rest) →
      I t (p' :: rest))
    (hs : I s.shared s.locals) : I t.shared t.locals := by
  obtain ⟨p, p', rest, hps, hqs, hok, hact⟩ := h.perm
  exact perm _ _ _ hqs.symm (keep _ _ _ _ _ _ hok hact (perm _ _ _ hps hs))

/-- The step of a thread, where it passes a check. -/
def exec (act : α → σ → π → Option (σ × π)) (check : α → σ → π → Bool) (s : Threads σ π)
    (l : ℕ × α) : Option (Threads σ π) :=
  match s.locals[l.1]? with
  | none => none
  | some p =>
    if check l.2 s.shared p then
      (act l.2 s.shared p).map fun r => ⟨r.1, s.locals.set l.1 r.2⟩
    else none

theorem step_of_exec {check : α → σ → π → Bool} (checked : ∀ a s p, check a s p → ok a s p)
    (h : exec act check s l = some t) : Step act ok l s t := by
  unfold exec at h
  split at h
  · cases h
  · next p hget =>
    split at h
    · next hcheck =>
      obtain ⟨r, hact, heq⟩ := Option.map_eq_some_iff.mp h
      exact ⟨p, r, hget, checked _ _ _ hcheck, hact, heq.symm⟩
    · cases h

/-- **Steps that are computed** are a run. -/
theorem run_of_execAll {check : α → σ → π → Bool} {ls : List (ℕ × α)}
    (checked : ∀ a s p, check a s p → ok a s p) (h : execAll (exec act check) s ls = some t) :
    Run (Step act ok) ls s t :=
  (Run.of_execAll h).mono fun _ _ _ _ hstep => step_of_exec checked hstep

end Threads

end Loop
