import MidoCamera.Hal1.Steps

/-!
# The rules for the operations

What a program of the state machine does is read off it operation by operation. An operation of the
parent may return anything, and a query may be answered in any way; what the rest of the program
does is shown for each, with what the parent then does not do whenever it is called.
-/

namespace QCamera

open Loop List

/-! ## The rules for the operations -/

def Parent.Ok (p : Parent) (op : ParentOp) : Prop := ∀ calls, p.status calls op = .noError

def Parent.Fails (p : Parent) (op : ParentOp) : Prop := ∀ calls, p.status calls op ≠ .noError

def Parent.Says (p : Parent) (op : ParentOp) (b : Bool) : Prop := ∀ calls, p.answer calls op = b

section Rules

variable {α : Type} {p : Parent} {op : ParentOp} {w : View} {Q : α → View → List SmEvt → Prop}

/-- An operation is called: what it does to the preview is told by its status. -/
theorem does_op {f : Status → Proc α} (hf : ∀ calls, Does (f (p.status calls op))
    { w with preview := op.onPreview (p.status calls op) w.preview } Q) :
    Does (call p op >>= f) w Q := by
  apply leads_bind
  rintro s rfl
  exact ⟨[], (append_nil _).symm, hf s.calls⟩

theorem does_call {f : Status → Proc α} (hop : op.Inert)
    (hf : ∀ calls, Does (f (p.status calls op)) w Q) : Does (call p op >>= f) w Q := by
  apply does_op
  intro calls
  rw [hop]
  exact hf calls

theorem does_outArgs {f : ℤ × ℤ → Proc α} (hf : ∀ calls, Does (f (p.out calls op)) w Q) :
    Does (outArgs p op >>= f) w Q := by
  apply leads_bind
  rintro s rfl
  exact ⟨[], (append_nil _).symm, hf s.calls⟩

theorem does_ask {f : Bool → Proc α}
    (yes : ¬p.Says op false → Does (f true) w Q) (no : ¬p.Says op true → Does (f false) w Q) :
    Does (ask p op >>= f) w Q := by
  apply leads_bind
  rintro s rfl
  refine ⟨[], (append_nil _).symm, ?_⟩
  show Does (f (p.answer s.calls op)) _ Q
  cases h : p.answer s.calls op with
  | true => exact yes fun hp => Bool.noConfusion ((hp s.calls).symm.trans h)
  | false => exact no fun hp => Bool.noConfusion ((hp s.calls).symm.trans h)

theorem does_prepare {f : Status → Proc α}
    (ok : ¬p.Fails .preparePreview →
      Does (f .noError) { w with preview := ⟨true, false⟩ } Q)
    (fail : ∀ rc, rc ≠ .noError → ¬p.Ok .preparePreview → Does (f rc) w Q) :
    Does (call p .preparePreview >>= f) w Q := by
  apply does_op
  intro calls
  by_cases h : p.status calls .preparePreview = .noError
  · rw [h]
    exact ok fun hfails => hfails calls h
  · rw [ParentOp.onPreview, if_neg h]
    exact fail _ h fun hok => h (hok calls)

theorem does_start {f : Status → Proc α}
    (ok : Does (f .noError) { w with preview.started := true } Q)
    (fail : ∀ rc, rc ≠ .noError → ¬p.Ok .startPreview → Does (f rc) w Q) :
    Does (call p .startPreview >>= f) w Q := by
  apply does_op
  intro calls
  by_cases h : p.status calls .startPreview = .noError
  · rw [h]
    exact ok
  · rw [ParentOp.onPreview, if_neg h]
    exact fail _ h fun hok => h (hok calls)

def ParentOp.Stops (op : ParentOp) : Prop := ∀ rc v, op.onPreview rc v = .down

theorem does_stop {f : Status → Proc α} (hop : op.Stops)
    (hf : ∀ rc, Does (f rc) { w with preview := .down } Q) : Does (call p op >>= f) w Q := by
  apply does_op
  intro calls
  rw [hop]
  exact hf _

theorem does_perform_stop {f : Unit → Proc α} (hop : op.Stops)
    (hf : Does (f ()) { w with preview := .down } Q) : Does (perform p op >>= f) w Q := by
  apply leads_bind
  apply does_stop hop
  intro rc
  exact leads_pure hf

theorem does_setState {m : SmState} {f : Unit → Proc α}
    (hf : Does (f ()) { w with state := m } Q) : Does (setState m >>= f) w Q := by
  apply leads_bind
  rintro s rfl
  exact ⟨[], (append_nil _).symm, hf⟩

theorem does_modify {g : Machine → Machine} {u : View} {f : PUnit → Proc α}
    (hg : ∀ s, s.view = w → (g s).view = u ∧ (g s).answers = s.answers) (hf : Does (f ⟨⟩) u Q) :
    Does (modify g >>= f) w Q := by
  apply leads_bind
  intro s hs
  obtain ⟨rfl, ha⟩ := hg s hs
  exact ⟨[], ha.trans (append_nil _).symm, hf⟩

theorem does_reply {evt : SmEvt} {rc : Status} {Q : Status → View → List SmEvt → Prop}
    (h : Q rc w [evt]) : Does (reply evt rc) w Q := by
  rintro s rfl
  exact ⟨[evt], map_append, h⟩

end Rules

/-! ## Restarts -/

/-- What comes of a preparation and a start of the preview. If the start fails, what has been
prepared may be taken back. -/
inductive Restarted (p : Parent) (undo : Bool) : Status → Preview → Preview → Prop
  | done {v : Preview} : Restarted p undo .noError v ⟨true, true⟩
  | unprepared {rc : Status} {v : Preview} (hrc : rc ≠ .noError) (h : ¬p.Ok .preparePreview) :
      Restarted p undo rc v v
  | unstarted {rc : Status} {v : Preview} (hrc : rc ≠ .noError) (h : ¬p.Ok .startPreview)
      (h' : ¬p.Fails .preparePreview) :
      Restarted p undo rc v (if undo then .down else ⟨true, false⟩)

section Restarts

variable {p : Parent} {w : View}

theorem startOrUnprepare_does (hw : w.preview = ⟨true, false⟩) :
    Does (startOrUnprepare p) w fun rc w' l => l = [] ∧
      (rc = .noError ∧ w' = { w with preview := ⟨true, true⟩ } ∨
        rc ≠ .noError ∧ ¬p.Ok .startPreview ∧ w' = { w with preview := .down }) := by
  apply does_start
  · apply leads_neg (not_not_intro rfl)
    refine leads_pure ⟨rfl, .inl ⟨rfl, ?_⟩⟩
    rw [hw]
  · intro rc hrc hstart
    apply leads_pos hrc
    apply does_perform_stop fun _ _ => rfl
    exact leads_pure ⟨rfl, .inr ⟨hrc, hstart, rfl⟩⟩

theorem startOrUnprepare_restarted {v : Preview} (hprepare : ¬p.Fails .preparePreview) :
    Does (startOrUnprepare p) { w with preview := ⟨true, false⟩ } fun rc w' l =>
      ∃ v', Restarted p true rc v v' ∧ w' = { w with preview := v' } ∧ l = [] := by
  apply (startOrUnprepare_does rfl).mono
  rintro rc _ _ ⟨rfl, ⟨rfl, rfl⟩ | ⟨hrc, hstart, rfl⟩⟩
  · exact ⟨⟨true, true⟩, .done, rfl, rfl⟩
  · exact ⟨.down, .unstarted hrc hstart hprepare, rfl, rfl⟩

theorem prepare_restarted {down : Bool} {f : Proc Status}
    (hf : ¬p.Fails .preparePreview → Does f { w with preview := ⟨true, false⟩ } fun rc w' l =>
      ∃ v, Restarted p down rc w.preview v ∧ w' = { w with preview := v } ∧ l = []) :
    Does (do
      let rc ← call p .preparePreview
      if rc = .noError then f else pure rc) w fun rc w' l =>
        ∃ v, Restarted p down rc w.preview v ∧ w' = { w with preview := v } ∧ l = [] := by
  apply does_prepare
  · intro hprepare
    exact leads_pos rfl (hf hprepare)
  · intro rc hrc hprepare
    exact leads_neg hrc (leads_pure ⟨w.preview, .unprepared hrc hprepare, rfl, rfl⟩)

theorem restartPreview_restarted : Does (restartPreview p) w fun rc w' l =>
    ∃ v, Restarted p true rc w.preview v ∧ w' = { w with preview := v } ∧ l = [] :=
  prepare_restarted startOrUnprepare_restarted

theorem restartPreviewDelayed_restarted : Does (restartPreviewDelayed p) w fun rc w' l =>
    ∃ v, Restarted p true rc w.preview v ∧ w' = { w with preview := v } ∧ l = [] :=
  prepare_restarted fun hprepare => Emitter.leads fun _ => startOrUnprepare_restarted hprepare

theorem does_prepareStart {α : Type} {f : Status → Proc α} {Q : α → View → List SmEvt → Prop}
    (hf : ∀ rc v, Restarted p false rc w.preview v → Does (f rc) { w with preview := v } Q) :
    Does (do
      let rc ← call p .preparePreview
      if rc = .noError then call p .startPreview >>= f else f rc) w Q := by
  apply does_prepare
  · intro hprepare
    apply leads_pos rfl
    apply does_start
    · exact hf .noError ⟨true, true⟩ .done
    · intro rc hrc hstart
      exact hf rc ⟨true, false⟩ (.unstarted hrc hstart hprepare)
  · intro rc hrc hprepare
    exact leads_neg hrc (hf rc w.preview (.unprepared hrc hprepare))

theorem restartEarly_restarted : Does (restartEarly p) w fun rc w' l =>
    ∃ v, Restarted p false rc w.preview v ∧ w' = { w with preview := v } ∧ l = [] := by
  apply prepare_restarted
  intro hprepare
  apply Emitter.leads
  intro _
  apply Emitter.leads
  intro _
  rw [← bind_pure (call p .startPreview)]
  apply does_start
  · exact leads_pure ⟨⟨true, true⟩, .done, rfl, rfl⟩
  · intro rc hrc hstart
    exact leads_pure ⟨⟨true, false⟩, .unstarted hrc hstart hprepare, rfl, rfl⟩

end Restarts

end QCamera
