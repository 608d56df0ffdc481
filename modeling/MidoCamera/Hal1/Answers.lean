import MidoCamera.Hal1.Moves
import MidoCamera.Library.Run
import Mathlib.Tactic.Ring

/-!
# Every API is answered

APIs are issued one at a time, the next only after a result for the previous one has been signalled.
They are queued and handled one after the other, and backend events are handled in between. An API
ends with its own result, or waits for a backend event; a few backend events signal results, whether
or not somebody waits for them. So `PREPARE_SNAPSHOT` and `TAKE_PICTURE` may be answered before they
are handled.
-/

namespace QCamera

open Loop List

variable {e : SmEvt}

/-! ## What an event signals -/

def SmEvt.deferrable : List SmEvt := [.prepareSnapshot, .takePicture]

/-- An API that has been handled waits for its result in the state. -/
inductive Deferred : SmEvt → SmState → Prop
  | prepareSnapshot : Deferred .prepareSnapshot .prepareSnapshot
  | retroSnapshot : Deferred .prepareSnapshot .previewPicTaking
  | retroPicture : Deferred .takePicture .previewPicTaking

theorem Deferred.deferrable {m : SmState} (h : Deferred e m) :
    e ∈ SmEvt.deferrable := by
  cases h <;> decide

theorem Deferred.special {m : SmState} (h : Deferred e m) :
    .evtNotify ∈ m.special ∧ .evtInternal ∈ m.special := by
  cases h <;> decide

/-- What a backend event signals in the state, whether or not somebody waits for it. Beside a
preview, this is so for a retro picture only, the death of the daemon apart. -/
inductive Unasked (p : Parent) (m : SmState) (payload : Payload) : SmEvt → List SmEvt → Prop
  | daemonDied (hm : m ∈ [.prepareSnapshot, .picTaking, .previewPicTaking])
      (h : payload.serverEvt = .daemonDied) :
      Unasked p m payload .evtNotify [.prepareSnapshot, .takePicture]
  | prepared (hm : m = .prepareSnapshot) (h : payload.internalEvt = .prepSnapshotDone) :
      Unasked p m payload .evtInternal [.prepareSnapshot]
  | retroPrepared (hm : m = .previewPicTaking) (h : payload.internalEvt = .prepSnapshotDone)
      (hretro : ¬p.Says .isRetroPicture false) :
      Unasked p m payload .evtInternal [.prepareSnapshot]
  | retroReady (hm : m = .previewPicTaking) (h : payload.internalEvt = .readyForSnapshot)
      (hretro : ¬p.Says .isRetroPicture false) :
      Unasked p m payload .evtInternal [.takePicture]
  | stopCaptureChannel (hm : m = .picTaking) :
      Unasked p m payload .stopCaptureChannel [.stopCaptureChannel]
  | retroDone (hm : m = .previewPicTaking) (hretro : ¬p.Says .isRetroPicture false) :
      Unasked p m payload .snapshotDone [.snapshotDone]

/-- The state does not ignore the API, and a capture of a retro picture is entered only beside the
preview. -/
structure Answerable (p : Parent) (m : SmState) (evt : SmEvt) : Prop where
  face : evt = .regFaceImage → m ≠ .prepareSnapshot
  restart : evt = .sendCommandRestart → m = .previewing
  retro : evt = .takePicture → m = .previewing → p.Says .isRetroPicture false ∨
    p.Says .isPreviewRestartEnabled false ∨ p.Says .isManualCaptureType3 false

section Signals

variable {b : Build} {p : Parent} {evt : SmEvt} {payload : Payload} {w w' : View}
  {l : List SmEvt}

theorem SmEvt.due_of_api (h : evt.isApi = true) : evt.due = [evt] := by
  rw [SmEvt.due, h]
  rfl

theorem SmEvt.due_of_event (h : evt.isApi = false) : evt.due = [] := by
  rw [SmEvt.due, h]
  rfl

theorem Move.answer (h : Move b p evt payload w w' l) (hapi : evt.isApi = true)
    (hans : Answerable p w.state evt) :
    l = [evt] ∨ l = [] ∧ Deferred evt w'.state ∧
      (w'.state = .previewPicTaking → ¬p.Says .isRetroPicture false) := by
  cases h with
  | standard _ => exact .inl (SmEvt.due_of_api hapi)
  | stopped hw h | ready hw h | recording hw h =>
    cases h with
    | ignored => exact absurd (hw.symm.trans (hans.restart rfl)) (by decide)
    | _ => exact .inl rfl
  | previewing hw h =>
    cases h with
    | prepareSnapshot => exact .inr ⟨rfl, .prepareSnapshot, nofun⟩
    | retroPicture hrestart hmanual hretro =>
      obtain h | h | h := hans.retro rfl hw
      · exact absurd h hretro
      · exact absurd h hrestart
      · exact absurd h hmanual
    | retroBeside _ _ hretro _ => exact .inr ⟨rfl, .retroPicture, fun _ => hretro⟩
    | _ => exact .inl rfl
  | prepareSnapshot hw h =>
    cases h with
    | ignored hevt =>
      rw [mem_cons, mem_singleton] at hevt
      rcases hevt with rfl | rfl
      · exact absurd hw (hans.face rfl)
      · exact absurd (hw.symm.trans (hans.restart rfl)) (by decide)
    | internal _ | prepared _ | notify _ | daemonDied _ => exact Bool.noConfusion hapi
  | picTaking hw h =>
    cases h with
    | ignored => exact absurd (hw.symm.trans (hans.restart rfl)) (by decide)
    | notify _ | daemonDied _ | done _ | doneBeside _ _ | doneRestart _ _ _ =>
      exact Bool.noConfusion hapi
    | _ => exact .inl rfl
  | videoPicTaking hw h =>
    cases h with
    | ignored => exact absurd (hw.symm.trans (hans.restart rfl)) (by decide)
    | snapshotDone => exact Bool.noConfusion hapi
    | _ => exact .inl rfl
  | capture hw h =>
    cases h with
    | ignored => exact absurd (hw.symm.trans (hans.restart rfl)) (by decide)
    | retroSnapshot hretro =>
      rw [hw]
      exact .inr ⟨rfl, .retroSnapshot, fun _ => hretro⟩
    | internal _ _ | prepared _ | ready _ | unasked _ | notify _ | daemonDied _ | snapshotDone =>
      exact Bool.noConfusion hapi
    | _ => exact .inl rfl

theorem Move.unasked (h : Move b p evt payload w w' l) (hevt : evt.isApi = false) :
    l = [] ∨ Unasked p w.state payload evt l := by
  cases h with
  | standard _ => exact .inl (SmEvt.due_of_event hevt)
  | stopped hw h =>
    cases h with
    | ignored => exact .inl rfl
    | kept h | prepared h | started h | unprepared h =>
      exact absurd h (not_listed (by decide) hevt)
  | ready hw h =>
    cases h with
    | kept h | started h | unprepared h => exact absurd h (not_listed (by decide) hevt)
    | _ => exact Bool.noConfusion hevt
  | previewing hw h =>
    cases h with
    | down h | hintKept h => exact absurd h (not_listed (by decide) hevt)
    | _ => exact Bool.noConfusion hevt
  | prepareSnapshot hw h =>
    cases h with
    | prepared h => exact .inr (.prepared hw h)
    | daemonDied h =>
      rw [hw]
      exact .inr (.daemonDied (by decide) h)
    | internal _ | notify _ | ignored _ => exact .inl rfl
  | picTaking hw h =>
    cases h with
    | cancelled h => exact absurd h (not_listed (by decide) hevt)
    | daemonDied h =>
      rw [hw]
      exact .inr (.daemonDied (by decide) h)
    | stopCaptureChannel => exact .inr (.stopCaptureChannel hw)
    | sendCommand | longshotOff _ => exact Bool.noConfusion hevt
    | _ => exact .inl rfl
  | recording hw h =>
    cases h with
    | ignored => exact .inl rfl
    | _ => exact Bool.noConfusion hevt
  | videoPicTaking hw h =>
    cases h with
    | ignored | snapshotDone => exact .inl rfl
    | _ => exact Bool.noConfusion hevt
  | capture hw h =>
    cases h with
    | down h | kept h => exact absurd h (not_listed (by decide) hevt)
    | prepared h hretro => exact .inr (.retroPrepared hw h hretro)
    | ready h hretro => exact .inr (.retroReady hw h hretro)
    | daemonDied h =>
      rw [hw]
      exact .inr (.daemonDied (by decide) h)
    | retroDone hretro => exact .inr (.retroDone hw hretro)
    | internal _ _ | unasked _ | notify _ | snapshotDone | ignored | retroSnapshot _ =>
      exact .inl rfl
    | _ => exact Bool.noConfusion hevt

theorem Unasked.deferrable {m : SmState} (h : Unasked p m payload evt l) (he : e ∈ l)
    (hapi : e.isApi = true) : e ∈ SmEvt.deferrable := by
  cases h with
  | daemonDied _ _ => exact he
  | prepared _ _ | retroPrepared _ _ _ =>
    exact mem_cons.mpr (.inl (mem_singleton.mp he))
  | retroReady _ _ _ => exact mem_cons_of_mem _ he
  | stopCaptureChannel _ | retroDone _ _ =>
    rw [mem_singleton.mp he] at hapi
    exact Bool.noConfusion hapi

theorem Move.deferred_stays (h : Move b p evt payload w w' l)
    (hevt : evt.isApi = false) (he : Deferred e w.state)
    (hdone : evt = .snapshotDone → w.state ≠ .previewPicTaking) :
    e ∈ l ∨ w'.state = w.state := by
  cases h with
  | standard _ => exact .inr rfl
  | stopped hw _ | ready hw _ | previewing hw _ | picTaking hw _ | recording hw _
  | videoPicTaking hw _ =>
    rw [hw] at he
    cases he
  | prepareSnapshot hw h =>
    cases h with
    | prepared _ =>
      rw [hw] at he
      cases he with
      | prepareSnapshot => exact .inl (mem_singleton.mpr rfl)
    | _ => exact .inr rfl
  | capture hw h =>
    cases h with
    | down h | kept h => exact absurd h (not_listed (by decide) hevt)
    | snapshotDone | retroDone _ => exact absurd hw (hdone rfl)
    | internal _ _ | prepared _ | ready _ | unasked _ | notify _ | daemonDied _ | ignored =>
      exact .inr rfl
    | _ => exact Bool.noConfusion hevt

end Signals

/-- The state machine, the APIs that are queued for it, and the API whose result is waited for. -/
structure Session where
  machine : Machine
  queue : List (SmEvt × Payload)
  outstanding : Option SmEvt

/-- What happens in a session: an API is issued, the next API in the queue is handled, or a backend
event is. -/
inductive Deed
  | issue (evt : SmEvt) (payload : Payload)
  | api (p : Parent)
  | event (p : Parent) (evt : SmEvt) (payload : Payload)

namespace Session

def new (needsRestart delayedRestart : Bool) (msgEnabled : BitVec 32) : Session :=
  ⟨.new needsRestart delayedRestart msgEnabled, [], none⟩

/-- An event is handled, and whoever waits for one of the results is served. -/
def handle (b : Build) (p : Parent) (evt : SmEvt) (payload : Payload) (s : Session) : Session :=
  let machine := s.machine.handle b p evt payload
  { s with
    machine := machine
    outstanding := s.outstanding.filter
      (· ∉ machine.answers.drop s.machine.answers.length) }

/-- What may happen next. An API is issued only if no other is outstanding. -/
inductive Step (b : Build) : Deed → Session → Session → Prop
  | issue {s : Session} {evt : SmEvt} {payload : Payload} (hapi : evt.isApi = true)
      (hfree : s.outstanding = none) :
      Step b (.issue evt payload) s
        { s with queue := s.queue ++ [(evt, payload)], outstanding := some evt }
  | api {s : Session} {p : Parent} {evt : SmEvt} {payload : Payload}
      {rest : List (SmEvt × Payload)} (hqueue : s.queue = (evt, payload) :: rest) :
      Step b (.api p) s (handle b p evt payload { s with queue := rest })
  | event {s : Session} {p : Parent} {evt : SmEvt} {payload : Payload}
      (hevt : evt.isApi = false) : Step b (.event p evt payload) s (s.handle b p evt payload)

end Session

/-- No API is ignored, and no answer that is waited for is lost: the next API in the queue can be
answered in the state, and a capture is not done while an API waits. -/
def Deed.Regular : Deed → Session → Prop
  | .issue _ _, _ => True
  | .api p, s => ∀ q ∈ s.queue.head?, Answerable p s.machine.mState q.1
  | .event _ evt _, s => evt = .snapshotDone → s.machine.mState = .previewPicTaking →
      s.queue = [] → s.outstanding = none

namespace Session

def Clean (b : Build) (d : Deed) (s t : Session) : Prop := s.Step b d t ∧ d.Regular s

/-- The API is still to be handled, or it waits for a backend event. -/
inductive Waits (s : Session) (e : SmEvt) : Prop
  | queued (early : List (SmEvt × Payload)) (payload : Payload)
      (hqueue : s.queue = early ++ [(e, payload)])
      (hearly : ∀ q ∈ early, q.1 ∈ SmEvt.deferrable)
  | deferred (hqueue : s.queue = []) (h : Deferred e s.machine.mState)

/-- **The invariant.** Whatever else is in the queue has been answered by a backend event before it
was handled. -/
structure Inv (s : Session) : Prop where
  api : ∀ q ∈ s.queue, q.1.isApi = true
  waits : ∀ e, s.outstanding = some e → e.isApi = true ∧ s.Waits e
  early : s.outstanding = none → ∀ q ∈ s.queue, q.1 ∈ SmEvt.deferrable

/-- What a step signals. -/
inductive Told (s t : Session) : Deed → Prop
  | issue {evt : SmEvt} {payload : Payload} (h : t.machine = s.machine) :
      Told s t (.issue evt payload)
  | api {p : Parent} {evt : SmEvt} {payload : Payload} {rest : List (SmEvt × Payload)}
      {l : List SmEvt} (hqueue : s.queue = (evt, payload) :: rest)
      (hasked : s.outstanding = some evt ∧ rest = [] ∨ evt ∈ SmEvt.deferrable)
      (hl : t.machine.answers = s.machine.answers ++ l)
      (h : l = [evt] ∨ l = [] ∧ Deferred evt t.machine.mState ∧
        (t.machine.mState = .previewPicTaking → ¬p.Says .isRetroPicture false)) : Told s t (.api p)
  | event {p : Parent} {evt : SmEvt} {payload : Payload} {l : List SmEvt}
      (hl : t.machine.answers = s.machine.answers ++ l)
      (h : l = [] ∨ Unasked p s.machine.mState payload evt l) : Told s t (.event p evt payload)

def issued (e : SmEvt) : Deed → ℕ
  | .issue evt _ => if evt = e then 1 else 0
  | _ => 0

def count (e : SmEvt) (s : Session) : ℕ :=
  s.machine.answers.count e + if s.outstanding = some e then 1 else 0

section Handle

variable {b : Build} {p : Parent} {evt e : SmEvt} {payload : Payload} {s : Session}
  {l : List SmEvt}

theorem outstanding_handle (h : (s.machine.handle b p evt payload).answers =
    s.machine.answers ++ l) :
    (s.handle b p evt payload).outstanding = s.outstanding.filter (· ∉ l) := by
  show s.outstanding.filter _ = _
  rw [h, drop_left]

theorem outstanding_some (h : (s.machine.handle b p evt payload).answers =
    s.machine.answers ++ l) (ht : (s.handle b p evt payload).outstanding = some e) :
    s.outstanding = some e ∧ e ∉ l := by
  rw [outstanding_handle h, Option.filter_eq_some_iff] at ht
  exact ⟨ht.1, of_decide_eq_true ht.2⟩

theorem outstanding_none (h : (s.machine.handle b p evt payload).answers =
    s.machine.answers ++ l) (ht : (s.handle b p evt payload).outstanding = none) :
    s.outstanding = none ∨ ∃ e ∈ l, s.outstanding = some e := by
  rw [outstanding_handle h, Option.filter_eq_none_iff] at ht
  cases hout : s.outstanding with
  | none => exact .inl rfl
  | some e =>
    have hserved := ht e hout
    rw [decide_eq_true_eq, not_not] at hserved
    exact .inr ⟨e, hserved, rfl⟩

theorem Inv.asked {rest : List (SmEvt × Payload)} (hs : s.Inv)
    (hqueue : s.queue = (evt, payload) :: rest) :
    s.outstanding = some evt ∧ rest = [] ∨ evt ∈ SmEvt.deferrable := by
  have hmem : (evt, payload) ∈ s.queue := hqueue ▸ mem_cons_self
  cases hout : s.outstanding with
  | none => exact .inr (hs.early hout _ hmem)
  | some e =>
    cases (hs.waits e hout).2 with
    | queued early payload' hq hearly =>
      cases early with
      | nil =>
        rw [hqueue] at hq
        obtain ⟨hhead, hrest⟩ := cons.inj hq
        exact .inl ⟨congrArg some (congrArg Prod.fst hhead).symm, hrest⟩
      | cons q early =>
        rw [hqueue] at hq
        obtain ⟨hhead, _⟩ := cons.inj hq
        rw [forall_mem_cons, ← hhead] at hearly
        exact .inr hearly.1
    | deferred hq _ =>
      rw [hqueue] at hq
      exact absurd hq (cons_ne_nil _ _)

theorem Clean.told {d : Deed} {t : Session} (h : Clean b d s t) (hs : s.Inv) : Told s t d := by
  obtain ⟨h, hregular⟩ := h
  cases h with
  | issue hapi hfree => exact .issue rfl
  | api hqueue =>
    obtain ⟨l, hl, hmove⟩ := s.machine.handle_moves _ _ _ _
    have hapi := hs.api _ (hqueue ▸ mem_cons_self)
    have hans := hregular (_, _) (by rw [hqueue]; rfl)
    exact .api hqueue (hs.asked hqueue) hl (hmove.answer hapi hans)
  | event hevt =>
    obtain ⟨l, hl, hmove⟩ := s.machine.handle_moves _ _ _ _
    exact .event hl (hmove.unasked hevt)

theorem Inv.issue (hs : s.Inv) (hapi : evt.isApi = true) (hfree : s.outstanding = none) :
    Inv { s with queue := s.queue ++ [(evt, payload)], outstanding := some evt } where
  api := by
    intro q hq
    rcases mem_append.mp hq with hq | hq
    · exact hs.api q hq
    · rw [mem_singleton.mp hq]
      exact hapi
  waits := by
    rintro _ ⟨⟩
    exact ⟨hapi, .queued s.queue payload rfl (hs.early hfree)⟩
  early := nofun

theorem Inv.served (hs : s.Inv) (hout : s.outstanding = some e) (he : e ∈ SmEvt.deferrable)
    {q : SmEvt × Payload} (hq : q ∈ s.queue) : q.1 ∈ SmEvt.deferrable := by
  cases (hs.waits e hout).2 with
  | queued early payload hqueue hearly =>
    rw [hqueue, mem_append, mem_singleton] at hq
    rcases hq with hq | rfl
    · exact hearly q hq
    · exact he
  | deferred hqueue _ =>
    rw [hqueue] at hq
    exact absurd hq not_mem_nil

theorem Inv.handleApi {rest : List (SmEvt × Payload)} (hs : s.Inv)
    (hqueue : s.queue = (evt, payload) :: rest)
    (hl : (s.machine.handle b p evt payload).answers = s.machine.answers ++ l)
    (h : l = [evt] ∨ l = [] ∧ Deferred evt (s.machine.handle b p evt payload).mState) :
    Inv (handle b p evt payload { s with queue := rest }) := by
  have hl' : (({ s with queue := rest } : Session).machine.handle b p evt payload).answers =
      ({ s with queue := rest } : Session).machine.answers ++ l := hl
  have hrest : ∀ q ∈ rest, q ∈ s.queue := fun q hq => hqueue ▸ mem_cons_of_mem _ hq
  refine ⟨fun q hq => hs.api q (hrest q hq), ?_, ?_⟩
  · intro e he
    obtain ⟨hout, hunserved⟩ := outstanding_some hl' he
    refine ⟨(hs.waits e hout).1, ?_⟩
    cases (hs.waits e hout).2 with
    | queued early payload' hq hearly =>
      rw [hqueue] at hq
      cases early with
      | nil =>
        -- the API itself is handled, and waits
        obtain ⟨hhead, hnil⟩ := cons.inj hq
        obtain ⟨rfl, rfl⟩ := Prod.mk.inj hhead
        rcases h with rfl | ⟨_, hdeferred⟩
        · exact absurd (mem_singleton.mpr rfl) hunserved
        · exact .deferred hnil hdeferred
      | cons q early =>
        obtain ⟨_, hq⟩ := cons.inj hq
        exact .queued early payload' hq fun q hq => hearly q (mem_cons_of_mem _ hq)
    | deferred hq _ =>
      rw [hqueue] at hq
      exact absurd hq (cons_ne_nil _ _)
  · intro hnone q hq
    rcases outstanding_none hl' hnone with hout | ⟨e, hserved, hout⟩
    · exact hs.early hout q (hrest q hq)
    · rcases h with rfl | ⟨rfl, _⟩
      · rw [mem_singleton] at hserved
        subst hserved
        rcases hs.asked hqueue with ⟨_, rfl⟩ | hdeferrable
        · exact absurd hq not_mem_nil
        · exact hs.served hout hdeferrable (hrest q hq)
      · exact absurd hserved not_mem_nil

theorem Inv.handleEvent (hs : s.Inv)
    (hl : (s.machine.handle b p evt payload).answers = s.machine.answers ++ l)
    (h : l = [] ∨ Unasked p s.machine.mState payload evt l)
    (hstays : ∀ e, Deferred e s.machine.mState → s.queue = [] → s.outstanding = some e →
      e ∈ l ∨ (s.machine.handle b p evt payload).mState = s.machine.mState) :
    Inv (s.handle b p evt payload) := by
  refine ⟨hs.api, ?_, ?_⟩
  · intro e he
    obtain ⟨hout, hunserved⟩ := outstanding_some hl he
    refine ⟨(hs.waits e hout).1, ?_⟩
    cases (hs.waits e hout).2 with
    | queued early payload' hq hearly => exact .queued early payload' hq hearly
    | deferred hq hdeferred =>
      obtain hserved | hstate := hstays e hdeferred hq hout
      · exact absurd hserved hunserved
      · exact .deferred hq (hstate ▸ hdeferred)
  · intro hnone q hq
    rcases outstanding_none hl hnone with hout | ⟨e, hserved, hout⟩
    · exact hs.early hout q hq
    · -- the API has been answered before it was handled
      rcases h with rfl | hunasked
      · exact absurd hserved not_mem_nil
      · exact hs.served hout (hunasked.deferrable hserved (hs.waits e hout).1) hq

theorem Inv.step {d : Deed} {t : Session} (hs : s.Inv) (h : Clean b d s t) : t.Inv := by
  obtain ⟨h, hregular⟩ := h
  cases h with
  | issue hapi hfree => exact hs.issue hapi hfree
  | api hqueue =>
    obtain ⟨l, hl, hmove⟩ := s.machine.handle_moves _ _ _ _
    have hapi := hs.api _ (hqueue ▸ mem_cons_self)
    have hans := hregular (_, _) (by rw [hqueue]; rfl)
    refine hs.handleApi hqueue hl ?_
    exact (hmove.answer hapi hans).imp_right fun h => ⟨h.1, h.2.1⟩
  | event hevt =>
    obtain ⟨l, hl, hmove⟩ := s.machine.handle_moves _ _ _ _
    refine hs.handleEvent hl (hmove.unasked hevt) fun e he hqueue hout => ?_
    refine hmove.deferred_stays hevt he fun hdone hstate => ?_
    have hnone := hregular hdone hstate hqueue
    rw [hout] at hnone
    cases hnone

end Handle

section Run

variable {b : Build} {needsRestart delayedRestart : Bool} {msgEnabled : BitVec 32}
  {ds : List Deed} {s : Session}

end Run

end Session

end QCamera
