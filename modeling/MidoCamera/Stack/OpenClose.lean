import MidoCamera.Stack.Handles
import Mathlib.Order.Nat

/-!
# Opening and closing a camera

`camera_open` and `mm_camera_intf_close` of one camera index, called by any number of threads. A
camera that is open is shared: the second opener takes a reference. But the first one releases
`g_intf_lock` while it opens the device, and enters its object in the table only afterwards, so an
opener that comes in between opens a camera of its own.

A step is what a thread does between two operations on `g_intf_lock` and `cam_lock`. The handles of
other objects are generated at any time.
-/

namespace MmCamera

open Loop Function Option

variable {o : CamId} {v w : CamView}

abbrev Tid := ℕ

/-- A pointer to an `mm_camera_obj_t`. -/
abbrev CamId := ℕ

/-- `mm_camera_obj_t`. -/
structure CamObj where
  refCount : ℕ
  myHdl : ℕ
  camLock : Option Tid
  deriving DecidableEq, Repr

/-- Where a thread is. In `camera_open`: at the lock, at the table, on its way out with the
reference it took, on its way to `cam_lock` and out with the object it made, in `mm_camera_open`,
back at the lock and at the table. In `mm_camera_intf_close`: at the lock, at the table, on its way
to `cam_lock` and out with the object it is to destroy, in `mm_camera_close`, and before the
`free`. `leaving` has the lock and returns. -/
inductive OpenPc
  | idle
  | openWait
  | openTable
  | openShared
  | openVtbl
  | openMade (o : CamId)
  | openLocked (o : CamId)
  | openDevice (o : CamId)
  | openReturn (o : CamId) (ok : Bool)
  | openSettle (o : CamId) (ok : Bool)
  | closeWait (camHandle : ℕ)
  | closeTable (camHandle : ℕ)
  | closeLast (o : CamId)
  | closeLocked (o : CamId)
  | closeDevice (o : CamId)
  | closeFree (o : CamId)
  | leaving
  deriving DecidableEq, Repr

/-- The camera object a thread has made and not yet entered in the table. -/
def OpenPc.opening : OpenPc → Option CamId
  | .openMade o | .openLocked o | .openDevice o | .openReturn o _ | .openSettle o _ => some o
  | _ => none

/-- The camera object a thread has taken from the table to destroy it. -/
def OpenPc.destroying : OpenPc → Option CamId
  | .closeLast o | .closeLocked o | .closeDevice o | .closeFree o => some o
  | _ => none

/-- One index of the camera table: its entry, the objects that are allocated, `g_intf_lock`,
`g_handler_history_count`, the threads, and the table each open was last given to call. The last
two fields count the opens and the closes that succeeded. -/
structure CamIndex where
  idx : ℕ
  numCam : ℕ
  maxNumSensors : ℕ
  camObj : Option CamId
  heap : CamId → Option CamObj
  next : CamId
  intfLock : Option Tid
  historyCount : ℕ
  pc : Tid → OpenPc
  vtbl : Tid → Option CamId
  opens : ℕ
  closes : ℕ

/-- No camera is open, and no call has been made. -/
def CamIndex.boot (idx numCam maxNumSensors historyCount : ℕ) : CamIndex where
  idx := idx
  numCam := numCam
  maxNumSensors := maxNumSensors
  camObj := none
  heap := fun _ => none
  next := 0
  intfLock := none
  historyCount := historyCount
  pc := fun _ => .idle
  vtbl := fun _ => none
  opens := 0
  closes := 0

namespace CamIndex

def goto (s : CamIndex) (t : Tid) (pc : OpenPc) : CamIndex :=
  { s with pc := update s.pc t pc }

/-- A thread takes `g_intf_lock` and moves on. -/
def lockIntf (s : CamIndex) (t : Tid) (pc : OpenPc) : Option CamIndex :=
  if s.intfLock = none then some { s.goto t pc with intfLock := some t } else none

/-- A thread releases `g_intf_lock` and moves on. -/
def unlockIntf (s : CamIndex) (t : Tid) (pc : OpenPc) : CamIndex :=
  { s.goto t pc with intfLock := none }

def setObj (s : CamIndex) (o : CamId) (obj : Option CamObj) : CamIndex :=
  { s with heap := update s.heap o obj }

/-- A thread takes the `cam_lock` of an object and moves on. -/
def lockCam (s : CamIndex) (t : Tid) (o : CamId) (pc : OpenPc) : Option CamIndex :=
  match s.heap o with
  | some obj =>
    if obj.camLock = none then some ((s.setObj o (some { obj with camLock := some t })).goto t pc)
    else none
  | none => none

/-- A thread releases the `cam_lock` of an object and moves on. -/
def unlockCam (s : CamIndex) (t : Tid) (o : CamId) (pc : OpenPc) : Option CamIndex :=
  match s.heap o with
  | some obj => some ((s.setObj o (some { obj with camLock := none })).goto t pc)
  | none => none

/-- What `camera_open` does at the table: it takes a reference, or makes an object, which can
fail. -/
def openTable (s : CamIndex) (t : Tid) (ok : Bool) : Option CamIndex :=
  match s.camObj with
  | some o =>
    match s.heap o with
    | some obj =>
      some { (s.setObj o (some { obj with refCount := obj.refCount + 1 })).goto t .openShared with
        opens := s.opens + 1 }
    | none => none
  | none =>
    if ok then
      let (myHdl, historyCount) := generateHandler s.idx s.historyCount
      some { (s.setObj s.next (some ⟨1, myHdl, none⟩)).goto t (.openMade s.next) with
        next := s.next + 1
        historyCount := historyCount }
    else some (s.goto t .leaving)

/-- What `camera_open` does at the table when it is back from the device: it enters its object, or
frees it and empties the entry. -/
def openSettle (s : CamIndex) (t : Tid) (o : CamId) (ok : Bool) : CamIndex :=
  if ok then
    { s.goto t .leaving with
      camObj := some o
      vtbl := update s.vtbl t (some o)
      opens := s.opens + 1 }
  else
    { (s.setObj o none).goto t .leaving with
      camObj := none
      vtbl := update s.vtbl t none }

def getCameraByHandler (s : CamIndex) (camHandle : ℕ) : Option CamId :=
  if getIndexByHandler camHandle = s.idx ∧ s.idx < s.maxNumSensors then
    s.camObj.filter fun o => (s.heap o).any fun obj => camHandle == obj.myHdl
  else none

/-- What `mm_camera_intf_close` does at the table: it gives up a reference, and empties the entry
with the last one. -/
def closeTable (s : CamIndex) (t : Tid) (camHandle : ℕ) : Option CamIndex :=
  match s.getCameraByHandler camHandle with
  | some o =>
    match s.heap o with
    | some obj =>
      let refCount := obj.refCount - 1
      let s := { s.setObj o (some { obj with refCount := refCount }) with closes := s.closes + 1 }
      if 0 < refCount then some (s.goto t .leaving)
      else some { s.goto t (.closeLast o) with camObj := none }
    | none => none
  | none => some (s.goto t .leaving)

end CamIndex

/-- A thread calls `camera_open` or `mm_camera_intf_close`, or goes on in one; `ok` says whether
what it does next succeeds, where it can fail. Or a handle is generated for another object. -/
inductive OpenEvent
  | callOpen (t : Tid)
  | callClose (t : Tid) (camHandle : ℕ)
  | run (t : Tid) (ok : Bool)
  | generate (index : ℕ)
  deriving DecidableEq, Repr

/-- What a step does, if it can be taken. -/
def OpenEvent.exec : OpenEvent → CamIndex → Option CamIndex
  | .callOpen t, s =>
    if s.pc t = .idle then
      if s.numCam ≤ s.idx then some s else some (s.goto t .openWait)
    else none
  | .callClose t camHandle, s =>
    if s.pc t = .idle then some (s.goto t (.closeWait camHandle)) else none
  | .generate index, s =>
    some { s with historyCount := (generateHandler index s.historyCount).2 }
  | .run t ok, s =>
    match s.pc t with
    | .idle => none
    | .openWait => s.lockIntf t .openTable
    | .openTable => s.openTable t ok
    | .openShared => some (s.unlockIntf t .openVtbl)
    -- the entry is read again after the lock has been released
    | .openVtbl => some { s.goto t .idle with vtbl := update s.vtbl t s.camObj }
    | .openMade o => s.lockCam t o (.openLocked o)
    | .openLocked o => some (s.unlockIntf t (.openDevice o))
    -- `mm_camera_open`, which releases `cam_lock` whether it succeeds or not
    | .openDevice o => s.unlockCam t o (.openReturn o ok)
    | .openReturn o opened => s.lockIntf t (.openSettle o opened)
    | .openSettle o opened => some (s.openSettle t o opened)
    | .closeWait camHandle => s.lockIntf t (.closeTable camHandle)
    | .closeTable camHandle => s.closeTable t camHandle
    | .closeLast o => s.lockCam t o (.closeLocked o)
    | .closeLocked o => some (s.unlockIntf t (.closeDevice o))
    -- `mm_camera_close`, which releases `cam_lock`
    | .closeDevice o => s.unlockCam t o (.closeFree o)
    | .closeFree o => some ((s.setObj o none).goto t .idle)
    | .leaving => some (s.unlockIntf t .idle)

def OpenEvent.Step (e : OpenEvent) (s t : CamIndex) : Prop := e.exec s = some t

/-- The condition: an open that finds the entry empty makes an object only if no other open has
made one that it has not entered in the table yet. -/
def OpenEvent.Cond (e : OpenEvent) (s : CamIndex) : Prop :=
  ∀ t, e = .run t true → s.pc t = .openTable → s.camObj = none → ∀ u, (s.pc u).opening = none

def OpenEvent.CleanStep (e : OpenEvent) (s t : CamIndex) : Prop := e.Cond s ∧ e.Step s t

def CamIndex.Live (s : CamIndex) (o : CamId) : Prop :=
  ∃ obj, s.heap o = some obj ∧ 0 < obj.refCount

/-! ## The custody of the objects -/

/-- What the steps are about: the entry, the references of the objects that are allocated, the
threads that have made an object or are to destroy one, and the counts of opens and closes. -/
structure CamView where
  camObj : Option CamId
  count : CamId → Option ℕ
  next : CamId
  opening : Tid → Option CamId
  destroying : Tid → Option CamId
  opens : ℕ
  closes : ℕ

/-- The custody in a state. -/
def CamIndex.view (s : CamIndex) : CamView where
  camObj := s.camObj
  count o := (s.heap o).map CamObj.refCount
  next := s.next
  opening t := (s.pc t).opening
  destroying t := (s.pc t).destroying
  opens := s.opens
  closes := s.closes

/-- What a step can do to the custody: nothing, or one of the steps at the table, or a `free`. -/
inductive CamView.Step (v : CamView) : CamView → Prop
  | quiet : Step v v
  | share {o : CamId} {n : ℕ} (entry : v.camObj = some o) (held : v.count o = some n) :
      Step v { v with
        count := update v.count o (some (n + 1))
        opens := v.opens + 1 }
  | make {t : Tid} (entry : v.camObj = none) (alone : ∀ u, v.opening u = none) :
      Step v { v with
        count := update v.count v.next (some 1)
        next := v.next + 1
        opening := update v.opening t (some v.next) }
  | enter {t : Tid} {o : CamId} (made : v.opening t = some o) :
      Step v { v with
        camObj := some o
        opening := update v.opening t none
        opens := v.opens + 1 }
  | discard {t : Tid} {o : CamId} (made : v.opening t = some o) :
      Step v { v with
        camObj := none
        count := update v.count o none
        opening := update v.opening t none }
  | giveUp {o : CamId} {n : ℕ} (entry : v.camObj = some o) (held : v.count o = some (n + 2)) :
      Step v { v with
        count := update v.count o (some (n + 1))
        closes := v.closes + 1 }
  | last {t : Tid} {o : CamId} (entry : v.camObj = some o) (held : v.count o = some 1)
      (free : v.destroying t = none) :
      Step v { v with
        camObj := none
        count := update v.count o (some 0)
        destroying := update v.destroying t (some o)
        closes := v.closes + 1 }
  | free {t : Tid} {o : CamId} (taken : v.destroying t = some o) :
      Step v { v with
        count := update v.count o none
        destroying := update v.destroying t none }

/-- **The custody invariant**: an object is in the table, or one thread has made it, or one thread
is to destroy it; the object in the table has the opens that were not closed as its references. -/
structure CamView.Kept (v : CamView) : Prop where
  fresh : ∀ o, v.next ≤ o → v.count o = none
  made : ∀ t o, v.opening t = some o → v.count o = some 1 ∧ v.camObj = none
  maker : ∀ t u o p, v.opening t = some o → v.opening u = some p → t = u
  taken : ∀ t o, v.destroying t = some o → v.count o = some 0
  taker : ∀ t u o, v.destroying t = some o → v.destroying u = some o → t = u
  entry : ∀ o, v.camObj = some o → ∃ n, v.count o = some (n + 1) ∧ n + 1 + v.closes = v.opens
  empty : v.camObj = none → v.opens = v.closes
  owned : ∀ o n, v.count o = some n →
    v.camObj = some o ∨ (∃ t, v.opening t = some o) ∨ ∃ t, v.destroying t = some o

theorem exists_update_of_ne {f : Tid → Option CamId} {t : Tid} {x : Option CamId}
    (h : ∃ u, f u = some o) (hne : f t ≠ some o) : ∃ u, update f t x u = some o := by
  obtain ⟨u, hu⟩ := h
  refine ⟨u, ?_⟩
  rw [update_of_ne]
  · exact hu
  · rintro rfl
    exact hne hu

theorem exists_update_self (f : Tid → Option CamId) (t : Tid) (o : CamId) :
    ∃ u, update f t (some o) u = some o := ⟨t, update_self ..⟩

/-- **Every step keeps the custody.** What changes hands in the step is what its case of `owned`
speaks of; everything else concerns objects and threads the step leaves alone. -/
theorem CamView.Kept.step (h : v.Step w) (hv : v.Kept) : w.Kept := by
  obtain ⟨fresh, made, maker, taken, taker, entry, empty, owned⟩ := hv
  cases h with
  | quiet => exact ⟨fresh, made, maker, taken, taker, entry, empty, owned⟩
  | @share o n hentry held | @discard t o hmade | @giveUp o n hentry held => constructor <;> grind
  | @make t hentry alone =>
    constructor
    case owned =>
      intro p m hp
      dsimp only at hp ⊢
      by_cases ho : p = v.next
      · subst ho
        exact .inr (.inl (exists_update_self _ _ _))
      · rw [update_of_ne ho] at hp
        rcases owned p m hp with h | ⟨u, hu⟩ | h
        · exact .inl h
        · rw [alone u] at hu
          cases hu
        · exact .inr (.inr h)
    all_goals grind
  | @enter t o hmade =>
    -- the entry was empty, so the opens were all closed, and this one is the first
    have hempty : v.camObj = none := (made t o hmade).2
    have hcount : v.count o = some 1 := (made t o hmade).1
    have hbalance := empty hempty
    constructor
    case owned =>
      intro p m hp
      rcases owned p m hp with h | ⟨u, hu⟩ | h
      · rw [hempty] at h
        cases h
      · obtain rfl := maker t u o p hmade hu
        rw [hmade] at hu
        exact .inl hu
      · exact .inr (.inr h)
    all_goals grind
  | @last t o hentry held hfree =>
    obtain ⟨n, hn, hbalance⟩ := entry o hentry
    constructor
    case owned =>
      intro p m hp
      dsimp only at hp ⊢
      by_cases ho : p = o
      · subst ho
        exact .inr (.inr (exists_update_self _ _ _))
      · rw [update_of_ne ho] at hp
        rcases owned p m hp with h | h | h
        · rw [hentry] at h
          exact absurd (some.inj h).symm ho
        · exact .inr (.inl h)
        · refine .inr (.inr (exists_update_of_ne h ?_))
          rw [hfree]
          exact (nomatch ·)
    all_goals grind
  | @free t o htaken =>
    have hzero : v.count o = some 0 := taken t o htaken
    constructor
    case owned =>
      intro p m hp
      dsimp only at hp ⊢
      by_cases ho : p = o
      · subst ho
        rw [update_self] at hp
        cases hp
      · rw [update_of_ne ho] at hp
        rcases owned p m hp with h | h | h
        · exact .inl h
        · exact .inr (.inl h)
        · refine .inr (.inr (exists_update_of_ne h ?_))
          rw [htaken]
          exact fun he => ho (some.inj he).symm
    all_goals grind

/-! ## The steps of the code are steps of the custody -/

section Refinement

variable {s s' : CamIndex} {t : Tid}

theorem CamView.eq_of (hc : v.count = w.count) (ho : v.opening = w.opening)
    (hd : v.destroying = w.destroying) (hrest : { v with
      count := w.count, opening := w.opening, destroying := w.destroying } = w) : v = w := by
  rw [← hrest, ← hc, ← ho, ← hd]

theorem setObj_count (s : CamIndex) (o : CamId) (obj : Option CamObj) :
    (s.setObj o obj).view.count =
      update s.view.count o (obj.map CamObj.refCount) := by
  ext1 p
  by_cases hp : p = o
  · subst hp
    simp [CamIndex.view, CamIndex.setObj]
  · simp [CamIndex.view, CamIndex.setObj, hp]

theorem goto_opening (s : CamIndex) (t : Tid) (pc : OpenPc) :
    (s.goto t pc).view.opening = update s.view.opening t pc.opening := by
  ext1 u
  by_cases hu : u = t
  · subst hu
    simp [CamIndex.view, CamIndex.goto]
  · simp [CamIndex.view, CamIndex.goto, hu]

theorem goto_destroying (s : CamIndex) (t : Tid) (pc : OpenPc) :
    (s.goto t pc).view.destroying = update s.view.destroying t pc.destroying := by
  ext1 u
  by_cases hu : u = t
  · subst hu
    simp [CamIndex.view, CamIndex.goto]
  · simp [CamIndex.view, CamIndex.goto, hu]

theorem goto_opening_eq {pc : OpenPc} (h : pc.opening = (s.pc t).opening) :
    (s.goto t pc).view.opening = s.view.opening := by
  rw [goto_opening, h]
  exact update_eq_self t s.view.opening

theorem goto_destroying_eq {pc : OpenPc} (h : pc.destroying = (s.pc t).destroying) :
    (s.goto t pc).view.destroying = s.view.destroying := by
  rw [goto_destroying, h]
  exact update_eq_self t s.view.destroying

theorem goto_view {pc : OpenPc} (ho : pc.opening = (s.pc t).opening)
    (hd : pc.destroying = (s.pc t).destroying) : (s.goto t pc).view = s.view :=
  CamView.eq_of rfl (goto_opening_eq ho) (goto_destroying_eq hd) rfl

theorem lockIntf_view {pc : OpenPc} (ho : pc.opening = (s.pc t).opening)
    (hd : pc.destroying = (s.pc t).destroying) (h : s.lockIntf t pc = some s') :
    s'.view = s.view := by
  unfold CamIndex.lockIntf at h
  split_ifs at h
  cases h
  exact goto_view ho hd

theorem unlockIntf_view {pc : OpenPc} (ho : pc.opening = (s.pc t).opening)
    (hd : pc.destroying = (s.pc t).destroying) : (s.unlockIntf t pc).view = s.view :=
  goto_view ho hd

theorem setLock_view {obj : CamObj} (h : s.heap o = some obj) (lock : Option Tid) :
    (s.setObj o (some { obj with camLock := lock })).view = s.view := by
  have hcount : s.view.count o = some obj.refCount := congrArg (Option.map CamObj.refCount) h
  refine CamView.eq_of ?_ rfl rfl rfl
  rw [setObj_count, map_some, ← hcount]
  exact update_eq_self o s.view.count

theorem lockCam_view {pc : OpenPc} (ho : pc.opening = (s.pc t).opening)
    (hd : pc.destroying = (s.pc t).destroying) (h : s.lockCam t o pc = some s') :
    s'.view = s.view := by
  unfold CamIndex.lockCam at h
  split at h
  · next obj hobj =>
    split_ifs at h
    cases h
    rw [goto_view]
    · exact setLock_view hobj _
    · exact ho
    · exact hd
  · cases h

theorem unlockCam_view {pc : OpenPc} (ho : pc.opening = (s.pc t).opening)
    (hd : pc.destroying = (s.pc t).destroying) (h : s.unlockCam t o pc = some s') :
    s'.view = s.view := by
  unfold CamIndex.unlockCam at h
  split at h
  · next obj hobj =>
    cases h
    rw [goto_view]
    · exact setLock_view hobj _
    · exact ho
    · exact hd
  · cases h

theorem view_count {obj : CamObj} (h : s.heap o = some obj) :
    s.view.count o = some obj.refCount := congrArg (Option.map CamObj.refCount) h

theorem CamView.Step.of_eq {u : CamView} (h : v.Step u) (hc : w.count = u.count)
    (ho : w.opening = u.opening) (hd : w.destroying = u.destroying) (hrest : { w with
      count := u.count, opening := u.opening, destroying := u.destroying } = u) : v.Step w := by
  rw [CamView.eq_of hc ho hd hrest]
  exact h

theorem openTable_view {ok : Bool} (hpc : s.pc t = .openTable)
    (hcond : ok = true → s.camObj = none → ∀ u, (s.pc u).opening = none)
    (h : s.openTable t ok = some s') : s.view.Step s'.view := by
  have hopening : none = (s.pc t).opening := by rw [hpc]; rfl
  have hdestroying : none = (s.pc t).destroying := by rw [hpc]; rfl
  unfold CamIndex.openTable at h
  split at h
  · next o hentry =>
    split at h
    · next obj hobj =>
      cases h
      exact (CamView.Step.share hentry (view_count hobj)).of_eq (setObj_count s o _)
        (goto_opening_eq hopening) (goto_destroying_eq hdestroying) rfl
    · cases h
  · next hentry =>
    split_ifs at h with hok
    · cases h
      exact (CamView.Step.make hentry (hcond hok hentry)).of_eq (setObj_count s s.next _)
        (goto_opening _ t _) (goto_destroying_eq hdestroying) rfl
    · cases h
      rw [goto_view]
      · exact .quiet
      · exact hopening
      · exact hdestroying

theorem openSettle_view {opened : Bool} (hpc : s.pc t = .openSettle o opened) :
    s.view.Step (s.openSettle t o opened).view := by
  have hmade : s.view.opening t = some o := by
    change (s.pc t).opening = some o
    rw [hpc]
    rfl
  have hdestroying : none = (s.pc t).destroying := by rw [hpc]; rfl
  unfold CamIndex.openSettle
  split_ifs
  · exact (CamView.Step.enter hmade).of_eq rfl (goto_opening s t _)
      (goto_destroying_eq hdestroying) rfl
  · exact (CamView.Step.discard hmade).of_eq (setObj_count s o none) (goto_opening _ t _)
      (goto_destroying_eq hdestroying) rfl

theorem getCameraByHandler_camObj {camHandle : ℕ}
    (h : s.getCameraByHandler camHandle = some o) : s.camObj = some o := by
  unfold CamIndex.getCameraByHandler at h
  split_ifs at h
  exact (filter_eq_some_iff.mp h).1

theorem closeTable_view {camHandle : ℕ} (hs : s.view.Kept)
    (hpc : s.pc t = .closeTable camHandle) (h : s.closeTable t camHandle = some s') :
    s.view.Step s'.view := by
  have hopening : none = (s.pc t).opening := by rw [hpc]; rfl
  have hdestroying : none = (s.pc t).destroying := by rw [hpc]; rfl
  unfold CamIndex.closeTable at h
  split at h
  · next o hget =>
    have hentry := getCameraByHandler_camObj hget
    split at h
    · next obj hobj =>
      -- an object in the table has a reference, so that the count does not go below zero
      obtain ⟨n, hn, -⟩ := hs.entry o hentry
      have hcount := view_count hobj
      rw [hcount] at hn
      obtain ⟨refCount, myHdl, camLock⟩ := obj
      obtain rfl : refCount = n + 1 := some.inj hn
      dsimp only at h
      split_ifs at h with hlast
      · cases h
        obtain ⟨m, rfl⟩ : ∃ m, n = m + 1 := ⟨n - 1, by omega⟩
        exact (CamView.Step.giveUp hentry hcount).of_eq (setObj_count s o _)
          (goto_opening_eq hopening) (goto_destroying_eq hdestroying) rfl
      · cases h
        obtain rfl : n = 0 := by omega
        exact (CamView.Step.last hentry hcount hdestroying.symm).of_eq (setObj_count s o _)
          (goto_opening_eq hopening) (goto_destroying _ t _) rfl
    · cases h
  · cases h
    rw [goto_view]
    · exact .quiet
    · exact hopening
    · exact hdestroying

/-- **A step of the code is a step of the custody.** -/
theorem OpenEvent.CleanStep.view {e : OpenEvent} (hs : s.view.Kept) (h : e.CleanStep s s') :
    s.view.Step s'.view := by
  obtain ⟨hcond, h⟩ := h
  have quiet : s'.view = s.view → s.view.Step s'.view := fun he => he ▸ .quiet
  -- only the table steps and the settling and freeing of an object change the view
  cases e with
  | callOpen t =>
    change (if s.pc t = .idle then _ else none) = some s' at h
    split_ifs at h with hpc hidx
    · cases h
      exact .quiet
    · cases h
      exact quiet (goto_view (by rw [hpc]; rfl) (by rw [hpc]; rfl))
  | callClose t camHandle =>
    change (if s.pc t = .idle then _ else none) = some s' at h
    split_ifs at h with hpc
    cases h
    exact quiet (goto_view (by rw [hpc]; rfl) (by rw [hpc]; rfl))
  | generate index =>
    cases h
    exact .quiet
  | run t ok =>
    change OpenEvent.exec (.run t ok) s = some s' at h
    unfold OpenEvent.exec at h
    cases hpc : s.pc t with
    | idle => simp [hpc] at h
    | openWait | openReturn o opened | closeWait camHandle =>
      simp only [hpc] at h
      exact quiet (lockIntf_view (by rw [hpc]; rfl) (by rw [hpc]; rfl) h)
    | openTable =>
      simp only [hpc] at h
      exact openTable_view hpc (fun hok => by subst hok; exact hcond t rfl hpc) h
    | openShared | openLocked o | closeLocked o | leaving =>
      simp only [hpc] at h
      cases h
      exact quiet (unlockIntf_view (by rw [hpc]; rfl) (by rw [hpc]; rfl))
    | openVtbl =>
      simp only [hpc] at h
      cases h
      exact quiet (@goto_view s t .idle (by rw [hpc]; rfl) (by rw [hpc]; rfl))
    | openMade o | closeLast o =>
      simp only [hpc] at h
      exact quiet (lockCam_view (by rw [hpc]; rfl) (by rw [hpc]; rfl) h)
    | openDevice o | closeDevice o =>
      simp only [hpc] at h
      exact quiet (unlockCam_view (by rw [hpc]; rfl) (by rw [hpc]; rfl) h)
    | openSettle o opened =>
      simp only [hpc] at h
      cases h
      exact openSettle_view hpc
    | closeTable camHandle =>
      simp only [hpc] at h
      exact closeTable_view hs hpc h
    | closeFree o =>
      simp only [hpc] at h
      cases h
      have htaken : s.view.destroying t = some o := by
        change (s.pc t).destroying = some o
        rw [hpc]
        rfl
      exact (CamView.Step.free htaken).of_eq (setObj_count s o none)
        (goto_opening_eq (by rw [CamIndex.setObj, hpc]; rfl)) (goto_destroying _ t _) rfl

end Refinement

section Runs

variable {s s' : CamIndex} {idx numCam maxNumSensors historyCount : ℕ}

/-- **Two cameras of one index are open**: the second thread finds the entry empty while the first
opens the device. Both opens succeed, the object in the table has one reference for the two of
them, and the other object is lost. -/
theorem camera_doubled :
    ∃ s, Run OpenEvent.Step
        ((.callOpen 0 :: List.replicate 4 (.run 0 true)) ++
          (.callOpen 1 :: List.replicate 4 (.run 1 true)) ++
          (List.replicate 4 (.run 0 true) ++ List.replicate 4 (.run 1 true)))
        (.boot 0 2 5 0) s ∧
      s.Live 0 ∧ s.Live 1 ∧ s.camObj = some 1 ∧
      (s.heap 1).map CamObj.refCount = some 1 ∧ s.opens = 2 ∧ s.closes = 0 := by
  refine ⟨_, .cons rfl (.cons rfl (.cons rfl (.cons rfl (.cons rfl (.cons rfl (.cons rfl
    (.cons rfl (.cons rfl (.cons rfl (.cons rfl (.cons rfl (.cons rfl (.cons rfl (.cons rfl
    (.cons rfl (.cons rfl (.one rfl))))))))))))))))), ?_⟩
  exact ⟨⟨_, rfl, Nat.one_pos⟩, ⟨_, rfl, Nat.one_pos⟩, rfl, rfl, rfl, rfl⟩

theorem boot_kept (idx numCam maxNumSensors historyCount : ℕ) :
    (CamIndex.boot idx numCam maxNumSensors historyCount).view.Kept := by
  constructor
  case fresh => exact fun _ _ => rfl
  case empty => exact fun _ => rfl
  all_goals
    intros
    simp_all [CamIndex.view, CamIndex.boot, OpenPc.opening, OpenPc.destroying]

theorem kept_run {es : List OpenEvent} (h : Run OpenEvent.CleanStep es s s') (hs : s.view.Kept) :
    s'.view.Kept :=
  h.invariant (I := fun s => s.view.Kept) (fun _ _ _ hstep hi => hi.step (hstep.view hi)) hs

theorem CamView.Step.freed {n : ℕ} (hv : v.Kept) (h : v.Step w)
    (hn : v.count o = some n) (hw : w.count o = none) : n = 0 ∨ ∃ t, v.opening t = some o := by
  have hlost : ∀ {p : CamId} {x : Option ℕ}, update v.count p x o = none → p = o := by
    intro p x hx
    by_contra hp
    rw [update_of_ne fun he => hp he.symm, hn] at hx
    cases hx
  cases h with
  | quiet | enter =>
    rw [hn] at hw
    cases hw
  | share entry held | make entry alone | giveUp entry held | last entry held free =>
    obtain rfl := hlost hw
    simp at hw
  | discard made =>
    obtain rfl := hlost hw
    exact .inr ⟨_, made⟩
  | free taken =>
    obtain rfl := hlost hw
    have hzero := hv.taken _ _ taken
    rw [hn] at hzero
    exact .inl (some.inj hzero)

/-- **One camera of an index**, in every state of every run in which no open makes an object while
another open has one under way:

* there is at most one object with references;
* it is in the table, and its references are the opens that succeeded less the closes; or its open
  is under way, its one reference is that of this open, and no other is left;
* an object has no references exactly while a thread destroys it, and only one thread does;
* an object that a step frees has no references, or its open fails in this step;
* and a step that does not meet the condition makes a second object with references. -/
theorem camera_counted {es : List OpenEvent}
    (h : Run OpenEvent.CleanStep es (.boot idx numCam maxNumSensors historyCount) s) :
    (∀ o p, s.Live o → s.Live p → o = p) ∧
    ((∀ o obj, s.heap o = some obj → 0 < obj.refCount →
      s.camObj = some o ∧ obj.refCount + s.closes = s.opens ∨
        (∃ t, (s.pc t).opening = some o) ∧ obj.refCount = 1 ∧ s.opens = s.closes) ∧
      (s.camObj = none → s.opens = s.closes) ∧ ∀ o, s.camObj = some o → s.Live o) ∧
    ((∀ o obj, s.heap o = some obj →
      (obj.refCount = 0 ↔ ∃ t, (s.pc t).destroying = some o)) ∧
      ∀ t u o, (s.pc t).destroying = some o → (s.pc u).destroying = some o → t = u) ∧
    (∀ e s' o obj, OpenEvent.CleanStep e s s' → s.heap o = some obj → s'.heap o = none →
      obj.refCount = 0 ∨ ∃ t, (s.pc t).opening = some o) ∧
    ∀ e s', OpenEvent.Step e s s' → ¬e.Cond s → ∃ o p, o ≠ p ∧ s'.Live o ∧ s'.Live p := by
  have hs := kept_run h (boot_kept idx numCam maxNumSensors historyCount)
  have hlive : ∀ o obj, s.heap o = some obj → 0 < obj.refCount →
      s.camObj = some o ∨ ∃ t, (s.pc t).opening = some o := by
    intro o obj hobj href
    rcases hs.owned o _ (view_count hobj) with h | h | ⟨t, ht⟩
    · exact .inl h
    · exact .inr h
    · -- an object that is being destroyed has no references
      have hzero := hs.taken t o ht
      rw [view_count hobj] at hzero
      obtain hzero := some.inj hzero
      omega
  refine ⟨?_, ⟨?_, hs.empty, ?_⟩, ⟨?_, hs.taker⟩, ?_, ?_⟩
  · rintro o p ⟨obj, hobj, href⟩ ⟨obj', hobj', href'⟩
    rcases hlive o obj hobj href with ho | ⟨t, ht⟩ <;>
      rcases hlive p obj' hobj' href' with hp | ⟨u, hu⟩
    · rw [ho] at hp
      exact some.inj hp
    · have hempty : s.camObj = none := (hs.made u p hu).2
      rw [ho] at hempty
      cases hempty
    · have hempty : s.camObj = none := (hs.made t o ht).2
      rw [hp] at hempty
      cases hempty
    · obtain rfl := hs.maker t u o p ht hu
      have hop : some o = some p := ht.symm.trans hu
      exact some.inj hop
  · intro o obj hobj href
    rcases hlive o obj hobj href with ho | ⟨t, ht⟩
    · obtain ⟨n, hn, hbalance⟩ := hs.entry o ho
      rw [view_count hobj] at hn
      obtain rfl' := some.inj hn
      refine .inl ⟨ho, ?_⟩
      rw [rfl']
      exact hbalance
    · obtain ⟨hone, hempty⟩ := hs.made t o ht
      rw [view_count hobj] at hone
      exact .inr ⟨⟨t, ht⟩, some.inj hone, hs.empty hempty⟩
  · intro o ho
    obtain ⟨n, hn, -⟩ := hs.entry o ho
    obtain ⟨obj, hobj, href⟩ := map_eq_some_iff.mp hn
    exact ⟨obj, hobj, by omega⟩
  · intro o obj hobj
    constructor
    · intro hzero
      rcases hs.owned o _ (view_count hobj) with ho | ⟨t, ht⟩ | h
      · obtain ⟨n, hn, -⟩ := hs.entry o ho
        rw [view_count hobj, hzero] at hn
        cases hn
      · have hone := (hs.made t o ht).1
        rw [view_count hobj, hzero] at hone
        cases hone
      · exact h
    · rintro ⟨t, ht⟩
      have hzero := hs.taken t o ht
      rw [view_count hobj] at hzero
      exact some.inj hzero
  · intro e s' o obj hstep hobj hfree
    exact (hstep.view hs).freed hs (view_count hobj) (congrArg (Option.map CamObj.refCount) hfree)
  · intro e s' hstep hcond
    simp only [OpenEvent.Cond, not_forall] at hcond
    obtain ⟨t, rfl, hpc, hempty, u, hu⟩ := hcond
    obtain ⟨o, ho⟩ := ne_none_iff_exists'.mp hu
    have hone := (hs.made u o ho).1
    obtain ⟨obj, hobj, href⟩ := map_eq_some_iff.mp hone
    -- the object under way is older than the one the step makes
    have hne : o ≠ s.next := by
      rintro rfl
      exact absurd (hone.symm.trans (hs.fresh s.next (Nat.le_refl _))) (nomatch ·)
    change OpenEvent.exec (.run t true) s = some s' at hstep
    unfold OpenEvent.exec at hstep
    simp only [hpc, CamIndex.openTable, hempty, if_true, some.injEq] at hstep
    subst hstep
    refine ⟨o, s.next, hne, ⟨obj, ?_, by omega⟩, ⟨_, update_self .., Nat.one_pos⟩⟩
    exact (update_of_ne hne _ _).trans hobj

/-- A camera is opened by one thread, and shared by another while it is open. -/
theorem camera_counted_shared :
    ∃ s, Run OpenEvent.CleanStep
        ((.callOpen 0 :: List.replicate 8 (.run 0 true)) ++
          (.callOpen 1 :: List.replicate 2 (.run 1 true))) (.boot 0 2 5 0) s ∧
      s.opens = 2 ∧ s.closes = 0 ∧ s.Live 0 ∧ ∀ o, s.Live o → o = 0 := by
  obtain ⟨s, hrun, hopens, hcloses, hlive⟩ : ∃ s, Run OpenEvent.CleanStep
      ((.callOpen 0 :: List.replicate 8 (.run 0 true)) ++
        (.callOpen 1 :: List.replicate 2 (.run 1 true))) (.boot 0 2 5 0) s ∧
      s.opens = 2 ∧ s.closes = 0 ∧ s.Live 0 := by
    -- only the third step finds the entry empty, and no open is under way then
    have other : ∀ {t s}, s.pc t ≠ .openTable → (OpenEvent.run t true).Cond s := by
      rintro t s hne _ ⟨⟩ hpc
      exact absurd hpc hne
    have call : ∀ {t s}, (OpenEvent.callOpen t).Cond s := by
      rintro t s _ ⟨⟩
    have found : ∀ {t s}, s.camObj ≠ none → (OpenEvent.run t true).Cond s := by
      rintro t s hne _ ⟨⟩ - hempty
      exact absurd hempty hne
    refine ⟨_, .cons ⟨call, rfl⟩ (.cons ⟨other (by decide), rfl⟩ (.cons ⟨?_, rfl⟩
      (.cons ⟨other (by decide), rfl⟩ (.cons ⟨other (by decide), rfl⟩
      (.cons ⟨other (by decide), rfl⟩ (.cons ⟨other (by decide), rfl⟩
      (.cons ⟨other (by decide), rfl⟩ (.cons ⟨other (by decide), rfl⟩
      (.cons ⟨call, rfl⟩ (.cons ⟨other (by decide), rfl⟩
      (.one ⟨found (by decide), rfl⟩))))))))))), rfl, rfl, ⟨_, rfl, Nat.two_pos⟩⟩
    intro _ _ _ _ u
    by_cases hu : u = 0
    · subst hu
      rfl
    · change OpenPc.opening (update
        (update (fun _ => OpenPc.idle) 0 .openWait) 0 .openTable u) = none
      rw [update_of_ne hu, update_of_ne hu]
      rfl
  exact ⟨s, hrun, hopens, hcloses, hlive, fun o ho => (camera_counted hrun).1 o 0 ho hlive⟩

end Runs

end MmCamera
