import MidoCamera.Library.Progression
import MidoCamera.Stack.UserBufs
import Mathlib.Tactic.Linarith

/-!
# The order of the planes of a batch

`mm_stream_read_user_buf` numbers the planes of a container from its frame number and its size, and
gives them time stamps that end one frame interval before that of the container. The share of the
time between two containers is never taken: it is compared whether the last frame number is one
after the present one. So the planes are in order only as far as the sizes of the containers and the
times between them allow.
-/

namespace MmCamera

open Loop UserBufStream List UserBufEvent

/-! ## What is delivered -/

/-- The planes of a container, as `mm_stream_read_user_buf` leaves them if it is not stale. -/
def UserBufStream.readPlanes (s : UserBufStream) (vb : BatchFrame) (ok : Bool) : List PlaneBuf :=
  if vb.timeStamp ≤ s.prevTimestamp then []
  else vb.cont.listed.map ((s.dqbuf vb).readUserBuf vb.index ok).2.planes

def UserBufEvent.delivers (s : UserBufStream) : UserBufEvent → List PlaneBuf
  | .notify vb ok _ _ => s.readPlanes vb ok
  | .bufDone _ _ | .fill _ _ _ => []

def UserBufStream.delivered : UserBufStream → List UserBufEvent → List PlaneBuf
  | _, [] => []
  | s, e :: es => e.delivers s ++ delivered (e.exec s) es

def UserBufEvent.frame : UserBufEvent → Option BatchFrame
  | .notify vb _ _ _ => some vb
  | .bufDone _ _ | .fill _ _ _ => none

/-- The containers that are not stale: each is later than the last of them. -/
def accepted : ℤ → List BatchFrame → List BatchFrame
  | _, [] => []
  | prev, vb :: vbs =>
    if vb.timeStamp ≤ prev then accepted prev vbs else vb :: accepted vb.timeStamp vbs

/-- The number of the first plane of a container: 1 for the container 1, and otherwise the number
of the container less one, times its size, as a `uint32_t`. -/
def BatchFrame.firstId (vb : BatchFrame) : ℕ :=
  if vb.sequence = 1 then 1 else (vb.sequence + (2 ^ 32 - 1)) % 2 ^ 32 * vb.cont.bufCnt % 2 ^ 32

/-- **The condition on a container**, with the frame interval: it lists no plane twice, the numbers
of its planes do not wrap, and if it has more than one, the interval is not negative. -/
structure BatchFrame.Whole (interval : ℤ) (vb : BatchFrame) : Prop where
  distinct : vb.cont.listed.Nodup
  ids : vb.firstId + vb.cont.bufCnt ≤ 2 ^ 32
  times : vb.cont.bufCnt ≤ 1 ∨ 0 ≤ interval

/-- **The condition on two containers**: the numbers of the later begin after those of the earlier,
and the time between them is enough for all planes of the later but one. -/
structure BatchFrame.Before (interval : ℤ) (vb vb' : BatchFrame) : Prop where
  ids : vb.firstId + vb.cont.bufCnt ≤ vb'.firstId
  times : (vb'.cont.bufCnt - 1) * interval ≤ vb'.timeStamp - vb.timeStamp

/-- **A number is given twice**, where the second of two containers of two planes comes a frame
time later. -/
theorem batchOrder_repeated :
    ¬∀ (frameInterval : ℤ) (es : List UserBufEvent),
      (es.filterMap UserBufEvent.frame).Pairwise (fun vb vb' => vb.sequence < vb'.sequence) →
      (es.filterMap UserBufEvent.frame).Pairwise (fun vb vb' => vb.timeStamp ≤ vb'.timeStamp) →
        (((registered 2 2 frameInterval (fun _ => true) fun _ => ⟨2, fun k => k⟩).delivered es).map
          PlaneBuf.frameIdx).Pairwise (· < ·) := by
  intro hall
  have hids := hall 33 [.notify ⟨0, 1, 7, 0, false, ⟨2, fun k => k⟩⟩ true none 1,
    .notify ⟨1, 2, 7, 66000, false, ⟨2, fun k => k + 2⟩⟩ true none 1]
    (by simp [frame]) (by simp [frame, BatchFrame.timeStamp])
  exact absurd hids (by decide)

/-! ## The planes of one container -/

theorem foldl_update_of_nodup {κ β : Type*} [DecidableEq κ] {key : ℕ → κ} {val : ℕ → β}
    {ks : List ℕ} (nodup : (ks.map key).Nodup) (g : κ → β) {k : ℕ} (mem : k ∈ ks) :
    ks.foldl (fun g k => Function.update g (key k) (val k)) g (key k) = val k := by
  induction ks generalizing g with
  | nil => cases mem
  | cons j ks ih =>
    rw [map_cons, nodup_cons] at nodup
    rw [foldl_cons]
    by_cases hk : k ∈ ks
    · exact ih nodup.2 _ hk
    · obtain rfl : k = j := (mem_cons.mp mem).resolve_right hk
      -- the rest of the loop leaves the key alone
      have hrest : ∀ (l : List ℕ), key k ∉ l.map key → ∀ g : κ → β,
          l.foldl (fun g k => Function.update g (key k) (val k)) g (key k) = g (key k) := by
        intro l
        induction l with
        | nil => exact fun _ _ => rfl
        | cons i l ih =>
          intro hnot g
          rw [map_cons, mem_cons, not_or] at hnot
          rw [foldl_cons, ih hnot.2, Function.update_of_ne hnot.1]
      rw [hrest ks nodup.1, Function.update_self]

/-- What the `k`-th plane of a container gets. -/
def planeStamp (frameID : ℕ) (intervalNsec base : ℤ) (isUvSubsampled : Bool) (k : ℕ) :
    PlaneBuf where
  frameIdx := (frameID + k) % 2 ^ 32
  ts := .ofNsec (k * intervalNsec + base)
  isUvSubsampled := isUvSubsampled

namespace UserBufStream

variable {s : UserBufStream} {vb : BatchFrame} {ok : Bool}

theorem planes_stampPlanes (i frameID : ℕ) (intervalNsec base : ℤ) (ks : List ℕ)
    (s : UserBufStream) :
    (ks.foldl (stampPlane i frameID intervalNsec base) s).planes =
      ks.foldl (fun g k => Function.update g ((s.bufs i).cont.bufIdx k)
        (planeStamp frameID intervalNsec base (s.bufs i).isUvSubsampled k)) s.planes := by
  induction ks generalizing s with
  | nil => rfl
  | cons k ks ih =>
    rw [foldl_cons, ih]
    simp [stampPlane, planeStamp]

theorem dqbuf_bufs (s : UserBufStream) (vb : BatchFrame) :
    (s.dqbuf vb).bufs vb.index = { s.bufs vb.index with
      frameIdx := vb.sequence
      ts := ⟨vb.tvSec, vb.tvUsec * 1000⟩
      isUvSubsampled := vb.isUvSubsampled
      cont := vb.cont } := Function.update_self ..

theorem frameID_eq (vb : BatchFrame) : frameID vb.sequence vb.cont.bufCnt = vb.firstId := by
  unfold frameID BatchFrame.firstId
  split_ifs with hone
  · exact hone
  · rfl

theorem nsec_dqbuf (s : UserBufStream) (vb : BatchFrame) :
    ((s.dqbuf vb).bufs vb.index).ts.nsec = vb.timeStamp := by
  rw [dqbuf_bufs]
  rfl

def spacing (s : UserBufStream) (vb : BatchFrame) : ℤ × ℤ :=
  (s.dqbuf vb).interval ((s.dqbuf vb).bufs vb.index)

/-- **A container that is not stale** gives each plane its stamp, if it lists none twice. -/
theorem readPlanes_fresh (fresh : s.prevTimestamp < vb.timeStamp)
    (nodup : vb.cont.listed.Nodup) :
    s.readPlanes vb ok = (List.range vb.cont.bufCnt).map
      (planeStamp vb.firstId (s.spacing vb).1 (s.spacing vb).2 vb.isUvSubsampled) := by
  rw [readPlanes, if_neg (not_le.mpr fresh), UserBufCont.listed, map_map]
  refine map_congr_left fun k hk => ?_
  -- the loop over the planes is the one that gives each key its value
  unfold readUserBuf
  dsimp only [Function.comp_apply]
  rw [nsec_dqbuf, if_neg (not_le.mpr (show (s.dqbuf vb).prevTimestamp < _ from fresh))]
  show ((range _).foldl (stampPlane _ _ _ _) _).planes _ = _
  rw [planes_stampPlanes]
  simp only [spacing, dqbuf_bufs, frameID_eq]
  exact foldl_update_of_nodup nodup _ hk

/-- What is remembered of the container that was read last. -/
structure Remembers (s t : UserBufStream) : Prop where
  frameInterval : t.frameInterval = s.frameInterval
  prevFrameID : t.prevFrameID = s.prevFrameID
  prevTimestamp : t.prevTimestamp = s.prevTimestamp

theorem Remembers.trans {t u : UserBufStream} (h : s.Remembers t) (h' : t.Remembers u) :
    s.Remembers u :=
  ⟨h'.frameInterval.trans h.frameInterval, h'.prevFrameID.trans h.prevFrameID,
    h'.prevTimestamp.trans h.prevTimestamp⟩

theorem remembers_queueUserBuf (s : UserBufStream) (i : ℕ) (ok : Bool) :
    s.Remembers (s.queueUserBuf i ok).2 := by
  cases ok <;> exact ⟨rfl, rfl, rfl⟩

theorem remembers_writeUserBuf (s : UserBufStream) (buf : ReturnedBuf) (ok : Bool) :
    s.Remembers (s.writeUserBuf buf ok).2 := by
  cases buf with
  | userptr i =>
    simp only [writeUserBuf]
    split_ifs
    · exact (⟨rfl, rfl, rfl⟩ : s.Remembers (s.release i)).trans (remembers_queueUserBuf _ i ok)
    · exact ⟨rfl, rfl, rfl⟩
  | plane bufIdx =>
    simp only [writeUserBuf]
    split
    · exact ⟨rfl, rfl, rfl⟩
    · rename_i index _
      have hrelease : s.Remembers ((s.stage index bufIdx).release index) := ⟨rfl, rfl, rfl⟩
      have hqueue := hrelease.trans (remembers_queueUserBuf _ index ok)
      split_ifs
      · exact hqueue
      · exact hqueue.trans ⟨rfl, rfl, rfl⟩
      · exact hrelease
      · exact ⟨rfl, rfl, rfl⟩

theorem remembers_bufDone (s : UserBufStream) (buf : ReturnedBuf) (ok : Bool) :
    s.Remembers (s.bufDone buf ok).2 := by
  unfold bufDone
  dsimp only
  split_ifs
  · exact ⟨rfl, rfl, rfl⟩
  · exact remembers_writeUserBuf s buf ok

theorem remembers_stampPlanes (i frameID : ℕ) (intervalNsec base : ℤ) (ks : List ℕ)
    (s : UserBufStream) :
    s.Remembers (ks.foldl (stampPlane i frameID intervalNsec base) s) := by
  induction ks generalizing s with
  | nil => exact ⟨rfl, rfl, rfl⟩
  | cons k ks ih =>
    exact (⟨rfl, rfl, rfl⟩ : s.Remembers (stampPlane i frameID intervalNsec base s k)).trans (ih _)

theorem remembers_notify (s : UserBufStream) (vb : BatchFrame) (ok : Bool) (clean : Option Bool)
    (refs : ℕ) :
    ((s.dqbuf vb).readUserBuf vb.index ok).2.Remembers (s.dataNotify vb ok clean refs).2 := by
  rcases clean with - | - | - <;> exact ⟨rfl, rfl, rfl⟩

theorem notify_stale (stale : vb.timeStamp ≤ s.prevTimestamp) (ok : Bool) (clean : Option Bool)
    (refs : ℕ) : s.Remembers (s.dataNotify vb ok clean refs).2 := by
  refine Remembers.trans ?_ (remembers_notify s vb ok clean refs)
  unfold readUserBuf
  dsimp only
  rw [nsec_dqbuf, if_pos (show _ ≤ (s.dqbuf vb).prevTimestamp from stale)]
  cases ok <;> exact ⟨rfl, rfl, rfl⟩

theorem notify_fresh (fresh : s.prevTimestamp < vb.timeStamp) (ok : Bool) (clean : Option Bool)
    (refs : ℕ) :
    { s with prevTimestamp := vb.timeStamp, prevFrameID := vb.sequence }.Remembers
      (s.dataNotify vb ok clean refs).2 := by
  refine Remembers.trans ?_ (remembers_notify s vb ok clean refs)
  unfold readUserBuf
  dsimp only
  rw [nsec_dqbuf, if_neg (not_le.mpr (show (s.dqbuf vb).prevTimestamp < _ from fresh))]
  refine ⟨(remembers_stampPlanes _ _ _ _ _ (s.dqbuf vb)).frameInterval, ?_, rfl⟩
  rw [dqbuf_bufs]

/-! ## The planes of all containers -/

def acceptedBy (s : UserBufStream) (es : List UserBufEvent) : List BatchFrame :=
  accepted s.prevTimestamp (es.filterMap UserBufEvent.frame)

/-- **What a step delivers**: nothing, or the planes of a container that is not stale and is
remembered. -/
inductive Delivers (s : UserBufStream) (e : UserBufEvent) (es : List UserBufEvent) : Prop
  | nothing (delivers : e.delivers s = []) (remembers : s.Remembers (e.exec s))
      (accepted : s.acceptedBy (e :: es) = (e.exec s).acceptedBy es)
  | planes (vb : BatchFrame) (ok : Bool) (fresh : s.prevTimestamp < vb.timeStamp)
      (delivers : e.delivers s = s.readPlanes vb ok)
      (remembers : { s with
        prevTimestamp := vb.timeStamp, prevFrameID := vb.sequence }.Remembers (e.exec s))
      (accepted : s.acceptedBy (e :: es) = vb :: (e.exec s).acceptedBy es)

theorem acceptedBy_eq {t : UserBufStream} {prev : ℤ} (h : t.prevTimestamp = prev)
    (es : List UserBufEvent) :
    t.acceptedBy es = accepted prev (es.filterMap UserBufEvent.frame) := by
  rw [acceptedBy, h]

theorem delivers (s : UserBufStream) (e : UserBufEvent) (es : List UserBufEvent) :
    s.Delivers e es := by
  cases e with
  | bufDone buf ok =>
    have hremembers := remembers_bufDone s buf ok
    exact .nothing rfl hremembers (acceptedBy_eq hremembers.prevTimestamp es).symm
  | fill i bufsUsed bufIdx => exact .nothing rfl ⟨rfl, rfl, rfl⟩ rfl
  | notify vb ok clean refs =>
    by_cases hstale : vb.timeStamp ≤ s.prevTimestamp
    · have hremembers : s.Remembers _ := notify_stale hstale ok clean refs
      exact .nothing (if_pos hstale) hremembers
        ((if_pos hstale).trans (acceptedBy_eq hremembers.prevTimestamp es).symm)
    · have hremembers := notify_fresh (not_le.mp hstale) ok clean refs
      refine .planes vb ok (not_le.mp hstale) rfl hremembers ((if_neg hstale).trans ?_)
      exact congrArg _ (acceptedBy_eq hremembers.prevTimestamp es).symm

theorem nodup_of_pairwise {vb : BatchFrame} (fresh : s.prevTimestamp < vb.timeStamp)
    (h : ((s.readPlanes vb ok).map PlaneBuf.frameIdx).Pairwise (· < ·)) :
    vb.cont.listed.Nodup := by
  rw [readPlanes, if_neg (not_le.mpr fresh), map_map] at h
  exact .of_map _ (h.imp fun hlt => hlt.ne)

theorem nodup_of_delivered (s : UserBufStream) (es : List UserBufEvent)
    (h : ((s.delivered es).map PlaneBuf.frameIdx).Pairwise (· < ·)) :
    ∀ vb ∈ s.acceptedBy es, vb.cont.listed.Nodup := by
  induction es generalizing s with
  | nil => exact fun _ hvb => nomatch hvb
  | cons e es ih =>
    rw [delivered, map_append, pairwise_append] at h
    cases s.delivers e es with
    | nothing delivers remembers accepted =>
      rw [accepted]
      exact ih _ h.2.1
    | planes vb ok fresh delivers remembers accepted =>
      rw [accepted]
      intro vb' hvb'
      rcases mem_cons.mp hvb' with rfl | hvb'
      · rw [delivers] at h
        exact nodup_of_pairwise fresh h.1
      · exact ih _ h.2.1 vb' hvb'

/-- The planes are the frame interval apart, and end an interval before the time of the container,
if it is the first or does not seem to follow the one before. -/
theorem spacing_apart
    (first : s.prevTimestamp = 0 ∨ s.prevFrameID ≠ (vb.sequence + 1) % 2 ^ 32) :
    s.spacing vb = (s.frameInterval * 1000000,
      vb.timeStamp - vb.cont.bufCnt * (s.frameInterval * 1000000)) := by
  unfold spacing interval
  dsimp only
  rw [nsec_dqbuf, dqbuf_bufs]
  exact if_pos first

/-- **The numbers** that are delivered, if no container lists a plane twice. -/
theorem ids_delivered (s : UserBufStream) (es : List UserBufEvent)
    (nodup : ∀ vb ∈ s.acceptedBy es, vb.cont.listed.Nodup) :
    (s.delivered es).map PlaneBuf.frameIdx = (s.acceptedBy es).flatMap fun vb =>
      (List.range vb.cont.bufCnt).map fun k => (vb.firstId + k) % 2 ^ 32 := by
  induction es generalizing s with
  | nil => rfl
  | cons e es ih =>
    rw [delivered, map_append]
    cases s.delivers e es with
    | nothing delivers remembers accepted =>
      rw [accepted] at nodup ⊢
      rw [delivers, ih _ nodup]
      rfl
    | planes vb ok fresh delivers remembers accepted =>
      rw [accepted] at nodup ⊢
      obtain ⟨hvb, hvbs⟩ := forall_mem_cons.mp nodup
      rw [delivers, readPlanes_fresh fresh hvb, ih _ hvbs, flatMap_cons, map_map]
      rfl

/-- **The times** that are delivered, if moreover no container is thought to follow the next. -/
theorem times_delivered (s : UserBufStream) (es : List UserBufEvent)
    (nodup : ∀ vb ∈ s.acceptedBy es, vb.cont.listed.Nodup)
    (first : s.prevTimestamp = 0 ∨
      ∀ vb ∈ s.acceptedBy es, s.prevFrameID ≠ (vb.sequence + 1) % 2 ^ 32)
    (follow : (s.acceptedBy es).Pairwise fun vb vb' => vb.sequence ≠ (vb'.sequence + 1) % 2 ^ 32) :
    (s.delivered es).map (fun p => p.ts.nsec) = (s.acceptedBy es).flatMap fun vb =>
      progression (vb.timeStamp - vb.cont.bufCnt * (s.frameInterval * 1000000))
        (s.frameInterval * 1000000) vb.cont.bufCnt := by
  induction es generalizing s with
  | nil => rfl
  | cons e es ih =>
    rw [delivered, map_append]
    cases s.delivers e es with
    | nothing delivers remembers accepted =>
      rw [accepted] at nodup first follow ⊢
      rw [delivers, ih _ nodup (by rwa [remembers.prevTimestamp, remembers.prevFrameID]) follow,
        remembers.frameInterval]
      rfl
    | planes vb ok fresh delivers remembers accepted =>
      rw [accepted] at nodup first follow ⊢
      obtain ⟨hvb, hvbs⟩ := forall_mem_cons.mp nodup
      obtain ⟨hnext, hfollow⟩ := pairwise_cons.mp follow
      have hspacing := spacing_apart (first.imp_right fun h => h vb mem_cons_self)
      rw [delivers, readPlanes_fresh fresh hvb, hspacing, flatMap_cons,
        ih _ hvbs (.inr (by rwa [remembers.prevFrameID])) hfollow, remembers.frameInterval,
        map_map]
      congr 1
      refine map_congr_left fun k _ => ?_
      simp only [Function.comp_apply, planeStamp, Timespec.nsec_ofNsec, nsmul_eq_mul]
      exact add_comm _ _

end UserBufStream

section

variable {vb vb' : BatchFrame} {interval : ℤ}

theorem BatchFrame.firstId_lt (vb : BatchFrame) : vb.firstId < 2 ^ 32 := by
  unfold firstId
  split_ifs
  · decide
  · exact Nat.mod_lt _ (by decide)

theorem ids_eq_progression (h : vb.firstId + vb.cont.bufCnt ≤ 2 ^ 32) :
    (List.range vb.cont.bufCnt).map (fun k => (vb.firstId + k) % 2 ^ 32) =
      progression vb.firstId 1 vb.cont.bufCnt := by
  refine map_congr_left fun k hk => ?_
  rw [Nat.mod_eq_of_lt (by have := mem_range.mp hk; omega), nsmul_one, Nat.cast_id]

theorem pairwise_ids_iff :
    ((List.range vb.cont.bufCnt).map fun k => (vb.firstId + k) % 2 ^ 32).Pairwise (· < ·) ↔
      vb.firstId + vb.cont.bufCnt ≤ 2 ^ 32 := by
  constructor
  · intro h
    by_contra hwrap
    have hlt := vb.firstId_lt
    -- the number that wraps is not greater than the one before
    rw [pairwise_map, pairwise_iff_getElem] at h
    have hnot := h (2 ^ 32 - vb.firstId - 1) (2 ^ 32 - vb.firstId)
      (by rw [length_range]; omega) (by rw [length_range]; omega) (by omega)
    rw [getElem_range, getElem_range] at hnot
    omega
  · intro h
    rw [ids_eq_progression h]
    exact pairwise_lt_progression.mpr (.inr Nat.one_pos)

theorem sequence_ne (lt : vb.sequence < vb'.sequence) (bound : vb'.sequence < 2 ^ 32)
    (pos : 0 < vb.cont.bufCnt) (ids : vb.firstId + vb.cont.bufCnt ≤ vb'.firstId) :
    vb.sequence ≠ (vb'.sequence + 1) % 2 ^ 32 := by
  intro heq
  have hlt := vb'.firstId_lt
  have hzero : vb.sequence = 0 := by omega
  -- the numbers of the container 0 end at the last of all
  have hfirst : vb.firstId = (2 ^ 32 - 1) * vb.cont.bufCnt % 2 ^ 32 := by
    simp [BatchFrame.firstId, hzero]
  omega

/-- The last plane of a container is one interval before it, and the first one of a container as
many as it has planes. -/
theorem times_before_iff (pos : 0 < vb.cont.bufCnt) (pos' : 0 < vb'.cont.bufCnt)
    (times : vb.cont.bufCnt ≤ 1 ∨ 0 ≤ interval) (times' : vb'.cont.bufCnt ≤ 1 ∨ 0 ≤ interval) :
    (∀ x ∈ progression (vb.timeStamp - vb.cont.bufCnt * interval) interval vb.cont.bufCnt,
      ∀ y ∈ progression (vb'.timeStamp - vb'.cont.bufCnt * interval) interval vb'.cont.bufCnt,
        x ≤ y) ↔
      (vb'.cont.bufCnt - 1) * interval ≤ vb'.timeStamp - vb.timeStamp := by
  rw [forall_le_progression pos pos' times times', nsmul_eq_mul, Nat.cast_pred pos]
  constructor <;> intro h <;> linarith

/-- The numbers of the planes of containers increase if they do not wrap, and those of a container
begin after those of each before. -/
theorem pairwise_allIds_iff {vbs : List BatchFrame} (pos : ∀ vb ∈ vbs, 0 < vb.cont.bufCnt) :
    (vbs.flatMap fun vb => (List.range vb.cont.bufCnt).map fun k =>
      (vb.firstId + k) % 2 ^ 32).Pairwise (· < ·) ↔
    (∀ vb ∈ vbs, vb.firstId + vb.cont.bufCnt ≤ 2 ^ 32) ∧
      vbs.Pairwise fun vb vb' => vb.firstId + vb.cont.bufCnt ≤ vb'.firstId := by
  rw [pairwise_flatMap]
  simp only [pairwise_ids_iff]
  refine and_congr_right fun hwhole => List.Pairwise.iff_of_mem fun {vb vb'} hvb hvb' => ?_
  have hpos := pos vb hvb
  rw [ids_eq_progression (hwhole vb hvb), ids_eq_progression (hwhole vb' hvb'),
    forall_lt_progression hpos (pos vb' hvb') (.inr (Nat.zero_le 1)) (.inr (Nat.zero_le 1)),
    nsmul_one, Nat.cast_id]
  omega

theorem pairwise_allTimes_iff {vbs : List BatchFrame} (pos : ∀ vb ∈ vbs, 0 < vb.cont.bufCnt)
    (interval : ℤ) :
    (vbs.flatMap fun vb => progression (vb.timeStamp - vb.cont.bufCnt * interval) interval
      vb.cont.bufCnt).Pairwise (· ≤ ·) ↔
    (∀ vb ∈ vbs, vb.cont.bufCnt ≤ 1 ∨ 0 ≤ interval) ∧
      vbs.Pairwise fun vb vb' =>
        (vb'.cont.bufCnt - 1) * interval ≤ vb'.timeStamp - vb.timeStamp := by
  rw [pairwise_flatMap]
  simp only [pairwise_le_progression]
  exact and_congr_right fun htimes => List.Pairwise.iff_of_mem fun hvb hvb' =>
    times_before_iff (pos _ hvb) (pos _ hvb') (htimes _ hvb) (htimes _ hvb')

theorem accepted_sublist (prev : ℤ) (vbs : List BatchFrame) : (accepted prev vbs).Sublist vbs := by
  induction vbs generalizing prev with
  | nil => exact .slnil
  | cons vb vbs ih =>
    rw [accepted]
    split_ifs
    · exact (ih prev).cons vb
    · exact (ih vb.timeStamp).cons_cons vb

/-- **When the planes of a batch are in order**: in any run of a stream whose containers come with
increasing numbers, the numbers of all planes that `mm_stream_read_user_buf` delivers increase and
their times do not decrease if and only if the condition holds for each container that is not stale
and for each two of them. -/
theorem batchOrder_iff {bufNum n : ℕ} {frameInterval : ℤ} {initialRegFlag : ℕ → Bool}
    {cont : ℕ → UserBufCont} {es : List UserBufEvent}
    (increasing : (es.filterMap UserBufEvent.frame).Pairwise fun vb vb' =>
      vb.sequence < vb'.sequence)
    (bound : ∀ vb ∈ es.filterMap UserBufEvent.frame, vb.sequence < 2 ^ 32)
    (pos : ∀ vb ∈ es.filterMap UserBufEvent.frame, 0 < vb.cont.bufCnt) :
    (((registered bufNum n frameInterval initialRegFlag cont).delivered es).map
        PlaneBuf.frameIdx).Pairwise (· < ·) ∧
      (((registered bufNum n frameInterval initialRegFlag cont).delivered es).map
        fun p => p.ts.nsec).Pairwise (· ≤ ·) ↔
    (∀ vb ∈ accepted 0 (es.filterMap UserBufEvent.frame),
        vb.Whole (frameInterval * 1000000)) ∧
      (accepted 0 (es.filterMap UserBufEvent.frame)).Pairwise
        (BatchFrame.Before (frameInterval * 1000000)) := by
  have hsub := accepted_sublist 0 (es.filterMap frame)
  have hpos : ∀ vb ∈ accepted 0 (es.filterMap frame), 0 < vb.cont.bufCnt :=
    fun vb hvb => pos vb (hsub.mem hvb)
  -- numbers in order exclude the container 0 before the last of all
  have hfollow (hids : (accepted 0 (es.filterMap frame)).Pairwise fun vb vb' =>
      vb.firstId + vb.cont.bufCnt ≤ vb'.firstId) :
      (accepted 0 (es.filterMap frame)).Pairwise fun vb vb' =>
        vb.sequence ≠ (vb'.sequence + 1) % 2 ^ 32 := by
    refine List.Pairwise.imp_of_mem (fun hvb hvb' h => ?_) ((increasing.sublist hsub).and hids)
    exact sequence_ne h.1 (bound _ (hsub.mem hvb')) (hpos _ hvb) h.2
  constructor
  · rintro ⟨hids, htimes⟩
    have hnodup := nodup_of_delivered _ es hids
    rw [ids_delivered _ es hnodup] at hids
    obtain ⟨hwhole, hbefore⟩ := (pairwise_allIds_iff hpos).mp hids
    rw [times_delivered _ es hnodup (.inl rfl) (hfollow hbefore)] at htimes
    obtain ⟨hspaced, hlater⟩ := (pairwise_allTimes_iff hpos _).mp htimes
    exact ⟨fun vb hvb => ⟨hnodup vb hvb, hwhole vb hvb, hspaced vb hvb⟩,
      (hbefore.and hlater).imp fun h => ⟨h.1, h.2⟩⟩
  · rintro ⟨hwhole, hbefore⟩
    have hids := hbefore.imp fun h => h.ids
    have hnodup : ∀ vb ∈ (registered bufNum n frameInterval initialRegFlag cont).acceptedBy es,
        vb.cont.listed.Nodup := fun vb hvb => (hwhole vb hvb).distinct
    rw [ids_delivered _ es hnodup, times_delivered _ es hnodup (.inl rfl) (hfollow hids)]
    exact ⟨(pairwise_allIds_iff hpos).mpr ⟨fun vb hvb => (hwhole vb hvb).ids, hids⟩,
      (pairwise_allTimes_iff hpos _).mpr ⟨fun vb hvb => (hwhole vb hvb).times,
        hbefore.imp fun h => h.times⟩⟩

end

/-- Two containers of which the second is in order after the first. -/
theorem batchOrder_iff_two : ∃ ps : List PlaneBuf, ps.map PlaneBuf.frameIdx = [2, 3, 4, 5] ∧
    (ps.map PlaneBuf.frameIdx).Pairwise (· < ·) ∧
      (ps.map fun p => p.ts.nsec).Pairwise (· ≤ ·) := by
  refine ⟨_, rfl, (@batchOrder_iff 2 2 33 (fun _ => true) (fun _ => ⟨2, fun k => k⟩)
    [.notify ⟨0, 2, 7, 0, false, ⟨2, fun k => k⟩⟩ true none 1,
      .notify ⟨1, 3, 7, 66000, false, ⟨2, fun k => k + 2⟩⟩ true none 1]
    (by simp [frame]) (by simp [frame])
    (by simp [frame])).mpr ?_⟩
  -- both are accepted
  rw [show accepted 0 _ = [⟨0, 2, 7, 0, false, ⟨2, fun k => k⟩⟩,
    ⟨1, 3, 7, 66000, false, ⟨2, fun k => k + 2⟩⟩] from rfl]
  refine ⟨forall_mem_cons.mpr ⟨⟨by decide, by decide, by decide⟩,
    forall_mem_singleton.mpr ⟨by decide, by decide, by decide⟩⟩, pairwise_pair.mpr ?_⟩
  exact ⟨by decide, by decide⟩

end MmCamera
