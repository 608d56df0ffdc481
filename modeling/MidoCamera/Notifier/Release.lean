import MidoCamera.Notifier.CbNotifier

/-!
# The release of notifications

A notification that has been accepted is in `mDataQ`, or the thread has taken it, or it has been
deleted: exactly one of them. Whoever deletes a notification has released it or handed it over
before, except for a snapshot that the thread takes while snapshots are not active, or while there
is no data callback.
-/

namespace Notifier

open Loop List Event

variable {f : Event → List ℕ}

variable {s t : CbNotifier} {n : Node} {k : ℕ} {events : List Event}

namespace CbNotifier

/-- The notifications that are in the queue, or that the thread has taken. -/
def pending (s : CbNotifier) : List Node := s.mDataQ ++ s.pc.hand

/-- **Each accepted notification is released once, or handed over once**, as soon as it has left the
queue and the thread is done with it, and not before; and it is delivered at most once. -/
def Accounted (s : CbNotifier) : Prop :=
  ∀ k arg, s.accepted[k]? = some arg →
    tally Event.delivers k s.log ≤ 1 ∧
    (k ∈ s.mDataQ.map Node.id →
      tally Event.releases k s.log = 0 ∧ tally Event.handsOver k s.log = 0) ∧
    (arg.releaseCb.isSome → k ∉ s.pending.map Node.id →
      tally Event.releases k s.log = 1 ∧ tally Event.handsOver k s.log = 0 ∨
      tally Event.releases k s.log = 0 ∧ tally Event.handsOver k s.log = 1)

/-- The number of times a notification has been released or handed over. -/
def settlements (s : CbNotifier) (k : ℕ) : ℕ :=
  tally Event.releases k s.log + tally Event.handsOver k s.log

/-- **Each accepted notification is pending, or has been deleted once.** One that has been deleted
has been settled, and none else. -/
structure Settled (s : CbNotifier) : Prop where
  held : ∀ n ∈ s.pending, s.accepted[n.id]? = some n.arg
  own : ∀ k, (s.pending.map Node.id).count k + tally Event.deletes k s.log =
    if k < s.accepted.length then 1 else 0
  delivered : ∀ k, tally Event.delivers k s.log ≤ tally Event.deletes k s.log
  sparse : ∀ k, s.settlements k ≤ tally Event.deletes k s.log
  settled : ∀ k arg, s.accepted[k]? = some arg → arg.releaseCb.isSome →
    s.settlements k = tally Event.deletes k s.log
  counted : ∀ n, s.pc = .counted n → s.mDataCb.isSome

theorem Settled.initial (notifyCb dataCb dataCbTimestamp callbackCookie : Ptr) :
    (setCallbacks notifyCb dataCb dataCbTimestamp callbackCookie).Settled where
  held n h := absurd h not_mem_nil
  own k := by simp [pending, setCallbacks, Pc.hand]
  delivered k := le_rfl
  sparse k := le_rfl
  settled k arg h := by simp [setCallbacks] at h
  counted n h := by cases h

theorem Settled.accounted (h : s.Settled) : s.Accounted := by
  intro k arg harg
  have hown := h.own k
  have hdelivered := h.delivered k
  have hsparse : tally releases k s.log + tally handsOver k s.log ≤ _ := h.sparse k
  have hlt : k < s.accepted.length := (List.getElem?_eq_some_iff.mp harg).1
  rw [if_pos hlt] at hown
  refine ⟨by omega, fun hqueue => ?_, fun hrelease hleft => ?_⟩
  · -- what is in the queue has not been deleted
    have hpos : 0 < (s.pending.map Node.id).count k := by
      rw [count_pos_iff, pending, map_append]
      exact mem_append_left _ hqueue
    omega
  · have hsettled : tally releases k s.log + tally handsOver k s.log = _ :=
      h.settled k arg harg hrelease
    rw [count_eq_zero.mpr hleft] at hown
    omega

/-! ## Events that settle nothing -/

end CbNotifier

def Event.Quiet (e : Event) : Prop :=
  e.delivers = [] ∧ e.releases = [] ∧ e.handsOver = [] ∧ e.deletes = []

theorem tally_quiet (h : ∀ e ∈ events, f e = []) : tally f k events = 0 :=
  tally_eq_zero_iff.mpr fun e he => by
    rw [h e he]
    exact not_mem_nil

namespace CbNotifier

theorem Settled.keep (h : s.Settled) (pending : t.pending = s.pending)
    (accepted : t.accepted = s.accepted) (log : t.log = s.log ++ events)
    (quiet : ∀ e ∈ events, e.Quiet) (counted : ∀ n, t.pc = .counted n → t.mDataCb.isSome) :
    t.Settled := by
  have hdelivers (k : ℕ) : tally delivers k t.log = tally delivers k s.log := by
    rw [log, tally_append, tally_quiet fun e he => (quiet e he).1, add_zero]
  have hdeletes (k : ℕ) : tally deletes k t.log = tally deletes k s.log := by
    rw [log, tally_append, tally_quiet fun e he => (quiet e he).2.2.2, add_zero]
  have hsettlements (k : ℕ) : t.settlements k = s.settlements k := by
    rw [settlements, log, tally_append, tally_append, tally_quiet fun e he => (quiet e he).2.1,
      tally_quiet fun e he => (quiet e he).2.2.1]
    rfl
  refine ⟨?_, fun k => ?_, fun k => ?_, fun k => ?_, fun k arg harg hrelease => ?_, counted⟩
  · rw [pending, accepted]
    exact h.held
  · rw [pending, accepted, hdeletes]
    exact h.own k
  · rw [hdelivers, hdeletes]
    exact h.delivered k
  · rw [hsettlements, hdeletes]
    exact h.sparse k
  · rw [hsettlements, hdeletes]
    exact h.settled k arg (accepted ▸ harg) hrelease

theorem Settled.returns (h : s.Settled) (rc : Status) : (s.returns rc).Settled :=
  h.keep rfl rfl rfl (fun e he => by
    rw [mem_singleton.mp he]
    exact ⟨rfl, rfl, rfl, rfl⟩) h.counted

theorem Settled.sendCmd (h : s.Settled) (cmd : Cmd) (priority : Bool) (m : Mallocs) :
    (s.sendCmd cmd priority m).2.Settled := by
  rw [CbNotifier.sendCmd]
  split
  · exact h.keep rfl rfl (append_nil _).symm nofun h.counted
  · exact h

theorem Settled.notifyCallback (h : s.Settled) (arg : CallbackArgm) (m : Mallocs) :
    (s.notifyCallback arg m).Settled := by
  rw [CbNotifier.notifyCallback]
  split_ifs
  · exact h.returns _
  · have hnew : tally deletes s.accepted.length s.log = 0 := by
      have hown := h.own s.accepted.length
      rw [if_neg (Nat.lt_irrefl _)] at hown
      omega
    have hold (k : ℕ) (a : CallbackArgm) (ha : (s.accepted ++ [arg])[k]? = some a) :
        s.accepted[k]? = some a ∨ k = s.accepted.length := by
      rcases Nat.lt_or_ge k s.accepted.length with hlt | hge
      · rw [getElem?_append_left hlt] at ha
        exact .inl ha
      · have hlen := (List.getElem?_eq_some_iff.mp ha).1
        rw [length_append, length_singleton] at hlen
        exact .inr (by omega)
    refine ⟨fun n hn => ?_, fun k => ?_, h.delivered, h.sparse, fun k a ha hrelease => ?_,
      h.counted⟩
    · simp only [pending, append_assoc, mem_append, mem_singleton] at hn
      rcases hn with hn | rfl | hn
      · have hheld := h.held n (mem_append_left _ hn)
        exact (getElem?_append_left (List.getElem?_eq_some_iff.mp hheld).1).trans hheld
      · exact getElem?_concat_length
      · have hheld := h.held n (mem_append_right _ hn)
        exact (getElem?_append_left (List.getElem?_eq_some_iff.mp hheld).1).trans hheld
    · have hown := h.own k
      simp only [pending, map_append, map_cons, map_nil, count_append,
        count_singleton, length_append, length_singleton, beq_iff_eq] at hown ⊢
      split_ifs at hown ⊢ <;> omega
    · rcases hold k a ha with ha | rfl
      · exact h.settled k a ha hrelease
      · exact (Nat.le_zero.mp (hnew ▸ h.sparse _)).trans hnew.symm
  · exact h.returns _

/-! ## Notifications are flushed -/

end CbNotifier

section Discard

variable {l : List Node}

theorem tally_discard (k : ℕ) (n : Node) :
    tally f k n.discard = tally f k (n.release .failedTransaction) + tally f k [.delete n.id] :=
  tally_append ..

theorem tally_release (k : ℕ) (n : Node) (status : Status) :
    tally Event.releases k (n.release status) =
      if n.arg.releaseCb.isSome then [n.id].count k else 0 := by
  rw [Node.release]
  split_ifs <;> simp [releases]

theorem tally_release_other (h : ∀ i u c st, f (.release i u c st) = [])
    (k : ℕ) (n : Node) (status : Status) : tally f k (n.release status) = 0 := by
  rw [Node.release]
  split_ifs <;> simp [h]

theorem deletes_flushed (k : ℕ) (l : List Node) :
    tally Event.deletes k (l.flatMap Node.discard) = (l.map Node.id).count k := by
  induction l with
  | nil => rfl
  | cons n l ih =>
    rw [flatMap_cons, tally_append, ih, tally_discard,
      tally_release_other (fun _ _ _ _ => rfl), map_cons, count_cons]
    simp [deletes, count_singleton, add_comm]

theorem releases_flushed (k : ℕ) (l : List Node) :
    tally Event.releases k (l.flatMap Node.discard) =
      ((l.filter fun n => n.arg.releaseCb.isSome).map Node.id).count k := by
  induction l with
  | nil => rfl
  | cons n l ih =>
    rw [flatMap_cons, tally_append, ih, tally_discard, tally_release]
    cases hr : n.arg.releaseCb.isSome with
    | true =>
      rw [filter_cons_of_pos (p := fun n : Node => n.arg.releaseCb.isSome) hr, map_cons]
      simp [releases, count_cons, add_comm]
    | false =>
      rw [filter_cons_of_neg (p := fun n : Node => n.arg.releaseCb.isSome) (by simp [hr])]
      simp [releases]

theorem tally_flushed (h : ∀ i u c st, f (.release i u c st) = [])
    (h' : ∀ i, f (.delete i) = []) (k : ℕ) (l : List Node) :
    tally f k (l.flatMap Node.discard) = 0 := by
  induction l with
  | nil => rfl
  | cons n l ih =>
    rw [flatMap_cons, tally_append, ih, tally_discard, tally_release_other h]
    simp [h']

end Discard

namespace CbNotifier

theorem Settled.discard (h : s.Settled) (p : Node → Bool)
    (queue : t.mDataQ = s.mDataQ.filter fun n => !p n)
    (log : t.log = s.log ++ (s.mDataQ.filter p).flatMap Node.discard) (pc : t.pc = s.pc)
    (accepted : t.accepted = s.accepted) (dataCb : t.mDataCb = s.mDataCb) : t.Settled := by
  have hflushed (k : ℕ) : tally deletes k t.log =
      tally deletes k s.log + ((s.mDataQ.filter p).map Node.id).count k := by
    rw [log, tally_append, deletes_flushed]
  have hsettlements (k : ℕ) : t.settlements k = s.settlements k +
      (((s.mDataQ.filter p).filter fun n => n.arg.releaseCb.isSome).map Node.id).count k := by
    rw [settlements, log, tally_append, tally_append, releases_flushed,
      tally_flushed (fun _ _ _ _ => rfl) fun _ => rfl, add_zero]
    exact add_right_comm ..
  have hpending (n : Node) (hn : n ∈ t.pending) : n ∈ s.pending := by
    rw [pending, queue, pc] at hn
    exact (mem_append.mp hn).elim
      (fun hn => mem_append_left _ (mem_filter.mp hn).1) (mem_append_right _)
  refine ⟨fun n hn => ?_, fun k => ?_, fun k => ?_, fun k => ?_, fun k arg harg hrelease => ?_, ?_⟩
  · rw [accepted]
    exact h.held n (hpending n hn)
  · -- the queue splits along the filter
    have hsplit := tally_filter_add (f := fun n : Node => [n.id]) (k := k) (l := s.mDataQ) p
    have hown := h.own k
    rw [tally_map, tally_map, tally_map] at hsplit
    rw [pending, queue, pc, accepted, hflushed]
    rw [pending] at hown
    simp only [map_append, count_append] at hown ⊢
    omega
  · have hdelivered := h.delivered k
    rw [hflushed, log, tally_append, tally_flushed (fun _ _ _ _ => rfl) fun _ => rfl]
    omega
  · have hsparse := h.sparse k
    have hle := (((filter_sublist (p := fun n : Node => n.arg.releaseCb.isSome)
      (l := s.mDataQ.filter p)).map Node.id).count_le k)
    rw [hsettlements, hflushed]
    omega
  · -- a notification of this number is the one that has been accepted, and it is to be released
    rw [accepted] at harg
    have hsame : (((s.mDataQ.filter p).filter fun n => n.arg.releaseCb.isSome).map Node.id).count k =
        ((s.mDataQ.filter p).map Node.id).count k := by
      rw [← tally_map, ← tally_map]
      have hsplit := tally_filter_add (f := fun n : Node => [n.id]) (k := k)
        (l := s.mDataQ.filter p) fun n => n.arg.releaseCb.isSome
      rw [← hsplit, Nat.left_eq_add]
      refine tally_eq_zero_iff.mpr fun n hn hk => ?_
      obtain ⟨hmem, hnone⟩ := mem_filter.mp hn
      have hheld := h.held n (mem_append_left _ (mem_filter.mp hmem).1)
      rw [← mem_singleton.mp hk, harg] at hheld
      simp [← Option.some.inj hheld, hrelease] at hnone
    rw [hsettlements, hflushed, hsame, h.settled k arg harg hrelease]
  · rw [pc, dataCb]
    exact h.counted

theorem Settled.flushNodes (h : s.Settled) (p : Node → Bool) : (s.flushNodes p).Settled := by
  rw [CbNotifier.flushNodes]
  split
  · exact h.discard p rfl rfl rfl rfl rfl
  · exact h

theorem Settled.flush (h : s.Settled) : s.flush.Settled := by
  rw [CbNotifier.flush]
  split
  · exact h.discard (fun _ => true) (by simp) (by simp) rfl rfl rfl
  · exact h

end CbNotifier

/-- The events are what becomes of a notification: it is delivered at most once, and settled at most
once, and once if it is to be released. -/
structure Outcome (n : Node) (events : List Event) : Prop where
  deletes : ∀ k, tally Event.deletes k events = 0
  delivers : ∀ k, tally Event.delivers k events ≤ [n.id].count k
  sparse : ∀ k, tally Event.releases k events + tally Event.handsOver k events ≤ [n.id].count k
  settles : n.arg.releaseCb.isSome →
    ∀ k, tally Event.releases k events + tally Event.handsOver k events = [n.id].count k

namespace Outcome

theorem release (n : Node) (status : Status) : Outcome n (n.release status) where
  deletes k := tally_release_other (fun _ _ _ _ => rfl) k n status
  delivers k := (tally_release_other (fun _ _ _ _ => rfl) k n status).trans_le (Nat.zero_le _)
  sparse k := by
    rw [tally_release, tally_release_other fun _ _ _ _ => rfl]
    split_ifs <;> omega
  settles hr k := by rw [tally_release, if_pos hr, tally_release_other fun _ _ _ _ => rfl, add_zero]

theorem deliver {e : Event} (h : Outcome n events) (silent : tally Event.delivers n.id events = 0)
    (delivers : e.delivers = [n.id]) (releases : e.releases = []) (handsOver : e.handsOver = [])
    (deletes : e.deletes = []) : Outcome n (e :: events) where
  deletes k := by
    rw [tally_cons, deletes, h.deletes]
    rfl
  delivers k := by
    have hle := h.delivers k
    rw [tally_cons, delivers]
    rcases eq_or_ne n.id k with rfl | hne
    · omega
    · rw [count_eq_zero.mpr (by simpa using hne.symm)] at hle ⊢
      omega
  sparse k := by
    rw [tally_cons, tally_cons, releases, handsOver]
    simpa using h.sparse k
  settles hr k := by
    rw [tally_cons, tally_cons, releases, handsOver]
    simpa using h.settles hr k

theorem call {e : Event} (n : Node) (cb : Ptr) (status : Status) (delivers : e.delivers = [n.id])
    (releases : e.releases = []) (handsOver : e.handsOver = []) (deletes : e.deletes = []) :
    Outcome n ((if cb.isSome then [e] else []) ++ n.release status) := by
  cases cb with
  | none => exact .release n status
  | some _ =>
    exact (Outcome.release n status).deliver (tally_release_other (fun _ _ _ _ => rfl) _ n status)
      delivers releases handsOver deletes

theorem jpeg {e : Event} (n : Node) (delivers : e.delivers = [n.id]) (releases : e.releases = [])
    (handsOver : e.handsOver = [n.id]) (deletes : e.deletes = []) : Outcome n [e] where
  deletes k := by simp [deletes]
  delivers k := by simp [delivers]
  sparse k := by simp [releases, handsOver]
  settles _ k := by simp [releases, handsOver]

theorem nothing (h : ¬ n.arg.releaseCb.isSome) : Outcome n [] :=
  ⟨fun _ => rfl, fun _ => Nat.zero_le _, fun _ => Nat.zero_le _, fun hr => absurd hr h⟩

end Outcome

namespace CbNotifier

theorem Settled.finish (h : s.Settled) (hand : s.pc.hand = [n]) (outcome : Outcome n events) :
    (s.finish n events).Settled := by
  have htally (f : Event → List ℕ) (k : ℕ) : tally f k (s.finish n events).log =
      tally f k s.log + tally f k events + tally f k [.delete n.id] := by
    rw [CbNotifier.finish, tally_append, tally_append]
  have hown (k : ℕ) : (s.mDataQ.map Node.id).count k + [n.id].count k + tally deletes k s.log =
      if k < s.accepted.length then 1 else 0 := by
    rw [← h.own k, pending, hand, map_append, count_append]
    rfl
  have hdeletes (k : ℕ) : tally deletes k (s.finish n events).log =
      tally deletes k s.log + [n.id].count k := by
    rw [htally, outcome.deletes]
    simp [deletes]
  have hsettlements (k : ℕ) : (s.finish n events).settlements k = s.settlements k +
      (tally releases k events + tally handsOver k events) := by
    rw [settlements, htally, htally]
    simp only [settlements, tally_cons, tally_nil, releases, handsOver, count_nil]
    omega
  have hqueue : (s.finish n events).pending = s.mDataQ := append_nil _
  refine ⟨fun m hm => ?_, fun k => ?_, fun k => ?_, fun k => ?_, fun k arg harg hrelease => ?_,
    fun m hm => by cases hm⟩
  · rw [hqueue] at hm
    exact h.held m (mem_append_left _ hm)
  · rw [hqueue, hdeletes, ← add_assoc]
    exact (add_right_comm ..).trans (hown k)
  · have hdelivered := h.delivered k
    have hdelivers := outcome.delivers k
    rw [hdeletes, htally]
    simp only [tally_cons, tally_nil, delivers, count_nil]
    omega
  · have hsparse := h.sparse k
    have houtcome := outcome.sparse k
    rw [hsettlements, hdeletes]
    omega
  · have hsettled := h.settled k arg harg hrelease
    have hmem : n ∈ s.pending := by simp [pending, hand]
    rw [hsettlements, hdeletes, hsettled]
    rcases eq_or_ne n.id k with rfl | hne
    · -- the notification is the one that has been accepted under its number
      have harg' : arg = n.arg := Option.some.inj (harg.symm.trans (h.held n hmem))
      rw [outcome.settles (harg' ▸ hrelease)]
    · have hle := outcome.sparse k
      rw [count_eq_zero.mpr (by simpa using hne.symm)] at hle ⊢
      omega

theorem Settled.checkMsgType (h : s.Settled) (hpc : s.pc = .dequeued n) :
    (s.checkMsgType n).Settled := by
  rw [CbNotifier.checkMsgType]
  split
  · refine h.keep ?_ rfl (append_nil _).symm nofun fun m hm => by cases hm
    rw [pending, pending, hpc]
    rfl
  · exact h.finish (by rw [hpc]; rfl) (.release n _)

theorem Settled.countSnapshot (h : s.Settled) (hpc : s.pc = .enabled n) (dataCb : s.mDataCb.isSome) :
    (s.countSnapshot n).Settled := by
  have hpending : s.pending = s.mDataQ ++ [n] := by rw [pending, hpc]; rfl
  rw [CbNotifier.countSnapshot]
  split
  · exact h.keep hpending.symm rfl (append_nil _).symm nofun fun _ _ => dataCb
  · refine h.keep hpending.symm rfl rfl (fun e he => ?_) fun _ _ => dataCb
    split at he
    · rw [mem_singleton.mp he]
      exact ⟨rfl, rfl, rfl, rfl⟩
    · cases he

/-- **A notification whose type is enabled** is dealt with, or a snapshot is counted. -/
theorem Settled.dispatch (h : s.Settled) (hpc : s.pc = .enabled n)
    (expected : n.arg.cbType = .dataSnapshotCallback → n.arg.releaseCb.isSome →
      s.isSnapshotActive ∧ s.mDataCb.isSome) : (s.dispatch n).Settled := by
  have hand : s.pc.hand = [n] := by rw [hpc]; rfl
  cases htype : n.arg.cbType with
  | notifyCallback | dataCallback | dataTimestampCallback =>
    rw [CbNotifier.dispatch, htype]
    exact h.finish hand (.call n _ _ rfl rfl rfl rfl)
  | dataSnapshotCallback =>
    rw [CbNotifier.dispatch, htype]
    dsimp only
    split
    case isTrue hactive =>
      exact h.countSnapshot hpc ((Bool.and_eq_true _ _).mp hactive).2
    case isFalse hinactive =>
      refine h.finish hand (.nothing fun hrelease => hinactive ?_)
      exact (Bool.and_eq_true _ _).mpr (expected htype hrelease)
  | invalid value =>
    rw [CbNotifier.dispatch, htype]
    exact h.finish hand (.release n _)

theorem Settled.deliverSnapshot (h : s.Settled) (hpc : s.pc = .counted n) :
    (s.deliverSnapshot n).Settled := by
  have hand : s.pc.hand = [n] := by rw [hpc]; rfl
  rw [CbNotifier.deliverSnapshot, if_pos (h.counted n hpc)]
  split
  · exact h.finish hand (.jpeg n rfl rfl rfl rfl)
  · exact h.finish hand ((Outcome.release n _).deliver
      (tally_release_other (fun _ _ _ _ => rfl) _ n _) rfl rfl rfl rfl)

theorem Settled.getCmd (h : s.Settled) (hpc : s.pc = .idle) (expected : BitVec 32)
    (longshot : Bool) : (s.getCmd expected longshot).Settled := by
  have hkept : ({ s with cmdSem := s.cmdSem - 1, cmdQueue := s.cmdQueue.tail } : CbNotifier).Settled :=
    h.keep rfl rfl (append_nil _).symm nofun h.counted
  rw [CbNotifier.getCmd]
  split
  · exact hkept
  · exact hkept.keep rfl rfl (append_nil _).symm nofun hkept.counted
  · have hflushed := hkept.flushNodes Node.matchSnapshotNotifications
    exact hflushed.keep rfl rfl (append_nil _).symm nofun hflushed.counted
  · split
    case h_1 n rest _ hqueue =>
      -- the first notification of the queue comes into the hand
      have hperm : (rest ++ [n]).Perm s.pending := by
        rw [pending, hpc, hqueue]
        simp [Pc.hand]
      refine ⟨fun m hm => h.held m (hperm.subset hm), fun k => ?_, h.delivered, h.sparse, h.settled,
        fun m hm => by cases hm⟩
      rw [← h.own k, ← (hperm.map Node.id).count_eq k]
      rfl
    · exact hkept
  · have hflushed := hkept.flush
    exact hflushed.keep rfl rfl (append_nil _).symm nofun hflushed.counted

theorem Settled.enter (h : s.Settled) (c : Call) : (s.enter c).Settled := by
  rw [CbNotifier.enter]
  split
  · exact h.keep rfl rfl (append_nil _).symm nofun h.counted
  · exact h.returns _

theorem Settled.perform (h : s.Settled) {m : Mallocs} {c : Call} (hperform : s.perform m c = some t) :
    t.Settled := by
  cases c with
  | notifyCallback arg =>
    cases hperform
    exact h.notifyCallback arg m
  | sendNextJob =>
    cases hperform
    exact (h.sendCmd _ _ m).returns _
  | flushPreviewNotifications | flushVideoNotifications =>
    cases hperform
    exact (h.flushNodes _).returns _
  | exit =>
    rw [CbNotifier.perform] at hperform
    have hsent := h.sendCmd .exit true m
    split at hperform
    · dsimp only at hperform
      split at hperform <;> cases hperform
      · exact hsent.keep rfl rfl (append_nil _).symm nofun hsent.counted
      · exact hsent
    · cases hperform
      exact h
  | join =>
    rw [CbNotifier.perform] at hperform
    split at hperform <;> cases hperform
    exact h.keep rfl rfl (append_nil _).symm nofun h.counted

/-- **One step keeps the invariant**, if it drops no snapshot. -/
theorem Settled.step {op : Op} (h : s.Settled) (hexec : op.exec s = some t) (expected : op.Expected s) :
    t.Settled := by
  cases op with
  | notifyCallback arg | flushPreviewNotifications | flushVideoNotifications =>
    cases hexec
    exact h.enter _
  | startSnapshots m =>
    cases hexec
    exact (h.sendCmd _ _ m).returns _
  | stopSnapshots m =>
    cases hexec
    exact h.sendCmd _ _ m
  | exit | setJpegCallBacks jpegCb callbackCookie | setMsgEnabled msgEnabled =>
    cases hexec
    exact h.keep rfl rfl (append_nil _).symm nofun h.counted
  | perform i m =>
    simp only [Op.exec] at hexec
    split at hexec
    · refine Settled.perform ?_ hexec
      exact h.keep rfl rfl (append_nil _).symm nofun h.counted
    · cases hexec
  | getCmd numExpected longshot =>
    obtain ⟨⟨_, hpc, _⟩, ⟨⟩⟩ := Option.ite_none_right_eq_some.mp hexec
    exact h.getCmd hpc numExpected longshot
  | proceed =>
    simp only [Op.exec, CbNotifier.proceed] at hexec
    split at hexec <;> cases hexec
    case h_2 n hpc => exact h.checkMsgType hpc
    case h_3 n hpc => exact h.dispatch hpc (expected n hpc)
    case h_4 n hpc => exact h.deliverSnapshot hpc

end CbNotifier

namespace CbNotifier

/-- **A snapshot that is dropped** is missing in the accounts. -/
theorem Settled.dropped {op : Op} (h : s.Settled) (hexec : op.exec s = some t)
    (unexpected : ¬ op.Expected s) : ¬ t.Accounted := by
  cases op with
  | proceed =>
    simp only [Op.Expected, not_forall] at unexpected
    obtain ⟨n, hpc, htype, hrelease, hinactive⟩ := unexpected
    have hdropped : s.finish n [] = t := by
      rw [Op.exec, CbNotifier.proceed, hpc] at hexec
      dsimp only at hexec
      rw [CbNotifier.dispatch, htype] at hexec
      dsimp only at hexec
      rw [← Bool.and_eq_true] at hinactive
      rw [if_neg hinactive] at hexec
      exact Option.some.inj hexec
    subst hdropped
    have hmem : n ∈ s.pending := by simp [pending, hpc, Pc.hand]
    have harg := h.held n hmem
    have hown := h.own n.id
    have hsparse := h.sparse n.id
    rw [if_pos (List.getElem?_eq_some_iff.mp harg).1, pending, hpc] at hown
    simp only [Pc.hand, map_append, map_cons, map_nil, count_append, count_singleton_self] at hown
    -- the notification is nowhere, and it has been neither released nor handed over
    have hgone : n.id ∉ (s.finish n []).pending.map Node.id := by
      rw [← count_eq_zero, show (s.finish n []).pending = s.mDataQ from append_nil _]
      omega
    have hnone : (s.finish n []).settlements n.id = 0 := by
      simp only [settlements, CbNotifier.finish, append_nil, tally_append] at hsparse ⊢
      simp only [tally_cons, tally_nil, releases, handsOver, count_nil]
      omega
    intro haccounted
    have hsettled := (haccounted n.id n.arg harg).2.2 hrelease hgone
    rw [settlements] at hnone
    omega
  | _ => exact absurd trivial unexpected

end CbNotifier

def Step (op : Op) (s t : CbNotifier) : Prop := op.exec s = some t ∧ op.Expected s

/-- **The accounts are right in every run** in which no snapshot that is to be released comes when
it is not expected, whatever callbacks are there, whatever message types are enabled, and whatever
the calls; and they are wrong as soon as one comes. -/
theorem notifications_released {notifyCb dataCb dataCbTimestamp callbackCookie : Ptr} {ops : List Op}
    (h : Run Step ops (.setCallbacks notifyCb dataCb dataCbTimestamp callbackCookie) t) :
    t.Accounted ∧ ∀ (op : Op) (u : CbNotifier), op.exec t = some u → (u.Accounted ↔ op.Expected t) := by
  have hsettled : t.Settled :=
    h.invariant (fun (op : Op) (s t : CbNotifier) hstep hs => hs.step hstep.1 hstep.2) (.initial ..)
  refine ⟨hsettled.accounted, fun op u hexec => ⟨fun haccounted => ?_, fun expected => ?_⟩⟩
  · by_contra unexpected
    exact hsettled.dropped hexec unexpected haccounted
  · exact (hsettled.step hexec expected).accounted

def snapshot : CallbackArgm := { cbType := .dataSnapshotCallback, msgType := 0x0100, releaseCb := some 1 }

/-- Snapshots are started, and one is delivered. -/
def deliverOne : List Op :=
  [.setMsgEnabled 0x0100, .startSnapshots ⟨true, true⟩, .notifyCallback snapshot,
    .perform 0 ⟨true, true⟩, .perform 0 ⟨true, true⟩, .getCmd 1 false, .getCmd 1 false, .proceed,
    .proceed, .proceed]

theorem notifications_released_one : ∃ t, Run Step deliverOne (.setCallbacks none (some 1) none none) t ∧
    t.Accounted ∧ t.log.drop 2 = [.snapshotDone, .dataCb 0 0x0100 none 0 none none,
      .release 0 none none .noError, .delete 0] := by
  obtain ⟨t, hrun, hlog⟩ : ∃ t, Run Step deliverOne (.setCallbacks none (some 1) none none) t ∧
      t.log.drop 2 = [.snapshotDone, .dataCb 0 0x0100 none 0 none none,
        .release 0 none none .noError, .delete 0] := by
    refine ⟨_, .cons ⟨rfl, trivial⟩ (.cons ⟨rfl, trivial⟩ (.cons ⟨rfl, trivial⟩
      (.cons ⟨rfl, trivial⟩ (.cons ⟨rfl, trivial⟩ (.cons ⟨rfl, trivial⟩ (.cons ⟨rfl, trivial⟩
      (.cons ⟨rfl, ?_⟩ (.cons ⟨rfl, ?_⟩ (.cons ⟨rfl, ?_⟩ (.nil _)))))))))), ?_⟩
    · exact fun _ h => by cases h
    · exact fun _ _ _ _ => ⟨rfl, rfl⟩
    · exact fun _ h => by cases h
    · rfl
  exact ⟨t, hrun, (notifications_released hrun).1, hlog⟩

/-- **A snapshot that comes after the stop is never released**: the command that stops snapshots is
done before the notification is put into the queue. -/
theorem snapshot_dropped :
    ¬ ∀ (notifyCb dataCb dataCbTimestamp callbackCookie : Ptr) (ops : List Op) (t : CbNotifier),
      Run (fun op s t => op.exec s = some t) ops
        (.setCallbacks notifyCb dataCb dataCbTimestamp callbackCookie) t → t.Accounted := by
  intro h
  have hrun : Run (fun (op : Op) (s t : CbNotifier) => op.exec s = some t)
      [.setMsgEnabled 0x0100, .stopSnapshots ⟨true, true⟩, .getCmd 0 false, .notifyCallback snapshot,
        .perform 0 ⟨true, true⟩, .perform 0 ⟨true, true⟩, .getCmd 0 false, .proceed, .proceed]
      (.setCallbacks none (some 1) none none) _ :=
    .cons rfl (.cons rfl (.cons rfl (.cons rfl (.cons rfl (.cons rfl (.cons rfl (.cons rfl (.cons rfl
      (.nil _)))))))))
  have hsettled := (h _ _ _ _ _ _ hrun 0 snapshot rfl).2.2 rfl
  revert hsettled
  decide

end Notifier
