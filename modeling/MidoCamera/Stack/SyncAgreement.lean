import MidoCamera.Stack.SyncRefinement

/-!
# Frame sync of a fixed set of channels

The channels are registered once, before any frame is matched. Then the agreement of the table
holds in every state that the steps of the channels reach, in whatever order the threads take
them: a matched frame that is found is in the queue of every registered channel, and a synced
dispatch collects it from all of them.
-/

namespace MmCamera

open Loop List

def System.registerAll (s : System) (cs : List ChannelId) : System :=
  { s with fs := cs.foldl (fun fs c => frameSyncRegisterChannel c fs) s.fs }

def FrameSync.Distinct (fs : FrameSync) : Prop :=
  ∀ i j d, fs.chObj i = some d → fs.chObj j = some d → i = j

/-- **The invariant of the system**: the table agrees with the queues, the registered channels are
members, and the queue of every member keeps its own invariant. -/
structure SyncInv (members : Set ChannelId) (s : System) : Prop where
  agreement : SyncAgreement s.fs s.frames
  mem : ∀ j d, s.fs.chObj j = some d → d ∈ members
  queues : ∀ d ∈ members, MemberInv (s.ch d).core

section Invariant

variable {P : ChannelId → Core → ℕ → BufInfo → Prop} {members : Set ChannelId}
  {l : ChannelId × Event} {s t : System}

/-- **A step of the system keeps the invariant.** -/
theorem SysStep.syncInv (hP : ∀ d ∈ members, ∀ k slot b, P d k slot b → MemberCond k slot b)
    (h : SysStep P l s t) (hi : SyncInv members s) : SyncInv members t := by
  have hstep : SyncStep s.fs s.frames t.fs t.frames := h.syncStep hP hi.mem hi.queues
  constructor
  · exact hstep.agreement hi.agreement
  · rw [hstep.chObj]
    exact hi.mem
  · intro d hd
    obtain ⟨es, -, hrun⟩ := h.core_run d
    exact hrun.invariant (fun _ _ _ hk hm => hk.memberInv (hP d hd) hm) (hi.queues d hd)

theorem SysStep.strengthen {Q : ChannelId → Core → ℕ → BufInfo → Prop} (h : SysStep P l s t)
    (sub : ∀ slot b, P l.1 (s.ch l.1).core slot b → Q l.1 (s.ch l.1).core slot b) :
    SysStep Q l s t := by
  cases h with
  | chan step =>
    refine .chan ?_
    cases step with
    | idle core fs => exact .idle core fs
    | reject bundled => exact .reject bundled
    | comp bundled index admitted ok => exact .comp bundled index (sub _ _ admitted) ok
    | drop deq => exact .drop deq
    | dropType camType deq => exact .dropType camType deq
  | send deq core => exact .send deq core
  | sync collected core fs => exact .sync collected core fs

theorem SysStep.priority (h : SysStep P l s t) (d : ChannelId) :
    (t.ch d).core.priority = (s.ch d).core.priority := by
  obtain ⟨es, -, hrun⟩ := h.core_run d
  exact hrun.invariant (I := fun k => k.priority = (s.ch d).core.priority)
    (fun _ _ _ hk heq => hk.priority.trans heq) rfl

/-- **A run keeps the invariant** when no member has low priority, whatever buffers arrive; and it
leaves the members alone. -/
theorem run_syncInv_of_priority {ls : List (ChannelId × Event)} (h : Run (SysStep P) ls s t)
    (hi : SyncInv members s) (hp : ∀ d ∈ members, (s.ch d).core.priority ≠ .low) :
    SyncInv members t ∧ (∀ d ∈ members, (t.ch d).core.priority ≠ .low) ∧
      t.fs.chObj = s.fs.chObj := by
  induction h with
  | nil => exact ⟨hi, hp, rfl⟩
  | @cons l ls s t u hstep _ ih =>
    -- the condition on low priority queues is met by every buffer
    have hstrong : SysStep (fun d k _ _ => d ∈ members → k.priority ≠ .low) l s t :=
      hstep.strengthen fun _ _ _ hmem => hp _ hmem
    have hP : ∀ d ∈ members, ∀ (k : Core) (slot : ℕ) (b : BufInfo),
        (d ∈ members → k.priority ≠ .low) → MemberCond k slot b :=
      fun d hd k slot b hk hlow => absurd hlow (hk hd)
    obtain ⟨hi', hp', hch⟩ := ih (hstrong.syncInv hP hi) fun d hd => by
      rw [hstep.priority]
      exact hp d hd
    refine ⟨hi', hp', ?_⟩
    rw [hch, (hstrong.syncStep hP hi.mem hi.queues).chObj]

/-- **What is found is in every queue**: a matched frame that is found is matched in the queue of
every registered channel. -/
theorem SyncInv.found (hi : SyncInv members s) {oldest : Bool}
    (hf : frameSyncFindMatched oldest s.fs ≠ 0) {j : CamIdx} {d : ChannelId}
    (hd : s.fs.chObj j = some d) : ∃ n ∈ (s.ch d).queue.que, n.matched = true ∧
      n.frameIdx = frameSyncFindMatched oldest s.fs :=
  (hi.agreement.mem_frames hf hd).2

end Invariant

/-! ## The synced dispatch -/

section Dispatch

variable {members : Set ChannelId} {s : System} {frame : ℕ}

theorem exists_dequeueFrame {q : Queue} {n : Node} (hn : n ∈ q.que) (hm : n.matched = true)
    (hf : n.frameIdx = frame) : ∃ m q', superbufDequeueFrameInternal frame q = (some m, q') := by
  rcases dequeueFrameInternal_cases frame q with ⟨m, _, _, _, _, _, hdeq⟩ | ⟨hnone, _⟩
  · exact ⟨m, _, hdeq⟩
  · exact absurd hf (hnone n hn hm)

/-- **A synced dequeue** of a frame that every channel in the slots has takes one node for each
slot that is in use. -/
theorem frameSyncDequeue_length {js : List CamIdx} (nodup : js.Nodup) (distinct : s.fs.Distinct)
    (all : ∀ j ∈ js, ∀ d, s.fs.chObj j = some d →
      ∃ n ∈ (s.ch d).queue.que, n.matched = true ∧ n.frameIdx = frame) :
    (frameSyncDequeue frame js s).1.length = js.countP fun j => (s.fs.chObj j).isSome := by
  induction js generalizing s with
  | nil => rfl
  | cons j js ih =>
    obtain ⟨hj, hjs⟩ := nodup_cons.mp nodup
    rw [countP_cons]
    unfold frameSyncDequeue
    cases hc : s.fs.chObj j with
    | none => simpa using ih hjs distinct fun i hi => all i (mem_cons_of_mem _ hi)
    | some c =>
      obtain ⟨n, hn, hm, hf⟩ := all j mem_cons_self c hc
      obtain ⟨m, q, hdeq⟩ := exists_dequeueFrame hn hm hf
      -- the channels in the other slots are other channels, so the dequeue leaves them alone
      have hrest := ih (s := s.modify c fun ch => { ch with queue := q }) hjs distinct ?_
      · simp only [hdeq, length_cons, hrest]
        simp
      · intro i hi d hd
        have hdc : d ≠ c := by
          rintro rfl
          exact hj (distinct i j d hd hc ▸ hi)
        rw [modify_ch_ne _ hdc]
        exact all i (mem_cons_of_mem _ hi) d hd

/-- **A synced dispatch collects from all**: as many nodes as there are cameras, so what it
collects is never returned for want of a node. -/
theorem SyncInv.collects (hi : SyncInv members s) (distinct : s.fs.Distinct)
    (hf : frameSyncFindMatched false s.fs ≠ 0) :
    (frameSyncDequeue (frameSyncFindMatched false s.fs) (List.finRange maxNumCameraPerBundle)
      s).1.length = s.fs.numCam := by
  rw [hi.agreement.numCam]
  exact frameSyncDequeue_length (nodup_finRange _) distinct fun j _ d hd =>
    hi.found hf hd

end Dispatch

/-! ## Registration -/

section Registration

variable {fs : FrameSync} {members : Set ChannelId}

theorem register_node (hz : fs.numCam ≠ 0 → ∀ i, fs.node i = .zero) (c : ChannelId) :
    (frameSyncRegisterChannel c fs).numCam ≠ 0 →
      ∀ i, (frameSyncRegisterChannel c fs).node i = .zero := by
  intro hnum i
  unfold frameSyncRegisterChannel at hnum ⊢
  split_ifs at hnum ⊢ with hfull h0
  · exact hz hnum i
  · rfl
  · dsimp only at hnum ⊢
    split
    · exact hz h0 i
    · exact hz h0 i

theorem registers_agreement {frames : Frames} (h : SyncAgreement fs frames)
    (hz : fs.numCam ≠ 0 → ∀ i, fs.node i = .zero) (cs : List ChannelId) :
    SyncAgreement (cs.foldl (fun fs c => frameSyncRegisterChannel c fs) fs) frames := by
  induction cs generalizing fs with
  | nil => exact h
  | cons c cs ih =>
    refine ih (h.register fun h0 j _ i => ?_) (register_node hz c)
    rw [hz h0 i]
    exact ⟨rfl, fun hv => absurd hv (by simp [SyncNode.zero])⟩

/-- **The slots are taken in order**, by the first channels that are registered. -/
theorem registers_chObj (h0 : fs.numCam = 0) (hfree : ∀ j, fs.chObj j = none)
    (cs : List ChannelId) :
    let fs' := cs.foldl (fun fs c => frameSyncRegisterChannel c fs) fs
    (∀ j : CamIdx, fs'.chObj j = cs[j.val]?) ∧
      fs'.numCam = min maxNumCameraPerBundle cs.length := by
  induction cs using reverseRecOn with
  | nil => exact ⟨by simpa using hfree, by simpa using h0⟩
  | append_singleton as c ih =>
    dsimp only at ih ⊢
    rw [foldl_append]
    generalize as.foldl (fun fs c => frameSyncRegisterChannel c fs) fs = r at ih ⊢
    obtain ⟨hch, hnum⟩ := ih
    change (∀ j, (frameSyncRegisterChannel c r).chObj j = _) ∧
      (frameSyncRegisterChannel c r).numCam = _
    -- the table is empty, has one camera, or is full
    match as, hch, hnum with
    | [], hch, hnum =>
      unfold frameSyncRegisterChannel
      rw [show r.numCam = 0 from hnum]
      refine ⟨fun j => ?_, rfl⟩
      fin_cases j <;> rfl
    | [a], hch, hnum =>
      have h0 : r.chObj 0 = some a := hch 0
      have h1 : r.chObj 1 = none := hch 1
      have hfind : (finRange maxNumCameraPerBundle).find? (fun j => (r.chObj j).isNone) =
          some 1 := by
        simp [finRange_succ, h0, h1]
      unfold frameSyncRegisterChannel
      rw [show r.numCam = 1 from hnum, if_neg (by decide), if_neg (by decide)]
      simp only [hfind]
      refine ⟨fun j => ?_, by simp [show r.numCam = 1 from hnum]⟩
      fin_cases j
      · simpa using h0
      · simp
    | a :: b :: as, hch, hnum =>
      have h2 : r.numCam = maxNumCameraPerBundle := by
        rw [hnum]
        simp [maxNumCameraPerBundle]
      unfold frameSyncRegisterChannel
      rw [if_pos h2.ge]
      refine ⟨fun j => ?_, by simp [h2, maxNumCameraPerBundle]⟩
      rw [hch]
      fin_cases j <;> rfl

end Registration

/-! ## The guarantees -/

section Guarantee

variable {cs : List ChannelId} {s t : System}

/-- Registering channels in an empty table keeps the invariant. -/
theorem SyncInv.registerAll (hi : SyncInv {c | c ∈ cs} s) (h0 : s.fs.numCam = 0)
    (hfree : ∀ j, s.fs.chObj j = none) : SyncInv {c | c ∈ cs} (s.registerAll cs) := by
  obtain ⟨hch, -⟩ := registers_chObj h0 hfree cs
  constructor
  · exact registers_agreement hi.agreement (absurd h0) cs
  · intro j d hj
    exact mem_of_getElem? ((hch j).symm.trans hj)
  · exact hi.queues

theorem distinct_registerAll (h0 : s.fs.numCam = 0) (hfree : ∀ j, s.fs.chObj j = none)
    (nodup : cs.Nodup) : (s.registerAll cs).fs.Distinct := by
  obtain ⟨hch, -⟩ := registers_chObj h0 hfree cs
  intro i j d hi hj
  obtain ⟨hlen, -⟩ := List.getElem?_eq_some_iff.mp ((hch i).symm.trans hi)
  have heq : cs[i.val]? = cs[j.val]? := by
    rw [← hch i, ← hch j]
    exact hi.trans hj.symm
  exact Fin.ext ((getElem?_inj hlen nodup).mp heq)

def syncedCameras : System :=
  .started fun _ => .started [1] (.burst .normal true) [.own 1 .preview]

/-- **Frame sync agreement.** Distinct channels, none of low priority, are registered in an empty
table and then the channels take any steps in any order. In every state reached: a matched frame
that is found is matched in the queue of every registered channel, so that a synced dispatch
collects one node for every camera; and no two entries of the table hold one frame. -/
theorem frameSync_agreement {ks ls : List (ChannelId × Event)} {s₀ : System}
    (reset : s₀.fs = frameSyncReset) (nodup : cs.Nodup)
    (empty : ∀ c ∈ cs, (s₀.ch c).queue.Empty)
    (priority : ∀ c ∈ cs, (s₀.ch c).queue.attr.priority ≠ .low)
    (before : Run (SysStep anyEnqueue) ks s₀ s)
    (run : Run (SysStep anyEnqueue) ls (s.registerAll cs) t) :
    (∀ oldest, frameSyncFindMatched oldest t.fs ≠ 0 → ∀ c ∈ cs.take maxNumCameraPerBundle,
      ∃ n ∈ (t.ch c).queue.que, n.matched = true ∧
        n.frameIdx = frameSyncFindMatched oldest t.fs) ∧
    (frameSyncFindMatched false t.fs ≠ 0 →
      (frameSyncDequeue (frameSyncFindMatched false t.fs)
        (List.finRange maxNumCameraPerBundle) t).1.length = t.fs.numCam) ∧
    (∀ i j, (t.fs.node i).frameIdx ≠ 0 → (t.fs.node i).frameIdx = (t.fs.node j).frameIdx →
      i = j) := by
  have hi₀ : SyncInv {c | c ∈ cs} s₀ := by
    constructor
    · rw [reset]
      exact .reset _
    · rw [reset]
      rintro j d ⟨⟩
    · exact fun d hd => (empty d hd).memberInv
  obtain ⟨hi, hp, hch⟩ := run_syncInv_of_priority before hi₀ priority
  -- nothing is entered in the table while no channel is registered
  have hfree : ∀ j, s.fs.chObj j = none := fun j => by rw [hch, reset]; rfl
  have h0 : s.fs.numCam = 0 := by
    rw [hi.agreement.numCam, registered_eq, hfree, hfree]
    rfl
  obtain ⟨hslots, -⟩ := registers_chObj h0 hfree cs
  obtain ⟨hi', -, hch'⟩ := run_syncInv_of_priority run (hi.registerAll h0 hfree) hp
  have hdistinct : t.fs.Distinct := by
    rw [FrameSync.Distinct, hch']
    exact distinct_registerAll h0 hfree nodup
  refine ⟨?_, hi'.collects hdistinct, hi'.agreement.unique⟩
  intro oldest hf c hc
  obtain ⟨j, hj, hget⟩ := mem_take_iff_getElem.mp hc
  obtain ⟨hj2, hjlen⟩ := lt_min_iff.mp hj
  refine hi'.found hf (j := ⟨j, hj2⟩) ?_
  rw [hch']
  exact (hslots _).trans (List.getElem?_eq_some_iff.mpr ⟨hjlen, hget⟩)

/-- Two cameras that match frame 7 are dispatched together. -/
theorem frameSync_agreement_twoCameras :
    ∃ t, Run (SysStep anyEnqueue)
        [(0, .arrive (imageBuf 100 1 7)), (1, .arrive (imageBuf 200 1 7))]
        (syncedCameras.registerAll [0, 1]) t ∧
      frameSyncFindMatched false t.fs = 7 ∧
      (∀ c ∈ [0, 1], ∃ n ∈ (t.ch c).queue.que, n.matched = true ∧ n.frameIdx = 7) ∧
      (frameSyncDequeue 7 (List.finRange maxNumCameraPerBundle) t).1.length = t.fs.numCam := by
  obtain ⟨t, run, hf⟩ : ∃ t, Run (SysStep anyEnqueue)
      [(0, .arrive (imageBuf 100 1 7)), (1, .arrive (imageBuf 200 1 7))]
      (syncedCameras.registerAll [0, 1]) t ∧ frameSyncFindMatched false t.fs = 7 :=
    ⟨_, .cons (.chan (@ChanStep.comp _ 0 _ _ .ample _ 0 rfl (by decide) trivial rfl))
      (.cons (.chan (@ChanStep.comp _ 1 _ _ .ample _ 0 rfl (by decide) trivial rfl)) (.nil _)),
      rfl⟩
  have h := frameSync_agreement rfl (by decide) (fun c _ => ⟨rfl, rfl, rfl⟩)
    (fun _ _ => Priority.noConfusion) (.nil syncedCameras) run
  rw [hf] at h
  refine ⟨t, run, hf, ?_, h.2.1 (by decide)⟩
  intro c hc
  obtain ⟨n, hn, hm, hi⟩ := h.1 false (by rw [hf]; decide) c hc
  exact ⟨n, hn, hm, hi.trans hf⟩

end Guarantee

end MmCamera
