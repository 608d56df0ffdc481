import MidoCamera.Stack.FrameSync
import Mathlib.Tactic.FinCases

/-!
# The agreement of the frame-sync table

An abstract model of frame sync: the table, and for every channel the set of frames of which it
holds a matched super buffer. A channel enters a frame when it has matched it, a frame leaves the
table when one of its super buffers leaves a queue, and channels join and part. The agreement is
that the bit of a channel is set for a frame only if the channel holds the frame, and that in a
matched entry the bits of exactly the registered channels are set.
-/

namespace MmCamera

open List SyncNode

/-- The frames of which each channel holds a matched super buffer. -/
abbrev Frames := ChannelId → Set ℕ

def FrameSync.registered (fs : FrameSync) : ℕ :=
  (List.finRange maxNumCameraPerBundle).countP fun j => (fs.chObj j).isSome

/-- The steps of the table and the channels: a channel gains frames; it enters a frame that it
holds; a frame leaves the table, and then it may leave the channels. -/
inductive SyncStep (fs : FrameSync) (frames : Frames) : FrameSync → Frames → Prop
  | keep {frames' : Frames} (sub : ∀ j d, fs.chObj j = some d → frames d ⊆ frames' d) :
      SyncStep fs frames fs frames'
  | enter {frames' : Frames} {c : ChannelId} {f : ℕ} (index : f ≠ 0)
      (sub : ∀ j d, fs.chObj j = some d → frames d ⊆ frames' d)
      (mem : ∀ j, fs.chObj j = some c → f ∈ frames' c) :
      SyncStep fs frames (frameSyncAdd f c fs) frames'
  | leave {frames' : Frames} {f : ℕ}
      (sub : ∀ j d, fs.chObj j = some d → ∀ g ∈ frames d, g ≠ f → g ∈ frames' d) :
      SyncStep fs frames (frameSyncRemove f fs) frames'

/-- **The agreement** of the table with the channels: no frame has two entries; the bit of a
channel is set only for a frame it holds; and in a matched entry the bits of exactly the
registered channels are set. -/
structure SyncAgreement (fs : FrameSync) (frames : Frames) : Prop where
  unique : ∀ i j, (fs.node i).frameIdx ≠ 0 → (fs.node i).frameIdx = (fs.node j).frameIdx → i = j
  valid : ∀ i j, (fs.node i).frameValid j = true → (fs.node i).frameIdx ≠ 0 ∧
    ∀ c, fs.chObj j = some c → (fs.node i).frameIdx ∈ frames c
  matched : ∀ i, (fs.node i).matched = true →
    ∀ j, (fs.node i).frameValid j = (fs.chObj j).isSome
  numCam : fs.numCam = fs.registered

/-! ## Counting cameras -/

theorem registered_eq (fs : FrameSync) :
    fs.registered = (fs.chObj 0).isSome.toNat + (fs.chObj 1).isSome.toNat := by
  unfold FrameSync.registered
  simp only [finRange_succ, finRange_zero, map_nil, map_cons, countP_cons, countP_nil]
  cases (fs.chObj 0).isSome <;> cases h : (fs.chObj 1).isSome <;> simp [h]

theorem framesValid_eq (n : SyncNode) :
    n.framesValid = (n.frameValid 0).toNat + (n.frameValid 1).toNat := by
  unfold framesValid
  simp only [finRange_succ, finRange_zero, map_nil, map_cons, countP_cons, countP_nil]
  cases n.frameValid 0 <;> cases h : n.frameValid 1 <;> simp [h]

section Agreement

variable {fs fs' : FrameSync} {frames frames' : Frames} {c : ChannelId} {f : ℕ}

/-- An entry in which as many bits are set as there are registered channels, that of a registered
channel among them, has the bits of exactly the registered channels: a bundle has two cameras. -/
theorem valid_of_framesValid {n : SyncNode} {j : CamIdx} (hj : n.frameValid j = true)
    (hc : fs.chObj j = some c) (hcount : n.framesValid = fs.registered) :
    ∀ k, n.frameValid k = (fs.chObj k).isSome := by
  rw [framesValid_eq, registered_eq] at hcount
  intro k
  fin_cases j
  · change n.frameValid 0 = true at hj
    change fs.chObj 0 = some c at hc
    have hrest : n.frameValid 1 = (fs.chObj 1).isSome := by
      rw [hj, hc] at hcount
      cases hn : n.frameValid 1 <;> cases hs : (fs.chObj 1).isSome <;> simp [hn, hs] at hcount ⊢
    fin_cases k
    · simp [hj, hc]
    · exact hrest
  · change n.frameValid 1 = true at hj
    change fs.chObj 1 = some c at hc
    have hrest : n.frameValid 0 = (fs.chObj 0).isSome := by
      rw [hj, hc] at hcount
      cases hn : n.frameValid 0 <;> cases hs : (fs.chObj 0).isSome <;> simp [hn, hs] at hcount ⊢
    fin_cases k
    · exact hrest
    · simp [hj, hc]

theorem SyncAgreement.setNode {i : SyncIdx} {n : SyncNode} (h : SyncAgreement fs frames)
    (hsub : ∀ k j, k ≠ i → (fs.node k).frameValid j = true → ∀ d, fs.chObj j = some d →
      (fs.node k).frameIdx ∈ frames d → (fs.node k).frameIdx ∈ frames' d)
    (hother : n.frameIdx ≠ 0 → ∀ k, k ≠ i → (fs.node k).frameIdx ≠ n.frameIdx)
    (hvalid : ∀ j, n.frameValid j = true → n.frameIdx ≠ 0 ∧
      ∀ c, fs.chObj j = some c → n.frameIdx ∈ frames' c)
    (hmatched : n.matched = true → ∀ j, n.frameValid j = (fs.chObj j).isSome)
    (p : ℕ) : SyncAgreement ({ fs with pos := p }.setNode i n) frames' := by
  have hself : ({ fs with pos := p }.setNode i n).node i = n := by simp
  have hne : ∀ k, k ≠ i → ({ fs with pos := p }.setNode i n).node k = fs.node k := by
    intro k hk
    simp [hk]
  refine ⟨?_, ?_, ?_, h.numCam⟩
  · intro k l hk hkl
    by_cases hki : k = i
    · subst hki
      by_cases hl : l = k
      · exact hl.symm
      · rw [hself] at hk hkl
        rw [hne l hl] at hkl
        exact absurd hkl.symm (hother hk l hl)
    · by_cases hli : l = i
      · subst hli
        rw [hne k hki] at hk hkl
        rw [hself] at hkl
        exact absurd hkl (hother (hkl ▸ hk) k hki)
      · rw [hne k hki] at hk hkl
        rw [hne l hli] at hkl
        exact h.unique k l hk hkl
  · intro k j hkj
    by_cases hki : k = i
    · subst hki
      rw [hself] at hkj ⊢
      exact hvalid j hkj
    · rw [hne k hki] at hkj ⊢
      obtain ⟨hf, hmem⟩ := h.valid k j hkj
      exact ⟨hf, fun d hd => hsub k j hki hkj d hd (hmem d hd)⟩
  · intro k hk j
    by_cases hki : k = i
    · subst hki
      rw [hself] at hk ⊢
      exact hmatched hk j
    · rw [hne k hki] at hk ⊢
      exact h.matched k hk j

theorem SyncAgreement.mono (h : SyncAgreement fs frames)
    (sub : ∀ j d, fs.chObj j = some d → frames d ⊆ frames' d) : SyncAgreement fs frames' := by
  refine ⟨h.unique, ?_, h.matched, h.numCam⟩
  intro i j hij
  obtain ⟨hf, hmem⟩ := h.valid i j hij
  exact ⟨hf, fun d hd => sub j d hd (hmem d hd)⟩

theorem SyncAgreement.leave (h : SyncAgreement fs frames)
    (sub : ∀ j d, fs.chObj j = some d → ∀ g ∈ frames d, g ≠ f → g ∈ frames' d) :
    SyncAgreement (frameSyncRemove f fs) frames' := by
  -- an entry that is left in the table is not of the frame that leaves
  have hrest : (∀ i, (fs.node i).frameIdx ≠ 0 → (fs.node i).frameIdx ≠ f) →
      SyncAgreement fs frames' := by
    intro hne
    refine ⟨h.unique, ?_, h.matched, h.numCam⟩
    intro i j hij
    obtain ⟨hf, hmem⟩ := h.valid i j hij
    exact ⟨hf, fun d hd => sub j d hd _ (hmem d hd) (hne i hf)⟩
  by_cases hf : f = 0
  · subst hf
    rw [show frameSyncRemove 0 fs = fs from if_pos rfl]
    exact hrest fun i hi => hi
  · rcases frameSyncRemove_node hf fs with ⟨i, hi, heq⟩ | ⟨hne, heq⟩
    · rw [heq]
      refine h.setNode ?_ ?_ ?_ ?_ fs.pos
      · intro k j hk hkj d hd hmem
        refine sub j d hd _ hmem fun hkf => hk ?_
        exact h.unique k i (h.valid k j hkj).1 (hkf.trans hi.symm)
      · exact fun h0 => absurd rfl h0
      · simp [zero]
      · simp [zero]
    · rw [heq]
      exact hrest fun i _ => hne i

theorem SyncAgreement.enter (h : SyncAgreement fs frames) (index : f ≠ 0)
    (sub : ∀ j d, fs.chObj j = some d → frames d ⊆ frames' d)
    (mem : ∀ j, fs.chObj j = some c → f ∈ frames' c) :
    SyncAgreement (frameSyncAdd f c fs) frames' := by
  rcases frameSyncAdd_node index c fs with ⟨-, heq⟩ | ⟨j, i, hj, hi, heq⟩ | ⟨j, i, p, hj, hnone, heq⟩
  · rw [heq]
    exact h.mono sub
  · -- the frame has an entry, and the bit of the camera is set in it
    rw [heq]
    have hset : ((fs.node i).setValid j).frameValid j = true := by simp [setValid]
    have hrest : ∀ j', j' ≠ j →
        ((fs.node i).setValid j).frameValid j' = (fs.node i).frameValid j' := by
      intro j' hjj
      simp [setValid, hjj]
    refine h.setNode (fun k j' _ _ d hd hmem => sub j' d hd hmem) ?_ ?_ ?_ fs.pos
    · intro _ k hk hkf
      rw [complete_frameIdx, setValid_frameIdx] at hkf
      exact hk (h.unique k i (by rw [hkf, hi]; exact index) hkf)
    · intro j' hj'
      rw [complete_frameValid] at hj'
      rw [complete_frameIdx, setValid_frameIdx, hi]
      refine ⟨index, fun d hd => ?_⟩
      by_cases hjj : j' = j
      · subst hjj
        obtain rfl : c = d := Option.some.inj (hj.symm.trans hd)
        exact mem j' hj
      · rw [hrest j' hjj] at hj'
        have hmem := (h.valid i j' hj').2 d hd
        rw [hi] at hmem
        exact sub j' d hd hmem
    · intro hm j'
      rw [complete_frameValid]
      rcases complete_matched hm with hm | hcount
      · -- the bit of the camera was set before
        by_cases hjj : j' = j
        · subst hjj
          simp [hset, hj]
        · rw [hrest j' hjj]
          exact h.matched i hm j'
      · exact valid_of_framesValid hset hj (hcount.trans h.numCam) j'
  · -- the frame takes an entry of the ring, with the bit of the camera alone
    rw [heq]
    have hset : (setValid ⟨f, fun _ => false, fs.numCam = 1⟩ j).frameValid j = true := by
      simp [setValid]
    refine h.setNode (fun k j' _ _ d hd hmem => sub j' d hd hmem) ?_ ?_ ?_ p
    · intro _ k _
      rw [complete_frameIdx, setValid_frameIdx]
      exact hnone k
    · intro j' hj'
      rw [complete_frameValid] at hj'
      have hjj : j' = j := by
        by_contra hjj
        simp [setValid, hjj] at hj'
      subst hjj
      rw [complete_frameIdx, setValid_frameIdx]
      refine ⟨index, fun d hd => ?_⟩
      obtain rfl : c = d := Option.some.inj (hj.symm.trans hd)
      exact mem j' hj
    · intro hm j'
      rw [complete_frameValid]
      have hone : (setValid ⟨f, fun _ => false, fs.numCam = 1⟩ j).framesValid = 1 := by
        fin_cases j <;> rfl
      refine valid_of_framesValid hset hj ?_ j'
      rcases complete_matched hm with hm | hm
      · rw [hone, ← h.numCam]
        exact (of_decide_eq_true hm).symm
      · exact hm.trans h.numCam

/-- **A step keeps the agreement**, however often the ring has wrapped. -/
theorem SyncStep.agreement (step : SyncStep fs frames fs' frames') (h : SyncAgreement fs frames) :
    SyncAgreement fs' frames' := by
  cases step with
  | keep sub => exact h.mono sub
  | enter index sub mem => exact h.enter index sub mem
  | leave sub => exact h.leave sub

theorem SyncStep.chObj (step : SyncStep fs frames fs' frames') : fs'.chObj = fs.chObj := by
  cases step with
  | keep => rfl
  | enter => exact frameSyncAdd_chObj _ _ _
  | leave => exact frameSyncRemove_chObj _ _

/-- **What the agreement is for**: a matched frame that is found is held by every registered
channel. -/
theorem SyncAgreement.mem_frames (h : SyncAgreement fs frames) {oldest : Bool}
    (hf : frameSyncFindMatched oldest fs ≠ 0) {j : CamIdx} {d : ChannelId}
    (hd : fs.chObj j = some d) : frameSyncFindMatched oldest fs ∈ frames d := by
  obtain ⟨i, hm, hi⟩ := exists_of_findMatched hf
  have hbit : (fs.node i).frameValid j = true := by
    rw [h.matched i hm j, hd]
    rfl
  have hmem := (h.valid i j hbit).2 d hd
  rwa [hi] at hmem

end Agreement

/-! ## Joining and parting -/

section Membership

variable {fs : FrameSync} {frames : Frames} {c : ChannelId}

theorem SyncAgreement.reset (frames : Frames) : SyncAgreement frameSyncReset frames := by
  refine ⟨fun i j hi => absurd rfl hi, ?_, ?_, rfl⟩
  · intro i j hij
    exact absurd hij (by simp [frameSyncReset, zero])
  · intro i hi
    exact absurd hi (by simp [frameSyncReset, zero])

theorem registered_join {j : CamIdx} (h : fs.chObj j = none) (c : ChannelId) (k : ℕ) :
    ({ fs with chObj := Function.update fs.chObj j (some c), numCam := k } : FrameSync).registered =
      fs.registered + 1 := by
  rw [registered_eq, registered_eq]
  fin_cases j
  · change fs.chObj 0 = none at h
    simp [h, Nat.add_comm]
  · change fs.chObj 1 = none at h
    simp [h]

theorem registered_part {j : CamIdx} (h : fs.chObj j = some c) (k : ℕ) :
    ({ fs with chObj := Function.update fs.chObj j none, numCam := k } : FrameSync).registered + 1 =
      fs.registered := by
  rw [registered_eq, registered_eq]
  fin_cases j
  · change fs.chObj 0 = some c at h
    simp [h, Nat.add_comm]
  · change fs.chObj 1 = some c at h
    simp [h]

/-- A channel takes a free slot of a table in which no entry is matched, and in which the bit of
the slot is set only for frames it holds. -/
theorem SyncAgreement.join {j : CamIdx} (h : SyncAgreement fs frames) (hj : fs.chObj j = none)
    (hm : ∀ i, (fs.node i).matched = false)
    (hv : ∀ i, (fs.node i).frameValid j = true → (fs.node i).frameIdx ∈ frames c) :
    SyncAgreement
      { fs with chObj := Function.update fs.chObj j (some c), numCam := fs.numCam + 1 } frames := by
  refine ⟨h.unique, ?_, ?_, ?_⟩
  · intro i j' hij
    refine ⟨(h.valid i j' hij).1, fun d hd => ?_⟩
    by_cases hjj : j' = j
    · subst hjj
      obtain rfl : c = d := by simpa using hd
      exact hv i hij
    · exact (h.valid i j' hij).2 d (by simpa [hjj] using hd)
  · intro i hi
    exact absurd hi (by simp [hm i])
  · rw [registered_join hj, ← h.numCam]

def FrameSync.freeSlot (fs : FrameSync) : Option CamIdx :=
  (List.finRange maxNumCameraPerBundle).find? fun j => (fs.chObj j).isNone

/-- When joining keeps the agreement: there is no other member, so that the table is reset; or no
entry is matched, and the bit of the slot is set only for frames the channel holds. -/
def JoinCond (fs : FrameSync) (frames : Frames) (c : ChannelId) : Prop :=
  fs.numCam ≠ 0 → ∀ j, fs.freeSlot = some j → ∀ i, (fs.node i).matched = false ∧
    ((fs.node i).frameValid j = true → (fs.node i).frameIdx ∈ frames c)

/-- When parting keeps the agreement: the channel is no member; or the last one, so that the table
is reset; or no entry is matched. -/
def PartCond (fs : FrameSync) (c : ChannelId) : Prop :=
  (∃ j, fs.chObj j = some c) → fs.numCam ≠ 1 → ∀ i, (fs.node i).matched = false

/-- **Joining keeps the agreement** under its condition. -/
theorem SyncAgreement.register (h : SyncAgreement fs frames) (cond : JoinCond fs frames c) :
    SyncAgreement (frameSyncRegisterChannel c fs) frames := by
  unfold frameSyncRegisterChannel
  by_cases hfull : maxNumCameraPerBundle ≤ fs.numCam
  · rw [if_pos hfull]
    exact h
  · rw [if_neg hfull]
    by_cases h0 : fs.numCam = 0
    · simp only [if_pos h0]
      split
      · next j hj =>
        exact (SyncAgreement.reset frames).join rfl (fun _ => rfl) (by simp [frameSyncReset, zero])
      · exact .reset frames
    · simp only [if_neg h0]
      split
      · next j hj =>
        have hnone : fs.chObj j = none := by simpa using find?_some hj
        have hfree := cond h0 j hj
        exact h.join hnone (fun i => (hfree i).1) fun i => (hfree i).2
      · exact h

/-- **Parting keeps the agreement** under its condition. -/
theorem SyncAgreement.unregister (h : SyncAgreement fs frames) (cond : PartCond fs c) :
    SyncAgreement (frameSyncUnregisterChannel c fs) frames := by
  unfold frameSyncUnregisterChannel
  by_cases h0 : fs.numCam = 0
  · rw [if_pos h0]
    exact h
  · rw [if_neg h0]
    cases hj : fs.chIdx c with
    | none =>
      simp only [if_neg h0]
      exact h
    | some j =>
      by_cases h1 : fs.numCam - 1 = 0
      · simp only [if_pos h1]
        exact .reset frames
      · simp only [if_neg h1]
        have hm := cond ⟨j, chIdx_some hj⟩ (by omega)
        refine ⟨h.unique, ?_, ?_, ?_⟩
        · intro i j' hij
          refine ⟨(h.valid i j' hij).1, fun d hd => (h.valid i j' hij).2 d ?_⟩
          by_cases hjj : j' = j
          · simp [hjj] at hd
          · simpa [hjj] using hd
        · intro i hi
          exact absurd hi (by simp [hm i])
        · have := registered_part (chIdx_some hj) (fs.numCam - 1)
          rw [← h.numCam] at this
          change fs.numCam - 1 = _
          omega

end Membership

end MmCamera
