import MidoCamera.Muxer.Composer

/-!
# The JPEGs of an MPO

The composing thread takes a JPEG of each camera and composes them: it does not look at their
frames. `matchFrameId` and `findPreviousJpegs` compare frames, and nothing uses them.

So the queues must agree. The JPEGs of the two cameras that wait at the same place, a main JPEG that
the thread has counted before those in the queue, are of one frame. Taking from both keeps that, and
so does a flush, which leaves no JPEG behind another. It is lost where a JPEG goes to the place of
another frame's, as when an earlier one is missing on one side.
-/

namespace Muxer

open Loop SyncCmd List QCameraMuxer
open PostProc (Queue)

variable {s t : QCameraMuxer} {op : Op} {ops : List Op}

/-- **The JPEGs that were composed are of the same frames.** -/
def Paired (s : QCameraMuxer) : Prop := ∀ p ∈ s.composed, p.1.frameIdx = p.2.frameIdx

instance (s : QCameraMuxer) : Decidable (Paired s) :=
  inferInstanceAs (Decidable (∀ p ∈ s.composed, p.1.frameIdx = p.2.frameIdx))

def QCameraMuxer.mains (s : QCameraMuxer) : List JpegInfo := s.pc.waiting ++ s.mainJpegQ.items

/-- The JPEGs at the same place are of one frame. -/
def SameFrames (mains auxs : List JpegInfo) : Prop :=
  ∀ (k : ℕ) (main aux : JpegInfo),
    mains[k]? = some main → auxs[k]? = some aux → main.frameIdx = aux.frameIdx

/-- The invariant: the JPEGs that wait are of the same frames, a queue that is off is empty, and the
JPEGs that were composed are paired. -/
structure Aligned (s : QCameraMuxer) : Prop where
  same : SameFrames s.mains s.auxJpegQ.items
  off : s.auxJpegQ.active = false → s.auxJpegQ.items = []
  paired : Paired s

/-- The other camera's JPEG at the place where a JPEG of the camera would go. -/
def QCameraMuxer.opposite (s : QCameraMuxer) : CamSyncType → Option JpegInfo
  | .main => s.auxJpegQ.items[s.mains.length]?
  | .aux => s.mains[s.auxJpegQ.items.length]?

/-- A JPEG that is queued goes to a place where the other camera has none, or has one of its frame.
-/
def Op.Matches (s : QCameraMuxer) : Op → Prop
  | .jpegDataCallback camType frameIdx data _ _ m =>
    (data && m.mpoEnabled && m.malloc && m.node && (s.queue camType).active) →
      ∀ other ∈ s.opposite camType, other.frameIdx = frameIdx
  | _ => True

instance : ∀ op : Op, Decidable (op.Matches s)
  | .jpegDataCallback .. => inferInstanceAs (Decidable (_ → ∀ _ ∈ (_ : Option _), _))
  | .init _ | .flush _ | .send _ _ | .destroy | .getCmd | .next | .getMemory _ | .composeMpo _ =>
    inferInstanceAs (Decidable True)

def Op.MatchesStep (op : Op) (s t : QCameraMuxer) : Prop := op.Step s t ∧ op.Matches s

/-! ## What keeps the places -/

section SameFrames

variable {mains auxs mains' auxs' : List JpegInfo} {main aux : JpegInfo}

theorem SameFrames.nil (mains : List JpegInfo) : SameFrames mains [] := fun k _ _ _ haux => by
  simp at haux

theorem SameFrames.mono (h : SameFrames mains auxs) (hmain : mains' <+: mains)
    (haux : auxs' <+: auxs) : SameFrames mains' auxs' := by
  obtain ⟨mainRest, rfl⟩ := hmain
  obtain ⟨auxRest, rfl⟩ := haux
  intro k main aux hk hk'
  refine h k main aux ?_ ?_
  · exact getElem?_append_left (List.getElem?_eq_some_iff.mp hk).1 ▸ hk
  · exact getElem?_append_left (List.getElem?_eq_some_iff.mp hk').1 ▸ hk'

theorem SameFrames.head (h : SameFrames (main :: mains) (aux :: auxs)) :
    main.frameIdx = aux.frameIdx :=
  h 0 main aux rfl rfl

theorem SameFrames.tail (h : SameFrames (main :: mains) (aux :: auxs)) : SameFrames mains auxs :=
  fun k main' aux' hk hk' => h (k + 1) main' aux' hk hk'

theorem SameFrames.symm (h : SameFrames mains auxs) : SameFrames auxs mains :=
  fun k aux main hk hk' => (h k main aux hk' hk).symm

theorem SameFrames.concat {m : JpegInfo} (h : SameFrames mains auxs)
    (hmain : ∀ aux ∈ auxs[mains.length]?, m.frameIdx = aux.frameIdx) :
    SameFrames (mains ++ [m]) auxs := by
  intro k main' aux' hk hk'
  rcases Nat.lt_trichotomy k mains.length with hlt | rfl | hgt
  · rw [getElem?_append_left hlt] at hk
    exact h k main' aux' hk hk'
  · rw [getElem?_concat_length] at hk
    cases hk
    exact hmain aux' hk'
  · rw [getElem?_eq_none (by simp; omega)] at hk
    cases hk

end SameFrames

theorem flush_sublistStart (q : Queue JpegInfo) : q.flush.items <+: q.items := by
  unfold Queue.flush
  split
  · exact nil_prefix
  · exact prefix_refl _

/-- **What every step keeps**, where JPEGs go to the places of their frames. -/
theorem Aligned.step (hs : Aligned s) (h : op.Step s t) (hmatch : op.Matches s) : Aligned t := by
  cases Op.outcome h with
  | dropped hwhy | released | destroy => exact ⟨hs.same, hs.off, hs.paired⟩
  | storedMain hm hactive =>
    rename_i frameIdx releaseCb releaseData m
    have hother := hmatch (by simp [hm, queue, hactive])
    refine ⟨?_, hs.off, hs.paired⟩
    have hsame := hs.same.concat (m := ⟨s.handed.length, frameIdx, releaseCb, releaseData⟩)
      fun aux haux => (hother aux haux).symm
    rwa [mains, append_assoc] at hsame
  | storedAux hm hactive =>
    rename_i frameIdx releaseCb releaseData m
    have hother := hmatch (by simp [hm, queue, hactive])
    refine ⟨?_, fun hoff => (by cases hactive.symm.trans hoff), hs.paired⟩
    exact (hs.same.symm.concat (m := ⟨s.handed.length, frameIdx, releaseCb, releaseData⟩)
      fun main hmain => (hother main hmain).symm).symm
  | init =>
    rename_i camType
    rcases camType with _ | _
    · exact ⟨hs.same, hs.off, hs.paired⟩
    · exact ⟨hs.same, fun hoff => (by cases hoff), hs.paired⟩
  | flush =>
    rename_i camType
    rcases camType with _ | _
    · refine ⟨hs.same.mono ?_ (prefix_refl _), hs.off, hs.paired⟩
      exact (prefix_append_right_inj _).mpr (flush_sublistStart _)
    · refine ⟨hs.same.mono (prefix_refl _) (flush_sublistStart _), fun _ => ?_, hs.paired⟩
      -- off or not, nothing is left
      show s.auxJpegQ.flush.items = []
      unfold Queue.flush
      split
      · rfl
      · next hactive => exact hs.off (by simpa using hactive)
  | moved hheld hwaiting =>
    refine ⟨?_, hs.off, hs.paired⟩
    have hsame := hs.same
    rwa [mains, ← hwaiting] at hsame
  | dequeueMain hpc hitems hactive =>
    -- the main JPEG waits in the thread now, before those of the queue
    refine ⟨?_, hs.off, hs.paired⟩
    have hsame := hs.same
    rwa [mains, hpc, hitems] at hsame
  | dequeueAux hpc hitems hactive =>
    rename_i main aux q
    have hsame : SameFrames (main :: s.mainJpegQ.items) (aux :: q.items) := by
      have hsame := hs.same
      rwa [mains, hpc, hitems] at hsame
    refine ⟨hsame.tail, fun hoff => ?_, fun p hp => ?_⟩
    · have hempty := hs.off (hactive ▸ hoff)
      rw [hitems] at hempty
      cases hempty
    · rcases mem_append.mp hp with hp | hp
      · exact hs.paired p hp
      · cases mem_singleton.mp hp
        exact hsame.head
  | noAux hpc hempty =>
    -- the main JPEG is given up, and there is no auxiliary one that it was before
    have hnone : s.auxJpegQ.items = [] := by
      rcases hactive : s.auxJpegQ.active with _ | _
      · exact hs.off hactive
      · exact hempty hactive
    refine ⟨?_, hs.off, hs.paired⟩
    rw [hnone]
    exact .nil _
  | memory hpc | noMemory hpc | deliver hpc =>
    refine ⟨?_, hs.off, hs.paired⟩
    have hsame := hs.same
    rwa [mains, hpc] at hsame
  | release hheld hwaiting hwaiting' =>
    refine ⟨?_, hs.off, hs.paired⟩
    have hsame := hs.same
    rwa [mains, hwaiting, ← hwaiting'] at hsame

/-- **A run that stores its JPEGs so composes pairs.** -/
theorem paired_of_matches (h : Run Op.MatchesStep ops {} s) : Paired s :=
  have hs : Aligned s := h.invariant (fun _ _ _ hstep hs => hs.step hstep.1 hstep.2)
    ⟨.nil _, fun hoff => (by cases hoff), fun _ h => absurd h not_mem_nil⟩
  hs.paired

def Op.execMatches (s : QCameraMuxer) (op : Op) : Option QCameraMuxer :=
  if op.Matches s then op.exec s else none

theorem Op.MatchesStep.of_execMatches (h : op.execMatches s = some t) : op.MatchesStep s t :=
  (Option.ite_none_right_eq_some.mp h).symm

abbrev stored : QCameraMuxer.Store := ⟨true, true, true, true⟩

/-- The pictures of two frames come in one order from the main camera and the other way round
between the cameras, and are composed frame by frame. -/
theorem paired_of_matches_two : ∃ s : QCameraMuxer,
    s.composed.map (fun p => (p.1.frameIdx, p.2.frameIdx)) = [(1, 1), (2, 2)] ∧ Paired s :=
  have h : Run (fun op s t => Op.execMatches s op = some t) [.send .startDataProc true, .getCmd,
      .jpegDataCallback .main 1 true true true stored, .jpegDataCallback .aux 1 true true true stored,
      .jpegDataCallback .aux 2 true true true stored, .jpegDataCallback .main 2 true true true stored,
      .getCmd, .next, .next, .next, .next, .getMemory true, .composeMpo 0, .next, .next, .next,
      .next, .next, .next, .next] {} _ :=
    Run.of_execAll rfl
  ⟨_, rfl, paired_of_matches (h.mono fun _ _ _ _ => Op.MatchesStep.of_execMatches)⟩

/-- **Frames are mixed after one that is missing.** The auxiliary camera's first JPEG failed, and
the main camera's first is composed with the auxiliary camera's second. -/
theorem paired_fails : ∃ s, Run Op.Step
    [.send .startDataProc true, .getCmd, .jpegDataCallback .main 1 true true true stored,
      .jpegDataCallback .main 2 true true true stored, .jpegDataCallback .aux 2 true true true stored,
      .getCmd, .next, .next, .next, .next] {} s ∧
    s.composed.map (fun p => (p.1.frameIdx, p.2.frameIdx)) = [(1, 2)] ∧ ¬ Paired s :=
  ⟨_, Run.of_execAll rfl, rfl, by decide⟩

end Muxer
