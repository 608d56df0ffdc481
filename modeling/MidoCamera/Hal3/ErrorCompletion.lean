import MidoCamera.Hal3.Protocol

/-!
# Errors for all that is pending

`notifyErrorForPendingRequests` goes through the pending buffers and takes those of a frame before
the oldest pending request for buffers of a request that has its final metadata; for every other
frame it takes the first pending request that is left. So it does what it is to do when, from the
oldest pending request on, the frames with pending buffers are those of the pending requests, and
only then: a live request that is finished while an older reprocess request is pending leaves its
buffers where the loop takes them for those of a pending request.
-/

namespace Hal3

open Loop List PendingBuffersInRequest HardwareInterface

variable {streams : Streams}

/-! ## What the framework is told -/

/-- The frames for which it is told that the request has failed, in order. -/
def requestErrors (cs : List Callback) : List ℕ :=
  cs.filterMap fun
    | .error .request n _ => some n
    | _ => none

/-- The frames and streams for which it is told that a buffer has failed, in order. -/
def bufferErrors (cs : List Callback) : List (ℕ × Stream) :=
  cs.filterMap fun
    | .error .buffer n (some j) => some (n, j)
    | _ => none

def sentResults (cs : List Callback) : List CaptureResult :=
  cs.filterMap fun
    | .captureResult r => some r
    | _ => none

theorem requestErrors_append (cs cs' : List Callback) :
    requestErrors (cs ++ cs') = requestErrors cs ++ requestErrors cs' := filterMap_append

theorem bufferErrors_append (cs cs' : List Callback) :
    bufferErrors (cs ++ cs') = bufferErrors cs ++ bufferErrors cs' := filterMap_append

theorem sentResults_append (cs cs' : List Callback) :
    sentResults (cs ++ cs') = sentResults cs ++ sentResults cs' := filterMap_append

def HardwareInterface.mapFrames (s : HardwareInterface) : List ℕ :=
  s.mPendingBuffersMap.mPendingBuffersInRequest.map PendingBuffersInRequest.frameNumber

def HardwareInterface.listFrames (s : HardwareInterface) : List ℕ :=
  s.mPendingRequestsList.map PendingRequest.frameNumber

/-- The pending buffers of the requests that have got their final metadata. -/
def HardwareInterface.lateBuffers (s : HardwareInterface) : List (ℕ × Stream) :=
  (s.mPendingBuffersMap.mPendingBuffersInRequest.filter (·.frameNumber ∉ s.listFrames)).flatMap
    fun req => req.mPendingBufferList.map fun info => (req.frameNumber, info.stream)

/-- The frame numbers of the account increase. -/
structure Increasing (s : HardwareInterface) : Prop where
  list : s.listFrames.Pairwise (· < ·)
  map : s.mapFrames.Pairwise (· < ·)

/-- **What the errors are to be**, where `cs` is what the framework is told on the way from `s` to
`t`: an error for each pending request and for no other frame, one for each pending buffer of a
request that has got its final metadata, every pending buffer returned once and as failed, with the
input buffer of its request, and nothing left pending. -/
structure ErrorsComplete (s t : HardwareInterface) (cs : List Callback) : Prop where
  callbacks : t.callbacks = s.callbacks ++ cs
  requests : (requestErrors cs).Perm s.listFrames
  buffers : (bufferErrors cs).Perm s.lateBuffers
  returned : ((sentResults cs).flatMap CaptureResult.items).Perm s.mPendingBuffersMap.items
  status : ∀ r ∈ sentResults cs, ∀ b ∈ r.outputBuffers, b.status = .error
  paired : ∀ i ∈ s.mPendingRequestsList, ∃ r,
    (sentResults cs).filter (·.frameNumber = i.frameNumber) = [r] ∧ r.inputBuffer = i.inputBuffer
  list : t.mPendingRequestsList = []
  map : t.mPendingBuffersMap.mPendingBuffersInRequest = []

/-- **The condition**: from the oldest pending request on, the frames with pending buffers are those
of the pending requests. -/
def Aligned (s : HardwareInterface) : Prop :=
  s.mapFrames.filter (s.oldestFrame ≤ ·) = s.listFrames

instance (s : HardwareInterface) : Decidable (Aligned s) := inferInstanceAs (Decidable (_ = _))

/-! ## What the loop does -/

/-- What the framework is told of a request that has got its final metadata. -/
def PendingBuffersInRequest.lateErrors (req : PendingBuffersInRequest) : List Callback :=
  (req.mPendingBufferList.map fun info => .error .buffer req.frameNumber (some info.stream)) ++
    [req.errorResult none]

/-- What the framework is told of a request, with the entry that is taken for its own. -/
def PendingBuffersInRequest.requestError (req : PendingBuffersInRequest) (i : PendingRequest) :
    List Callback :=
  [.error .request req.frameNumber none, req.errorResult i.inputBuffer]

/-- The pending buffers before the oldest pending request. -/
def HardwareInterface.olderBuffers (s : HardwareInterface) : List PendingBuffersInRequest :=
  s.mPendingBuffersMap.mPendingBuffersInRequest.filter (·.frameNumber < s.oldestFrame)

/-- The pending buffers from the oldest pending request on. -/
def HardwareInterface.newerBuffers (s : HardwareInterface) : List PendingBuffersInRequest :=
  s.mPendingBuffersMap.mPendingBuffersInRequest.filter (s.oldestFrame ≤ ·.frameNumber)

/-- What the framework is told. -/
def HardwareInterface.pendingErrors (s : HardwareInterface) : List Callback :=
  s.olderBuffers.flatMap PendingBuffersInRequest.lateErrors ++
    (s.newerBuffers.zip s.mPendingRequestsList).flatMap fun p => p.1.requestError p.2

section

variable {frameNum : ℕ} {older newer reqs : List PendingBuffersInRequest}
  {input : Option StreamBuffer} {is : List PendingRequest} {cs : List Callback}
  {s t : HardwareInterface}

theorem notifyErrorLoop_older (lt : ∀ req ∈ older, req.frameNumber < frameNum) :
    notifyErrorLoop frameNum (older ++ newer) none is cs =
      notifyErrorLoop frameNum newer none is
        (cs ++ older.flatMap PendingBuffersInRequest.lateErrors) := by
  induction older generalizing cs with
  | nil => rw [flatMap_nil, append_nil, nil_append]
  | cons req older ih =>
    have hreq : req.frameNumber < frameNum := lt req mem_cons_self
    have hstep : notifyErrorLoop frameNum (req :: (older ++ newer)) none is cs =
        notifyErrorLoop frameNum (older ++ newer) none is (cs ++ req.lateErrors) := by
      conv_lhs => unfold notifyErrorLoop
      rw [if_pos hreq, lateErrors, append_assoc]
    rw [cons_append, hstep, ih fun r hr => lt r (mem_cons_of_mem _ hr), flatMap_cons, append_assoc]

theorem notifyErrorLoop_pending (ge : ∀ req ∈ newer, frameNum ≤ req.frameNumber)
    (le : newer.length ≤ is.length) :
    notifyErrorLoop frameNum newer input is cs =
      .ok (is.drop newer.length, cs ++ (newer.zip is).flatMap fun p => p.1.requestError p.2) := by
  induction newer generalizing input is cs with
  | nil => simp [notifyErrorLoop]
  | cons req newer ih =>
    have hreq : ¬req.frameNumber < frameNum := not_lt.mpr (ge req mem_cons_self)
    cases is with
    | nil => cases le
    | cons i is =>
      rw [notifyErrorLoop, if_neg hreq,
        ih (fun r hr => ge r (mem_cons_of_mem _ hr)) (Nat.le_of_succ_le_succ le)]
      simp [requestError]

theorem filter_append_filter (sorted : (reqs.map PendingBuffersInRequest.frameNumber).Pairwise
      (· < ·)) (n : ℕ) :
    reqs.filter (·.frameNumber < n) ++ reqs.filter (n ≤ ·.frameNumber) = reqs := by
  induction reqs with
  | nil => rfl
  | cons req reqs ih =>
    obtain ⟨hreq, hsorted⟩ := pairwise_cons.mp sorted
    by_cases hlt : req.frameNumber < n
    · rw [filter_cons_of_pos (by simpa using hlt),
        filter_cons_of_neg (by simpa using hlt), cons_append, ih hsorted]
    · -- all that follow have higher frame numbers
      have hge : ∀ r ∈ reqs, n ≤ r.frameNumber := fun r hr =>
        (not_lt.mp hlt).trans (hreq _ (mem_map_of_mem hr)).le
      have hnone : reqs.filter (·.frameNumber < n) = [] :=
        filter_eq_nil_iff.mpr fun r hr => by simpa using hge r hr
      have hall : reqs.filter (n ≤ ·.frameNumber) = reqs :=
        filter_eq_self.mpr fun r hr => by simpa using hge r hr
      rw [filter_cons_of_neg (by simpa using hlt), hnone, nil_append,
        filter_cons_of_pos (by simpa using hlt), hall]

/-- **What the errors do to the account** where its frame numbers increase: each frame from the
oldest pending request on takes one request off the list, for as long as there is one. -/
theorem notifyError_ok_iff (hi : Increasing s) :
    notifyErrorForPendingRequests s = .ok t ↔
      s.newerBuffers.length ≤ s.mPendingRequestsList.length ∧ t = { s with
        mPendingRequestsList := s.mPendingRequestsList.drop s.newerBuffers.length
        mPendingBuffersMap := { s.mPendingBuffersMap with mPendingBuffersInRequest := [] }
        mPendingFrameDropList := []
        callbacks := s.callbacks ++ s.pendingErrors } := by
  have hloop : notifyErrorLoop s.oldestFrame s.mPendingBuffersMap.mPendingBuffersInRequest none
      s.mPendingRequestsList s.callbacks = notifyErrorLoop s.oldestFrame s.newerBuffers none
        s.mPendingRequestsList
        (s.callbacks ++ s.olderBuffers.flatMap lateErrors) := by
    rw [← filter_append_filter hi.map s.oldestFrame]
    exact notifyErrorLoop_older fun req hreq => by simpa using (mem_filter.mp hreq).2
  have hge : ∀ req ∈ s.newerBuffers, s.oldestFrame ≤ req.frameNumber := fun req hreq => by
    simpa using (mem_filter.mp hreq).2
  constructor
  · intro h
    have hle : s.newerBuffers.length ≤ s.mPendingRequestsList.length := by
      have hd := (notifyError_dropped h).le
      rwa [dropCount, countP_eq_length_filter] at hd
    refine ⟨hle, ?_⟩
    rw [notifyErrorForPendingRequests, hloop, notifyErrorLoop_pending hge hle, append_assoc] at h
    exact (Except.ok.inj h).symm
  · rintro ⟨hle, rfl⟩
    rw [notifyErrorForPendingRequests, hloop, notifyErrorLoop_pending hge hle, append_assoc]
    rfl

/-! ## What the framework is told of it -/

/-- The result that returns the buffers of a request. -/
def PendingBuffersInRequest.failedResult (req : PendingBuffersInRequest)
    (input : Option StreamBuffer) : CaptureResult :=
  { frameNumber := req.frameNumber
    result := .null
    partialResult := 0
    inputBuffer := input
    outputBuffers := req.errorBuffers }

theorem requestErrors_pending (le : s.newerBuffers.length ≤ s.mPendingRequestsList.length) :
    requestErrors s.pendingErrors =
      s.newerBuffers.map PendingBuffersInRequest.frameNumber := by
  have holder : requestErrors (s.olderBuffers.flatMap lateErrors) = [] := by
    unfold requestErrors
    rw [filterMap_flatMap, flatMap_eq_nil_iff]
    intro req _
    simp [lateErrors, errorResult]
  calc
    requestErrors s.pendingErrors
      = (s.newerBuffers.zip s.mPendingRequestsList).flatMap fun p => [p.1.frameNumber] := by
        rw [pendingErrors, requestErrors_append, holder, nil_append,
          requestErrors, filterMap_flatMap]
        rfl
    _ = ((s.newerBuffers.zip s.mPendingRequestsList).map Prod.fst).map frameNumber := by
        rw [map_map, ← flatMap_singleton' (map _ _), flatMap_map]
        rfl
    _ = _ := by rw [map_fst_zip le]

theorem bufferErrors_pending :
    bufferErrors s.pendingErrors = s.olderBuffers.flatMap fun req =>
      req.mPendingBufferList.map fun info => (req.frameNumber, info.stream) := by
  have hnewer : bufferErrors ((s.newerBuffers.zip s.mPendingRequestsList).flatMap
      fun p => p.1.requestError p.2) = [] := by
    unfold bufferErrors
    rw [filterMap_flatMap, flatMap_eq_nil_iff]
    intro p _
    rfl
  rw [pendingErrors, bufferErrors_append, hnewer, append_nil, bufferErrors, filterMap_flatMap]
  refine flatMap_congr fun req _ => ?_
  simp [lateErrors, errorResult, filterMap_map]

theorem sentResults_pending :
    sentResults s.pendingErrors = s.olderBuffers.map (·.failedResult none) ++
      (s.newerBuffers.zip s.mPendingRequestsList).map
        fun p => p.1.failedResult p.2.inputBuffer := by
  have holder : sentResults (s.olderBuffers.flatMap lateErrors) =
      s.olderBuffers.map (·.failedResult none) := by
    unfold sentResults
    rw [filterMap_flatMap, ← flatMap_singleton' (map _ _), flatMap_map]
    refine flatMap_congr fun req _ => ?_
    simp [lateErrors, errorResult, failedResult]
  have hnewer : sentResults ((s.newerBuffers.zip s.mPendingRequestsList).flatMap
      fun p => p.1.requestError p.2) = (s.newerBuffers.zip s.mPendingRequestsList).map
        fun p => p.1.failedResult p.2.inputBuffer := by
    unfold sentResults
    rw [filterMap_flatMap, ← flatMap_singleton' (map _ _), flatMap_map]
    rfl
  rw [pendingErrors, sentResults_append, holder, hnewer]

theorem aligned_iff : Aligned s ↔
    s.newerBuffers.map PendingBuffersInRequest.frameNumber = s.listFrames := by
  unfold Aligned mapFrames newerBuffers
  rw [filter_map]
  rfl

theorem oldestFrame_le (hi : Increasing s) {n : ℕ} (mem : n ∈ s.listFrames) :
    s.oldestFrame ≤ n := by
  have hsorted := hi.list
  unfold oldestFrame
  unfold listFrames at mem hsorted
  cases hl : s.mPendingRequestsList with
  | nil =>
    rw [hl] at mem
    cases mem
  | cons i is =>
    rw [hl] at mem hsorted
    rcases mem_cons.mp mem with rfl | hmem
    · exact le_rfl
    · exact ((pairwise_cons.mp hsorted).1 n hmem).le

/-- Under the condition the requests that have got their final metadata are those before the oldest
pending request. -/
theorem Aligned.lateBuffers (ha : Aligned s) (hi : Increasing s) :
    s.lateBuffers = s.olderBuffers.flatMap fun req =>
      req.mPendingBufferList.map fun info => (req.frameNumber, info.stream) := by
  have hfilter : s.mPendingBuffersMap.mPendingBuffersInRequest.filter
      (·.frameNumber ∉ s.listFrames) = s.olderBuffers := by
    refine filter_congr fun req hreq => decide_eq_decide.mpr ?_
    constructor
    · -- a frame from the oldest request on is that of a pending request
      intro hnot
      by_contra hge
      apply hnot
      rw [← aligned_iff.mp ha]
      exact mem_map_of_mem (mem_filter.mpr ⟨hreq, by simpa using hge⟩)
    · intro hlt hmem
      exact absurd (oldestFrame_le hi hmem) (not_le.mpr hlt)
  unfold HardwareInterface.lateBuffers
  rw [hfilter]

theorem zip_frame {p : PendingBuffersInRequest × PendingRequest}
    (frames : newer.map PendingBuffersInRequest.frameNumber = is.map PendingRequest.frameNumber)
    (mem : p ∈ newer.zip is) : p.1.frameNumber = p.2.frameNumber := by
  induction newer generalizing is with
  | nil => cases mem
  | cons req newer ih =>
    cases is with
    | nil => cases mem
    | cons i is =>
      obtain ⟨hframe, hframes⟩ := cons.inj frames
      rcases mem_cons.mp mem with rfl | hmem
      · exact hframe
      · exact ih hframes hmem

theorem filter_frame {rs : List CaptureResult} {r : CaptureResult}
    (distinct : (rs.map CaptureResult.frameNumber).Nodup) (mem : r ∈ rs) :
    rs.filter (·.frameNumber = r.frameNumber) = [r] := by
  induction rs with
  | nil => cases mem
  | cons q rs ih =>
    obtain ⟨hq, hrest⟩ := nodup_cons.mp distinct
    rcases mem_cons.mp mem with rfl | hmem
    · have hnone : rs.filter (·.frameNumber = r.frameNumber) = [] := by
        refine filter_eq_nil_iff.mpr fun q' hq' heq => hq ?_
        exact (of_decide_eq_true heq) ▸ mem_map_of_mem hq'
      rw [filter_cons, if_pos (decide_eq_true rfl), hnone]
    · have hne : q.frameNumber ≠ r.frameNumber := fun heq =>
        hq (heq ▸ mem_map_of_mem hmem)
      rw [filter_cons, if_neg (by simpa using hne), ih hrest hmem]

theorem Aligned.paired (ha : Aligned s) (hi : Increasing s) {i : PendingRequest}
    (mem : i ∈ s.mPendingRequestsList) : ∃ r, (sentResults s.pendingErrors).filter
      (·.frameNumber = i.frameNumber) = [r] ∧ r.inputBuffer = i.inputBuffer := by
  have hframes := aligned_iff.mp ha
  have hlen : s.newerBuffers.length = s.mPendingRequestsList.length := by
    simpa [listFrames] using congrArg length hframes
  -- the entry of the pending buffers with which the request is taken
  have hsnd : (s.newerBuffers.zip s.mPendingRequestsList).map Prod.snd = s.mPendingRequestsList :=
    map_snd_zip hlen.ge
  rw [← hsnd] at mem
  obtain ⟨⟨req, i⟩, hp, rfl⟩ := mem_map.mp mem
  have hframe : req.frameNumber = i.frameNumber := zip_frame hframes hp
  -- no two results have the same frame
  have hmap : (sentResults s.pendingErrors).map CaptureResult.frameNumber = s.mapFrames := by
    unfold mapFrames
    rw [← filter_append_filter hi.map s.oldestFrame, sentResults_pending, map_append,
      map_append, map_map, map_map]
    refine congrArg (_ ++ ·) ?_
    show (s.newerBuffers.zip s.mPendingRequestsList).map (frameNumber ∘ Prod.fst) = _
    rw [← map_map, map_fst_zip hlen.le]
    rfl
  have hdistinct : ((sentResults s.pendingErrors).map CaptureResult.frameNumber).Nodup := by
    rw [hmap]
    exact hi.map.imp ne_of_lt
  refine ⟨req.failedResult i.inputBuffer, ?_, rfl⟩
  have hmem : req.failedResult i.inputBuffer ∈ sentResults s.pendingErrors := by
    rw [sentResults_pending]
    exact mem_append_right _ (mem_map.mpr ⟨_, hp, rfl⟩)
  rw [← filter_frame hdistinct hmem]
  exact filter_congr fun q _ => by rw [← hframe]; rfl

theorem returned_pending (hi : Increasing s)
    (le : s.newerBuffers.length ≤ s.mPendingRequestsList.length) :
    (sentResults s.pendingErrors).flatMap CaptureResult.items = s.mPendingBuffersMap.items := by
  have hitems : ∀ (req : PendingBuffersInRequest) (input : Option StreamBuffer),
      (req.failedResult input).items = req.items := by
    intro req input
    simp [CaptureResult.items, items, failedResult, errorBuffers]
  have hnewer : ((s.newerBuffers.zip s.mPendingRequestsList).map
      fun p => p.1.failedResult p.2.inputBuffer).flatMap CaptureResult.items =
        s.newerBuffers.flatMap items := by
    conv_rhs => rw [← map_fst_zip le, flatMap_map]
    rw [flatMap_map]
    exact flatMap_congr fun p _ => hitems p.1 _
  have holder : (s.olderBuffers.map (·.failedResult none)).flatMap CaptureResult.items =
      s.olderBuffers.flatMap items := by
    rw [flatMap_map]
    exact flatMap_congr fun req _ => hitems req none
  unfold PendingBuffersMap.items
  rw [sentResults_pending, flatMap_append, holder, hnewer,
    ← filter_append_filter hi.map s.oldestFrame, flatMap_append]
  rfl

theorem status_pending : ∀ r ∈ sentResults s.pendingErrors, ∀ b ∈ r.outputBuffers,
    b.status = .error := by
  have hstatus : ∀ (req : PendingBuffersInRequest), ∀ b ∈ req.errorBuffers, b.status = .error := by
    intro req b hb
    obtain ⟨info, -, rfl⟩ := mem_map.mp hb
    rfl
  intro r hr
  rw [sentResults_pending] at hr
  rcases mem_append.mp hr with hr | hr
  · obtain ⟨req, -, rfl⟩ := mem_map.mp hr
    exact hstatus req
  · obtain ⟨p, -, rfl⟩ := mem_map.mp hr
    exact hstatus p.1

/-- **The errors are complete exactly under the condition.** -/
theorem notifyError_complete (hi : Increasing s) :
    (∃ t cs, notifyErrorForPendingRequests s = .ok t ∧ ErrorsComplete s t cs) ↔ Aligned s := by
  constructor
  · rintro ⟨t, cs, hok, hc⟩
    obtain ⟨hle, rfl⟩ := (notifyError_ok_iff hi).mp hok
    have hcs : s.pendingErrors = cs := append_cancel_left hc.callbacks
    have hperm := hc.requests
    rw [← hcs, requestErrors_pending hle] at hperm
    -- both lists of frames increase, so they are the same
    have hsorted : (s.newerBuffers.map frameNumber).Pairwise (· < ·) :=
      hi.map.sublist (filter_sublist.map _)
    exact aligned_iff.mpr (hperm.eq_of_pairwise (fun _ _ _ _ h h' => absurd h h'.asymm)
      hsorted hi.list)
  · intro ha
    have hframes := aligned_iff.mp ha
    have hlen : s.newerBuffers.length = s.mPendingRequestsList.length := by
      simpa [listFrames] using congrArg length hframes
    refine ⟨_, s.pendingErrors, (notifyError_ok_iff hi).mpr ⟨hlen.le, rfl⟩, ?_⟩
    constructor
    · rfl
    · rw [requestErrors_pending hlen.le, hframes]
    · rw [bufferErrors_pending, ha.lateBuffers hi]
    · rw [returned_pending hi hlen.le]
    · exact status_pending
    · exact fun i hmem => ha.paired hi hmem
    · exact drop_eq_nil_of_le hlen.ge
    · rfl

/-! ## The frames along a run -/

def Op.frame : Op → Option ℕ
  | .request _ req => some req.frameNumber
  | _ => none

/-- The frames of the account are among those before and `fs`, in this order. -/
structure FramesFrom (fs : List ℕ) (s t : HardwareInterface) : Prop where
  list : t.listFrames.Sublist (s.listFrames ++ fs)
  map : t.mapFrames.Sublist (s.mapFrames ++ fs)

theorem FramesFrom.of_sublist (list : t.listFrames.Sublist s.listFrames)
    (map : t.mapFrames.Sublist s.mapFrames) (fs : List ℕ) : FramesFrom fs s t :=
  ⟨list.trans (sublist_append_left ..), map.trans (sublist_append_left ..)⟩

theorem FramesFrom.trans {fs gs : List ℕ} {u : HardwareInterface} (h : FramesFrom fs s t)
    (h' : FramesFrom gs t u) : FramesFrom (fs ++ gs) s u := by
  refine ⟨?_, ?_⟩
  · rw [← append_assoc]
    exact h'.list.trans (h.list.append_right gs)
  · rw [← append_assoc]
    exact h'.map.trans (h.map.append_right gs)

theorem removeBufFrom_frames (buffer : ℕ) (reqs : List PendingBuffersInRequest) :
    ((removeBufFrom buffer reqs).map PendingBuffersInRequest.frameNumber).Sublist
      (reqs.map PendingBuffersInRequest.frameNumber) := by
  induction reqs with
  | nil => exact Sublist.refl _
  | cons req reqs ih =>
    unfold removeBufFrom
    dsimp only
    split_ifs
    · exact sublist_cons_self ..
    · exact Sublist.refl _
    · exact ih.cons_cons _

theorem removeBuf_frames (bs : List StreamBuffer) (m : PendingBuffersMap) :
    ((bs.foldl (fun m b => m.removeBuf b.buffer) m).mPendingBuffersInRequest.map
      PendingBuffersInRequest.frameNumber).Sublist
        (m.mPendingBuffersInRequest.map PendingBuffersInRequest.frameNumber) := by
  induction bs generalizing m with
  | nil => exact Sublist.refl _
  | cons b bs ih => exact (ih (m.removeBuf b.buffer)).trans (removeBufFrom_frames b.buffer _)

theorem listFrames_core (s : HardwareInterface) :
    s.listFrames = (s.mPendingRequestsList.map PendingRequest.core).map
      PendingRequest.Core.frameNumber := by
  rw [map_map]
  rfl

theorem mapFrames_congr (h : t.mPendingBuffersMap = s.mPendingBuffersMap) :
    t.mapFrames = s.mapFrames := congrArg (map _ ∘ PendingBuffersMap.mPendingBuffersInRequest) h

theorem Refreshed.frames (hr : Refreshed s t) : FramesFrom [] s t := by
  apply FramesFrom.of_sublist
  · rw [listFrames_core, listFrames_core, hr.list]
  · rw [mapFrames_congr hr.map]

theorem Dropped.frames (hd : Dropped s t) (fs : List ℕ) : FramesFrom fs s t := by
  apply FramesFrom.of_sublist
  · unfold listFrames
    rw [hd.list]
    exact (drop_sublist ..).map _
  · unfold mapFrames
    rw [hd.map]
    exact nil_sublist _

theorem FlushStep.frames {env : FlushEnv} (hf : FlushStep env s t) : FramesFrom [] s t := by
  cases hf with
  | stopped => exact .of_sublist (.refl _) (.refl _) _
  | dropped _ dropped =>
    obtain ⟨hlist, hmap⟩ := dropped.frames []
    exact ⟨hlist, hmap⟩

theorem FlushSteps.frames {n : ℕ} {js : List PendingRequest} (hs : FlushSteps n is s js t) :
    (js.map PendingRequest.frameNumber).Sublist (is.map PendingRequest.frameNumber) ∧
      t.mapFrames.Sublist s.mapFrames := by
  induction hs with
  | nil s | later is s frame => exact ⟨.refl _, .refl _⟩
  | @passed i i' is js s t u frame input core reported rest ih =>
    rw [mapFrames_congr reported.map] at ih
    have hframe : i'.frameNumber = i.frameNumber :=
      congrArg PendingRequest.Core.frameNumber core
    refine ⟨?_, ih.2⟩
    rw [map_cons, map_cons, hframe]
    exact ih.1.cons_cons _
  | @finished i i' is js s t u v frame input core reported finished rest ih =>
    refine ⟨ih.1.cons _, ih.2.trans ?_⟩
    rw [← mapFrames_congr reported.map]
    unfold mapFrames
    rw [finished.map]
    exact removeBuf_frames ..

theorem MetadataStep.frames {md : MetadataBuffer} (hs : MetadataStep md s t) :
    FramesFrom [] s t := by
  cases hs with
  | ignored => exact .of_sublist (.refl _) (.refl _) _
  | refreshed _ refreshed => exact refreshed.frames
  | flushed _ _ before steps after =>
    refine (before.frames.trans (FramesFrom.of_sublist ?_ ?_ [])).trans after.frames
    · exact steps.frames.1
    · exact steps.frames.2

theorem cacheBuffer_frames (b : StreamBuffer) (n : ℕ) (is : List PendingRequest) :
    (cacheBuffer b n is).map PendingRequest.frameNumber = is.map PendingRequest.frameNumber := by
  induction is with
  | nil => rfl
  | cons i is ih =>
    unfold cacheBuffer
    split_ifs
    · rfl
    · exact congrArg (i.frameNumber :: ·) ih

theorem BufferStep.frames {b : StreamBuffer} {n : ℕ} (hs : BufferStep b n s t) :
    FramesFrom [] s t := by
  cases hs with
  | ignored => exact .of_sublist (.refl _) (.refl _) _
  | counted num _ =>
    apply FramesFrom.of_sublist
    · exact .refl _
    · exact .refl _
  | givenBack _ givenBack =>
    apply FramesFrom.of_sublist
    · unfold listFrames
      rw [givenBack.list]
    · unfold mapFrames
      rw [givenBack.map]
      exact removeBufFrom_frames ..
  | reprocessed now _ _ =>
    apply FramesFrom.of_sublist
    · exact eraseP_sublist.map _
    · exact removeBufFrom_frames ..
  | cached _ _ =>
    apply FramesFrom.of_sublist
    · show ((cacheBuffer b n s.mPendingRequestsList).map _).Sublist _
      rw [cacheBuffer_frames]
      exact .refl _
    · exact .refl _

theorem handleInputBuffer_frames (now : ℤ) (n : ℕ) (s : HardwareInterface) :
    FramesFrom [] s (handleInputBufferWithLock now n s) := by
  unfold handleInputBufferWithLock
  split
  · exact .of_sublist (.refl _) (.refl _) _
  · split_ifs
    all_goals apply FramesFrom.of_sublist
    all_goals first
      | exact eraseP_sublist.map _
      | exact .refl _

theorem Prepared.frames (hp : Prepared s t) (fs : List ℕ) : FramesFrom fs s t := by
  apply FramesFrom.of_sublist
  · unfold listFrames
    rw [hp.list]
  · rw [mapFrames_congr hp.map]

theorem RequestStep.frames {env : RequestEnv} {req : CaptureRequest} {rc : ℤ}
    (hs : RequestStep streams env req s rc t) : FramesFrom [req.frameNumber] s t := by
  have hkeep := prepare_keeps streams env req s
  cases hs with
  | refused early =>
    rw [early] at hkeep
    exact hkeep.1.frames _
  | restartFailed prepared due code dropped =>
    rw [prepared] at hkeep
    exact (hkeep.1.frames []).trans (dropped.frames _)
  | @recorded u v w _ _ i prepared restarted recorded issued =>
    rw [prepared] at hkeep
    have hv : FramesFrom [] u v := by
      cases restarted with
      | steady due => exact .of_sublist (.refl _) (.refl _) _
      | restarted due code dropped =>
        obtain ⟨hlist, hmap⟩ := dropped.frames []
        exact ⟨hlist, hmap⟩
    have ht : FramesFrom [req.frameNumber] v t := by
      obtain ⟨flags, hlist⟩ := issued.list recorded.list
      obtain ⟨e, he, -, hmap⟩ := recorded.map
      have hissued : t.mPendingBuffersMap = w.mPendingBuffersMap := issued.map
      constructor
      · unfold listFrames
        rw [hlist, map_append, ← recorded.frame]
        exact .refl _
      · unfold mapFrames
        rw [hissued, hmap, ← he, map_append]
        exact .refl _
    exact ((hkeep.1.frames []).trans hv).trans ht

theorem handleCameraDeviceError_frames {env : FlushEnv}
    (h : handleCameraDeviceError env s = .ok t) (error : s.mState = .error) :
    FramesFrom [] s t := by
  obtain ⟨u, hu, rfl⟩ := handleCameraDeviceError_step h error
  obtain ⟨hlist, hmap⟩ := hu.frames
  exact ⟨hlist, hmap⟩

/-- **Every operation** takes requests off the list and buffers out of the pending ones, and adds
nothing but the request it is given. -/
theorem Op.Step.frames {op : Op} (h : op.Step streams s t) :
    FramesFrom op.frame.toList s t := by
  have same : FramesFrom [] s s := .of_sublist (.refl _) (.refl _) _
  cases Op.outcome h with
  | requestError error ends =>
    exact (handleCameraDeviceError_frames ends error).trans (.of_sublist (.refl _) (.refl _) _)
  | requestInvalid => exact .of_sublist (.refl _) (.refl _) _
  | request call step | flushEnded flush step => exact step.frames
  | metadata timeOffset first md =>
    exact (handleMetadata_step streams timeOffset first md s).frames
  | buffer now b frameNumber => exact (handleBuffer_step streams now b frameNumber s).frames
  | inputBuffer now frameNumber => exact handleInputBuffer_frames now frameNumber s
  | flushError error ends => exact handleCameraDeviceError_frames ends error
  | perfEnded dropped =>
    obtain ⟨hlist, hmap⟩ := dropped.frames []
    exact ⟨hlist, hmap⟩
  | flushIdle | flushOff | perfOff => exact same
  | flushBegun | perfBegun | perfFailed | daemonDied => exact ⟨same.list, same.map⟩

theorem run_frames {ops : List Op} (run : Run (Op.Step streams) ops s t) :
    FramesFrom (ops.filterMap Op.frame) s t := by
  induction run with
  | nil s => exact .of_sublist (.refl _) (.refl _) _
  | @cons op ops s t u step _ ih =>
    have happend : (op :: ops).filterMap Op.frame = op.frame.toList ++ ops.filterMap Op.frame := by
      cases hf : op.frame with
      | none => rw [filterMap_cons_none hf]; rfl
      | some n => rw [filterMap_cons_some hf]; rfl
    rw [happend]
    exact step.frames.trans ih

/-- **The frame numbers of the account increase** in every state that a run reaches in which those
of the requests do. -/
theorem run_increasing {batchSize minInFlight : ℕ} {ops : List Op}
    (run : Run (Op.Step streams) ops (.configured batchSize minInFlight) t)
    (frames : (ops.filterMap Op.frame).Pairwise (· < ·)) : Increasing t := by
  obtain ⟨hlist, hmap⟩ := run_frames run
  exact ⟨frames.sublist hlist, frames.sublist hmap⟩

end

/-- A reprocess request for one buffer. -/
def reprocessRequest (frameNumber : ℕ) : CaptureRequest :=
  { previewRequest frameNumber with
    inputBuffer := some ⟨0, 16 * frameNumber + 8, 32, .ok, -1, -1⟩ }

/-- Two requests are pending. -/
theorem run_increasing_two : ∃ t, Increasing t ∧ t.listFrames = [1, 2] := by
  obtain ⟨t, run, htwo⟩ : ∃ t, Run (Op.Step previewStream) [.request (channelReturns 0)
      (reprocessRequest 1), .request (channelReturns 0) (previewRequest 2)] (.configured 0 6) t ∧
      t.listFrames = [1, 2] := ⟨_, .cons rfl (.one rfl), by decide⟩
  exact ⟨t, run_increasing run (by decide), htwo⟩

/-- **A live request is finished while an older reprocess request is pending**: its buffer is still
pending, the loop takes it for that of a pending request, and there is none left. -/
theorem notifyError_incomplete :
    ¬∀ (streams : Streams) (ops : List Op) (s : HardwareInterface),
      Run (Op.Step streams) ops (.configured 0 6) s →
        (ops.filterMap Op.frame).Pairwise (· < ·) →
          ∃ t cs, notifyErrorForPendingRequests s = .ok t ∧ ErrorsComplete s t cs := by
  intro hall
  obtain ⟨t, cs, hok, -⟩ := hall previewStream [.request (channelReturns 0) (reprocessRequest 1),
      .request (channelReturns 0) (previewRequest 2), .metadata 0 true (metadataOf 2)]
    _ (.cons rfl (.cons rfl (.one rfl))) (by decide)
  have hisOk : Except.isOk (notifyErrorForPendingRequests _) = true := congrArg Except.isOk hok
  revert hisOk
  decide +kernel

/-- Two requests of which the older has got its final metadata and waits for its buffer. -/
def oneLate : HardwareInterface :=
  { HardwareInterface.configured 0 6 with
    mPendingRequestsList := [pendingRequest previewStream (previewRequest 2) (.configured 0 6)]
    mPendingBuffersMap := ⟨0, [bufsForCurRequest (channelReturns 0) (previewRequest 1),
      bufsForCurRequest (channelReturns 0) (previewRequest 2)]⟩ }

theorem notifyError_complete_oneLate :
    ∃ t cs, notifyErrorForPendingRequests oneLate = .ok t ∧ ErrorsComplete oneLate t cs :=
  (notifyError_complete (s := oneLate) ⟨by decide, by decide⟩).mpr (by decide)

end Hal3
