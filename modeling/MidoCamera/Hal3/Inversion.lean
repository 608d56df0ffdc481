import MidoCamera.Hal3.Request

/-!
# What the operations do to the account

Each operation is described once, by what it does to the lists of pending requests and buffers and
to the counter; the invariants are derived from these descriptions.
-/

namespace Hal3

open List

open MmCamera (incU32 decU32)

variable {s t : HardwareInterface}

theorem bind_eq_ok {ε α β : Type} {a : Except ε α} {f : α → Except ε β} {b : β} :
    a >>= f = .ok b ↔ ∃ x, a = .ok x ∧ f x = .ok b := by
  cases a with
  | error e | ok x => simp [bind, Except.bind]

theorem bind_eq_error {ε α β : Type} {a : Except ε α} {f : α → Except ε β} {e : ε} :
    a >>= f = .error e ↔ a = .error e ∨ ∃ x, a = .ok x ∧ f x = .error e := by
  cases a with
  | error e | ok x => simp [bind, Except.bind]

/-! ## Before the request is recorded -/

/-- The account, and what the framework has been told, are untouched. -/
structure Prepared (s t : HardwareInterface) : Prop where
  list : t.mPendingRequestsList = s.mPendingRequestsList
  map : t.mPendingBuffersMap = s.mPendingBuffersMap
  drops : t.mPendingFrameDropList = s.mPendingFrameDropList
  batch : t.mPendingBatchMap = s.mPendingBatchMap
  state : t.mState = s.mState
  flush : t.mFlush = s.mFlush
  flushPerf : t.mFlushPerf = s.mFlushPerf
  callbacks : t.callbacks = s.callbacks

theorem Prepared.refl (s : HardwareInterface) : Prepared s s :=
  ⟨rfl, rfl, rfl, rfl, rfl, rfl, rfl, rfl⟩

theorem Prepared.trans {u : HardwareInterface} (h : Prepared s t) (h' : Prepared t u) :
    Prepared s u :=
  ⟨h'.list.trans h.list, h'.map.trans h.map, h'.drops.trans h.drops, h'.batch.trans h.batch,
    h'.state.trans h.state, h'.flush.trans h.flush, h'.flushPerf.trans h.flushPerf,
    h'.callbacks.trans h.callbacks⟩

/-- The streams are started with this request, and the counter is reset. -/
def HardwareInterface.streamsStart (s : HardwareInterface) (env : RequestEnv) : Prop :=
  s.mState = .configured ∧ (s.mFirstConfiguration = true ∨ 0 ≤ env.unconfigure) ∧
    env.startUp = none

instance (s : HardwareInterface) (env : RequestEnv) : Decidable (s.streamsStart env) :=
  inferInstanceAs (Decidable (_ ∧ _ ∧ _))

/-- The counter after the start of the streams, if they are started. -/
def HardwareInterface.liveAfterStart (s : HardwareInterface) (env : RequestEnv) : ℕ :=
  if s.streamsStart env then 0 else s.mPendingLiveRequest

/-- Whether it returns early or goes on, a part leaves the account untouched and the counter at a
value. -/
def Early.Keeps (s : HardwareInterface) (live : ℕ) : Early HardwareInterface → Prop
  | .ok t => Prepared s t ∧ t.mPendingLiveRequest = live
  | .error (_, t) => Prepared s t ∧ t.mPendingLiveRequest = live

section Prepare

variable {streams : Streams} {env : RequestEnv} {req : CaptureRequest}
  {s t : HardwareInterface} {rc : ℤ} {live : ℕ}

theorem Early.Keeps.bind {a : Early HardwareInterface}
    {f : HardwareInterface → Early HardwareInterface} (h : a.Keeps s live)
    (hf : ∀ t, a = .ok t → (f t).Keeps t t.mPendingLiveRequest) :
    Early.Keeps s live (a >>= f) := by
  cases a with
  | error r => exact h
  | ok t =>
    obtain ⟨hp, hl⟩ := h
    have hft := hf t rfl
    show Early.Keeps s live (f t)
    cases hr : f t with
    | ok u | error r =>
      rw [hr] at hft
      exact ⟨hp.trans hft.1, hft.2.trans hl⟩

theorem refuse_keeps {c : Prop} [Decidable c] (h : Prepared s t)
    (hl : t.mPendingLiveRequest = live) : (refuse c rc t).Keeps s live := by
  unfold refuse
  split_ifs
  · exact ⟨h, hl⟩
  · exact ⟨h, hl⟩

theorem startUp_keeps (env : RequestEnv) (req : CaptureRequest) (s : HardwareInterface) :
    (startUp env req s).Keeps s (s.liveAfterStart env) := by
  unfold startUp HardwareInterface.liveAfterStart
  by_cases hc : s.mState = .configured
  · rw [if_neg (not_not.mpr hc)]
    by_cases hu : s.mFirstConfiguration = false ∧ env.unconfigure < 0
    · -- the streams are still those of the configuration before
      rw [if_pos hu]
      refine ⟨.refl s, (if_neg fun hs => ?_).symm⟩
      rcases hs.2.1 with hf | hle
      · simp [hf] at hu
      · exact absurd hu.2 (not_lt.mpr hle)
    · rw [if_neg hu]
      cases hs : env.startUp with
      | some rc =>
        refine ⟨⟨rfl, rfl, rfl, rfl, rfl, rfl, rfl, rfl⟩, (if_neg fun hst => ?_).symm⟩
        exact absurd (hst.2.2.symm.trans hs) (by simp)
      | none =>
        refine ⟨⟨rfl, rfl, rfl, rfl, rfl, rfl, rfl, rfl⟩, (if_pos ⟨hc, ?_, hs⟩).symm⟩
        by_contra hn
        simp only [not_or, Bool.not_eq_true, not_le] at hn
        exact hu hn
  · rw [if_pos hc]
    exact ⟨.refl s, (if_neg fun hs => hc hs.1).symm⟩

theorem startUp_ok (h : startUp env req s = .ok t) (hc : s.mState = .configured) :
    s.streamsStart env := by
  unfold startUp at h
  rw [if_neg (not_not.mpr hc)] at h
  by_cases hu : s.mFirstConfiguration = false ∧ env.unconfigure < 0
  · rw [if_pos hu] at h
    cases h
  · rw [if_neg hu] at h
    cases hs : env.startUp with
    | some rc => simp [hs] at h
    | none =>
      refine ⟨hc, ?_, hs⟩
      by_contra hn
      simp only [not_or, Bool.not_eq_true, not_le] at hn
      exact hu hn

theorem requestId_keeps (req : CaptureRequest) (s : HardwareInterface) :
    (requestId req s).Keeps s s.mPendingLiveRequest := by
  unfold requestId
  split
  · exact ⟨⟨rfl, rfl, rfl, rfl, rfl, rfl, rfl, rfl⟩, rfl⟩
  · exact refuse_keeps (.refl s) rfl

theorem parseParameters_prepared (streams : Streams) (env : RequestEnv) (req : CaptureRequest)
    (s : HardwareInterface) : Prepared s (parseParameters streams env req s) ∧
      (parseParameters streams env req s).mPendingLiveRequest = s.mPendingLiveRequest := by
  unfold parseParameters
  split_ifs
  · exact ⟨⟨rfl, rfl, rfl, rfl, rfl, rfl, rfl, rfl⟩, rfl⟩
  · exact ⟨.refl s, rfl⟩

theorem setParameters_keeps (streams : Streams) (env : RequestEnv) (req : CaptureRequest)
    (s : HardwareInterface) :
    (setParameters streams env req s).Keeps s s.mPendingLiveRequest := by
  obtain ⟨hp, hl⟩ := parseParameters_prepared streams env req s
  refine (refuse_keeps hp hl).bind fun u _ => refuse_keeps ?_ rfl
  exact ⟨rfl, rfl, rfl, rfl, rfl, rfl, rfl, rfl⟩

/-- **Up to the restart of the sensor the account is untouched**, but for the counter, which is
reset when the streams are started. -/
theorem prepare_keeps (streams : Streams) (env : RequestEnv) (req : CaptureRequest)
    (s : HardwareInterface) :
    (prepare streams env req s).Keeps s (s.liveAfterStart env) := by
  refine (startUp_keeps env req s).bind fun t _ => ?_
  refine (refuse_keeps (.refl t) rfl).bind fun u _ => ?_
  refine (requestId_keeps req u).bind fun v _ => ?_
  refine (refuse_keeps (.refl v) rfl).bind fun w _ => ?_
  cases req.inputBuffer with
  | none => exact setParameters_keeps streams env req w
  | some b => exact refuse_keeps (.refl w) rfl

theorem refuse_ok {c : Prop} [Decidable c] (h : refuse c rc s = .ok t) : ¬c ∧ t = s := by
  unfold refuse at h
  split_ifs at h with hc
  cases h
  exact ⟨hc, rfl⟩

/-- A request that gets past these parts has started the streams if they were only configured, and
is not made during a `flushPerf`. -/
theorem prepare_ok (h : prepare streams env req s = .ok t) :
    (s.mState = .configured → s.streamsStart env) ∧ s.mFlushPerf = false := by
  unfold prepare at h
  obtain ⟨u, hu, h⟩ := bind_eq_ok.mp h
  obtain ⟨v, hv, -⟩ := bind_eq_ok.mp h
  refine ⟨startUp_ok hu, ?_⟩
  have hkeep := startUp_keeps env req s
  rw [hu] at hkeep
  rw [← hkeep.1.flushPerf]
  simpa using (refuse_ok hv).1

end Prepare

/-! ## Errors for all that is pending -/

/-- How many pending requests are dropped: as many as there are frames with pending buffers from
the oldest request on. -/
def HardwareInterface.dropCount (s : HardwareInterface) : ℕ :=
  s.mPendingBuffersMap.mPendingBuffersInRequest.countP fun req => s.oldestFrame ≤ req.frameNumber

/-- What `notifyErrorForPendingRequests` has done to the account: the first requests have been
dropped, and all pending buffers. -/
structure Dropped (s t : HardwareInterface) : Prop where
  le : s.dropCount ≤ s.mPendingRequestsList.length
  list : t.mPendingRequestsList = s.mPendingRequestsList.drop s.dropCount
  map : t.mPendingBuffersMap = { s.mPendingBuffersMap with mPendingBuffersInRequest := [] }
  live : t.mPendingLiveRequest = s.mPendingLiveRequest
  batch : t.mPendingBatchMap = s.mPendingBatchMap
  state : t.mState = s.mState
  flush : t.mFlush = s.mFlush
  flushPerf : t.mFlushPerf = s.mFlushPerf

theorem notifyErrorLoop_ok {frameNum : ℕ} {reqs : List PendingBuffersInRequest}
    {input : Option StreamBuffer} {is is' : List PendingRequest} {cs cs' : List Callback}
    (h : notifyErrorLoop frameNum reqs input is cs = .ok (is', cs')) :
    (reqs.countP fun req => frameNum ≤ req.frameNumber) ≤ is.length ∧
      is' = is.drop (reqs.countP fun req => frameNum ≤ req.frameNumber) := by
  induction reqs generalizing input is cs with
  | nil =>
    cases h
    exact ⟨Nat.zero_le _, rfl⟩
  | cons req reqs ih =>
    unfold notifyErrorLoop at h
    by_cases hlt : req.frameNumber < frameNum
    · rw [if_pos hlt] at h
      rw [countP_cons_of_neg (by simpa using hlt)]
      exact ih h
    · rw [if_neg hlt] at h
      rw [countP_cons_of_pos (by simpa using hlt)]
      cases is with
      | nil => cases h
      | cons i is =>
        obtain ⟨hle, rfl⟩ := ih h
        exact ⟨Nat.succ_le_succ hle, rfl⟩

theorem notifyError_dropped (h : notifyErrorForPendingRequests s = .ok t) : Dropped s t := by
  unfold notifyErrorForPendingRequests at h
  obtain ⟨⟨is, cs⟩, hloop, h⟩ := bind_eq_ok.mp h
  cases h
  obtain ⟨hle, rfl⟩ := notifyErrorLoop_ok hloop
  exact ⟨hle, rfl, rfl, rfl, rfl, rfl, rfl, rfl⟩

def FlushEnv.GoesOn (env : FlushEnv) : Prop := 0 ≤ env.unlink.getD noError ∧ 0 ≤ env.setBundleInfo

instance (env : FlushEnv) : Decidable env.GoesOn := inferInstanceAs (Decidable (_ ∧ _))

/-- **What the rest of a flush does**: nothing, if one of the calls fails that precede the errors;
otherwise it resets the counter and drops what is pending. -/
inductive FlushStep (env : FlushEnv) (s : HardwareInterface) : HardwareInterface → Prop
  | stopped (early : ¬env.GoesOn) : FlushStep env s s
  | dropped {t : HardwareInterface} (goesOn : env.GoesOn)
      (dropped : Dropped { s with mPendingLiveRequest := 0 } t) :
      FlushStep env s { t with mFlush := false }

theorem flushEnd_step {env : FlushEnv} {restart : Bool} {rc : ℤ}
    (h : flushEnd env restart s = .ok (rc, t)) : FlushStep env s t := by
  unfold flushEnd at h
  by_cases hunlink : env.unlink.getD noError < 0
  · rw [if_pos hunlink] at h
    cases h
    exact .stopped fun hgo => absurd hgo.1 (not_le.mpr hunlink)
  rw [if_neg hunlink] at h
  by_cases hbundle : env.setBundleInfo < 0
  · rw [if_pos hbundle] at h
    cases h
    exact .stopped fun hgo => absurd hgo.2 (not_le.mpr hbundle)
  rw [if_neg hbundle] at h
  obtain ⟨u, hu, h⟩ := bind_eq_ok.mp h
  have hstep : FlushStep env s { u with mFlush := false } :=
    .dropped ⟨not_lt.mp hunlink, not_lt.mp hbundle⟩ (notifyError_dropped hu)
  by_cases hr : restart = true ∧ env.startAllChannels < 0
  · simp only [if_pos hr] at h
    cases h
    exact hstep
  · simp only [if_neg hr] at h
    cases h
    exact hstep

theorem handleCameraDeviceError_step {env : FlushEnv}
    (h : handleCameraDeviceError env s = .ok t) (error : s.mState = .error) :
    ∃ u, FlushStep env (flushBegin s) u ∧
      t = { u with mState := .deinit }.call (.error .device 0 none) := by
  unfold handleCameraDeviceError at h
  rw [if_neg (not_not.mpr error)] at h
  obtain ⟨⟨rc, u⟩, hu, h⟩ := bind_eq_ok.mp h
  cases h
  exact ⟨u, flushEnd_step hu, rfl⟩

theorem flushPerfEnd_step {rc rc' : ℤ} (h : flushPerfEnd rc s = .ok (rc', t)) :
    rc ≠ 0 ∧ t = { s with mFlushPerf := false } ∨
      rc = 0 ∧ ∃ u, Dropped s u ∧ t = { u with mPendingLiveRequest := 0, mFlushPerf := false } := by
  unfold flushPerfEnd at h
  by_cases hrc : rc = 0
  · rw [if_neg (not_not.mpr hrc)] at h
    obtain ⟨u, hu, h⟩ := bind_eq_ok.mp h
    cases h
    exact .inr ⟨hrc, u, notifyError_dropped hu, rfl⟩
  · rw [if_pos hrc] at h
    cases h
    exact .inl ⟨hrc, rfl⟩

/-! ## Once the request is recorded -/

@[simp] theorem setNeedMetadata_nil (i : PendingRequest) : i.setNeedMetadata [] = i := by
  have hid : i.buffers.mapIdx (fun k j => { j with
      needMetadata := ([] : List Bool).getD k j.needMetadata }) = i.buffers :=
    mapIdx_eq_iff.mpr fun k => by simp
  unfold PendingRequest.setNeedMetadata
  rw [hid]

/-- What the requests to the channels leave alone. -/
structure Issuing (s t : HardwareInterface) : Prop where
  map : t.mPendingBuffersMap = s.mPendingBuffersMap
  drops : t.mPendingFrameDropList = s.mPendingFrameDropList
  flush : t.mFlush = s.mFlush
  flushPerf : t.mFlushPerf = s.mFlushPerf
  callbacks : t.callbacks = s.callbacks

/-- The channels take the request: no request to a channel fails, and no two output buffers need
the metadata. -/
structure Taken (streams : Streams) (env : RequestEnv) (req : CaptureRequest) : Prop where
  reproc : req.inputBuffer.isSome = true → env.setReprocParameters = noError
  request : ∀ k < req.outputBuffers.length, 0 ≤ env.request k
  metadata : (req.outputBuffers.zipIdx.countP fun p =>
    needsMetadata streams env req.inputBuffer.isSome p.2 p.1) ≤ 1

section Issue

variable {streams : Streams} {env : RequestEnv} {req : CaptureRequest}
  {s t : HardwareInterface} {rc : ℤ} {is : List PendingRequest} {i : PendingRequest}

theorem issueLoop_failed {input batch : Bool} {k : ℕ} {bs : List StreamBuffer}
    {flags : List Bool} {toBeQueued : ℕ}
    (h : (issueLoop streams env input batch k bs flags toBeQueued).failed = some rc) : rc < 0 := by
  induction bs generalizing k flags toBeQueued with
  | nil => cases h
  | cons b bs ih =>
    unfold issueLoop at h
    split at h
    · exact ih h
    · dsimp only at h
      by_cases hlt : env.request k < 0
      · rw [if_pos hlt] at h
        cases h
        exact hlt
      · rw [if_neg hlt] at h
        exact ih h

theorem issueLoop_taken {input batch : Bool} {k : ℕ} {bs : List StreamBuffer}
    {flags : List Bool} {toBeQueued : ℕ}
    (hc : ∀ b ∈ bs, (streams b.stream).priv.isSome = true)
    (hr : ∀ j < bs.length, 0 ≤ env.request (k + j)) :
    (issueLoop streams env input batch k bs flags toBeQueued).failed = none ∧
      (issueLoop streams env input batch k bs flags toBeQueued).flags =
        flags ++ (bs.zipIdx k).map fun p => needsMetadata streams env input p.2 p.1 := by
  induction bs generalizing k flags toBeQueued with
  | nil => exact ⟨rfl, (append_nil _).symm⟩
  | cons b bs ih =>
    obtain ⟨channel, hch⟩ := Option.isSome_iff_exists.mp (hc b mem_cons_self)
    have h0 : ¬env.request k < 0 := not_lt.mpr (hr 0 (Nat.succ_pos _))
    have hrest : ∀ j < bs.length, 0 ≤ env.request (k + 1 + j) := by
      intro j hj
      have := hr (j + 1) (Nat.succ_lt_succ hj)
      rwa [show k + 1 + j = k + (j + 1) by omega]
    unfold issueLoop
    simp only [hch, if_neg h0]
    obtain ⟨hf, hg⟩ := ih (fun c hmem => hc c (mem_cons_of_mem _ hmem)) hrest
    refine ⟨hf, ?_⟩
    rw [hg]
    simp

/-- **Once the request is recorded**: nothing more happens during a flush. Otherwise the last entry
gets its flags; and either a request to a channel fails, and the call with it, or the request is
counted, if it is live, and the interface is started. -/
inductive IssueStep (streams : Streams) (env : RequestEnv) (req : CaptureRequest)
    (s : HardwareInterface) (is : List PendingRequest) (i : PendingRequest) :
    ℤ → HardwareInterface → Prop
  | flushed (flush : s.mFlush = true) : IssueStep streams env req s is i noError s
  | failed {rc : ℤ} {t : HardwareInterface} (flags : List Bool) (flush : s.mFlush = false)
      (code : rc ≠ noError) (issuing : Issuing s t)
      (list : t.mPendingRequestsList = is ++ [i.setNeedMetadata flags])
      (live : t.mPendingLiveRequest = s.mPendingLiveRequest) (state : t.mState = s.mState)
      (batch : t.mPendingBatchMap = s.mPendingBatchMap)
      (refused : (∀ b ∈ req.outputBuffers, (streams b.stream).priv.isSome = true) →
        ¬Taken streams env req) :
      IssueStep streams env req s is i rc t
  | accepted {rc : ℤ} {t : HardwareInterface} (flags : List Bool) (flush : s.mFlush = false)
      (issuing : Issuing s t)
      (list : t.mPendingRequestsList = is ++ [i.setNeedMetadata flags])
      (live : t.mPendingLiveRequest = if req.inputBuffer.isSome then s.mPendingLiveRequest
        else incU32 s.mPendingLiveRequest)
      (state : t.mState = .started) :
      IssueStep streams env req s is i rc t

theorem sendParameters_issuing (streams : Streams) (req : CaptureRequest)
    (s : HardwareInterface) : Issuing s (sendParameters streams req s) ∧
      (sendParameters streams req s).mPendingRequestsList = s.mPendingRequestsList ∧
      (sendParameters streams req s).mPendingLiveRequest = s.mPendingLiveRequest := by
  unfold sendParameters
  split_ifs
  · exact ⟨⟨rfl, rfl, rfl, rfl, rfl⟩, rfl, rfl⟩
  · exact ⟨⟨rfl, rfl, rfl, rfl, rfl⟩, rfl, rfl⟩

theorem accept_spec (h : accept streams env req s = (rc, t)) : Issuing s t ∧
    t.mPendingRequestsList = s.mPendingRequestsList ∧ t.mState = .started ∧
      t.mPendingLiveRequest = if req.inputBuffer.isSome then s.mPendingLiveRequest
        else incU32 s.mPendingLiveRequest := by
  unfold accept at h
  dsimp only at h
  obtain ⟨-, rfl⟩ := Prod.mk.inj h
  by_cases hin : req.inputBuffer.isSome = true
  · simp only [if_pos hin]
    exact ⟨⟨rfl, rfl, rfl, rfl, rfl⟩, trivial, trivial, trivial⟩
  · simp only [if_neg hin]
    obtain ⟨hi, hl, hlive⟩ := sendParameters_issuing streams req s
    exact ⟨⟨hi.map, hi.drops, hi.flush, hi.flushPerf, hi.callbacks⟩, hl, trivial,
      congrArg incU32 hlive⟩

theorem IssueStep.list (h : IssueStep streams env req s is i rc t)
    (hlist : s.mPendingRequestsList = is ++ [i]) :
    ∃ flags, t.mPendingRequestsList = is ++ [i.setNeedMetadata flags] := by
  cases h with
  | flushed _ => exact ⟨[], by rw [setNeedMetadata_nil, hlist]⟩
  | failed flags _ _ _ hl | accepted flags _ _ hl => exact ⟨flags, hl⟩

theorem IssueStep.map (h : IssueStep streams env req s is i rc t) :
    t.mPendingBuffersMap = s.mPendingBuffersMap := by
  cases h with
  | flushed _ => rfl
  | failed _ _ _ issuing | accepted _ _ issuing => exact issuing.map

theorem issue_step (h : issue streams env req s = (rc, t))
    (hlist : s.mPendingRequestsList = is ++ [i]) : IssueStep streams env req s is i rc t := by
  unfold issue at h
  by_cases hf : s.mFlush = true
  · rw [if_pos hf] at h
    cases h
    exact .flushed hf
  · have hflush : s.mFlush = false := by simpa using hf
    rw [if_neg hf] at h
    by_cases hr : req.inputBuffer.isSome = true ∧ env.setReprocParameters ≠ noError
    · rw [if_pos hr] at h
      cases h
      refine .failed [] hflush hr.2 ⟨rfl, rfl, rfl, rfl, rfl⟩ ?_ rfl rfl rfl ?_
      · rw [setNeedMetadata_nil]
        exact hlist
      · exact fun _ htaken => hr.2 (htaken.reproc hr.1)
    · rw [if_neg hr] at h
      dsimp only at h
      rw [hlist, modifyLast_concat] at h
      generalize hloop : issueLoop streams env req.inputBuffer.isSome (s.mBatchSize != 0) 0
        req.outputBuffers [] s.mToBeQueuedVidBufs = issued at h
      -- when the channels take the request, the loop reaches its end with at most one flag set
      have htaken : (∀ b ∈ req.outputBuffers, (streams b.stream).priv.isSome = true) →
          Taken streams env req → issued.failed = none ∧ issued.flags.count true ≤ 1 := by
        intro hvalid htaken
        have hrequest : ∀ j < req.outputBuffers.length, 0 ≤ env.request (0 + j) := by
          intro j hj
          rw [Nat.zero_add]
          exact htaken.request j hj
        rw [← hloop]
        refine ⟨(issueLoop_taken hvalid hrequest).1, ?_⟩
        rw [(issueLoop_taken hvalid hrequest).2, nil_append, count_eq_countP, countP_map]
        refine le_of_eq_of_le (countP_congr fun p _ => ?_) htaken.metadata
        simp
      cases hfail : issued.failed with
      | some rc' =>
        rw [hfail] at h
        cases h
        have hneg : rc < 0 := issueLoop_failed (hloop ▸ hfail)
        refine .failed issued.flags hflush hneg.ne ⟨rfl, rfl, rfl, rfl, rfl⟩ rfl rfl rfl rfl ?_
        intro hvalid htk
        exact absurd (htaken hvalid htk).1 (by simp [hfail])
      | none =>
        rw [hfail] at h
        dsimp only at h
        by_cases hcount : 1 < issued.flags.count true
        · rw [if_pos hcount] at h
          cases h
          refine .failed issued.flags hflush (by decide) ⟨rfl, rfl, rfl, rfl, rfl⟩ rfl rfl rfl
            rfl ?_
          exact fun hvalid htk => absurd (htaken hvalid htk).2 (not_le.mpr hcount)
        · rw [if_neg hcount] at h
          obtain ⟨hi, hl, hst, hlive⟩ := accept_spec h
          exact .accepted issued.flags hflush
            ⟨hi.map, hi.drops, hi.flush, hi.flushPerf, hi.callbacks⟩ hl hlive hst

end Issue

/-! ## The whole call -/

section Request

variable {streams : Streams} {env : RequestEnv} {req : CaptureRequest}
  {s t : HardwareInterface} {rc : ℤ}

/-- The state in which a request is recorded: the one it is prepared in, unless the sensor has been
restarted. -/
inductive Restarted (env : RequestEnv) (req : CaptureRequest) (s : HardwareInterface) :
    HardwareInterface → Prop
  | steady (due : ¬RestartDue req s) : Restarted env req s s
  | restarted {t : HardwareInterface} (due : RestartDue req s)
      (code : env.startAllChannels = noError) (dropped : Dropped s t) :
      Restarted env req s { t with mNeedSensorRestart := false }

/-- What recording a request does to the account: an entry at the end of the list, and one at the
end of the pending buffers. -/
structure Recorded (req : CaptureRequest) (i : PendingRequest) (s t : HardwareInterface) :
    Prop where
  list : t.mPendingRequestsList = s.mPendingRequestsList ++ [i]
  map : ∃ e : PendingBuffersInRequest, e.frameNumber = req.frameNumber ∧
    e.mPendingBufferList = req.outputBuffers.map (fun b => ⟨b.stream, b.buffer⟩) ∧
    t.mPendingBuffersMap = { s.mPendingBuffersMap with
      mPendingBuffersInRequest := s.mPendingBuffersMap.mPendingBuffersInRequest ++ [e] }
  drops : t.mPendingFrameDropList = s.mPendingFrameDropList
  batch : t.mPendingBatchMap = s.mPendingBatchMap
  live : t.mPendingLiveRequest = s.mPendingLiveRequest
  state : t.mState = s.mState
  flush : t.mFlush = s.mFlush
  flushPerf : t.mFlushPerf = s.mFlushPerf
  callbacks : t.callbacks = s.callbacks
  frame : i.frameNumber = req.frameNumber
  input : i.inputBuffer = req.inputBuffer
  buffers : i.buffers = req.outputBuffers.map fun b => ⟨b.stream, none, false⟩

theorem recorded (streams : Streams) (env : RequestEnv) (req : CaptureRequest)
    (s : HardwareInterface) : ∃ i, Recorded req i s (record streams env req s) :=
  ⟨_, rfl, ⟨_, rfl, rfl, rfl⟩, rfl, rfl, rfl, rfl, rfl, rfl, rfl, rfl, rfl, rfl⟩

/-- **What a call does with a valid request**: it is refused before anything is touched but the
counter; or a restart of the sensor fails, and what was pending is dropped; or it is recorded, and
then issued. -/
inductive RequestStep (streams : Streams) (env : RequestEnv) (req : CaptureRequest)
    (s : HardwareInterface) : ℤ → HardwareInterface → Prop
  | refused {rc : ℤ} {t : HardwareInterface}
      (early : prepare streams env req s = .error (rc, t)) :
      RequestStep streams env req s rc t
  | restartFailed {u t : HardwareInterface} (prepared : prepare streams env req s = .ok u)
      (due : RestartDue req u) (code : env.startAllChannels ≠ noError) (dropped : Dropped u t) :
      RequestStep streams env req s badValue t
  | recorded {u v w t : HardwareInterface} {rc : ℤ} {i : PendingRequest}
      (prepared : prepare streams env req s = .ok u) (restarted : Restarted env req u v)
      (recorded : Recorded req i v w)
      (issued : IssueStep streams env req w v.mPendingRequestsList i rc t) :
      RequestStep streams env req s rc t

theorem restartSensor_notified {r : Early HardwareInterface} (h : restartSensor env s = .ok r) :
    ∃ t, notifyErrorForPendingRequests s = .ok t ∧
      (env.startAllChannels ≠ noError ∧ r = .error (badValue, t) ∨
        env.startAllChannels = noError ∧ r = .ok { t with mNeedSensorRestart := false }) := by
  unfold restartSensor dynamicUpdateMetaStreamInfo at h
  obtain ⟨⟨rc, t⟩, hd, h⟩ := bind_eq_ok.mp h
  obtain ⟨t', hn, hd⟩ := bind_eq_ok.mp hd
  cases hd
  refine ⟨t, hn, ?_⟩
  by_cases hrc : env.startAllChannels = noError
  · refine .inr ⟨hrc, ?_⟩
    simpa [hrc, pure, Except.pure] using h.symm
  · refine .inl ⟨hrc, ?_⟩
    simpa [hrc, pure, Except.pure] using h.symm

theorem restartSensor_cases {r : Early HardwareInterface} (h : restartSensor env s = .ok r) :
    ∃ t, Dropped s t ∧ (env.startAllChannels ≠ noError ∧ r = .error (badValue, t) ∨
      env.startAllChannels = noError ∧ r = .ok { t with mNeedSensorRestart := false }) := by
  obtain ⟨t, notified, hr⟩ := restartSensor_notified h
  exact ⟨t, notifyError_dropped notified, hr⟩

/-- **Every valid request is handled by one of these steps.** -/
theorem processValidRequest_step (h : processValidRequest streams env req s = .ok (rc, t)) :
    RequestStep streams env req s rc t := by
  unfold processValidRequest at h
  cases hp : prepare streams env req s with
  | error r =>
    rw [hp] at h
    cases h
    exact .refused hp
  | ok u =>
    rw [hp] at h
    obtain ⟨r, hr, h⟩ := bind_eq_ok.mp h
    -- what follows the restart, in the state it leaves
    have hissue : ∀ v, Restarted env req u v → r = .ok v → RequestStep streams env req s rc t := by
      rintro v hv rfl
      have hi : issue streams env req (record streams env req v) = (rc, t) := Except.ok.inj h
      obtain ⟨i, hrec⟩ := recorded streams env req v
      exact .recorded hp hv hrec (issue_step hi hrec.list)
    unfold restartIfNeeded at hr
    by_cases hdue : RestartDue req u
    · rw [if_pos hdue] at hr
      obtain ⟨v, hd, ⟨hrc, rfl⟩ | ⟨hrc, rfl⟩⟩ := restartSensor_cases hr
      · cases h
        exact .restartFailed hp hdue hrc hd
      · exact hissue _ (.restarted hdue hrc hd) rfl
    · rw [if_neg hdue] at hr
      cases hr
      exact hissue _ (.steady hdue) rfl

/-- A call in a state in which requests are taken, with a valid request. -/
structure ValidCall (streams : Streams) (req : CaptureRequest) (s : HardwareInterface) : Prop where
  state : s.mState = .configured ∨ s.mState = .started
  valid : validateCaptureRequest streams req s = noError

theorem ValidCall.eq (h : ValidCall streams req s) (env : RequestEnv) :
    processCaptureRequest streams env req s = processValidRequest streams env req s := by
  unfold processCaptureRequest
  have hv : ¬validateCaptureRequest streams req s ≠ noError := not_not.mpr h.valid
  rcases h.state with hs | hs
  · rw [hs]
    exact if_neg hv
  · rw [hs]
    exact if_neg hv

/-- **Every call** ends the interface after a device error, or touches nothing and fails, or handles
a valid request. -/
theorem processCaptureRequest_cases (h : processCaptureRequest streams env req s = .ok (rc, t)) :
    s.mState = .error ∧ handleCameraDeviceError env.deviceError s = .ok t ∨
      t = s ∧ rc ≠ noError ∨ ValidCall streams req s ∧ RequestStep streams env req s rc t := by
  by_cases hv : ValidCall streams req s
  · rw [hv.eq] at h
    exact .inr (.inr ⟨hv, processValidRequest_step h⟩)
  have hinvalid : s.mState = .configured ∨ s.mState = .started →
      validateCaptureRequest streams req s ≠ noError := fun hs hval => hv ⟨hs, hval⟩
  unfold processCaptureRequest at h
  split at h
  · rename_i hs
    obtain ⟨u, hu, h⟩ := bind_eq_ok.mp h
    cases h
    exact .inl ⟨hs, hu⟩
  · rename_i hs
    rw [if_pos (hinvalid (.inl hs))] at h
    cases h
    exact .inr (.inl ⟨rfl, hinvalid (.inl hs)⟩)
  · rename_i hs
    rw [if_pos (hinvalid (.inr hs))] at h
    cases h
    exact .inr (.inl ⟨rfl, hinvalid (.inr hs)⟩)
  · cases h
    exact .inr (.inl ⟨rfl, by decide⟩)

/-- **The course of a call**, by what is called on the way: the interface ends after a device error;
or the call returns before the request is recorded, with or without a restart of the sensor; or the
request is recorded, and then issued. -/
inductive RequestCourse (streams : Streams) (env : RequestEnv) (req : CaptureRequest)
    (s : HardwareInterface) : HardwareInterface → Prop
  | ended {t : HardwareInterface} (error : s.mState = .error)
      (ends : handleCameraDeviceError env.deviceError s = .ok t) : RequestCourse streams env req s t
  | refused {t : HardwareInterface} (prepared : Prepared s t) : RequestCourse streams env req s t
  | restartFailed {u t : HardwareInterface} (prepared : Prepared s u)
      (notified : notifyErrorForPendingRequests u = .ok t) : RequestCourse streams env req s t
  | issued {u v t : HardwareInterface} {rc : ℤ} (prepared : Prepared s u)
      (restart : v = u ∨ ∃ w, notifyErrorForPendingRequests u = .ok w ∧
        v = { w with mNeedSensorRestart := false })
      (issued : issue streams env req (record streams env req v) = (rc, t)) :
      RequestCourse streams env req s t

theorem processCaptureRequest_course (h : processCaptureRequest streams env req s = .ok (rc, t)) :
    RequestCourse streams env req s t := by
  rcases processCaptureRequest_cases h with ⟨error, ends⟩ | ⟨rfl, -⟩ | ⟨call, -⟩
  · exact .ended error ends
  · exact .refused (.refl _)
  rw [call.eq] at h
  have hkeep := prepare_keeps streams env req s
  unfold processValidRequest at h
  cases hp : prepare streams env req s with
  | error r =>
    rw [hp] at h hkeep
    cases h
    exact .refused hkeep.1
  | ok u =>
    rw [hp] at h hkeep
    obtain ⟨r, hr, h⟩ := bind_eq_ok.mp h
    unfold restartIfNeeded at hr
    split_ifs at hr
    · obtain ⟨w, notified, ⟨-, rfl⟩ | ⟨-, rfl⟩⟩ := restartSensor_notified hr
      · cases h
        exact .restartFailed hkeep.1 notified
      · exact .issued hkeep.1 (.inr ⟨w, notified, rfl⟩) (Except.ok.inj h)
    · cases hr
      exact .issued hkeep.1 (.inl rfl) (Except.ok.inj h)

theorem ValidCall.channels (h : ValidCall streams req s) :
    ∀ b ∈ req.outputBuffers, (streams b.stream).priv.isSome = true := by
  have hb : ¬(req.outputBuffers.any (!outputBufferValid streams ·)) = true := by
    intro hany
    have hv := h.valid
    unfold validateCaptureRequest at hv
    rw [if_pos hany] at hv
    split_ifs at hv <;> exact absurd hv (by decide)
  intro b hmem
  simp only [any_eq_true, not_exists, not_and, Bool.not_eq_true, Bool.not_eq_false'] at hb
  have hvalid := hb b hmem
  unfold outputBufferValid at hvalid
  simp only [Bool.and_eq_true] at hvalid
  exact hvalid.1.1.1.1

end Request

/-- What an operation does, by what it comes to. -/
inductive Op.Outcome (streams : Streams) (s : HardwareInterface) : Op → HardwareInterface → Prop
  | requestError {env : RequestEnv} {req : CaptureRequest} {t : HardwareInterface}
      (error : s.mState = .error) (ends : handleCameraDeviceError env.deviceError s = .ok t) :
      Outcome streams s (.request env req) t
  | requestInvalid {env : RequestEnv} {req : CaptureRequest} :
      Outcome streams s (.request env req) s
  | request {env : RequestEnv} {req : CaptureRequest} {rc : ℤ} {t : HardwareInterface}
      (call : ValidCall streams req s) (step : RequestStep streams env req s rc t) :
      Outcome streams s (.request env req) t
  | metadata (timeOffset : ℤ) (first : Bool) (md : MetadataBuffer) :
      Outcome streams s (.metadata timeOffset first md)
        (handleMetadataWithLock streams timeOffset first md s)
  | buffer (now : ℤ) (b : StreamBuffer) (frameNumber : ℕ) :
      Outcome streams s (.buffer now b frameNumber)
        (handleBufferWithLock streams now b frameNumber s)
  | inputBuffer (now : ℤ) (frameNumber : ℕ) :
      Outcome streams s (.inputBuffer now frameNumber)
        (handleInputBufferWithLock now frameNumber s)
  | flushBegun {env : FlushEnv} : Outcome streams s (.flushBegin env) (Hal3.flushBegin s)
  | flushError {env : FlushEnv} {t : HardwareInterface} (error : s.mState = .error)
      (ends : handleCameraDeviceError env s = .ok t) : Outcome streams s (.flushBegin env) t
  | flushIdle {env : FlushEnv} : Outcome streams s (.flushBegin env) s
  | flushEnded {env : FlushEnv} {t : HardwareInterface} (flush : s.mFlush = true)
      (step : FlushStep env s t) : Outcome streams s (.flushEnd env) t
  | flushOff {env : FlushEnv} : Outcome streams s (.flushEnd env) s
  | perfBegun {rc : ℤ} (num : ℕ) (flag : Bool) : Outcome streams s (.flushPerfBegin rc) { s with
      mPendingBuffersMap := { s.mPendingBuffersMap with numPendingBufsAtFlush := num }
      mFlushPerf := flag }
  | perfFailed {rc : ℤ} (failed : rc ≠ 0) :
      Outcome streams s (.flushPerfEnd rc) { s with mFlushPerf := false }
  | perfEnded {u : HardwareInterface} (dropped : Dropped s u) :
      Outcome streams s (.flushPerfEnd 0) { u with mPendingLiveRequest := 0, mFlushPerf := false }
  | perfOff {rc : ℤ} : Outcome streams s (.flushPerfEnd rc) s
  | daemonDied : Outcome streams s .daemonDied { s with mState := .error }

/-- **Every step of a run** comes to one of these. -/
theorem Op.outcome {streams : Streams} {op : Op}
    (h : op.Step streams s t) : op.Outcome streams s t := by
  cases op with
  | request env req =>
    obtain ⟨⟨rc, u⟩, hu, h⟩ := bind_eq_ok.mp h
    cases h
    rcases processCaptureRequest_cases hu with ⟨herr, hu⟩ | ⟨rfl, -⟩ | ⟨call, hu⟩
    · exact .requestError herr hu
    · exact .requestInvalid
    · exact .request call hu
  | metadata timeOffset first md =>
    cases h
    exact .metadata timeOffset first md
  | buffer now b frameNumber =>
    cases h
    exact .buffer now b frameNumber
  | inputBuffer now frameNumber =>
    cases h
    exact .inputBuffer now frameNumber
  | flushBegin env =>
    change flushDevice env s = .ok t at h
    unfold flushDevice at h
    split at h
    · cases h
      exact .flushBegun
    · rename_i hs
      exact .flushError hs h
    · cases h
      exact .flushIdle
  | flushEnd env =>
    simp only [Op.Step, Op.exec] at h
    split_ifs at h with hflush
    · obtain ⟨⟨rc, u⟩, hu, h⟩ := bind_eq_ok.mp h
      cases h
      exact .flushEnded hflush (flushEnd_step hu)
    · cases h
      exact .flushOff
  | flushPerfBegin rc =>
    cases h
    unfold Hal3.flushPerfBegin
    dsimp only
    split_ifs
    · exact .perfBegun _ false
    · exact .perfBegun _ true
  | flushPerfEnd rc =>
    simp only [Op.Step, Op.exec] at h
    split_ifs at h
    · obtain ⟨⟨rc', u⟩, hu, h⟩ := bind_eq_ok.mp h
      cases h
      rcases flushPerfEnd_step hu with ⟨hrc, rfl⟩ | ⟨rfl, v, hv, rfl⟩
      · exact .perfFailed hrc
      · exact .perfEnded hv
    · cases h
      exact .perfOff
  | daemonDied =>
    cases h
    exact .daemonDied

end Hal3
