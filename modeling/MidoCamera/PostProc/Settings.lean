import MidoCamera.PostProc.Control

/-!
# The JPEG settings of a request

The picture channel queues the settings of every request, and then asks the snapshot stream for a
frame or passes the framework's. The settings have one queue; they are taken out of it with a frame
of the framework that is not reprocessed when it comes, with one that is reprocessed when the data
thread takes it, and with a frame of the camera when the data thread takes that. Where each of them
finds no settings of an earlier request waiting, the settings that it takes are its own.
-/

namespace PostProc

open Loop List PostProcessor Queue Option

/-! ## Requests -/

/-- The post-processor with the picture channel's requests: the settings that they asked for, by
their number; the request whose settings are queued and whose frame is not yet; and the live
requests whose frames are to come. -/
structure Requests where
  post : PostProcessor
  asked : List JpegSettings := []
  requesting : Option ℕ := none
  toCome : List ℕ := []

/-- What the request thread, the streams and the post-processor's threads do. -/
inductive ReqOp
  | queueJpegSetting (outBufIndex : ℕ)
  | requestLive
  | requestFwk (frame : FwkInput) (malloc : Option ℕ)
  | streamCb (addr bufIdx : ℕ)
  | post (op : PostOp)
  deriving DecidableEq, Repr

def PostOp.ofRequests : PostOp → Bool
  | .jpegSetting _ | .streamCb _ _ | .input _ _ | .fwkInput _ _ => true
  | _ => false

/-- What a step does; none where it cannot be taken. The frames of the camera come in the order of
the requests. -/
def ReqOp.exec (s : Requests) : ReqOp → Option Requests
  | .queueJpegSetting outBufIndex =>
    if s.requesting = none then
      let jpegSettings : JpegSettings := ⟨outBufIndex, s.asked.length⟩
      some { s with
        post := s.post.processJpegSettingData jpegSettings
        asked := s.asked ++ [jpegSettings]
        requesting := some s.asked.length }
    else none
  | .requestLive => s.requesting.map fun n =>
    { s with requesting := none, toCome := s.toCome ++ [n] }
  | .requestFwk frame malloc =>
    if s.requesting = some frame.frameNumber then
      some { s with post := s.post.processFwk frame malloc, requesting := none }
    else none
  | .streamCb addr bufIdx =>
    match s.toCome with
    | [] => none
    | n :: rest => some { s with
        post := s.post.processInput ⟨addr, .frame, bufIdx, n⟩ 0
        toCome := rest }
  | .post op =>
    if op.ofRequests then none else (op.exec s.post).map fun t => { s with post := t }

/-- No settings of a request before `n` wait. -/
def PostProcessor.NoEarlier (s : PostProcessor) (n : ℕ) : Prop :=
  ∀ x ∈ s.jpegSettingsQ.items, n ≤ x.request

/-- Whenever settings are taken for a frame, no settings of an earlier request wait; and
`overrideMetadata` does not fail. -/
def ReqOp.InOrder (s : Requests) : ReqOp → Prop
  | .requestFwk frame _ => needsReprocess frame = false → s.post.NoEarlier frame.frameNumber
  | .post (.takeFwk _) => ∀ frame ∈ s.post.inputFWKPPQ.items.head?,
      s.post.NoEarlier frame.frameNumber
  | .post (.takePP _ _) => s.post.inputMetaQ.items ≠ [] →
      ∀ buf ∈ s.post.inputPPQ.items.head?, s.post.NoEarlier buf.input.request
  | .post (.ppReproc overridden _) => overridden = true
  | _ => True

def ReqOp.Proper (op : ReqOp) (s t : Requests) : Prop := op.InOrder s ∧ op.exec s = some t

/-- The request whose frame a JPEG job encodes. -/
def JpegData.request (job : JpegData) : ℕ :=
  match job.fwkFrame, job.srcFrame with
  | some frame, _ => frame.frameNumber
  | none, some b => b.request
  | none, none => 0

def Requests.started (reprocessType : Option ReprocessType) : Requests :=
  { post := .started reprocessType }

namespace Requests

/-- The requests whose frames have not taken their settings. -/
def pending (s : Requests) : List ℕ :=
  s.toCome ++ s.requesting.toList ++ s.post.inputPPQ.items.map (fun buf => buf.input.request) ++
    s.post.inputFWKPPQ.items.map FwkInput.frameNumber

def Own (s : Requests) (x : JpegSettings) (n : ℕ) : Prop := s.asked[n]? = some x

end Requests

/-- The settings wait in the order of their requests, for every frame that is pending; and a job
that has settings has its own. -/
structure Settled (s : Requests) : Prop where
  control : Control s.post
  ordered : Ordered s.post
  numbered : ∀ x ∈ s.post.jpegSettingsQ.items, s.Own x x.request
  sorted : s.post.jpegSettingsQ.items.Pairwise fun x y => x.request ≤ y.request
  waiting : ∀ n, s.pending.count n ≤ (s.post.jpegSettingsQ.items.map JpegSettings.request).count n
  ppJobs : ∀ job ∈ s.post.ongoingPPQ.items, ∀ x ∈ job.jpegSettings, s.Own x job.request
  jpegJobs : ∀ job ∈ s.post.landing ++ s.post.inputJpegQ.items, s.Own job.jpegSettings job.request
  encoded : ∀ job, s.post.pc = .encode job → s.Own job.jpegSettings job.request

theorem Requests.started_settled (reprocessType : Option ReprocessType) :
    Settled (.started reprocessType) := by
  refine ⟨PostProcessor.started_control reprocessType, PostProcessor.started_ordered reprocessType,
    ?_, ?_, ?_, ?_, ?_, ?_⟩ <;> simp [started, PostProcessor.started, PostProcessor.active, pending]

namespace Settled

variable {s t : Requests}

theorem found (hs : Settled s) {n : ℕ} (pending : n ∈ s.pending) (first : s.post.NoEarlier n) :
    ∃ x q, s.post.jpegSettingsQ.dequeue = (some x, q) ∧ s.post.jpegSettingsQ.items = x :: q.items ∧
      x.request = n ∧ s.Own x n := by
  have hpos : 0 < (s.post.jpegSettingsQ.items.map JpegSettings.request).count n :=
    (count_pos_iff.mpr pending).trans_le (hs.waiting n)
  obtain ⟨y, hy, hyn⟩ := mem_map.mp (count_pos_iff.mp hpos)
  rcases hitems : s.post.jpegSettingsQ.items with _ | ⟨x, items⟩
  · rw [hitems] at hy
    cases hy
  have hx : x ∈ s.post.jpegSettingsQ.items := hitems ▸ mem_cons_self
  -- the first settings are of a request that is neither earlier nor later
  have hle : x.request ≤ n := by
    have hsorted := hs.sorted
    rw [hitems] at hsorted hy
    rcases mem_cons.mp hy with rfl | hy
    · exact hyn.le
    · exact hyn ▸ (pairwise_cons.mp hsorted).1 y hy
  have hn : x.request = n := le_antisymm hle (first x hx)
  exact ⟨x, _, dequeue_cons hs.control.always.2 hitems, rfl, hn, hn ▸ hs.numbered x hx⟩

theorem mono (hs : Settled s) {u : PostProcessor} (control : Control u) (ordered : Ordered u)
    (settings : u.jpegSettingsQ = s.post.jpegSettingsQ)
    (pp : u.inputPPQ.items.Sublist s.post.inputPPQ.items)
    (fwk : u.inputFWKPPQ.items.Sublist s.post.inputFWKPPQ.items)
    (ppJobs : ∀ job ∈ u.ongoingPPQ.items, job ∈ s.post.ongoingPPQ.items)
    (jpegJobs : ∀ job ∈ u.landing ++ u.inputJpegQ.items,
      job ∈ s.post.landing ++ s.post.inputJpegQ.items)
    (pc : ∀ job, u.pc = .encode job → s.Own job.jpegSettings job.request) :
    Settled { s with post := u } := by
  refine ⟨control, ordered, ?_, ?_, fun n => ?_, fun job hjob => hs.ppJobs job (ppJobs job hjob),
    fun job hjob => hs.jpegJobs job (jpegJobs job hjob), pc⟩
  · rw [settings]
    exact hs.numbered
  · rw [settings]
    exact hs.sorted
  · rw [settings]
    refine le_trans (Sublist.count_le n ?_) (hs.waiting n)
    exact ((Sublist.refl _).append (pp.map _)).append (fwk.map _)

theorem take (hs : Settled s) (control : Control t.post) (ordered : Ordered t.post)
    (asked : t.asked = s.asked) {x : JpegSettings} {q : Queue JpegSettings}
    (items : s.post.jpegSettingsQ.items = x :: q.items) (settings : t.post.jpegSettingsQ = q)
    (pending : ∀ n, t.pending.count n + [x.request].count n ≤ s.pending.count n)
    (ppJobs : ∀ job ∈ t.post.ongoingPPQ.items, job ∈ s.post.ongoingPPQ.items ∨
      ∀ x ∈ job.jpegSettings, s.Own x job.request)
    (jpegJobs : ∀ job ∈ t.post.landing ++ t.post.inputJpegQ.items,
      job ∈ s.post.landing ++ s.post.inputJpegQ.items ∨ s.Own job.jpegSettings job.request)
    (pc : ∀ job, t.post.pc = .encode job → s.post.pc = .encode job) : Settled t := by
  have hown : t.Own = s.Own := by
    unfold Requests.Own
    rw [asked]
  have hnumbered := hs.numbered
  have hsorted := hs.sorted
  rw [items] at hnumbered hsorted
  refine ⟨control, ordered, ?_, ?_, fun n => ?_, ?_, ?_, ?_⟩
  · rw [settings, hown]
    exact fun y hy => hnumbered y (mem_cons_of_mem x hy)
  · rw [settings]
    exact (pairwise_cons.mp hsorted).2
  · have hwaiting := hs.waiting n
    have hpending := pending n
    rw [items, map_cons, count_cons] at hwaiting
    rw [settings]
    rw [count_singleton] at hpending
    omega
  · rw [hown]
    exact fun job hjob => (ppJobs job hjob).elim (hs.ppJobs job) id
  · rw [hown]
    exact fun job hjob => (jpegJobs job hjob).elim (hs.jpegJobs job) id
  · rw [hown]
    exact fun job hjob => hs.encoded job (pc job hjob)

/-! ### Requests and frames -/

theorem queueJpegSetting (hs : Settled s) {outBufIndex : ℕ}
    (h : ReqOp.exec s (.queueJpegSetting outBufIndex) = some t) : Settled t := by
  simp only [ReqOp.exec] at h
  split at h <;> cases h
  next hrequesting =>
  have hq := enqueue_active hs.control.always.2 (⟨outBufIndex, s.asked.length⟩ : JpegSettings)
  have hexec : PostOp.exec s.post (.jpegSetting ⟨outBufIndex, s.asked.length⟩) =
      some (s.post.processJpegSettingData ⟨outBufIndex, s.asked.length⟩) := rfl
  have hown : ∀ {x n}, s.Own x n → (s.asked ++ [⟨outBufIndex, s.asked.length⟩])[n]? = some x :=
    fun {x n} hx => by
      rw [getElem?_append_left (List.getElem?_eq_some_iff.mp hx).1]
      exact hx
  refine ⟨hs.control.step hexec, hs.ordered.step hs.control hexec nofun, ?_, ?_, fun n => ?_,
    fun job hjob x hx => hown (hs.ppJobs job hjob x hx), fun job hjob => hown (hs.jpegJobs job hjob),
    fun job hjob => hown (hs.encoded job hjob)⟩
  · simp only [processJpegSettingData, hq, forall_mem_append, forall_mem_singleton]
    exact ⟨fun x hx => hown (hs.numbered x hx), by simp [Requests.Own]⟩
  · -- those that wait are of earlier requests
    simp only [processJpegSettingData, hq, pairwise_append, mem_singleton, forall_eq]
    refine ⟨hs.sorted, pairwise_singleton _ _, fun x hx => ?_⟩
    exact (List.getElem?_eq_some_iff.mp (hs.numbered x hx)).1.le
  · have hwaiting := hs.waiting n
    simp only [Requests.pending, hrequesting, toList_none, toList_some,
      count_append, count_nil, processJpegSettingData, hq, map_append,
      map_cons, map_nil] at hwaiting ⊢
    omega

theorem requestLive (hs : Settled s) (h : ReqOp.exec s .requestLive = some t) : Settled t := by
  obtain ⟨n, hn, rfl⟩ := map_eq_some_iff.mp h
  refine ⟨hs.control, hs.ordered, hs.numbered, hs.sorted, fun m => ?_, hs.ppJobs, hs.jpegJobs,
    hs.encoded⟩
  have hwaiting := hs.waiting m
  simp only [Requests.pending, hn, toList_none, toList_some, count_append,
    count_nil] at hwaiting ⊢
  omega

theorem requestFwk (hs : Settled s) {frame : FwkInput} {malloc : Option ℕ}
    (h : ReqOp.exec s (.requestFwk frame malloc) = some t)
    (first : needsReprocess frame = false → s.post.NoEarlier frame.frameNumber) : Settled t := by
  simp only [ReqOp.exec] at h
  split at h <;> cases h
  next hrequesting =>
  have hexec : PostOp.exec s.post (.fwkInput frame malloc) = some (s.post.processFwk frame malloc) :=
    rfl
  have hcontrol := hs.control.step hexec
  have hordered := hs.ordered.step hs.control hexec nofun
  have hpending : frame.frameNumber ∈ s.pending := by simp [Requests.pending, hrequesting]
  generalize s.post.processFwk frame malloc = u at hexec hcontrol hordered ⊢
  cases PostOp.outcome hexec with
  | fwkWaits =>
    refine ⟨hcontrol, hordered, hs.numbered, hs.sorted, fun m => ?_, hs.ppJobs, hs.jpegJobs,
      hs.encoded⟩
    have hwaiting := hs.waiting m
    have hq := s.post.inputFWKPPQ.count_enqueue frame FwkInput.frameNumber m
    simp only [Requests.pending, hrequesting, toList_none, toList_some,
      count_append, count_nil] at hwaiting ⊢
    omega
  | fwkNoSettings hre hnone =>
    obtain ⟨x, q, hq, -, -, -⟩ := hs.found hpending (first hre)
    rw [hq] at hnone
    cases hnone
  | fwkNoMemory hre hsettings =>
    obtain ⟨x, q, hq, hitems, hn, -⟩ := hs.found hpending (first hre)
    cases hsettings.symm.trans hq
    refine hs.take hcontrol hordered rfl hitems rfl (fun m => ?_) (fun job hjob => .inl hjob)
      (fun job hjob => .inl hjob) fun job hjob => hjob
    simp only [Requests.pending, hrequesting, toList_none, toList_some,
      count_append, count_nil, hn]
    omega
  | fwkJob hre hsettings =>
    obtain ⟨x, q, hq, hitems, hn, hx⟩ := hs.found hpending (first hre)
    cases hsettings.symm.trans hq
    refine hs.take hcontrol hordered rfl hitems rfl (fun m => ?_) (fun job hjob => .inl hjob)
      (fun job hjob => ?_) fun job hjob => hjob
    · simp only [Requests.pending, hrequesting, toList_none, toList_some,
        count_append, count_nil, hn]
      omega
    · simp only [append_assoc, mem_append, mem_singleton] at hjob ⊢
      rcases hjob with hjob | rfl | hjob
      · exact .inl (.inl hjob)
      · exact .inr hx
      · exact .inl (.inr hjob)

theorem streamCb (hs : Settled s) {addr bufIdx : ℕ}
    (h : ReqOp.exec s (.streamCb addr bufIdx) = some t) : Settled t := by
  simp only [ReqOp.exec] at h
  rcases hcome : s.toCome with _ | ⟨n, rest⟩ <;> simp only [hcome] at h <;> cases h
  have hexec : PostOp.exec s.post (.input ⟨addr, .frame, bufIdx, n⟩ 0) =
      some (s.post.processInput ⟨addr, .frame, bufIdx, n⟩ 0) := rfl
  have hcontrol := hs.control.step hexec
  have hordered := hs.ordered.step hs.control hexec nofun
  generalize s.post.processInput ⟨addr, .frame, bufIdx, n⟩ 0 = u at hexec hcontrol hordered ⊢
  cases PostOp.outcome hexec with
  | input =>
    refine ⟨hcontrol, hordered, hs.numbered, hs.sorted, fun m => ?_, hs.ppJobs, hs.jpegJobs,
      hs.encoded⟩
    have hwaiting := hs.waiting m
    have hq := s.post.inputPPQ.count_enqueue ⟨⟨addr, .frame, bufIdx, n⟩, 0⟩
      (fun buf => buf.input.request) m
    simp only [Requests.pending, hcome, count_append, count_cons, count_nil] at hwaiting hq ⊢
    omega

/-! ### The post-processor's threads -/

theorem mem_head_of_dequeue {α : Type} {q q' : Queue α} {x : α} (h : q.dequeue = (some x, q')) :
    x ∈ q.items.head? := by
  simp [(dequeue_some h).2.1]

theorem pending_takeFwk {frame : FwkInput} {u : PostProcessor}
    (waits : s.post.inputFWKPPQ.dequeue = (some frame, u.inputFWKPPQ))
    (pp : u.inputPPQ = s.post.inputPPQ) (m : ℕ) :
    s.pending.count m =
      ({ s with post := u } : Requests).pending.count m + [frame.frameNumber].count m := by
  simp only [Requests.pending, pp, (dequeue_some waits).2.1, map_cons, count_append, count_cons,
    count_nil]
  omega

theorem pending_takePP {buf : PpBuffer} {u : PostProcessor}
    (waits : s.post.inputPPQ.dequeue = (some buf, u.inputPPQ))
    (fwk : u.inputFWKPPQ = s.post.inputFWKPPQ) (m : ℕ) :
    s.pending.count m =
      ({ s with post := u } : Requests).pending.count m + [buf.input.request].count m := by
  simp only [Requests.pending, fwk, (dequeue_some waits).2.1, map_cons, count_append, count_cons,
    count_nil]
  omega

/-- A frame that is taken takes the first settings, which are those of its request. -/
theorem taken (hs : Settled s) {request : ℕ} {u : PostProcessor}
    (first : s.post.NoEarlier request) (control : Control u) (ordered : Ordered u)
    (waits : ∀ m, s.pending.count m =
      ({ s with post := u } : Requests).pending.count m + [request].count m)
    (settings : u.jpegSettingsQ = s.post.jpegSettingsQ.dequeue.2)
    (ppJobs : ∀ job ∈ u.ongoingPPQ.items, job ∈ s.post.ongoingPPQ.items ∨
      job.request = request ∧ job.jpegSettings = s.post.jpegSettingsQ.dequeue.1)
    (jpegJobs : ∀ job ∈ u.landing ++ u.inputJpegQ.items,
      job ∈ s.post.landing ++ s.post.inputJpegQ.items ∨
        job.request = request ∧ s.post.jpegSettingsQ.dequeue.1 = some job.jpegSettings)
    (pc : ∀ job, u.pc ≠ .encode job) : Settled { s with post := u } := by
  have hpending : request ∈ s.pending := by simp [← count_pos_iff, waits]
  obtain ⟨x, q, hq, hitems, hn, hx⟩ := hs.found hpending first
  refine hs.take control ordered rfl hitems (by simp [settings, hq])
    (fun m => by rw [waits m, hn]) (fun job hjob => ?_) (fun job hjob => ?_)
    fun job hjob => absurd hjob (pc job)
  · refine (ppJobs job hjob).imp_right fun ⟨hrequest, hsettings⟩ y hy => ?_
    rw [hsettings, hq, mem_some_iff] at hy
    rw [← hy, hrequest]
    exact hx
  · refine (jpegJobs job hjob).imp_right fun ⟨hrequest, hsettings⟩ => ?_
    rw [hq, some.injEq] at hsettings
    rw [← hsettings, hrequest]
    exact hx

/-- **A step of the post-processor's threads** keeps the settings with their requests. -/
theorem post (hs : Settled s) {op : PostOp} (h : ReqOp.exec s (.post op) = some t)
    (first : ReqOp.InOrder s (.post op)) : Settled t := by
  simp only [ReqOp.exec] at h
  split at h
  · cases h
  next hof =>
  obtain ⟨u, hexec, rfl⟩ := map_eq_some_iff.mp h
  have hc := hs.control
  have hop : ∀ out, op ≠ .ppReproc false out := by
    rintro out rfl
    cases first
  have hcontrol := hc.step hexec
  have hordered := hs.ordered.step hc hexec hop
  cases PostOp.outcome hexec with
  | jpegSetting | streamCb | input | fwkWaits | fwkNoSettings | fwkNoMemory | fwkJob =>
    exact absurd rfl hof
  | queueFree | queueNew | metadata | processedNone | reprocessedNone | ppDone | callbackNone
  | callback | jpegDone | flushTake | flushRelease | send | startNoReproc | startReproc | startFailed
  | stop | stopChannel =>
    exact hs.mono hcontrol hordered rfl (.refl _) (.refl _) (fun _ h => h) (fun _ h => h) hs.encoded
  | doNextJob | noJpeg | encodeFailed | startJob | storeJobId | noFwk | fwkReprocNone | fwkReproc
  | noPair | ppReprocNone | ppReproc =>
    exact hs.mono hcontrol hordered rfl (.refl _) (.refl _) (fun _ h => h) (fun _ h => h)
      fun _ h => by cases h
  | fwkReprocFailed | ppReprocFailed =>
    exact hs.mono hcontrol hordered rfl (.refl _) (.refl _) (fun _ h => mem_dequeueLast h)
      (fun _ h => h) fun _ h => by cases h
  | processedLost _ _ _ _ hq | reprocessedJob _ _ _ hq =>
    obtain ⟨-, hitems, -⟩ := dequeue_some hq
    refine hs.mono hcontrol hordered rfl (.refl _) (.refl _) (fun job hjob => ?_) (fun _ h => h)
      hs.encoded
    exact hitems ▸ mem_cons_of_mem _ hjob
  | @processedJob r addr idx request a queued rest job x q hr _ _ hsub hq hx =>
    -- the result is of the request of the first ongoing job
    obtain ⟨-, hitems, -⟩ := dequeue_some hq
    have hrequest := (hs.ordered.taken hc ((submitted_some hr).trans hsub) hq).1
    have hown := hs.ppJobs job (hitems ▸ mem_cons_self) x hx
    refine ⟨hcontrol, hordered, hs.numbered, hs.sorted, hs.waiting, fun job hjob => ?_,
      fun job hjob => ?_, hs.encoded⟩
    · exact hs.ppJobs job (hitems ▸ mem_cons_of_mem _ hjob)
    · simp only [append_assoc, mem_append, mem_singleton] at hjob
      rcases hjob with hjob | rfl | hjob
      · exact hs.jpegJobs job (mem_append_left _ hjob)
      · exact hrequest ▸ hown
      · exact hs.jpegJobs job (mem_append_right _ hjob)
  | land hfind =>
    refine hs.mono hcontrol hordered rfl (.refl _) (.refl _) (fun _ h => h) (fun job hjob => ?_)
      hs.encoded
    simp only [mem_append] at hjob ⊢
    rcases hjob with hjob | hjob
    · exact .inl ((takeOut_sublist _ _ _).subset hjob)
    · rcases mem_enqueue hjob with hjob | rfl
      · exact .inr hjob
      · exact .inl (mem_of_find?_eq_some hfind)
  | takeJpeg hpc _ hq =>
    obtain ⟨-, hitems, -⟩ := dequeue_some hq
    refine hs.mono hcontrol hordered rfl (.refl _) (.refl _) (fun _ h => h) (fun job hjob => ?_)
      fun job hjob => ?_
    · simp only [mem_append, hitems] at hjob ⊢
      exact hjob.imp_right (mem_cons_of_mem _)
    · cases hjob
      exact hs.jpegJobs _ (mem_append_right _ (hitems ▸ mem_cons_self))
  | startDataProc hpc =>
    refine hs.mono hcontrol hordered rfl (.refl _) (.refl _) (fun _ h => h) (fun _ h => h) fun job h => ?_
    simp [startDataProc, hpc] at h
  | stopDataProc hpc =>
    have hflush : ∀ {α : Type} (q : Queue α), q.flush.items.Sublist q.items := fun q => by
      unfold flush
      split
      · exact nil_sublist _
      · exact .refl _
    rw [stopDataProc_eq] at hcontrol hordered ⊢
    refine hs.mono hcontrol hordered rfl (hflush _) (hflush _) (fun _ h => mem_flush h)
      (fun job hjob => ?_) fun job h => ?_
    · simp only [mem_append] at hjob ⊢
      exact hjob.imp_right mem_flush
    · simp [hpc] at h
  | @giveBack rest hpc hcmds hoff =>
    rw [hc.giveBack_eq hoff] at hcontrol hordered ⊢
    exact hs.mono hcontrol hordered rfl (.refl _) (.refl _) (fun _ h => h) (fun _ h => h) hs.encoded
  | fwkNoJob hpc hq | fwkNoChannel hpc hq _ =>
    exact hs.taken (first _ (mem_head_of_dequeue hq)) hcontrol hordered (pending_takeFwk hq rfl) rfl
      (fun _ h => .inl h) (fun _ h => .inl h) fun _ h => by cases h
  | takeFwk hpc hq hr hjob =>
    have hactive := hc.active_of_pc (by simp [hpc])
    refine hs.taken (first _ (mem_head_of_dequeue hq)) hcontrol hordered (pending_takeFwk hq rfl) rfl
      (fun job h => ?_) (fun _ h => .inl h) fun _ h => by cases h
    rw [enqueue_active (hc.on hactive).2.2.2.1, mem_append, mem_singleton] at h
    refine h.imp_right fun h => ?_
    rw [h, hjob]
    exact ⟨rfl, rfl⟩
  | pairNoJob hpc hpp hmeta =>
    have hactive := hc.active_of_pc (by simp [hpc])
    obtain ⟨buf, bufs, hitems⟩ := exists_cons_of_ne_nil hpp
    rw [cleanUp_eq] at hcontrol hordered ⊢
    have hq := dequeue_cons (hc.on hactive).1 hitems
    exact hs.taken (first hmeta _ (mem_head_of_dequeue hq)) hcontrol hordered
      (pending_takePP (by rw [tookPair, hq]) rfl) rfl (fun _ h => .inl h) (fun _ h => .inl h) fun _ h => by cases h
  | pairReproc hpc hq hm hr =>
    have hactive := hc.active_of_pc (by simp [hpc])
    have hmeta : s.post.inputMetaQ.items ≠ [] := by simp [(dequeue_some hm).2.1]
    refine hs.taken (first hmeta _ (mem_head_of_dequeue hq)) hcontrol hordered
      (pending_takePP hq rfl) rfl (fun job h => ?_)
      (fun _ h => .inl h) fun _ h => by cases h
    rw [enqueue_active (hc.on hactive).2.2.2.1, mem_append, mem_singleton] at h
    refine h.imp_right fun h => ?_
    rw [h]
    exact ⟨rfl, rfl⟩
  | pairJpeg hpc hq hm hr hj hx =>
    have hmeta : s.post.inputMetaQ.items ≠ [] := by simp [(dequeue_some hm).2.1]
    obtain ⟨rfl, hitems⟩ := hs.ordered.alone hc (by simp [hpc]) (by rw [hpc]; rfl) hr hj
    refine hs.taken (first hmeta _ (mem_head_of_dequeue hq)) hcontrol hordered
      (pending_takePP hq rfl) rfl (fun job h => ?_)
      (fun job h => ?_) fun _ h => by cases h
    · rw [hitems] at h
      cases h
    · simp only [mem_append] at h ⊢
      rcases h with h | h
      · exact .inl (.inl h)
      · rcases mem_enqueue h with h | rfl
        · exact .inl (.inr h)
        · exact .inr ⟨rfl, hx⟩
  | pairCleaned _ hpc hq hm hr hlost =>
    have hmeta : s.post.inputMetaQ.items ≠ [] := by simp [(dequeue_some hm).2.1]
    refine hs.taken (first hmeta _ (mem_head_of_dequeue hq)) hcontrol hordered
      (pending_takePP hq rfl) rfl (fun job h => ?_)
      (fun _ h => .inl h) fun _ h => by cases h
    rw [hs.ordered.alone_dequeue hc (by simp [hpc]) (by rw [hpc]; rfl) hr _] at h
    cases h
  | overrideFailed => exact absurd rfl (hop _)

/-- **Every step that meets the condition keeps the settings with their requests.** -/
theorem step (hs : Settled s) {op : ReqOp} (h : op.Proper s t) : Settled t := by
  obtain ⟨first, h⟩ := h
  cases op with
  | queueJpegSetting outBufIndex => exact hs.queueJpegSetting h
  | requestLive => exact hs.requestLive h
  | requestFwk frame malloc => exact hs.requestFwk h first
  | streamCb addr bufIdx => exact hs.streamCb h
  | post op => exact hs.post h first

end Settled

/-- **JPEG settings belong to their request.** Where no settings of an earlier request wait when
settings are taken, every job that is encoded has the settings that the request of its frame asked
for. -/
theorem jpeg_settings_own {reprocessType : Option ReprocessType} {ops : List ReqOp} {s : Requests}
    (h : Run ReqOp.Proper ops (.started reprocessType) s) {job : JpegData}
    (encoded : s.post.pc = .encode job) : s.asked[job.request]? = some job.jpegSettings :=
  (h.invariant (fun _ _ _ hstep hs => Settled.step hs hstep)
    (Requests.started_settled reprocessType)).encoded job encoded

/-- A live request: its frame and its metadata come, and it is encoded with its settings. -/
theorem jpeg_settings_own_live :
    ∃ ops s job, Run ReqOp.Proper ops (.started none) s ∧ s.post.pc = .encode job ∧
      job.srcFrame = some ⟨10, .frame, 3, 0⟩ ∧ s.asked[job.request]? = some job.jpegSettings := by
  obtain ⟨s, job, hrun, hpc, hframe⟩ : ∃ s job, Run ReqOp.Proper
      [.queueJpegSetting 5, .requestLive, .streamCb 10 3, .post (.metadata ⟨11, .metadata, 0, 0⟩),
        .post .send, .post .getCmd, .post .takeJpeg, .post (.takeFwk none),
        .post (.takePP (some 20) (some 21)), .post .send, .post .getCmd, .post .takeJpeg]
      (.started none) s ∧ s.post.pc = .encode job ∧ job.srcFrame = some ⟨10, .frame, 3, 0⟩ := by
    refine ⟨_, _, .cons ⟨trivial, rfl⟩ (.cons ⟨trivial, rfl⟩ (.cons ⟨trivial, rfl⟩
      (.cons ⟨trivial, rfl⟩ (.cons ⟨trivial, rfl⟩ (.cons ⟨trivial, rfl⟩ (.cons ⟨trivial, rfl⟩
        (.cons ⟨?_, rfl⟩ (.cons ⟨?_, rfl⟩ (.cons ⟨trivial, rfl⟩ (.cons ⟨trivial, rfl⟩
          (.one ⟨trivial, rfl⟩))))))))))), rfl, rfl⟩
    · exact fun _ h => by cases h
    · -- when its settings are taken, the frame is of the first request
      intro _ _ h _ _
      cases h
      exact Nat.zero_le _
  exact ⟨_, s, job, hrun, hpc, hframe, jpeg_settings_own hrun hpc⟩

/-- A live request, and then a frame of the framework that needs no reprocess: it is encoded with
the settings of the live request. -/
theorem jpeg_settings_shifted :
    ∃ ops s job, Run (fun op s t => ReqOp.exec s op = some t) ops (.started none) s ∧
      s.post.pc = .encode job ∧ s.asked[job.request]? ≠ some job.jpegSettings := by
  have hrun : Run (fun op s t => ReqOp.exec s op = some t)
      [.queueJpegSetting 5, .requestLive, .queueJpegSetting 6,
        .requestFwk ⟨90, 1, .none, none, none, none⟩ (some 20), .post (.land 20), .post .send,
        .post .getCmd, .post .takeJpeg]
      (.started none) _ :=
    .cons rfl (.cons rfl (.cons rfl (.cons rfl (.cons rfl (.cons rfl (.cons rfl (.one rfl)))))))
  exact ⟨_, _, _, hrun, rfl, by decide⟩

end PostProc
