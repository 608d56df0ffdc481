import MidoCamera.PostProc.Outcomes

/-!
# The post-processor does not stall

A command is sent for a frame only if metadata waits, and for metadata only if a frame waits; one
command takes one frame and one metadata. What makes this enough is a count: there are never more
pairs than commands, where a command counts from when its caller is about to send it until the data
thread has passed the part that takes a pair. The frames of the framework are counted in the same
way. A JPEG job waits for the one that is ongoing, and every job that leaves the encoder is released
with a command.
-/

namespace PostProc

open Loop List PostProcessor Queue

/-! ## The commands to come -/

/-- The commands to do the next job that are sent, or are about to be. -/
def PostProcessor.wakes (s : PostProcessor) : ℕ := s.cmds.count .doNextJob + s.owed

/-- Whether the data thread has still to look for a frame of the framework. -/
@[simp]
def Pc.beforeFwk : Pc → ℕ
  | .jpeg | .encode _ | .started _ _ | .fwk => 1
  | _ => 0

/-- Whether the data thread has still to look for a frame of the camera. -/
@[simp]
def Pc.beforePP : Pc → ℕ
  | .jpeg | .encode _ | .started _ _ | .fwk | .fwkReproc _ _ | .pp => 1
  | _ => 0

/-- Every frame of the framework and every pair of a frame and metadata has a command to come, and
so has the next JPEG job, unless a job is ongoing. -/
structure Awake (s : PostProcessor) : Prop where
  isActive : s.isActive = true
  actives : s.inputPPQ.active = true ∧ s.inputFWKPPQ.active = true ∧ s.inputMetaQ.active = true ∧
    s.inputJpegQ.active = true ∧ s.ongoingJpegQ.active = true
  noStop : .stopDataProc ∉ s.cmds
  fwk : s.inputFWKPPQ.items.length ≤ s.wakes + s.pc.beforeFwk
  pairs : min s.inputPPQ.items.length s.inputMetaQ.items.length ≤ s.wakes + s.pc.beforePP
  jpeg : s.inputJpegQ.items ≠ [] →
    s.ongoingJpegQ.items ≠ [] ∨ s.completing ≠ [] ∨ 0 < s.wakes ∨ s.pc = .jpeg

/-- A started post-processor with nothing in it; commands may be left from before. -/
structure Ready (s : PostProcessor) : Prop where
  isActive : s.isActive = true
  pp : s.inputPPQ = {}
  fwk : s.inputFWKPPQ = {}
  metadata : s.inputMetaQ = {}
  jpeg : s.inputJpegQ = {}
  ongoing : s.ongoingJpegQ.active = true
  noStop : .stopDataProc ∉ s.cmds

/-- No command is pending: none is sent, or about to be, or being done. And no JPEG callback is
between the dequeue of its job and its release. -/
structure Quiet (s : PostProcessor) : Prop where
  wakes : s.wakes = 0
  pc : s.pc = .idle
  completing : s.completing = []

def PostOp.ofActive : PostOp → Bool
  | .flushTake | .flushRelease | .start _ _ | .stop | .stopChannel => false
  | _ => true

theorem Ready.awake {s : PostProcessor} (hs : Ready s) : Awake s where
  isActive := hs.isActive
  actives := by simp [hs.pp, hs.fwk, hs.metadata, hs.jpeg, hs.ongoing]
  noStop := hs.noStop
  fwk := by simp [hs.fwk]
  pairs := by simp [hs.pp]
  jpeg := by simp [hs.jpeg]

namespace Awake

variable {s t : PostProcessor}

/-- What is waiting does not grow, nor do the commands become fewer, and the data thread has the same
to look for. -/
theorem mono (hs : Awake s) (isActive : t.isActive = s.isActive) (pp : t.inputPPQ = s.inputPPQ)
    (fwk : t.inputFWKPPQ = s.inputFWKPPQ) (metadata : t.inputMetaQ = s.inputMetaQ)
    (jpeg : t.inputJpegQ = s.inputJpegQ) (ongoing : t.ongoingJpegQ = s.ongoingJpegQ)
    (completing : s.completing ≠ [] → t.completing ≠ [] ∨ 0 < t.wakes) (cmds : t.cmds = s.cmds)
    (owed : s.owed ≤ t.owed) (beforeFwk : t.pc.beforeFwk = s.pc.beforeFwk)
    (beforePP : t.pc.beforePP = s.pc.beforePP) (encoder : s.pc = .jpeg →
      t.pc = .jpeg ∨ (s.inputJpegQ.items ≠ [] → s.ongoingJpegQ.items ≠ [])) : Awake t where
  isActive := isActive.trans hs.isActive
  actives := by rw [pp, fwk, metadata, jpeg, ongoing]; exact hs.actives
  noStop := cmds ▸ hs.noStop
  fwk := by
    have := hs.fwk
    simp only [PostProcessor.wakes, fwk, beforeFwk, cmds] at this ⊢
    omega
  pairs := by
    have := hs.pairs
    simp only [PostProcessor.wakes, pp, metadata, beforePP, cmds] at this ⊢
    omega
  jpeg := by
    intro hne
    rw [jpeg] at hne
    rcases hs.jpeg hne with h | h | h | h
    · exact .inl (ongoing ▸ h)
    · exact .inr ((completing h).imp_right .inl)
    · refine .inr (.inr (.inl ?_))
      simp only [PostProcessor.wakes, cmds] at h ⊢
      omega
    · rcases encoder h with h | h
      · exact .inr (.inr (.inr h))
      · exact .inl (ongoing ▸ h hne)

/-- Where a command is owed, a JPEG job may be queued, and one more frame or metadata may wait. -/
theorem owing (hs : Awake s) (isActive : t.isActive = s.isActive)
    (actives : t.inputPPQ.active = true ∧ t.inputFWKPPQ.active = true ∧
      t.inputMetaQ.active = true ∧ t.inputJpegQ.active = true ∧ t.ongoingJpegQ.active = true)
    (fwk : t.inputFWKPPQ.items.length ≤ s.inputFWKPPQ.items.length + 1)
    (pairs : min t.inputPPQ.items.length t.inputMetaQ.items.length ≤
      min s.inputPPQ.items.length s.inputMetaQ.items.length + 1)
    (cmds : t.cmds = s.cmds) (owed : t.owed = s.owed + 1)
    (beforeFwk : t.pc.beforeFwk = s.pc.beforeFwk) (beforePP : t.pc.beforePP = s.pc.beforePP) :
    Awake t where
  isActive := isActive.trans hs.isActive
  actives := actives
  noStop := cmds ▸ hs.noStop
  fwk := by
    have := hs.fwk
    simp only [PostProcessor.wakes, beforeFwk, cmds, owed] at this ⊢
    omega
  pairs := by
    have := hs.pairs
    simp only [PostProcessor.wakes, beforePP, cmds, owed] at this ⊢
    omega
  jpeg _ := by
    refine .inr (.inr (.inl ?_))
    simp only [PostProcessor.wakes, owed]
    omega

theorem send (hs : Awake s) (howed : 0 < s.owed) :
    Awake { s with owed := s.owed - 1, cmds := s.cmds ++ [.doNextJob] } := by
  have hwakes : ({ s with owed := s.owed - 1, cmds := s.cmds ++ [.doNextJob] } :
      PostProcessor).wakes = s.wakes := by
    simp only [PostProcessor.wakes, count_append, count_singleton_self]
    omega
  refine ⟨hs.isActive, hs.actives, by simpa using hs.noStop, ?_, ?_, ?_⟩
  · rw [hwakes]
    exact hs.fwk
  · rw [hwakes]
    exact hs.pairs
  · rw [hwakes]
    exact hs.jpeg

theorem processInput (hs : Awake s) (b : SuperBuf) (n : ℕ) : Awake (s.processInput b n) := by
  have hq := enqueue_active hs.actives.1 (⟨b, n⟩ : PpBuffer)
  unfold PostProcessor.processInput
  rcases hm : s.inputMetaQ.items with _ | ⟨m, ms⟩
  · simp only [Queue.isEmpty, hm, isEmpty_nil, if_true]
    refine ⟨hs.isActive, by simpa using hs.actives, hs.noStop, hs.fwk, ?_, hs.jpeg⟩
    simp [hm]
  · simp only [Queue.isEmpty, hm, isEmpty_cons, Bool.false_eq_true, if_false]
    refine hs.owing rfl (by simpa [owe] using hs.actives) (Nat.le_succ _) ?_ rfl rfl rfl rfl
    simp only [owe, hq, length_append, length_cons, length_nil]
    omega

theorem processPPMetadata (hs : Awake s) (b : SuperBuf) : Awake (s.processPPMetadata b) := by
  have hq := enqueue_active hs.actives.2.2.1 b
  unfold PostProcessor.processPPMetadata
  rcases hm : s.inputPPQ.items with _ | ⟨m, ms⟩
  · simp only [Queue.isEmpty, hm, isEmpty_nil, if_true]
    refine ⟨hs.isActive, by simpa using hs.actives, hs.noStop, hs.fwk, ?_, hs.jpeg⟩
    simp [hm]
  · simp only [Queue.isEmpty, hm, isEmpty_cons, Bool.false_eq_true, if_false]
    refine hs.owing rfl (by simpa [owe] using hs.actives) (Nat.le_succ _) ?_ rfl rfl rfl rfl
    simp only [owe, hq, length_append, length_cons, length_nil]
    omega

theorem fwkWaits (hs : Awake s) (frame : FwkInput) :
    Awake { s with inputFWKPPQ := s.inputFWKPPQ.enqueue frame, owed := s.owed + 1 } := by
  have hq := enqueue_active hs.actives.2.1 frame
  refine hs.owing rfl (by simpa using hs.actives) ?_ (Nat.le_succ _) rfl rfl rfl rfl
  simp only [hq, length_append, length_cons, length_nil, le_refl]

/-! ### The data thread -/

theorem startDataProc (hs : Awake s) {rest : List Cmd} (hpc : s.pc = .idle)
    (hcmds : s.cmds = .startDataProc :: rest) :
    Awake ({ s with cmds := rest } : PostProcessor).startDataProc := by
  have hcount : count Cmd.doNextJob (.startDataProc :: rest) = rest.count .doNextJob :=
    count_cons_of_ne (by decide)
  have hfwk := hs.fwk
  have hpairs := hs.pairs
  simp only [PostProcessor.wakes, hcmds, hcount, hpc, Pc.beforeFwk, Pc.beforePP] at hfwk hpairs
  refine ⟨rfl, ⟨rfl, rfl, rfl, rfl, hs.actives.2.2.2.2⟩, fun hmem => ?_, ?_, ?_, fun hne => ?_⟩
  · exact hs.noStop (hcmds ▸ mem_cons_of_mem _ hmem)
  · simpa [PostProcessor.wakes, PostProcessor.startDataProc, hpc, Pc.beforeFwk, init] using hfwk
  · simpa [PostProcessor.wakes, PostProcessor.startDataProc, hpc, Pc.beforePP, init] using hpairs
  · have hjpeg := hs.jpeg hne
    simpa [PostProcessor.wakes, PostProcessor.startDataProc, hcmds, hcount, hpc] using hjpeg

/-- One command less, and all of its parts are to come. -/
theorem doNextJob (hs : Awake s) {rest : List Cmd} (hpc : s.pc = .idle)
    (hcmds : s.cmds = .doNextJob :: rest) : Awake { s with cmds := rest, pc := .jpeg } := by
  have hfwk := hs.fwk
  have hpairs := hs.pairs
  simp only [PostProcessor.wakes, hcmds, hpc, Pc.beforeFwk, Pc.beforePP, count_cons_self]
    at hfwk hpairs
  refine ⟨hs.isActive, hs.actives, fun hmem => ?_, ?_, ?_, fun _ => .inr (.inr (.inr rfl))⟩
  · exact hs.noStop (hcmds ▸ mem_cons_of_mem _ hmem)
  · simp only [PostProcessor.wakes, Pc.beforeFwk]
    omega
  · simp only [PostProcessor.wakes, Pc.beforePP]
    omega

theorem takeJpeg (hs : Awake s) {job : JpegData} {q : Queue JpegData} (hpc : s.pc = .jpeg)
    (hq : s.inputJpegQ.dequeue = (some job, q)) : Awake { s with
      inputJpegQ := q
      ongoingJpegQ := s.ongoingJpegQ.enqueue job
      pc := .encode job } := by
  obtain ⟨-, -, hactive⟩ := dequeue_some hq
  have hfwk := hs.fwk
  have hpairs := hs.pairs
  simp only [hpc, Pc.beforeFwk, Pc.beforePP] at hfwk hpairs
  refine ⟨hs.isActive, ⟨hs.actives.1, hs.actives.2.1, hs.actives.2.2.1, hactive, ?_⟩, hs.noStop,
    hfwk, hpairs, fun _ => .inl ?_⟩
  · simpa using hs.actives.2.2.2.2
  · rw [enqueue_active hs.actives.2.2.2.2]
    simp

theorem jpeg_of_passed (hs : Awake s) (hpc : s.pc ≠ .jpeg) (hne : s.inputJpegQ.items ≠ []) :
    s.ongoingJpegQ.items ≠ [] ∨ s.completing ≠ [] ∨ 0 < s.wakes := by
  rcases hs.jpeg hne with h | h | h | h
  · exact .inl h
  · exact .inr (.inl h)
  · exact .inr (.inr h)
  · exact absurd h hpc

/-- The data thread goes on to the frames of the camera, and those of the framework that are left
have commands of their own. -/
theorem toPP (hs : Awake s) {q : Queue FwkInput} (hpc : s.pc = .fwk) (active : q.active = true)
    (length : q.items.length ≤ s.wakes) : Awake { s with inputFWKPPQ := q, pc := .pp } := by
  have hpairs := hs.pairs
  simp only [hpc, Pc.beforePP] at hpairs
  exact ⟨hs.isActive, ⟨hs.actives.1, active, hs.actives.2.2⟩, hs.noStop, length, hpairs,
    fun hne => (hs.jpeg_of_passed (by simp [hpc]) hne).imp_right fun h => h.imp_right .inl⟩

theorem takeFwk (hs : Awake s) {frame : FwkInput} {q : Queue FwkInput} (hpc : s.pc = .fwk)
    (hq : s.inputFWKPPQ.dequeue = (some frame, q)) : Awake { s with inputFWKPPQ := q, pc := .pp } := by
  obtain ⟨-, hitems, hactive⟩ := dequeue_some hq
  refine hs.toPP hpc hactive ?_
  have hfwk := hs.fwk
  simp only [hpc, hitems, length_cons, Pc.beforeFwk] at hfwk
  omega

/-- The data thread is done, where at most one pair waited beyond the commands. -/
theorem toIdle (hs : Awake s) {pq : Queue PpBuffer} {mq : Queue SuperBuf} (hpc : s.pc = .pp)
    (pp : pq.active = true) (metadata : mq.active = true)
    (pairs : min pq.items.length mq.items.length ≤ s.wakes) :
    Awake { s with inputPPQ := pq, inputMetaQ := mq, pc := .idle } := by
  have hfwk := hs.fwk
  simp only [hpc, Pc.beforeFwk] at hfwk
  exact ⟨hs.isActive, ⟨pp, hs.actives.2.1, metadata, hs.actives.2.2.2⟩, hs.noStop, hfwk, pairs,
    fun hne => (hs.jpeg_of_passed (by simp [hpc]) hne).imp_right fun h => h.imp_right .inl⟩

theorem tookPair (hs : Awake s) (hpc : s.pc = .pp) (hpp : s.inputPPQ.items ≠ [])
    (hmeta : s.inputMetaQ.items ≠ []) : Awake { s with
      inputPPQ := s.inputPPQ.dequeue.2
      inputMetaQ := s.inputMetaQ.dequeue.2
      pc := .idle } := by
  obtain ⟨buf, bufs, hp⟩ := exists_cons_of_ne_nil hpp
  obtain ⟨b, bs, hm⟩ := exists_cons_of_ne_nil hmeta
  have hpairs := hs.pairs
  simp only [hp, hm, hpc, length_cons, Pc.beforePP] at hpairs
  rw [dequeue_cons hs.actives.1 hp, dequeue_cons hs.actives.2.2.1 hm]
  refine hs.toIdle hpc hs.actives.1 hs.actives.2.2.1 ?_
  simp only
  omega

theorem tookPair_some (hs : Awake s) {buf : PpBuffer} {b : SuperBuf} {pq : Queue PpBuffer}
    {mq : Queue SuperBuf} (hpc : s.pc = .pp) (hpp : s.inputPPQ.dequeue = (some buf, pq))
    (hmeta : s.inputMetaQ.dequeue = (some b, mq)) :
    Awake { s with inputPPQ := pq, inputMetaQ := mq, pc := .idle } := by
  obtain ⟨-, hp, -⟩ := dequeue_some hpp
  obtain ⟨-, hm, -⟩ := dequeue_some hmeta
  have htook := hs.tookPair hpc (by simp [hp]) (by simp [hm])
  rwa [hpp, hmeta] at htook

/-! ### The step lemma -/

/-- No step that neither flushes nor stops lets anything wait without a command. -/
theorem step (hs : Awake s) {op : PostOp} (hop : op.ofActive = true) (h : op.exec s = some t) :
    Awake t := by
  cases PostOp.outcome h with
  | flushTake | flushRelease | startNoReproc | startReproc | startFailed | stop | stopChannel =>
    cases hop
  | jpegSetting | queueFree | queueNew | fwkNoMemory | fwkJob | processedNone | processedLost
  | processedJob | reprocessedNone | reprocessedJob | callbackNone =>
    exact hs.mono rfl rfl rfl rfl rfl rfl .inl rfl le_rfl rfl rfl .inl
  | fwkNoSettings => exact hs
  -- a command is owed for what comes in where the other half waits
  | @streamCb addr content bufIdx request rest hqueued owed =>
    simp only [PostOp.exec, streamCb, hqueued, Option.some.injEq] at h
    rw [← h]
    exact (hs.mono rfl rfl rfl rfl rfl rfl .inl rfl le_rfl rfl rfl .inl :
      Awake { s with streamQueued := rest }).processInput _ _
  | @input b frameNumber hkind owed =>
    simp only [PostOp.exec, hkind, if_true, Option.some.injEq] at h
    rw [← h]
    exact hs.processInput b frameNumber
  | @metadata b hkind owed =>
    simp only [PostOp.exec, hkind, if_true, Option.some.injEq] at h
    rw [← h]
    exact hs.processPPMetadata b
  | @fwkWaits frame => exact hs.fwkWaits frame
  | ppDone => exact hs.mono rfl rfl rfl rfl rfl rfl .inl rfl (Nat.le_succ _) rfl rfl .inl
  | jpegDone =>
    exact hs.mono rfl rfl rfl rfl rfl rfl (fun _ => .inr (Nat.succ_pos _)) rfl (Nat.le_succ _) rfl
      rfl .inl
  | land =>
    exact hs.owing rfl (by simpa using hs.actives) (Nat.le_succ _) (Nat.le_succ _) rfl rfl rfl rfl
  | callback _ hq =>
    obtain ⟨-, -, hactive⟩ := dequeue_some hq
    exact ⟨hs.isActive, ⟨hs.actives.1, hs.actives.2.1, hs.actives.2.2.1, hs.actives.2.2.2.1,
      hactive⟩, hs.noStop, hs.fwk, hs.pairs, fun _ => .inr (.inl (by simp))⟩
  | send howed => exact hs.send howed
  | startDataProc hpc hcmds => exact hs.startDataProc hpc hcmds
  | stopDataProc _ hcmds => exact absurd (hcmds ▸ mem_cons_self) hs.noStop
  | doNextJob hpc hcmds => exact hs.doNextJob hpc hcmds
  | giveBack _ _ hactive => exact absurd hs.isActive (by simp [hactive])
  | noJpeg hpc hno =>
    refine hs.mono rfl rfl rfl rfl rfl rfl .inl rfl le_rfl (by simp [hpc]) (by simp [hpc])
      fun _ => .inr fun hne => hno.resolve_right fun hno => hne ?_
    rwa [dequeue, if_pos hs.actives.2.2.2.1, head?_eq_none_iff] at hno
  | takeJpeg hpc _ hq => exact hs.takeJpeg hpc hq
  | encodeFailed hpc =>
    exact hs.owing rfl (by simpa using hs.actives) (Nat.le_succ _) (Nat.le_succ _) rfl rfl
      (by simp [hpc]) (by simp [hpc])
  | noFwk hpc hno =>
    rw [dequeue, if_pos hs.actives.2.1, head?_eq_none_iff] at hno
    exact hs.toPP hpc hs.actives.2.1 (by simp [hno])
  | fwkNoJob hpc hq | fwkNoChannel hpc hq | takeFwk hpc hq =>
    exact (hs.takeFwk hpc hq).mono rfl rfl rfl rfl rfl rfl .inl rfl le_rfl rfl rfl (by rintro ⟨⟩)
  | startJob hpc | storeJobId hpc | fwkReprocNone hpc | fwkReproc hpc | fwkReprocFailed hpc
  | ppReprocNone hpc | ppReproc hpc | ppReprocFailed hpc | overrideFailed hpc =>
    exact hs.mono rfl rfl rfl rfl rfl rfl .inl rfl le_rfl (by simp [hpc]) (by simp [hpc])
      (by simp [hpc])
  | noPair hpc hno =>
    refine hs.toIdle hpc hs.actives.1 hs.actives.2.2.1 ?_
    rcases hno with hno | hno <;> simp [hno]
  | pairNoJob hpc hpp hmeta =>
    rw [cleanUp_eq]
    exact (hs.tookPair hpc hpp hmeta).mono rfl rfl rfl rfl rfl rfl .inl rfl le_rfl rfl rfl (by rintro ⟨⟩)
  | pairReproc hpc hpp hmeta | pairCleaned _ hpc hpp hmeta =>
    exact (hs.tookPair_some hpc hpp hmeta).mono rfl rfl rfl rfl rfl rfl .inl rfl le_rfl rfl rfl (by rintro ⟨⟩)
  | pairJpeg hpc hpp hmeta =>
    have htook := hs.tookPair_some hpc hpp hmeta
    exact htook.owing rfl (by simpa using htook.actives) (Nat.le_succ _) (Nat.le_succ _) rfl rfl rfl
      rfl

end Awake

/-- **The post-processor does not stall.** However the active post-processor came by its frames,
where no command is pending and no JPEG callback is under way, no frame of the framework waits,
there are not both a frame of the camera and metadata, and a JPEG job waits only for one that is
ongoing. -/
theorem postproc_never_stalls {ops : List PostOp} {s t : PostProcessor} (hs : Ready s)
    (h : Run (fun op s t => op.ofActive = true ∧ op.exec s = some t) ops s t) (quiet : Quiet t) :
    t.inputFWKPPQ.items = [] ∧ ¬(t.inputPPQ.items ≠ [] ∧ t.inputMetaQ.items ≠ []) ∧
      (t.inputJpegQ.items ≠ [] → t.ongoingJpegQ.items ≠ []) := by
  have ht : Awake t := h.invariant (fun _ _ _ hstep hs => hs.step hstep.1 hstep.2) hs.awake
  have hfwk := ht.fwk
  have hpairs := ht.pairs
  simp only [quiet.wakes, quiet.pc, Pc.beforeFwk, Pc.beforePP, Nat.add_zero, Nat.le_zero,
    length_eq_zero_iff] at hfwk hpairs
  refine ⟨hfwk, fun hboth => ?_, fun hne => ?_⟩
  · have hpp := length_pos_iff.mpr hboth.1
    have hmeta := length_pos_iff.mpr hboth.2
    omega
  · rcases ht.jpeg hne with h | h | h | h
    · exact h
    · exact absurd quiet.completing h
    · simp [quiet.wakes] at h
    · simp [quiet.pc] at h

/-- A frame and its metadata come, in this order, and are taken with one command. -/
theorem postproc_never_stalls_pair :
    ∃ ops t, Run (fun op s t => op.ofActive = true ∧ PostOp.exec s op = some t) ops
        (PostProcessor.active (some { reprocessType := .jpeg })) t ∧ Quiet t ∧
      (t.inputFWKPPQ.items = [] ∧ ¬(t.inputPPQ.items ≠ [] ∧ t.inputMetaQ.items ≠ []) ∧
        (t.inputJpegQ.items ≠ [] → t.ongoingJpegQ.items ≠ [])) := by
  have hrun : Run (fun op s t => op.ofActive = true ∧ PostOp.exec s op = some t)
      [.input ⟨10, .frame, 0, 1⟩ 1, .metadata ⟨11, .metadata, 0, 1⟩, .send, .getCmd, .takeJpeg,
        .takeFwk none, .takePP (some 20) none, .ppReproc true .submitted]
      (active (some { reprocessType := .jpeg })) _ :=
    .cons ⟨rfl, rfl⟩ (.cons ⟨rfl, rfl⟩ (.cons ⟨rfl, rfl⟩ (.cons ⟨rfl, rfl⟩ (.cons ⟨rfl, rfl⟩
      (.cons ⟨rfl, rfl⟩ (.cons ⟨rfl, rfl⟩ (.one ⟨rfl, rfl⟩)))))))
  have hready : Ready (active (some { reprocessType := .jpeg })) :=
    ⟨rfl, rfl, rfl, rfl, rfl, rfl, not_mem_nil⟩
  exact ⟨_, _, hrun, ⟨rfl, rfl, rfl⟩, postproc_never_stalls hready hrun ⟨rfl, rfl, rfl⟩⟩

end PostProc
