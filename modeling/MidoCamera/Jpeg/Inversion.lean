import MidoCamera.Jpeg.Manager

/-!
# What the steps of the JPEG object change

One equation for each function that says all it changes, or a list of cases where there are several
ways it can go. The queues of a group are left open where only some results look at them.
-/

namespace MmJpeg

open Loop Function Option

namespace JpegObj

variable {s t : JpegObj} {r a : SessionPtr} {q : Option ℕ} {i : ℕ} {ok : Bool} {mem : Mem}
  {j : JobNode}

/-! ## Queues -/

theorem enqHandle_eq (h : s.enqHandle q r ok = some t) : t = { s with handleQs := t.handleQs } := by
  unfold enqHandle at h
  split_ifs at h
  · simp only [bind_eq_bind, bind_eq_some_iff] at h
    obtain ⟨_, -, _, -, h⟩ := h
    cases h
    rfl
  · cases h
    rfl

theorem enqOut_eq (h : s.enqOut q i ok = some t) : t = { s with outBufQs := t.outBufQs } := by
  unfold enqOut at h
  split_ifs at h
  · simp only [bind_eq_bind, bind_eq_some_iff] at h
    obtain ⟨_, -, _, -, h⟩ := h
    cases h
    rfl
  · cases h
    rfl

theorem enqHandle_ok (h : s.enqHandle q r true = some t) :
    ∃ a l, q = some a ∧ s.handleQs a = some l ∧
      t = { s with handleQs := update s.handleQs a (some (l ++ [r])) } := by
  simp only [enqHandle, if_true, bind_eq_bind, bind_eq_some_iff] at h
  obtain ⟨a, rfl, l, hl, h⟩ := h
  cases h
  exact ⟨a, l, rfl, hl, rfl⟩

theorem enqOut_ok (h : s.enqOut q i true = some t) :
    ∃ a l, q = some a ∧ s.outBufQs a = some l ∧
      t = { s with outBufQs := update s.outBufQs a (some (l ++ [i])) } := by
  simp only [enqOut, if_true, bind_eq_bind, bind_eq_some_iff] at h
  obtain ⟨a, rfl, l, hl, h⟩ := h
  cases h
  exact ⟨a, l, rfl, hl, rfl⟩

theorem deqHandle_eq {idle : Option SessionPtr} (h : s.deqHandle q = some (idle, t)) :
    ∃ a l, q = some a ∧ s.handleQs a = some (idle.toList ++ l) ∧ (idle = none → l = []) ∧
      t = { s with handleQs := update s.handleQs a (some l) } := by
  simp only [deqHandle, bind_eq_bind, bind_eq_some_iff] at h
  obtain ⟨a, rfl, l, hl, h⟩ := h
  cases l with
  | nil =>
    cases h
    exact ⟨a, [], rfl, hl, fun _ => rfl, by rw [← hl, update_eq_self]⟩
  | cons r rest =>
    cases h
    exact ⟨a, rest, rfl, hl, nofun, rfl⟩

theorem deqOut_eq (h : s.deqOut q = some (i, t)) :
    ∃ a l l', q = some a ∧ s.outBufQs a = some l ∧ l.head?.getD 0 = i ∧ (i ≠ 0 → l = i :: l') ∧
      t = { s with outBufQs := update s.outBufQs a (some l') } := by
  simp only [deqOut, bind_eq_bind, bind_eq_some_iff] at h
  obtain ⟨a, rfl, l, hl, h⟩ := h
  cases l with
  | nil =>
    cases h
    exact ⟨a, [], [], rfl, hl, rfl, fun h => absurd rfl h, by rw [← hl, update_eq_self]⟩
  | cons i rest =>
    cases h
    exact ⟨a, i :: rest, rest, rfl, hl, rfl, fun _ => rfl, rfl⟩

theorem returnOut_eq {p : JobSession} (h : s.returnOut p ok = some t) :
    t = { s with outBufQs := t.outBufQs } := by
  unfold returnOut at h
  split_ifs at h
  · exact enqOut_eq h
  · cases h
    rfl

/-! ## Jobs -/

/-- **A job that is done**: the queues of its group are told elsewhere. -/
theorem jobDone_eq (h : s.jobDone r mem = some t) : t = { s with
    ongoing := takeOut JobNode.jobId (s.session r).jobId s.ongoing
    session := update s.session r { s.session r with encoding := false }
    handleQs := t.handleQs
    outBufQs := t.outBufQs
    jobSem := s.jobSem + 1 } := by
  simp only [jobDone, bind_eq_bind, bind_eq_some_iff] at h
  obtain ⟨s₁, h₁, s₂, h₂, h⟩ := h
  have hs₁ := enqHandle_eq h₁
  have hs₂ := returnOut_eq h₂
  cases h
  rw [hs₂, hs₁]
  rfl

theorem allocWorkbuffer_eq (s : JpegObj) (n : ℕ) (ok : Bool) : ∃ w,
    (s.allocWorkbuffer n ok).2 = { s with workBufCnt := w } := by
  unfold allocWorkbuffer
  split_ifs
  · exact ⟨_, rfl⟩
  · exact ⟨_, rfl⟩
  · exact ⟨s.workBufCnt, rfl⟩

theorem jobWorkbuffer_eq (s : JpegObj) (job : EncodeJob) (ok : Bool) : ∃ w,
    (s.jobWorkbuffer job ok).2.2 = { s with workBufCnt := w } ∧
      ((s.jobWorkbuffer job ok).1 = false → (s.jobWorkbuffer job ok).2.1 = -1) := by
  unfold jobWorkbuffer
  split_ifs
  · obtain ⟨w, hw⟩ := allocWorkbuffer_eq s (s.workBufsNeed job) ok
    exact ⟨w, hw, fun h => by simpa using h⟩
  · exact ⟨s.workBufCnt, rfl, nofun⟩

/-- **A job is started**: it is refused, or it is not startable and answered by the code of the work
buffers, or it is queued. -/
inductive Started (s : JpegObj) (job : EncodeJob) (mem : Mem) : ℤ × JpegObj → Prop
  | outside (outside : ¬(sessionAt job.sessionId).InTable) : Started s job mem (-1, s)
  | noWorkbuffer (w : ℕ) (code : (s.jobWorkbuffer job mem.work).2.1 = -1) :
      Started s job mem (-1, { s with workBufCnt := w })
  | notStartable (w : ℕ) (inTable : (sessionAt job.sessionId).InTable) (not : ¬s.Startable job) :
      Started s job mem ((s.jobWorkbuffer job mem.work).2.1, { s with workBufCnt := w })
  | noNode (w : ℕ) (startable : s.Startable job) : Started s job mem (-1, { s with workBufCnt := w })
  | noRoom (w : ℕ) (startable : s.Startable job) :
      Started s job mem
        (-1, ({ s with workBufCnt := w } : JpegObj).countJob (sessionAt job.sessionId))
  | queued (w : ℕ) (inTable : (sessionAt job.sessionId).InTable) (startable : s.Startable job) :
      Started s job mem
        (0, (({ s with workBufCnt := w } : JpegObj).countJob (sessionAt job.sessionId)).enqueueJob job
          (s.nextJobId job.sessionId))

theorem startJob_cases (s : JpegObj) (job : EncodeJob) (mem : Mem) :
    Started s job mem (s.startJob job mem) := by
  unfold startJob
  by_cases htable : (sessionAt job.sessionId).InTable
  · rw [if_neg (not_not_intro htable)]
    obtain ⟨w, hw, hfail⟩ := jobWorkbuffer_eq s job mem.work
    dsimp only
    rw [hw]
    by_cases hok : (s.jobWorkbuffer job mem.work).1 = true
    · rw [hok, Bool.not_true, if_neg Bool.false_ne_true]
      -- whether the job is startable does not turn on the work buffers
      by_cases hstart : s.Startable job
      · rw [if_neg (show ¬¬({ s with workBufCnt := w } : JpegObj).Startable job from
          not_not_intro hstart)]
        split_ifs with hnode hroom
        · exact .noNode w hstart
        · exact .queued w htable hstart
        · exact .noRoom w hstart
      · rw [if_pos (show ¬({ s with workBufCnt := w } : JpegObj).Startable job from hstart)]
        exact .notStartable w htable hstart
    · rw [if_pos (by simpa using hok)]
      exact .noWorkbuffer w (hfail (Bool.eq_false_iff.mpr hok))
  · rw [if_pos htable]
    exact .outside htable

/-- **A job is started and counted**: the work buffers alone are changed; or a job is answered with 0
that is nowhere; or its session counts it, and it is queued if there is room. -/
inductive StartedCounted (s : JpegObj) (job : EncodeJob) (mem : Mem) : JpegObj → Prop
  | refused (w : ℕ) (onTime : (sessionAt job.sessionId).InTable →
      (s.jobWorkbuffer job mem.work).2.1 = 0 → s.Startable job) :
      StartedCounted s job mem { s with workBufCnt := w }
  | late (w : ℕ) (inTable : (sessionAt job.sessionId).InTable)
      (answered : (s.jobWorkbuffer job mem.work).2.1 = 0) (not : ¬s.Startable job) :
      StartedCounted s job mem { s with workBufCnt := w, accepted := s.accepted + 1 }
  | noRoom (w : ℕ) (startable : s.Startable job) : StartedCounted s job mem
      (({ s with workBufCnt := w } : JpegObj).countJob (sessionAt job.sessionId))
  | queued (w : ℕ) (inTable : (sessionAt job.sessionId).InTable) (startable : s.Startable job) :
      StartedCounted s job mem
        { (({ s with workBufCnt := w } : JpegObj).countJob (sessionAt job.sessionId)).enqueueJob job
            (s.nextJobId job.sessionId) with accepted := s.accepted + 1 }

theorem startCounted_cases (s : JpegObj) (job : EncodeJob) (mem : Mem) :
    StartedCounted s job mem (s.startCounted job mem) := by
  have hcases := startJob_cases s job mem
  unfold startCounted
  generalize s.startJob job mem = res at hcases
  rcases hcases with hout | ⟨w, hcode⟩ | ⟨w, htable, hnot⟩ | ⟨w, hstart⟩ | ⟨w, hstart⟩ |
    ⟨w, htable, hstart⟩
  · exact .refused s.workBufCnt fun htable => absurd htable hout
  · exact .refused w fun _ hzero => absurd (hcode.symm.trans hzero) (by decide)
  · by_cases hcode : (s.jobWorkbuffer job mem.work).2.1 = 0
    · dsimp only
      rw [if_pos hcode]
      exact .late w htable hcode hnot
    · dsimp only
      rw [if_neg hcode]
      exact .refused w fun _ hzero => absurd hzero hcode
  · exact .refused w fun _ _ => hstart
  · exact .noRoom w hstart
  · exact .queued w htable hstart

theorem jobDone_handleQs (h : s.jobDone r mem = some t) (room : mem.handle = true) : ∃ q l,
    (s.session r).sessionHandleQ = some q ∧ s.handleQs q = some l ∧
      t.handleQs = update s.handleQs q (some (l ++ [r])) := by
  simp only [jobDone, bind_eq_bind, bind_eq_some_iff] at h
  obtain ⟨s₁, h₁, s₂, h₂, h⟩ := h
  rw [room] at h₁
  obtain ⟨q, l, hq, hl, rfl⟩ := enqHandle_ok h₁
  cases h
  rw [returnOut_eq h₂]
  exact ⟨q, l, hq, hl, rfl⟩

theorem jobDone_outBufQs (h : s.jobDone r mem = some t) (room : mem.out = true)
    (auto : (s.session r).autoOutBuf = true) : ∃ q l,
    (s.session r).outBufQ = some q ∧ s.outBufQs q = some l ∧ t.outBufQs =
      update s.outBufQs q (some (l ++ [((s.session r).encodeJob.dstIndex + 1).toNat])) := by
  simp only [jobDone, bind_eq_bind, bind_eq_some_iff] at h
  obtain ⟨s₁, h₁, s₂, h₂, h⟩ := h
  have hs₁ := enqHandle_eq h₁
  rw [returnOut, if_pos auto, room] at h₂
  obtain ⟨q, l, hq, hl, rfl⟩ := enqOut_ok h₂
  cases h
  rw [hs₁] at hl ⊢
  exact ⟨q, l, hq, hl, rfl⟩

/-- The output buffer of a job: the one the client has chosen, or the next free one. -/
inductive Assigned (s : JpegObj) (r : SessionPtr) (j : JobNode) :
    Bool → (ℕ → Option (List ℕ)) → JobNode → Prop
  | given (chosen : 0 ≤ j.encodeJob.dstIndex) : Assigned s r j false s.outBufQs j
  | auto {q i : ℕ} {l : List ℕ} (left : j.encodeJob.dstIndex < 0)
      (queue : (s.session r).outBufQ = some q) (free : s.outBufQs q = some (i :: l))
      (valid : i ≠ 0) :
      Assigned s r j true (update s.outBufQs q (some l))
        { j with encodeJob := { j.encodeJob with dstIndex := (i : ℤ) - 1 } }

/-- A session and its output buffer are set up for a job. -/
def setUp (s : JpegObj) (r : SessionPtr) (b : Bool) (o : ℕ → Option (List ℕ)) : JpegObj :=
  { s.setSession r { s.session r with autoOutBuf := b } with outBufQs := o }

/-- **A job and a session are brought together**: without an output buffer nothing more is done; or
the job is bound to the session, unless it cannot be queued. -/
inductive Placed (s : JpegObj) (r : SessionPtr) (j : JobNode) (mem : Mem) : JpegObj → Prop
  | noBuffer {q : ℕ} {l : List ℕ} (o : ℕ → Option (List ℕ)) (left : j.encodeJob.dstIndex < 0)
      (queue : (s.session r).outBufQ = some q) (free : s.outBufQs q = some l)
      (none : l.head?.getD 0 = 0) : Placed s r j mem (s.setUp r false o)
  | bound {b : Bool} {o : ℕ → Option (List ℕ)} {j' : JobNode} (assigned : Assigned s r j b o j')
      (queued : mem.ongoing = true) : Placed s r j mem ((s.setUp r b o).bind r j')
  | refused {b : Bool} {o : ℕ → Option (List ℕ)} {j' : JobNode} {t : JpegObj}
      (assigned : Assigned s r j b o j') (queued : mem.ongoing = false)
      (done : (s.setUp r b o).jobDone r mem = some t) : Placed s r j mem t

theorem queueOngoing_cases {b : Bool} {o : ℕ → Option (List ℕ)} {j' : JobNode}
    (assigned : Assigned s r j b o j') (h : (s.setUp r b o).queueOngoing r j' mem = some t) :
    Placed s r j mem t := by
  unfold queueOngoing at h
  split_ifs at h with hmem
  · cases h
    exact .bound assigned hmem
  · exact .refused assigned (Bool.eq_false_iff.mpr hmem) h

theorem place_cases (h : s.place r j mem = some t) : Placed s r j mem t := by
  have houtBufQ : ((s.setAuto r false).session r).outBufQ = (s.session r).outBufQ := by
    rw [setAuto, setSession_self]
  unfold place at h
  dsimp only at h
  split_ifs at h with hdst
  · simp only [bind_eq_bind, bind_eq_some_iff] at h
    obtain ⟨⟨i, s₁⟩, hdeq, h⟩ := h
    obtain ⟨q, l, l', hq, hl, hi, hcons, rfl⟩ := deqOut_eq hdeq
    rw [houtBufQ] at hq
    dsimp only at h
    split_ifs at h with hzero
    · cases h
      exact .noBuffer _ hdst hq hl (hi.trans hzero)
    · refine queueOngoing_cases (.auto hdst hq ((hcons hzero) ▸ hl) hzero) (h ▸ ?_)
      simp only [setAuto, setSession, setUp, update_self, update_idem]
  · exact queueOngoing_cases (.given (not_lt.mp hdst)) h

/-- The idle session that the manager takes for a job. -/
def idleOf (s : JpegObj) (j : JobNode) : Option SessionPtr := do
  let a ← getSession j.jobId
  let q ← (s.session a).sessionHandleQ
  let l ← s.handleQs q
  l.head?

/-- The free output buffer that is next for a session, 0 if there is none. -/
def nextOut (s : JpegObj) (r : SessionPtr) : ℕ :=
  (do
    let q ← (s.session r).outBufQ
    let l ← s.outBufQs q
    l.head? : Option ℕ).getD 0

theorem idleOf_eq {a : SessionPtr} {q : ℕ} {l : List SessionPtr}
    (named : getSession j.jobId = some a) (queue : (s.session a).sessionHandleQ = some q)
    (idle : s.handleQs q = some l) : s.idleOf j = l.head? := by
  simp only [idleOf, named, queue, idle, bind_eq_bind, bind_some]

theorem nextOut_eq {q : ℕ} {l : List ℕ} (queue : (s.session r).outBufQ = some q)
    (free : s.outBufQs q = some l) : s.nextOut r = l.head?.getD 0 := by
  simp only [nextOut, queue, free, bind_eq_bind, bind_some]

/-- A job and an idle session are dequeued. -/
def dequeued (s : JpegObj) (rest : List JobNode) (q : ℕ) (l : List SessionPtr) : JpegObj :=
  { s with
    pc := .waiting
    todo := rest
    handleQs := update s.handleQs q (some l) }

/-- **The manager takes a job**: there is none, or none of its sessions is idle, or an idle session
is dequeued for it. -/
inductive Picked (s : JpegObj) (mem : Mem) : JpegObj → Prop
  | empty (todo : s.todo = []) : Picked s mem { s with pc := .waiting }
  | unknown {j : JobNode} {rest : List JobNode} (todo : s.todo = j :: rest)
      (named : getSession j.jobId = none) : Picked s mem { s with pc := .waiting, todo := rest }
  | noIdle {j : JobNode} {rest : List JobNode} {a : SessionPtr} {q : ℕ} (todo : s.todo = j :: rest)
      (named : getSession j.jobId = some a) (queue : (s.session a).sessionHandleQ = some q)
      (idle : s.handleQs q = some []) :
      Picked s mem { s with pc := .waiting, todo := if mem.head then j :: rest else rest }
  | idle {j : JobNode} {rest : List JobNode} {a r : SessionPtr} {q : ℕ} {l : List SessionPtr}
      {t : JpegObj} (todo : s.todo = j :: rest) (named : getSession j.jobId = some a)
      (queue : (s.session a).sessionHandleQ = some q) (idle : s.handleQs q = some (r :: l))
      (placed : Placed (s.dequeued rest q l) r j mem t) : Picked s mem t

theorem pick_cases (h : s.pick mem = some t) : s.pc = .picking ∧ Picked s mem t := by
  unfold pick at h
  by_cases hpc : s.pc = .picking
  · rw [if_pos hpc] at h
    refine ⟨hpc, ?_⟩
    dsimp only at h
    rcases htodo : s.todo with _ | ⟨j, rest⟩ <;> simp only [htodo] at h
    · cases h
      have hempty : Picked s mem _ := .empty htodo
      rw [htodo] at hempty
      exact hempty
    rcases hnamed : getSession j.jobId with _ | a <;> simp only [hnamed] at h
    · cases h
      exact .unknown htodo hnamed
    simp only [bind_eq_bind, bind_eq_some_iff] at h
    obtain ⟨⟨idle, s₁⟩, hdeq, h⟩ := h
    obtain ⟨q, l, hq, hl, hnil, rfl⟩ := deqHandle_eq hdeq
    rcases idle with _ | r
    · cases hnil rfl
      have hself : update s.handleQs q (some []) = s.handleQs := by
        rw [← show s.handleQs q = some [] from hl, update_eq_self]
      have hidle : Picked s mem _ := .noIdle htodo hnamed hq hl
      cases h
      rw [hself]
      split_ifs with hhead <;> simpa [hhead] using hidle
    · exact .idle htodo hnamed hq hl (place_cases h)
  · rw [if_neg hpc] at h
    cases h

theorem takeOver_eq (s : JpegObj) (r : SessionPtr) (out : EncodeOutcome) :
    ∃ (f : SessionPtr → Bool) (i : Option SessionPtr), (s.takeOver r out).2 =
      { s with session := fun b => { s.session b with config := f b }, inprogress := i } := by
  have hset : ∀ (s : JpegObj) r x i, ({ s.setSession r { s.session r with config := x } with
      inprogress := i } : JpegObj) = { s with
        session := fun b => { s.session b with
          config := if b = r then x else (s.session b).config }
        inprogress := i } := by
    intro s r x i
    simp only [setSession]
    congr 1
    funext b
    by_cases hb : b = r
    · rw [hb, update_self, if_pos rfl]
    · rw [update_of_ne hb, if_neg hb]
  have hstop : ∃ (f : SessionPtr → Bool) (i : Option SessionPtr), (s.stopInprogress out.stop).2 =
      { s with session := fun b => { s.session b with config := f b }, inprogress := i } := by
    unfold stopInprogress
    split
    · split_ifs
      · exact ⟨_, _, hset s _ false none⟩
      · exact ⟨fun b => (s.session b).config, s.inprogress, rfl⟩
    · exact ⟨fun b => (s.session b).config, s.inprogress, rfl⟩
  obtain ⟨f, i, hf⟩ := hstop
  unfold takeOver
  split_ifs with hconfig
  · exact ⟨fun b => (s.session b).config, s.inprogress, rfl⟩
  · dsimp only
    split_ifs
    · refine ⟨fun b => if b = r then true else f b, some r, ?_⟩
      rw [hf]
      exact hset _ r true (some r)
    · exact ⟨f, i, hf⟩

/-- The configurations and the session in progress are as they were, or as a session leaves them
that takes over. -/
def Configured (s : JpegObj) (r : SessionPtr) (f : SessionPtr → Bool) (i : Option SessionPtr) : Prop :=
  ((∀ b, f b = (s.session b).config) ∧ i = s.inprogress) ∨ ∃ out,
    (∀ b, f b = ((s.takeOver r out).2.session b).config) ∧ i = (s.takeOver r out).2.inprogress

/-- **A session that is encoded**: configurations are changed, and the session in progress; the
encoding flag is set if it succeeds. -/
inductive Encoded (s : JpegObj) (r : SessionPtr) : Bool × JpegObj → Prop
  | failed (f : SessionPtr → Bool) (i : Option SessionPtr) (conf : s.Configured r f i) :
      Encoded s r (false, { s with
        session := fun b => { s.session b with config := f b }
        inprogress := i })
  | started (f : SessionPtr → Bool) (i : Option SessionPtr) (conf : s.Configured r f i) :
      Encoded s r (true, { s with
        session := fun b => { s.session b with
          config := f b
          encoding := if b = r then true else (s.session b).encoding }
        inprogress := i
        pc := .submitting r })

theorem sessionEncode_cases (s : JpegObj) (r : SessionPtr) (out : EncodeOutcome) :
    Encoded s r (s.sessionEncode r out) := by
  unfold sessionEncode
  cases out.thumb with
  | false => exact .failed (fun b => (s.session b).config) s.inprogress (.inl ⟨fun _ => rfl, rfl⟩)
  | true =>
    obtain ⟨f, i, hf⟩ := takeOver_eq s r out
    have hconf : s.Configured r f i := .inr ⟨out, fun b => by rw [hf], by rw [hf]⟩
    rw [Bool.not_true, if_neg Bool.false_ne_true]
    dsimp only
    rw [hf]
    by_cases hok : ((s.takeOver r out).1 && out.jobParams) = true
    · rw [if_pos hok]
      have hset : update (fun b => { s.session b with config := f b }) r
          { s.session r with config := f r, encoding := true } = fun b => { s.session b with
            config := f b
            encoding := if b = r then true else (s.session b).encoding } := by
        funext b
        by_cases hb : b = r
        · rw [hb, update_self, if_pos rfl]
        · rw [update_of_ne hb, if_neg hb]
      have h := Encoded.started f i hconf
      rw [← hset] at h
      exact h
    · rw [if_neg hok]
      exact .failed f i hconf

/-! ## Sessions -/

theorem sessionAbort_eq (sent : SessionPtr → Bool) (fuel : ℕ) (s : JpegObj) (r : SessionPtr) :
    ∃ f : SessionPtr → AbortState, s.sessionAbort sent fuel r =
      { s with session := fun b => { s.session b with abortState := f b } } := by
  have hset : ∀ (s : JpegObj) r x, s.setSession r { s.session r with abortState := x } =
      { s with session := fun b => { s.session b with
        abortState := if b = r then x else (s.session b).abortState } } := by
    intro s r x
    simp only [setSession]
    congr 1
    funext b
    by_cases hb : b = r
    · rw [hb, update_self, if_pos rfl]
    · rw [update_of_ne hb, if_neg hb]
  induction fuel generalizing s r with
  | zero => exact ⟨fun b => (s.session b).abortState, rfl⟩
  | succ n ih =>
    unfold sessionAbort
    dsimp only
    split_ifs
    · exact ⟨fun b => (s.session b).abortState, rfl⟩
    · exact ⟨_, hset s r .init⟩
    · split
      · rename_i next _
        obtain ⟨f, hf⟩ := ih (s.setSession r { s.session r with abortState := .done }) next
        refine ⟨f, hf.trans ?_⟩
        rw [hset]
      · exact ⟨_, hset s r .done⟩

/-- **A job is aborted**: one to do is taken back; for an ongoing one, sessions are aborted. -/
inductive Aborted (s : JpegObj) (jobId : ℕ) : JpegObj → Prop
  | todo {j : JobNode} (found : s.todo.find? (fun j => j.jobId == jobId) = some j) :
      Aborted s jobId { s with
        todo := takeOut JobNode.jobId jobId s.todo
        removed := s.removed ++ [j.number] }
  | ongoing {j : JobNode} (f : SessionPtr → AbortState)
      (notTodo : s.todo.find? (fun j => j.jobId == jobId) = none)
      (found : s.ongoing.find? (fun j => j.jobId == jobId) = some j) :
      Aborted s jobId { s with
        ongoing := takeOut JobNode.jobId jobId s.ongoing
        removed := s.removed ++ [j.number]
        session := fun b => { s.session b with abortState := f b } }
  | none : Aborted s jobId s

theorem abortJob_cases (s : JpegObj) (jobId : ℕ) (sent : SessionPtr → Bool) :
    Aborted s jobId (s.abortJob jobId sent) := by
  unfold abortJob
  split
  · rename_i j htodo
    exact .todo htodo
  · rename_i htodo
    split
    · rename_i j hongoing
      dsimp only
      split
      · rename_i r _
        obtain ⟨f, hf⟩ := sessionAbort_eq sent fuel { s with
          ongoing := takeOut JobNode.jobId jobId s.ongoing
          removed := s.removed ++ [j.number] } r
        rw [hf]
        exact .ongoing f htodo hongoing
      · exact .ongoing (fun b => (s.session b).abortState) htodo hongoing
    · exact .none

def idOf (r : SessionPtr) : ℕ := (jobIdMagicval <<< 24) ||| (r.sessionIdx <<< 8) ||| r.clientIdx

theorem created_eq (s : JpegObj) (prev : Option SessionPtr) (r : SessionPtr) (params : EncodeParams)
    (ok : Bool) (hprev : prev ≠ some r) : ∃ f : SessionPtr → Option SessionPtr,
      (s.takeEntry prev r params).sessionCreate r ok = { s with
        session := update (fun b => { s.session b with nextSession := f b }) r
          { s.session r with
            active := true
            nextSession := none
            params := params
            abortState := .none
            config := false
            autoOutBuf := false
            omxHandle := ok
            filling := false
            job := 0 }
        numSessions := if ok then (s.numSessions + 1) % 2 ^ 32 else s.numSessions } := by
  cases prev with
  | none =>
    refine ⟨fun b => (s.session b).nextSession, ?_⟩
    unfold takeEntry link sessionCreate
    cases ok <;> simp only [setSession, update_self, update_idem] <;> rfl
  | some p =>
    have hp : p ≠ r := fun h => hprev (congrArg some h)
    refine ⟨fun b => if b = p then some r else (s.session b).nextSession, ?_⟩
    have hsession : ∀ x, update (update (update s.session r
        { s.session r with active := true, nextSession := none, params := params }) p
        { s.session p with nextSession := some r }) r x =
      update (fun b => { s.session b with
        nextSession := if b = p then some r else (s.session b).nextSession }) r x := by
      intro x
      funext b
      by_cases hb : b = r
      · rw [hb, update_self, update_self]
      · rw [update_of_ne hb, update_of_ne hb]
        by_cases hbp : b = p
        · rw [hbp, update_self, if_pos rfl]
        · rw [update_of_ne hbp, update_of_ne hb, if_neg hbp]
    have hr : update (update s.session r
        { s.session r with active := true, nextSession := none, params := params }) p
        { s.session p with nextSession := some r } r =
      { s.session r with active := true, nextSession := none, params := params } := by
      rw [update_of_ne (Ne.symm hp), update_self]
    unfold takeEntry link sessionCreate
    cases ok <;>
      simp only [setSession, update_of_ne hp, hr, hsession] <;> rfl

theorem named_eq {q : ℕ} (h : s.nameSession r q mem = some t) (conf : Bool) :
    ∃ (c : Bool) (i : Option SessionPtr), (t.configureFirst r conf).2 = { s with
      session := update s.session r { s.session r with
        sessionId := idOf r
        sessionHandleQ := some q
        outBufQ := some q
        config := c }
      inprogress := i
      handleQs := t.handleQs } := by
  unfold nameSession at h
  have ht := enqHandle_eq h
  unfold configureFirst
  split_ifs
  · refine ⟨true, some r, ?_⟩
    rw [ht]
    simp only [setSession, update_self, update_idem]
    rfl
  · exact ⟨(s.session r).config, s.inprogress, ht⟩
  · exact ⟨(s.session r).config, s.inprogress, ht⟩

theorem named_handleQs {q : ℕ} {l : List SessionPtr} (h : s.nameSession r q mem = some t)
    (hl : s.handleQs q = some l) :
    t.handleQs = update s.handleQs q (some (if mem.handle then l ++ [r] else l)) := by
  unfold nameSession at h
  cases hmem : mem.handle with
  | false =>
    rw [hmem] at h
    cases h
    rw [if_neg Bool.false_ne_true, ← hl, update_eq_self]
    rfl
  | true =>
    rw [hmem] at h
    obtain ⟨a, l', hq, hl', rfl⟩ := enqHandle_ok h
    cases hq
    cases hl.symm.trans hl'
    rfl

/-- Destroying sessions changes their configurations and handles, the session in progress and the
number of sessions. -/
theorem sessionDestroy_eq (l : List SessionPtr) (s : JpegObj) :
    ∃ (f g : SessionPtr → Bool) (i : Option SessionPtr) (n : ℕ), s.sessionDestroy l =
      { s with
        session := fun b => { s.session b with config := f b, omxHandle := g b }
        inprogress := i
        numSessions := n } := by
  induction l generalizing s with
  | nil => exact ⟨fun b => (s.session b).config, fun b => (s.session b).omxHandle, _, _, rfl⟩
  | cons r rest ih =>
    unfold sessionDestroy
    split_ifs
    · obtain ⟨f, g, i, n, h⟩ := ih (s.sessionDestroyOne r)
      refine ⟨f, g, i, n, h.trans ?_⟩
      simp only [sessionDestroyOne, setSession]
      congr 1
      funext b
      by_cases hb : b = r
      · rw [hb, update_self]
      · rw [update_of_ne hb]
    · exact ⟨fun b => (s.session b).config, fun b => (s.session b).omxHandle, _, _, rfl⟩

theorem removeSessionIdx_eq (l : List SessionPtr) (s : JpegObj) :
    ∃ f : SessionPtr → Bool, s.removeSessionIdx l =
      { s with session := fun b => { s.session b with active := f b } } := by
  induction l generalizing s with
  | nil => exact ⟨fun b => (s.session b).active, rfl⟩
  | cons r rest ih =>
    obtain ⟨f, h⟩ := ih (s.setSession (sessionAt (s.session r).sessionId)
      { s.session (sessionAt (s.session r).sessionId) with active := false })
    refine ⟨f, h.trans ?_⟩
    simp only [setSession]
    congr 1
    funext b
    by_cases hb : b = sessionAt (s.session r).sessionId
    · rw [hb, update_self]
    · rw [update_of_ne hb]

theorem tearDown_eq (s : JpegObj) (r : SessionPtr) (sent : SessionPtr → Bool) :
    ∃ (f g h : SessionPtr → Bool) (a : SessionPtr → AbortState) (i : Option SessionPtr) (n : ℕ),
      s.tearDown r sent = { s.removeJobs (s.session r).sessionId with
        session := fun b => { s.session b with
          active := f b, config := g b, omxHandle := h b, abortState := a b }
        inprogress := i
        numSessions := n } := by
  obtain ⟨a, ha⟩ := sessionAbort_eq sent fuel (s.removeJobs (s.session r).sessionId) r
  obtain ⟨g, h, i, n, hn⟩ := sessionDestroy_eq ((s.destroySessionUnlocked sent r).chain fuel r)
    (s.destroySessionUnlocked sent r)
  obtain ⟨f, hf⟩ := removeSessionIdx_eq ((s.destroySessionUnlocked sent r).chain fuel r)
    ((s.destroySessionUnlocked sent r).sessionDestroy
      ((s.destroySessionUnlocked sent r).chain fuel r))
  refine ⟨f, g, h, a, i, n, ?_⟩
  unfold tearDown
  dsimp only
  rw [hf, hn]
  unfold destroySessionUnlocked
  rw [ha]
  rfl

/-- **An entry of a group is made**: there is none, or no component for it, or its session cannot be
configured; or the loop goes on. -/
inductive Iterated (s : JpegObj) (clntIdx : ℕ) (params : EncodeParams) (q : ℕ) (mem : Mem)
    (out : ℕ → SessionOutcome) (n i : ℕ) (prev : Option SessionPtr) (id : ℕ) :
    Bool × ℕ × JpegObj → Prop
  | full (none : s.getNewSessionIdx clntIdx = none) :
      Iterated s clntIdx params q mem out n i prev id (true, id, s)
  | noHandle {r : SessionPtr} {u : JpegObj} (entry : s.getNewSessionIdx clntIdx = some r)
      (created : (s.takeEntry prev r params).sessionCreate r false = u)
      (component : (out i).handle = false) :
      Iterated s clntIdx params q mem out n i prev id
        (true, id, u.setSession r { u.session r with active := false })
  | unconfigured {r : SessionPtr} {u : JpegObj} {id' : ℕ}
      (entry : s.getNewSessionIdx clntIdx = some r)
      (named : ((s.takeEntry prev r params).sessionCreate r true).nameSession r q mem = some u)
      (failed : (u.configureFirst r (out i).configure).1 = false) :
      Iterated s clntIdx params q mem out n i prev id
        (false, id', (u.configureFirst r (out i).configure).2)
  | next {r : SessionPtr} {u : JpegObj} {res : Bool × ℕ × JpegObj}
      (entry : s.getNewSessionIdx clntIdx = some r)
      (named : ((s.takeEntry prev r params).sessionCreate r true).nameSession r q mem = some u)
      (configured : (u.configureFirst r (out i).configure).1 = true)
      (rest : (u.configureFirst r (out i).configure).2.createLoop clntIdx params q mem out n (i + 1)
        (some r) (if id = 0 then (u.session r).sessionId else id) = some res) :
      Iterated s clntIdx params q mem out n i prev id res

theorem createLoop_cases {clntIdx q n i id : ℕ} {params : EncodeParams} {out : ℕ → SessionOutcome}
    {prev : Option SessionPtr} {res : Bool × ℕ × JpegObj}
    (h : s.createLoop clntIdx params q mem out (n + 1) i prev id = some res) :
    Iterated s clntIdx params q mem out n i prev id res := by
  unfold createLoop at h
  rcases hentry : s.getNewSessionIdx clntIdx with _ | r <;> simp only [hentry] at h
  · cases h
    exact .full hentry
  cases hhandle : (out i).handle with
  | false =>
    simp only [hhandle, Bool.false_eq_true, if_false] at h
    cases h
    exact .noHandle hentry rfl hhandle
  | true =>
    simp only [hhandle, if_true, bind_eq_bind, bind_eq_some_iff] at h
    obtain ⟨u, hnamed, h⟩ := h
    cases hok : (u.configureFirst r (out i).configure).1 with
    | false =>
      simp only [hok, Bool.false_eq_true, if_false] at h
      cases h
      exact .unconfigured hentry hnamed hok
    | true =>
      simp only [hok, if_true] at h
      exact .next hentry hnamed hok h

/-- **A group is created**: refused, or without memory, or through the loop. -/
inductive Created (s : JpegObj) (clntIdx : ℕ) (params : EncodeParams) (mem : Mem)
    (out : ℕ → SessionOutcome) : JpegObj → Prop
  | refused (w : ℕ) : Created s clntIdx params mem out { s with workBufCnt := w }
  | looped {ok : Bool} {w id : ℕ} {t : JpegObj} (valid : clntIdx < maxJpegClientNum)
      (bound : params.numDstBufs ≤ maxBuf)
      (loop : ({ s with workBufCnt := w } : JpegObj).newQueues.createLoop clntIdx params s.nextQ mem
        out (if params.burstMode then s.concurrent else 1) 0 none 0 = some (ok, id, t)) :
      Created s clntIdx params mem out
        (if ok && id ≠ 0 then { t with groups := (s.nextQ, params.numDstBufs) :: t.groups } else t)

theorem createSession_cases {clientHdl : ℕ} {params : EncodeParams} {out : ℕ → SessionOutcome}
    (h : s.createSession clientHdl params mem out = some t) :
    Created s (getIndexByHandler clientHdl) params mem out t := by
  unfold createSession at h
  dsimp only at h
  split_ifs at h with hbufs hidx
  · cases h
    exact .refused s.workBufCnt
  · cases h
    exact .refused s.workBufCnt
  unfold createGroup at h
  generalize hn : (if params.burstMode then s.concurrent else 1) = n at h
  have hwork : ∃ w, (s.groupWorkbuffer n mem.work).2 = { s with workBufCnt := w } := by
    unfold groupWorkbuffer
    split_ifs
    · exact ⟨s.workBufCnt, rfl⟩
    · exact allocWorkbuffer_eq s _ _
  obtain ⟨w, hw⟩ := hwork
  dsimp only at h
  rw [hw] at h
  by_cases hmem : (s.groupWorkbuffer n mem.work).1 = -1 ∨ mem.node = false
  · rw [if_pos hmem] at h
    cases h
    exact .refused w
  · rw [if_neg hmem] at h
    simp only [bind_eq_bind, bind_eq_some_iff] at h
    obtain ⟨⟨ok, id, u⟩, hloop, h⟩ := h
    cases h
    exact .looped (not_le.mp hidx) (not_lt.mp (not_or.mp hbufs).2) (hn ▸ hloop)

/-- What setting up the sessions of a group leaves: the jobs, their queues, and the clients are as
before, and a session that is set up is bound to no job. -/
def SetsUp (s t : JpegObj) : Prop :=
  ∃ f w i n h o q g, t = { s with
      session := f
      workBufCnt := w
      inprogress := i
      numSessions := n
      handleQs := h
      outBufQs := o
      nextQ := q
      groups := g } ∧
    ∀ r, ((f r).job = (s.session r).job ∨ (f r).job = 0) ∧ (f r).jobHist = (s.session r).jobHist

theorem SetsUp.trans {u : JpegObj} (h : SetsUp s t) (h' : SetsUp t u) : SetsUp s u := by
  obtain ⟨_, _, _, _, _, _, _, _, rfl, hf⟩ := h
  obtain ⟨f, w, i, n, h, o, q, g, rfl, hf'⟩ := h'
  refine ⟨f, w, i, n, h, o, q, g, rfl, fun r => ⟨?_, (hf' r).2.trans (hf r).2⟩⟩
  rcases (hf' r).1 with hjob | hjob
  · rw [hjob]
    exact (hf r).1
  · exact .inr hjob

theorem setsUp_update {p : JobSession} {w i n h o q g} (job : p.job = (s.session r).job ∨ p.job = 0)
    (hist : p.jobHist = (s.session r).jobHist) : SetsUp s { s with
      session := update s.session r p
      workBufCnt := w
      inprogress := i
      numSessions := n
      handleQs := h
      outBufQs := o
      nextQ := q
      groups := g } := by
  refine ⟨_, w, i, n, h, o, q, g, rfl, fun b => ?_⟩
  by_cases hb : b = r
  · rw [hb, update_self]
    exact ⟨job, hist⟩
  · rw [update_of_ne hb]
    exact ⟨.inl rfl, rfl⟩

theorem setsUp_rest {w i n h o q g} : SetsUp s { s with
      workBufCnt := w
      inprogress := i
      numSessions := n
      handleQs := h
      outBufQs := o
      nextQ := q
      groups := g } :=
  ⟨s.session, w, i, n, h, o, q, g, rfl, fun _ => ⟨.inl rfl, rfl⟩⟩

theorem setsUp_created (s : JpegObj) (prev : Option SessionPtr) (r : SessionPtr)
    (params : EncodeParams) (ok : Bool) :
    SetsUp s ((s.takeEntry prev r params).sessionCreate r ok) := by
  have htaken : SetsUp s (s.takeEntry prev r params) := by
    cases prev with
    | none => exact setsUp_update (.inl rfl) rfl
    | some p =>
      have hself : SetsUp s (s.takeEntry none r params) := setsUp_update (.inl rfl) rfl
      exact hself.trans (setsUp_update (.inl rfl) rfl)
  cases ok <;> exact htaken.trans (setsUp_update (.inr rfl) rfl)

theorem createLoop_setsUp {clntIdx q n i id : ℕ} {params : EncodeParams} {out : ℕ → SessionOutcome}
    {prev : Option SessionPtr} {res : Bool × ℕ × JpegObj}
    (h : s.createLoop clntIdx params q mem out n i prev id = some res) : SetsUp s res.2.2 := by
  induction n generalizing s i prev id with
  | zero =>
    cases h
    exact setsUp_rest
  | succ n ih =>
    have hnamed : ∀ {r u ok},
        ((s.takeEntry prev r params).sessionCreate r true).nameSession r q mem = some u →
        SetsUp s (u.configureFirst r ok).2 := by
      intro r u ok hname
      obtain ⟨_, _, ht⟩ := named_eq hname ok
      rw [ht]
      exact (setsUp_created s prev r params true).trans (setsUp_update (.inl rfl) rfl)
    rcases createLoop_cases h with _ | ⟨_, rfl, _⟩ | ⟨_, hname, _⟩ | ⟨_, hname, _, hrest⟩
    · exact setsUp_rest
    · exact (setsUp_created s _ _ _ _).trans (setsUp_update (.inl rfl) rfl)
    · exact hnamed hname
    · exact (hnamed hname).trans (ih hrest)

/-- **The sessions of a group are set up**, whatever fails on the way. -/
theorem createSession_setsUp {clientHdl : ℕ} {params : EncodeParams} {out : ℕ → SessionOutcome}
    (h : s.createSession clientHdl params mem out = some t) : SetsUp s t := by
  rcases createSession_cases h with w | ⟨_, _, hloop⟩
  · exact setsUp_rest
  · have hloop := setsUp_rest.trans (createLoop_setsUp hloop)
    split_ifs
    · exact hloop.trans setsUp_rest
    · exact hloop

theorem freeQueues_eq (h : s.freeQueues r = some t) : ∃ q q',
    (s.session r).sessionHandleQ = some q ∧ (s.session r).outBufQ = some q' ∧
      (s.handleQs q).isSome ∧ t = { s with
        handleQs := update s.handleQs q none
        outBufQs := update s.outBufQs q' none
        groups := s.groups.filter fun g => g.1 ≠ q
        jobSem := s.jobSem + 1
        session := update s.session r
          { s.session r with sessionHandleQ := none, outBufQ := none } } := by
  simp only [freeQueues, bind_eq_bind, bind_eq_some_iff] at h
  obtain ⟨q, hq, l, hl, q', hq', _, -, h⟩ := h
  cases h
  exact ⟨q, q', hq, hq', isSome_of_eq_some hl, rfl⟩

/-! ## The ends of jobs -/

/-- The flags of a session that the manager and the callbacks of OMX change. -/
structure Flags where
  config : Bool
  encoding : Bool
  abortState : AbortState
  filling : Bool

def flags (s : JpegObj) (r : SessionPtr) : Flags :=
  let p := s.session r
  ⟨p.config, p.encoding, p.abortState, p.filling⟩

/-- The flags of the sessions are changed, the session in progress, and where the manager is. -/
def setFlags (s : JpegObj) (f : SessionPtr → Flags) (i : Option SessionPtr) (pc : MgrPc) : JpegObj :=
  { s with
    session := fun b => { s.session b with
      config := (f b).config
      encoding := (f b).encoding
      abortState := (f b).abortState
      filling := (f b).filling }
    inprogress := i
    pc := pc }

theorem setFlags_update (s : JpegObj) (r : SessionPtr) (g : Flags) (pc : MgrPc) :
    s.setFlags (update s.flags r g) s.inprogress pc =
      { s.setSession r { s.session r with
          config := g.config
          encoding := g.encoding
          abortState := g.abortState
          filling := g.filling } with pc := pc } := by
  simp only [setFlags, setSession]
  congr 1
  funext b
  by_cases hb : b = r
  · rw [hb, update_self, update_self]
  · rw [update_of_ne hb, update_of_ne hb]
    rfl

/-- The job of a session is ended: its client is called, if there is a callback, and it is done. -/
def endJob (s : JpegObj) (r : SessionPtr) (status : JobStatus) (mem : Mem) : Option JpegObj :=
  if (s.session r).params.jpegCb then (s.callback r status).jobDone r mem else s.jobDone r mem

end JpegObj

/-- A step that ends the job of a session. -/
def JpegOp.Ending (s : JpegObj) : JpegOp → SessionPtr → Mem → Prop
  | .configure out mem, r, m =>
    s.pc = .configuring r ∧ (s.sessionEncode r out).1 = false ∧ m = mem
  | .submit ok mem, r, m =>
    s.pc = .submitting r ∧ (s.session r).abortState ≠ .init ∧ ok = false ∧ m = mem
  | .fbd b mem, r, m =>
    r = b ∧ (s.session b).abortState = .none ∧ (s.session b).params.jpegCb = true ∧ m = mem
  | .eventHandler b error mem, r, m =>
    r = b ∧ (s.session b).abortState ≠ .init ∧ error = true ∧ (s.session b).encoding = true ∧ m = mem
  | _, _, _ => False

/-- A step of the manager that encodes a job, or a callback of OMX. -/
def JpegOp.Encodes : JpegOp → Prop
  | .configure _ _ | .submit _ _ | .fbd _ _ | .eventHandler _ _ _ => True
  | _ => False

namespace JpegObj

variable {s t : JpegObj} {r : SessionPtr} {ok : Bool} {mem : Mem}

/-- The configurations change only where the manager encodes a job. -/
def Reconfigured (s : JpegObj) (f : SessionPtr → Flags) (i : Option SessionPtr) : Prop :=
  ((∀ b, (f b).config = (s.session b).config) ∧ i = s.inprogress) ∨
    ∃ r, s.pc = .configuring r ∧ s.Configured r (fun b => (f b).config) i

/-- Where the manager goes when a job is encoded. -/
inductive Advance (s : JpegObj) : MgrPc → Prop
  | stays : Advance s s.pc
  | submits {r : SessionPtr} (configuring : s.pc = .configuring r) : Advance s (.submitting r)
  | waits (locked : s.Locked) : Advance s .waiting

theorem locked_of_configuring (h : s.pc = .configuring r) : s.Locked := by
  rw [Locked, h]
  trivial

theorem locked_of_submitting (h : s.pc = .submitting r) : s.Locked := by
  rw [Locked, h]
  trivial

/-- **A step of a job that is encoded**: flags are changed, and the job is ended or not. -/
inductive Encoding (s : JpegObj) (op : JpegOp) : JpegObj → Prop
  | goesOn (f : SessionPtr → Flags) (i : Option SessionPtr) (pc : MgrPc) (advance : s.Advance pc)
      (conf : s.Reconfigured f i) (not : ∀ r mem, ¬op.Ending s r mem) :
      Encoding s op (s.setFlags f i pc)
  | ends {r : SessionPtr} {mem : Mem} {status : JobStatus} {t : JpegObj} (f : SessionPtr → Flags)
      (i : Option SessionPtr) (pc : MgrPc) (advance : s.Advance pc) (conf : s.Reconfigured f i)
      (ending : op.Ending s r mem)
      (done : (s.setFlags f i pc).endJob r status mem = some t) : Encoding s op t

theorem reconfigured_update {g : Flags} (h : g.config = (s.session r).config) :
    s.Reconfigured (update s.flags r g) s.inprogress := by
  refine .inl ⟨fun b => ?_, rfl⟩
  by_cases hb : b = r
  · rw [hb, update_self, h]
  · rw [update_of_ne hb]
    rfl

theorem Encoding.update {op : JpegOp} {pc : MgrPc} (g : Flags) (advance : s.Advance pc)
    (not : ∀ b mem, ¬op.Ending s b mem) (config : g.config = (s.session r).config)
    (ht : t = { s.setSession r { s.session r with
      config := g.config
      encoding := g.encoding
      abortState := g.abortState
      filling := g.filling } with pc := pc }) : Encoding s op t := by
  rw [ht, ← setFlags_update]
  exact .goesOn _ _ _ advance (reconfigured_update config) not

theorem endJob_eq {status : JobStatus} (h : s.endJob r status mem = some t) : t = { s with
    ongoing := takeOut JobNode.jobId (s.session r).jobId s.ongoing
    session := update s.session r { s.session r with encoding := false }
    handleQs := t.handleQs
    outBufQs := t.outBufQs
    jobSem := s.jobSem + 1
    calls := t.calls } := by
  unfold endJob at h
  split_ifs at h
  · rw [jobDone_eq h]
    rfl
  · rw [jobDone_eq h]

theorem configure_cases {out : EncodeOutcome} (h : s.configure out mem = some t) :
    Encoding s (.configure out mem) t := by
  unfold configure at h
  split at h
  · rename_i r hpc
    have hencode := sessionEncode_cases s r out
    generalize hres : s.sessionEncode r out = res at h hencode
    rcases hencode with ⟨f, i, hconf⟩ | ⟨f, i, hconf⟩
    · simp only [Bool.false_eq_true, if_false] at h
      exact .ends (fun b => { s.flags b with config := f b }) i .waiting
        (.waits (locked_of_configuring hpc)) (.inr ⟨r, hpc, hconf⟩)
        ⟨hpc, congrArg Prod.fst hres, rfl⟩ h
    · simp only [if_true] at h
      cases h
      refine .goesOn (fun b => { s.flags b with
        config := f b
        encoding := if b = r then true else (s.session b).encoding }) i (.submitting r)
        (.submits hpc) (.inr ⟨r, hpc, hconf⟩) ?_
      rintro b m ⟨hb, hfail, -⟩
      cases hb.symm.trans hpc
      rw [hres] at hfail
      cases hfail
  · cases h

theorem submit_cases (h : s.submit ok mem = some t) : Encoding s (.submit ok mem) t := by
  unfold submit at h
  split at h
  · rename_i r hpc
    split_ifs at h with habort hok
    · cases h
      refine .goesOn s.flags s.inprogress .waiting (.waits (locked_of_submitting hpc))
        (.inl ⟨fun _ => rfl, rfl⟩) ?_
      rintro b m ⟨hb, hnot, -⟩
      cases hb.symm.trans hpc
      exact hnot habort
    · cases h
      refine .update { s.flags r with filling := true } (.waits (locked_of_submitting hpc))
        (fun b m hend => ?_) rfl rfl
      exact absurd (hok.symm.trans hend.2.2.1) Bool.noConfusion
    · exact .ends s.flags s.inprogress .waiting (.waits (locked_of_submitting hpc))
        (.inl ⟨fun _ => rfl, rfl⟩) ⟨hpc, habort, Bool.eq_false_iff.mpr hok, rfl⟩ h
  · cases h

theorem fbd_cases (h : s.fbd r mem = some t) : Encoding s (.fbd r mem) t := by
  unfold fbd at h
  dsimp only at h
  have hset := setFlags_update s r { s.flags r with filling := false } s.pc
  split_ifs at h with hfilling habort hcb
  · cases h
    exact .update { s.flags r with filling := false } .stays
      (fun b m hend => habort hend.2.1) rfl rfl
  · have hdone : (s.setFlags (update s.flags r { s.flags r with filling := false })
        s.inprogress s.pc).endJob r .done mem = some t := by
      rw [hset]
      unfold endJob
      rw [if_pos (by rw [← hcb]; exact congrArg (·.params.jpegCb) (setSession_self s r _))]
      exact h
    exact .ends _ _ _ .stays (reconfigured_update rfl) ⟨rfl, not_not.mp habort, hcb, rfl⟩ hdone
  · cases h
    exact .update { s.flags r with filling := false } .stays
      (fun b m hend => hcb hend.2.2.1) rfl rfl

theorem eventHandler_cases {error : Bool} (h : s.eventHandler r error mem = some t) :
    Encoding s (.eventHandler r error mem) t := by
  unfold eventHandler at h
  dsimp only at h
  by_cases hhandle : (s.session r).omxHandle = true
  · rw [if_pos hhandle] at h
    by_cases habort : (s.session r).abortState = .init
    · rw [if_pos habort] at h
      cases h
      exact .update { s.flags r with abortState := .done } .stays
        (fun b m hend => hend.2.1 habort) rfl rfl
    · rw [if_neg habort] at h
      by_cases herror : (error && (s.session r).encoding) = true
      · rw [if_pos herror] at h
        rw [Bool.and_eq_true] at herror
        exact .ends s.flags s.inprogress s.pc .stays (.inl ⟨fun _ => rfl, rfl⟩)
          ⟨rfl, habort, herror.1, herror.2, rfl⟩ h
      · rw [if_neg herror] at h
        rw [← some.inj h]
        exact .goesOn s.flags s.inprogress s.pc .stays (.inl ⟨fun _ => rfl, rfl⟩) fun b m hend =>
          herror (by rw [hend.2.2.1, hend.2.2.2.1]; rfl)
  · rw [if_neg hhandle] at h
    cases h

end JpegObj

/-- **A step of a run**: a call of a client, which waits for the manager where both take the lock of
the jobs; a step of the manager; or a job that is encoded. -/
inductive JpegOp.Outcome (s : JpegObj) : JpegOp → JpegObj → Prop
  | newClient (count : ℕ) : Outcome s (.newClient count) (s.newClient count).2
  | createSession {clientHdl : ℕ} {params : EncodeParams} {mem : Mem} {out : ℕ → SessionOutcome}
      {t : JpegObj} (unlocked : ¬s.Locked)
      (created : s.createSession clientHdl params mem out = some t) :
      Outcome s (.createSession clientHdl params mem out) t
  | startJob (job : EncodeJob) (mem : Mem) : Outcome s (.startJob job mem) (s.startCounted job mem)
  | abortJob (jobId : ℕ) (sent : SessionPtr → Bool) (unlocked : ¬s.Locked) :
      Outcome s (.abortJob jobId sent) (s.abortJob jobId sent)
  | destroySession {sessionId : ℕ} {sent : SessionPtr → Bool} {r : SessionPtr} {t : JpegObj}
      (unlocked : ¬s.Locked) (named : getSession sessionId = some r)
      (destroyed : s.destroySession r sent = some t) : Outcome s (.destroySession sessionId sent) t
  | unknownSession (sessionId : ℕ) (sent : SessionPtr → Bool) (unlocked : ¬s.Locked)
      (unknown : getSession sessionId = none) : Outcome s (.destroySession sessionId sent) s
  | close (clientHdl : ℕ) (sent : SessionPtr → Bool) (unlocked : ¬s.Locked) :
      Outcome s (.close clientHdl sent) (s.close clientHdl sent).2
  | wake {t : JpegObj} (woken : s.wake = some t) : Outcome s .wake t
  | look {t : JpegObj} (looked : s.look = some t) : Outcome s .look t
  | pick {mem : Mem} {t : JpegObj} (picked : s.pick mem = some t) : Outcome s (.pick mem) t
  | encoding {op : JpegOp} {t : JpegObj} (encodes : op.Encodes) (encoding : s.Encoding op t) :
      Outcome s op t

theorem JpegOp.Step.outcome {s t : JpegObj} {op : JpegOp} (h : op.Step s t) : op.Outcome s t := by
  unfold JpegOp.Step JpegOp.exec at h
  cases op with
  | newClient count =>
    cases h
    exact .newClient count
  | createSession clientHdl params mem out =>
    dsimp only at h
    split_ifs at h with hlocked
    exact .createSession hlocked h
  | startJob job mem =>
    cases h
    exact .startJob job mem
  | abortJob jobId sent =>
    dsimp only at h
    split_ifs at h with hlocked
    cases h
    exact .abortJob jobId sent hlocked
  | destroySession sessionId sent =>
    dsimp only [JpegObj.destroySessionById] at h
    split_ifs at h with hlocked
    rcases hr : getSession sessionId with _ | r <;> simp only [hr] at h
    · cases h
      exact .unknownSession sessionId sent hlocked hr
    · exact .destroySession hlocked hr h
  | close clientHdl sent =>
    dsimp only at h
    split_ifs at h with hlocked
    cases h
    exact .close clientHdl sent hlocked
  | wake => exact .wake h
  | look => exact .look h
  | pick mem => exact .pick h
  | configure out mem => exact .encoding trivial (JpegObj.configure_cases h)
  | submit ok mem => exact .encoding trivial (JpegObj.submit_cases h)
  | fbd r mem => exact .encoding trivial (JpegObj.fbd_cases h)
  | eventHandler r error mem => exact .encoding trivial (JpegObj.eventHandler_cases h)

end MmJpeg
