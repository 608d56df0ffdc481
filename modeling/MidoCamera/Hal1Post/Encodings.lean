import MidoCamera.Hal1Post.Processor

/-!
# The ids of the encodings

The event of an encoding finds its job by an id, which the data thread writes into the job after the
encoder has taken it, and may have encoded it. An encoding that fails takes the last job out.
-/

namespace Hal1Post

open Loop List
open PostProc (Queue)

/-- A job of `m_ongoingJpegQ`, with the id that is written into it, or 0. -/
structure EncodeJob where
  job : ℕ
  jobId : ℕ := 0
  deriving DecidableEq

/-- Where the data thread is: between jobs, or in `encodeData`, before the encoder takes the job, or
between that and the writing of the id. -/
inductive EncodePc
  | idle
  | encoding (job : ℕ)
  | accepted (job jobId : ℕ)
  deriving DecidableEq

def EncodePc.job? : EncodePc → Option ℕ
  | .idle => none
  | .encoding job => some job
  | .accepted job _ => some job

/-- The id that is not written yet. -/
def EncodePc.unwritten : EncodePc → Option ℕ
  | .accepted _ jobId => some jobId
  | _ => none

/-- The queue and the data thread, with the record of the jobs that there were, that the encoder has
taken, and under what id, that are released, and of the ids of the events that were processed. -/
structure Encoder where
  ongoingJpegQ : Queue EncodeJob := {}
  pc : EncodePc := .idle
  jobs : List ℕ := []
  started : List (ℕ × ℕ) := []
  completed : List ℕ := []
  released : List ℕ := []

/-- What the data thread does in turn, and the processing of an event. -/
inductive EncodeOp
  | enqueue (job : ℕ)
  | startJob (jobId : ℕ)
  | storeJobId
  | encodeFails
  | jpegEvent (jobId : ℕ)
  deriving DecidableEq

/-- A job is new, the ids are distinct and not 0, and there is one event for each. -/
def EncodeOp.exec (s : Encoder) : EncodeOp → Option Encoder
  | .enqueue job =>
    if s.pc = .idle ∧ job ∉ s.jobs then
      some { s with
        ongoingJpegQ := s.ongoingJpegQ.enqueue ⟨job, 0⟩, pc := .encoding job
        jobs := job :: s.jobs }
    else none
  | .startJob jobId =>
    match s.pc with
    | .encoding job =>
      if jobId ≠ 0 ∧ jobId ∉ s.started.map Prod.snd then
        some { s with pc := .accepted job jobId, started := (job, jobId) :: s.started }
      else none
    | _ => none
  | .storeJobId =>
    match s.pc with
    | .accepted job jobId =>
      some { s with
        ongoingJpegQ.items := s.ongoingJpegQ.items.map fun e =>
          if e.job = job then ⟨job, jobId⟩ else e
        pc := .idle }
    | _ => none
  | .encodeFails =>
    match s.pc with
    | .encoding job =>
      some { s with
        ongoingJpegQ := s.ongoingJpegQ.dequeueLast, pc := .idle
        released := s.released ++ [job] }
    | _ => none
  | .jpegEvent jobId =>
    if jobId ∈ s.started.map Prod.snd ∧ jobId ∉ s.completed then
      some { s with
        ongoingJpegQ := flushNodes s.ongoingJpegQ (·.jobId == jobId)
        completed := jobId :: s.completed
        released := s.released ++ (flushedNodes s.ongoingJpegQ (·.jobId == jobId)).map EncodeJob.job }
    else none

/-- The event is not processed before the id is written. -/
def EncodeOp.Timely (s : Encoder) : EncodeOp → Prop
  | .jpegEvent jobId => s.pc.unwritten ≠ some jobId
  | _ => True

instance (s : Encoder) (op : EncodeOp) : Decidable (op.Timely s) :=
  match op with
  | .jpegEvent _ => inferInstanceAs (Decidable (_ ≠ _))
  | .enqueue _ | .startJob _ | .storeJobId | .encodeFails => inferInstanceAs (Decidable True)

def EncodeOp.TimelyStep (op : EncodeOp) (s t : Encoder) : Prop :=
  op.Timely s ∧ op.exec s = some t

/-- The job is taken out of the queue and released, and no other one. -/
structure Encoder.Removes (s t : Encoder) (job : ℕ) : Prop where
  mem : job ∈ s.ongoingJpegQ.items.map EncodeJob.job
  items : t.ongoingJpegQ.items = s.ongoingJpegQ.items.filter (·.job ≠ job)
  released : t.released = s.released ++ [job]

/-- What is true of the jobs in every state. -/
structure Encoder.Sound (s : Encoder) : Prop where
  active : s.ongoingJpegQ.active = true
  distinct : (s.ongoingJpegQ.items.map EncodeJob.job).Nodup
  known : ∀ e ∈ s.ongoingJpegQ.items, e.job ∈ s.jobs
  taken : ∀ p ∈ s.started, p.1 ∈ s.jobs ∧ p.2 ≠ 0
  unique : ∀ p ∈ s.started, ∀ q ∈ s.started, p.1 = q.1 ∨ p.2 = q.2 → p = q
  stored : ∀ e ∈ s.ongoingJpegQ.items,
    e.jobId = 0 ∧ s.pc.job? = some e.job ∨ (e.job, e.jobId) ∈ s.started
  last : ∀ job, s.pc.job? = some job → ∃ before, s.ongoingJpegQ.items = before ++ [⟨job, 0⟩]
  encoding : ∀ job, s.pc = .encoding job → ∀ p ∈ s.started, p.1 ≠ job
  accepted : ∀ job jobId, s.pc = .accepted job jobId → (job, jobId) ∈ s.started
  done : s.completed ⊆ s.started.map Prod.snd
  present : ∀ p ∈ s.started, p.2 ∉ s.completed → p.1 ∈ s.ongoingJpegQ.items.map EncodeJob.job

/-- **What completion and failure take out**: an event whose id is written takes its own job, and
another one does not; a failed encoding takes its own job; and no job stays that is completed. -/
structure Encoder.Exact (s : Encoder) : Prop where
  event : ∀ job jobId t, (job, jobId) ∈ s.started → EncodeOp.exec s (.jpegEvent jobId) = some t →
    (s.Removes t job ↔ EncodeOp.Timely s (.jpegEvent jobId))
  failure : ∀ job t, s.pc = .encoding job → EncodeOp.exec s .encodeFails = some t → s.Removes t job
  gone : ∀ p ∈ s.started, p.2 ∈ s.completed → p.1 ∉ s.ongoingJpegQ.items.map EncodeJob.job

namespace Encoder

variable {s t : Encoder} {job jobId : ℕ} {op : EncodeOp}

theorem filter_job {l : List EncodeJob} (h : (l.map EncodeJob.job).Nodup)
    (hmem : job ∈ l.map EncodeJob.job) : (l.filter (·.job = job)).map EncodeJob.job = [job] := by
  obtain ⟨e, he, rfl⟩ := mem_map.mp hmem
  obtain ⟨before, after, rfl⟩ := append_of_mem he
  rw [map_append, map_cons] at h
  have hnot := nodup_middle.mp h
  rw [← map_append, nodup_cons] at hnot
  have hother (l : List EncodeJob) (hsub : l ⊆ before ++ after) : l.filter (·.job = e.job) = [] :=
    filter_eq_nil_iff.mpr fun a ha heq =>
      hnot.1 (mem_map.mpr ⟨a, hsub ha, of_decide_eq_true heq⟩)
  rw [filter_append, filter_cons_of_pos (by simp), hother before (by simp), hother after (by simp)]
  rfl

/-- The last job is the one that is encoded, and there is no other entry of it. -/
theorem Sound.dropLast (hs : s.Sound) (hpc : s.pc.job? = some job) :
    s.ongoingJpegQ.items.dropLast = s.ongoingJpegQ.items.filter (·.job ≠ job) := by
  obtain ⟨before, hitems⟩ := hs.last job hpc
  have hdistinct := hs.distinct
  rw [hitems, map_append, nodup_append] at hdistinct
  have hbefore : before.filter (·.job ≠ job) = before := filter_eq_self.mpr fun e he => by
    simpa using hdistinct.2.2 e.job (mem_map_of_mem he) job (by simp)
  rw [hitems, dropLast_concat, filter_append, hbefore]
  simp

/-- **An entry has the id exactly if it is of the job** that the id was written into. -/
theorem Sound.match_eq (hs : s.Sound) (hstarted : (job, jobId) ∈ s.started)
    (timely : EncodeOp.Timely s (.jpegEvent jobId)) {e : EncodeJob}
    (he : e ∈ s.ongoingJpegQ.items) : (e.jobId == jobId) = decide (e.job = job) := by
  have hid := (hs.taken _ hstarted).2
  rw [Bool.eq_iff_iff, beq_iff_eq, decide_eq_true_iff]
  constructor
  · rintro rfl
    obtain ⟨hzero, -⟩ | hmem := hs.stored e he
    · exact absurd hzero hid
    · exact congrArg Prod.fst (hs.unique _ hmem _ hstarted (.inr rfl))
  · rintro rfl
    obtain ⟨-, hpc⟩ | hmem := hs.stored e he
    · exfalso
      cases hs' : s.pc with
      | idle =>
        rw [hs'] at hpc
        cases hpc
      | encoding job =>
        rw [hs'] at hpc
        cases hpc
        exact hs.encoding _ hs' _ hstarted rfl
      | accepted job id =>
        rw [hs'] at hpc
        cases hpc
        have heq := hs.unique _ (hs.accepted _ _ hs') _ hstarted (.inl rfl)
        cases heq
        exact timely (by rw [hs']; rfl)
    · exact congrArg Prod.snd (hs.unique _ hmem _ hstarted (.inl rfl))

theorem Sound.event (hs : s.Sound) (hstarted : (job, jobId) ∈ s.started)
    (h : EncodeOp.exec s (.jpegEvent jobId) = some t) :
    s.Removes t job ↔ EncodeOp.Timely s (.jpegEvent jobId) := by
  obtain ⟨⟨-, hnot⟩, rfl⟩ := Option.ite_some_none_eq_some.mp h
  have hmem := hs.present _ hstarted hnot
  constructor
  · intro hremoves hunwritten
    obtain ⟨other, hpc⟩ : ∃ other, s.pc = .accepted other jobId := by
      cases hpc : s.pc with
      | accepted other id =>
        rw [hpc] at hunwritten
        exact ⟨other, by rw [Option.some.inj hunwritten]⟩
      | idle | encoding =>
        rw [hpc] at hunwritten
        cases hunwritten
    -- the entry of the job has no id, so nothing is released
    have hnone : s.ongoingJpegQ.items.filter (·.jobId == jobId) = [] := by
      refine filter_eq_nil_iff.mpr fun e he heq => ?_
      obtain ⟨hzero, -⟩ | hin := hs.stored e he
      · exact (hs.taken _ hstarted).2 ((eq_of_beq heq).symm.trans hzero)
      obtain ⟨before, hitems⟩ := hs.last other (by rw [hpc]; rfl)
      have hother := hs.unique _ hin _ (hs.accepted _ _ hpc) (.inr (eq_of_beq heq))
      have hdistinct := hs.distinct
      rw [hitems] at he hdistinct
      rw [map_append, nodup_append] at hdistinct
      rcases mem_append.mp he with he | he
      · exact hdistinct.2.2 e.job (mem_map_of_mem he) other (by simp) (congrArg Prod.fst hother)
      · have hzero : e.jobId = 0 := by rw [mem_singleton.mp he]
        exact (hs.taken _ hstarted).2 ((eq_of_beq heq).symm.trans hzero)
    have hreleased := hremoves.released
    simp only [flushedNodes, hs.active, if_true, hnone, map_nil, append_nil] at hreleased
    exact absurd (congrArg length hreleased) (by simp)
  · intro timely
    have hkept : s.ongoingJpegQ.items.filter (fun e => !(e.jobId == jobId)) =
        s.ongoingJpegQ.items.filter (·.job ≠ job) := filter_congr fun e he => by
      rw [hs.match_eq hstarted timely he, decide_not]
    have htaken : s.ongoingJpegQ.items.filter (·.jobId == jobId) =
        s.ongoingJpegQ.items.filter (·.job = job) :=
      filter_congr fun e he => hs.match_eq hstarted timely he
    refine ⟨hmem, ?_, ?_⟩
    · unfold flushNodes
      rw [if_pos hs.active]
      exact hkept
    · show s.released ++ _ = _
      rw [flushedNodes, if_pos hs.active, htaken, filter_job hs.distinct hmem]

theorem Sound.failure (hs : s.Sound) (hpc : s.pc = .encoding job)
    (h : EncodeOp.exec s .encodeFails = some t) : s.Removes t job := by
  simp only [EncodeOp.exec, hpc, Option.some.injEq] at h
  subst h
  have hjob : s.pc.job? = some job := by rw [hpc]; rfl
  obtain ⟨before, hitems⟩ := hs.last job hjob
  refine ⟨by simp [hitems], ?_, rfl⟩
  show s.ongoingJpegQ.dequeueLast.items = _
  rw [Queue.dequeueLast, if_pos hs.active]
  exact hs.dropLast hjob

theorem Sound.enqueue (hs : s.Sound) (h : EncodeOp.exec s (.enqueue job) = some t) : t.Sound := by
  obtain ⟨⟨hpc, hnew⟩, rfl⟩ := Option.ite_some_none_eq_some.mp h
  rw [Queue.enqueue_active hs.active]
  refine ⟨hs.active, ?_, ?_, ?_, hs.unique, ?_, ?_, ?_, nofun, hs.done, ?_⟩
  · rw [map_append, nodup_append]
    refine ⟨hs.distinct, nodup_singleton _, fun a ha b hb heq => hnew ?_⟩
    obtain ⟨e, he, rfl⟩ := mem_map.mp ha
    have hb : b = job := mem_singleton.mp hb
    rw [← hb, ← heq]
    exact hs.known e he
  · intro e he
    rcases mem_append.mp he with he | he
    · exact mem_cons_of_mem _ (hs.known e he)
    · rw [mem_singleton.mp he]
      exact mem_cons_self
  · exact fun p hp => ⟨mem_cons_of_mem _ (hs.taken p hp).1, (hs.taken p hp).2⟩
  · intro e he
    rcases mem_append.mp he with he | he
    · refine (hs.stored e he).imp_left fun ⟨_, hsome⟩ => ?_
      rw [hpc] at hsome
      cases hsome
    · rw [mem_singleton.mp he]
      exact .inl ⟨rfl, rfl⟩
  · rintro _ ⟨⟩
    exact ⟨_, rfl⟩
  · rintro _ ⟨⟩ p hp rfl
    exact hnew (hs.taken p hp).1
  · intro p hp hnot
    rw [map_append]
    exact mem_append_left _ (hs.present p hp hnot)

theorem Sound.startJob (hs : s.Sound) (h : EncodeOp.exec s (.startJob jobId) = some t) :
    t.Sound := by
  simp only [EncodeOp.exec] at h
  split at h
  · next job hpc =>
    obtain ⟨⟨hzero, hnew⟩, rfl⟩ := Option.ite_some_none_eq_some.mp h
    have hjob : s.pc.job? = some job := by rw [hpc]; rfl
    obtain ⟨before, hitems⟩ := hs.last job hjob
    have hmem : job ∈ s.ongoingJpegQ.items.map EncodeJob.job := by simp [hitems]
    have hother (p : ℕ × ℕ) (hp : p ∈ s.started) : p.1 ≠ job ∧ p.2 ≠ jobId :=
      ⟨hs.encoding job hpc p hp, fun heq => hnew (heq ▸ mem_map_of_mem hp)⟩
    refine ⟨hs.active, hs.distinct, hs.known, ?_, ?_, ?_, ?_, nofun, ?_,
      fun _ h => mem_cons_of_mem _ (hs.done h), ?_⟩
    · refine forall_mem_cons.mpr ⟨⟨?_, hzero⟩, hs.taken⟩
      obtain ⟨e, he, heq⟩ := mem_map.mp hmem
      exact heq ▸ hs.known e he
    · rintro p hp q hq heq
      rcases mem_cons.mp hp with rfl | hp
      · rcases mem_cons.mp hq with rfl | hq
        · rfl
        · rcases heq with heq | heq
          · exact absurd heq.symm (hother q hq).1
          · exact absurd heq.symm (hother q hq).2
      · rcases mem_cons.mp hq with rfl | hq
        · rcases heq with heq | heq
          · exact absurd heq (hother p hp).1
          · exact absurd heq (hother p hp).2
        · exact hs.unique p hp q hq heq
    · exact fun e he => (hs.stored e he).imp (fun h => ⟨h.1, hjob.symm.trans h.2⟩)
        (mem_cons_of_mem _)
    · rintro _ ⟨⟩
      exact ⟨before, hitems⟩
    · rintro _ _ ⟨⟩
      exact mem_cons_self
    · exact forall_mem_cons.mpr ⟨fun _ => hmem, hs.present⟩
  · cases h

theorem Sound.storeJobId (hs : s.Sound) (h : EncodeOp.exec s .storeJobId = some t) : t.Sound := by
  simp only [EncodeOp.exec] at h
  split at h
  · next job jobId hpc =>
    cases h
    have hjobs : (s.ongoingJpegQ.items.map fun e => if e.job = job then ⟨job, jobId⟩ else e).map
        EncodeJob.job = s.ongoingJpegQ.items.map EncodeJob.job := by
      rw [map_map]
      refine map_congr_left fun e _ => ?_
      simp only [Function.comp_apply]
      split_ifs with heq
      · exact heq.symm
      · rfl
    refine ⟨hs.active, hjobs ▸ hs.distinct, ?_, hs.taken, hs.unique, ?_, nofun, nofun, nofun,
      hs.done, fun p hp hnot => hjobs ▸ hs.present p hp hnot⟩
    · intro e he
      have hmem := mem_map_of_mem (f := EncodeJob.job) he
      rw [hjobs] at hmem
      obtain ⟨a, ha, heq⟩ := mem_map.mp hmem
      exact heq ▸ hs.known a ha
    · intro e he
      obtain ⟨a, ha, rfl⟩ := mem_map.mp he
      dsimp only
      split_ifs with heq
      · exact .inr (hs.accepted job jobId hpc)
      · refine .inr ((hs.stored a ha).resolve_left fun h => heq ?_)
        rw [hpc] at h
        exact (Option.some.inj h.2).symm
  · cases h

theorem Sound.encodeFails (hs : s.Sound) (h : EncodeOp.exec s .encodeFails = some t) :
    t.Sound := by
  have hcopy := h
  simp only [EncodeOp.exec] at h
  split at h
  · next job hpc =>
    have hitems := (hs.failure hpc hcopy).items
    cases h
    have hsub {e : EncodeJob} : e ∈ s.ongoingJpegQ.items.filter (·.job ≠ job) →
        e ∈ s.ongoingJpegQ.items := mem_of_mem_filter
    refine ⟨?_, ?_, ?_, hs.taken, hs.unique, ?_, nofun, nofun, nofun, hs.done, ?_⟩
    · rw [Queue.dequeueLast, if_pos hs.active]
      exact hs.active
    all_goals rw [hitems]
    · exact hs.distinct.sublist (filter_sublist.map _)
    · exact fun e he => hs.known e (hsub he)
    · intro e he
      refine .inr ((hs.stored e (hsub he)).resolve_left fun h => ?_)
      rw [hpc] at h
      simpa [Option.some.inj h.2] using of_mem_filter he
    · intro p hp hnot
      obtain ⟨e, he, heq⟩ := mem_map.mp (hs.present p hp hnot)
      refine mem_map.mpr ⟨e, mem_filter.mpr ⟨he, ?_⟩, heq⟩
      simpa [heq] using hs.encoding job hpc p hp
  · cases h

theorem Sound.jpegEvent (hs : s.Sound) (h : EncodeOp.exec s (.jpegEvent jobId) = some t) :
    t.Sound := by
  obtain ⟨⟨hmem, hnot⟩, rfl⟩ := Option.ite_some_none_eq_some.mp h
  obtain ⟨q, hq, heq⟩ := mem_map.mp hmem
  subst heq
  have hid := (hs.taken q hq).2
  rw [flushNodes, if_pos hs.active]
  refine ⟨hs.active, hs.distinct.sublist (filter_sublist.map _),
    fun e he => hs.known e (mem_of_mem_filter he), hs.taken, hs.unique,
    fun e he => hs.stored e (mem_of_mem_filter he), ?_, hs.encoding, hs.accepted,
    cons_subset.mpr ⟨hmem, hs.done⟩, ?_⟩
  · intro job hjob
    obtain ⟨before, hitems⟩ := hs.last job hjob
    refine ⟨before.filter fun e => !(e.jobId == q.2), ?_⟩
    show s.ongoingJpegQ.items.filter _ = _
    rw [hitems, filter_append, filter_cons_of_pos (by simpa using hid.symm)]
    rfl
  · intro p hp hne
    obtain ⟨hne, hnot⟩ := not_or.mp (fun h => hne (mem_cons.mpr h))
    obtain ⟨e, he, heq⟩ := mem_map.mp (hs.present p hp hnot)
    refine mem_map.mpr ⟨e, mem_filter.mpr ⟨he, ?_⟩, heq⟩
    -- an entry of the job has its id, or none
    obtain ⟨hzero, -⟩ | hin := hs.stored e he
    · simpa [hzero] using hid.symm
    · have := hs.unique _ hin p hp (.inl heq)
      simpa [← this] using hne

theorem Sound.step (hs : s.Sound) (h : op.exec s = some t) : t.Sound := by
  cases op with
  | enqueue job => exact hs.enqueue h
  | startJob jobId => exact hs.startJob h
  | storeJobId => exact hs.storeJobId h
  | encodeFails => exact hs.encodeFails h
  | jpegEvent jobId => exact hs.jpegEvent h

/-- **No job stays that is completed**, where each event comes after the writing of its id. -/
theorem Sound.gone (hs : s.Sound) (h : op.TimelyStep s t)
    (hgone : ∀ p ∈ s.started, p.2 ∈ s.completed →
      p.1 ∉ s.ongoingJpegQ.items.map EncodeJob.job) :
    ∀ p ∈ t.started, p.2 ∈ t.completed → p.1 ∉ t.ongoingJpegQ.items.map EncodeJob.job := by
  obtain ⟨timely, h⟩ := h
  have hsub {job : ℕ} (hremoves : s.Removes t job) :
      t.ongoingJpegQ.items.map EncodeJob.job ⊆ s.ongoingJpegQ.items.map EncodeJob.job := by
    rw [hremoves.items]
    exact (filter_sublist.map _).subset
  have hcopy := h
  cases op with
  | enqueue job =>
    obtain ⟨⟨-, hnew⟩, rfl⟩ := Option.ite_some_none_eq_some.mp h
    rw [Queue.enqueue_active hs.active]
    intro p hp hdone hmem
    rw [map_append, mem_append, map_singleton, mem_singleton] at hmem
    rcases hmem with hmem | rfl
    · exact hgone p hp hdone hmem
    · exact hnew (hs.taken p hp).1
  | startJob jobId =>
    simp only [EncodeOp.exec] at h
    split at h
    · obtain ⟨⟨-, hnew⟩, rfl⟩ := Option.ite_some_none_eq_some.mp h
      exact forall_mem_cons.mpr ⟨fun hdone => absurd (hs.done hdone) hnew, hgone⟩
    · cases h
  | storeJobId =>
    simp only [EncodeOp.exec] at h
    split at h
    · next job jobId hpc =>
      cases h
      intro p hp hdone hmem
      obtain ⟨e, he, heq⟩ := mem_map.mp hmem
      obtain ⟨a, ha, rfl⟩ := mem_map.mp he
      refine hgone p hp hdone (mem_map.mpr ⟨a, ha, ?_⟩)
      split_ifs at heq with hjob
      · exact hjob.trans heq
      · exact heq
    · cases h
  | encodeFails =>
    simp only [EncodeOp.exec] at h
    split at h
    · next job hpc =>
      have hremoves := hs.failure hpc hcopy
      cases h
      exact fun p hp hdone hmem => hgone p hp hdone (hsub hremoves hmem)
    · cases h
  | jpegEvent jobId =>
    obtain ⟨⟨hmem, -⟩, rfl⟩ := Option.ite_some_none_eq_some.mp h
    obtain ⟨⟨job, id⟩, hstarted, rfl⟩ := mem_map.mp hmem
    have hremoves := (hs.event hstarted hcopy).mpr timely
    intro p hp hdone hin
    rcases mem_cons.mp hdone with heq | hdone
    · rw [hs.unique p hp _ hstarted (.inr heq), hremoves.items] at hin
      obtain ⟨e, he, heq⟩ := mem_map.mp hin
      simpa [heq] using of_mem_filter he
    · exact hgone p hp hdone (hsub hremoves hin)

theorem sound_initial : Sound {} :=
  ⟨rfl, nodup_nil, nofun, nofun, nofun, nofun, nofun, nofun, nofun, nil_subset _, nofun⟩

end Encoder

open Encoder in
/-- **Completion and failure take out their own jobs**, in every state of a run in which each event
is processed after the id is written: and the event of the next step takes out its job exactly if it
is, too. -/
theorem encodings_exact {ops : List EncodeOp} {s : Encoder}
    (run : Run EncodeOp.TimelyStep ops {} s) : s.Exact := by
  have hs : s.Sound ∧ ∀ p ∈ s.started, p.2 ∈ s.completed →
      p.1 ∉ s.ongoingJpegQ.items.map EncodeJob.job :=
    run.invariant (I := fun s : Encoder => s.Sound ∧ ∀ p ∈ s.started, p.2 ∈ s.completed →
      p.1 ∉ s.ongoingJpegQ.items.map EncodeJob.job)
      (fun _ _ _ h hs => ⟨hs.1.step h.2, hs.1.gone h hs.2⟩) ⟨sound_initial, nofun⟩
  exact ⟨fun _ _ _ hstarted h => hs.1.event hstarted h, fun _ _ hpc h => hs.1.failure hpc h, hs.2⟩

/-- Two encodings, of which the second fails. -/
theorem encodings_exact_two : ∃ s : Encoder, s.released = [1, 2] ∧ s.completed = [7] ∧ s.Exact := by
  let step (s : Encoder) (op : EncodeOp) : Option Encoder :=
    if op.Timely s then op.exec s else none
  obtain ⟨s, hs, hreleased, hcompleted⟩ : ∃ s : Encoder, execAll step {} [.enqueue 1, .startJob 7,
      .storeJobId, .enqueue 2, .jpegEvent 7, .encodeFails] = some s ∧ s.released = [1, 2] ∧
      s.completed = [7] := ⟨_, rfl, rfl, rfl⟩
  exact ⟨s, hreleased, hcompleted, encodings_exact ((Run.of_execAll hs).mono fun _ _ _ _ h =>
    Option.ite_none_right_eq_some.mp h)⟩

/-- **The encoder is faster than the data thread**: the event finds no job with its id, and the job
stays. -/
theorem encodings_lost : ∃ (ops : List EncodeOp) (s : Encoder),
    Run (fun op s t => op.exec s = some t) ops {} s ∧ (1, 7) ∈ s.started ∧ 7 ∈ s.completed ∧
      s.pc = .idle ∧ s.ongoingJpegQ.items = [⟨1, 7⟩] ∧ s.released = [] := by
  let step (s : Encoder) (op : EncodeOp) : Option Encoder := op.exec s
  obtain ⟨s, hs, hend⟩ : ∃ s : Encoder, execAll step {} [.enqueue 1, .startJob 7, .jpegEvent 7,
      .storeJobId] = some s ∧ (1, 7) ∈ s.started ∧ 7 ∈ s.completed ∧ s.pc = .idle ∧
      s.ongoingJpegQ.items = [⟨1, 7⟩] ∧ s.released = [] := ⟨_, rfl, by decide⟩
  exact ⟨_, s, Run.of_execAll hs, hend⟩

end Hal1Post
