import MidoCamera.Deferred.Slots

/-!
# The status of a deferred job

The status variable belongs to the thread and not to a job: it is set where a step of a job's work
fails, and by a generic task, but is not cleared before the next job. So a job that succeeds tells
of the failure of another one; and the failure to allocate metadata buffers is not told at all.

Where that does not happen, who waits for a job is told whether it succeeded: its entry is there
until it is finished, and stays with its status if it failed.
-/

namespace Deferred

open Loop Function List Hwi

/-- Who waits for a job that is not finished waits on, and is told of one that is finished whether
it succeeded. -/
structure Hwi.Reported (s : Hwi) : Prop where
  waits : ∀ id, s.outcome id = some none → s.waitDeferredWork id = none
  told : ∀ id ok, s.outcome id = some (some ok) →
    ∃ status, s.waitDeferredWork id = some status ∧ (status = noError ↔ ok = true)

/-- No failure is left over for a job that succeeds, unless it is a generic task; and if the
allocation of metadata buffers fails, one is. -/
def Hwi.Tells (s : Hwi) (cmd : DeferredWorkCmd) (c : Callees) : Prop :=
  (cmd ≠ .generic → s.succeeds cmd c = true → s.jobStatus = noError) ∧
    (s.allocateFails cmd c = true → s.jobStatus ≠ noError)

/-- The status variable will be that of the job whose work is done, and an id is given out that no
entry of a failed job has. -/
def Op.Clean (s : Hwi) : Op → Prop
  | .queue _ _ _ => ∀ job ∈ s.ongoingJobs, job.jobId ≠ s.nextJobId
  | .work c => ∀ dw, s.pc = .working dw → s.Tells dw.cmd c
  | _ => True

def Op.CleanStep (op : Op) (s t : Hwi) : Prop := op.Clean s ∧ op.Step s t

namespace Hwi

variable {s : Hwi} {cmd : DeferredWorkCmd} {c : Callees}

theorem allocateStreams_eq (jobStatus : ℤ) (streams : List (Option Stream)) :
    allocateStreams jobStatus streams =
      match streams.find? fun stream => stream.all Stream.isTypeOf with
      | none => jobStatus
      | some none => badValue
      | some (some stream) => if stream.allocateBuffers ≠ 0 then noMemory else jobStatus := by
  induction streams with
  | nil => rfl
  | cons stream streams ih =>
    rcases stream with _ | stream
    · rfl
    · rcases htype : stream.isTypeOf with _ | _
      · rw [allocateStreams, if_neg (by simp [htype]), ih, find?_cons_of_neg (by simp [htype])]
      · rw [allocateStreams, if_pos htype, find?_cons_of_pos (by simpa using htype)]

theorem work_of_succeeds (h : s.succeeds cmd c = true) (hcmd : cmd ≠ .generic) :
    s.work cmd c = s.jobStatus := by
  rcases cmd with _ | _ | _ | _ | _ | _ | _ | _ | _ <;> simp only [succeeds, work] at h ⊢
  case allocateBuff =>
    rcases hchannel : c.channel with _ | streams
    · simp [hchannel] at h
    · simp only [hchannel, Option.any_some] at h
      simp only [allocateStreams_eq]
      rcases hfind : streams.find? fun stream => stream.all Stream.isTypeOf with _ | _ | stream <;>
        simp only [hfind] at h ⊢ <;> simp_all
  case metadataAlloc =>
    rcases hmem : c.metadataMem with _ | rc <;> simp_all
  case generic => exact absurd rfl hcmd
  all_goals simp_all
  all_goals grind

theorem work_of_fails (h : s.succeeds cmd c = false) (hmem : s.allocateFails cmd c = false) :
    s.work cmd c ≠ noError := by
  rcases cmd with _ | _ | _ | _ | _ | _ | _ | _ | _ <;>
    simp only [succeeds, allocateFails, work] at h hmem ⊢
  case allocateBuff =>
    rcases hchannel : c.channel with _ | streams
    · simp [badValue]
    · simp only [hchannel, Option.any_some] at h
      simp only [allocateStreams_eq]
      rcases hfind : streams.find? fun stream => stream.all Stream.isTypeOf with _ | _ | stream <;>
        simp only [hfind] at h ⊢ <;> simp_all [badValue, noMemory]
  case metadataAlloc =>
    rcases hrc : c.metadataMem with _ | rc <;> simp_all [badValue]
    all_goals grind
  all_goals simp_all [badValue, unknownError, noMemory]
  all_goals grind

theorem work_of_allocateFails (h : s.allocateFails cmd c = true) :
    s.succeeds cmd c = false ∧ s.work cmd c = s.jobStatus := by
  simp only [allocateFails, Bool.and_eq_true, decide_eq_true_eq] at h
  obtain ⟨⟨rfl, hdep⟩, hmem⟩ := h
  rcases hrc : c.metadataMem with _ | rc
  · simp [hrc] at hmem
  · simpa [succeeds, work, hdep, hrc] using hmem

/-- **A job's work leaves its own status exactly under this condition.** -/
theorem work_tells_iff :
    (s.work cmd c = noError ↔ s.succeeds cmd c = true) ↔ s.Tells cmd c := by
  rcases hsucc : s.succeeds cmd c with _ | _
  · rcases hmem : s.allocateFails cmd c with _ | _
    · simp [Tells, hsucc, hmem, work_of_fails hsucc hmem]
    · simp [Tells, hsucc, hmem, (work_of_allocateFails hmem).2]
  · have hmem : s.allocateFails cmd c = false := by
      by_contra hmem
      have hfails := (work_of_allocateFails (Bool.eq_true_of_not_eq_false hmem)).1
      simp [hsucc] at hfails
    rcases eq_or_ne cmd .generic with rfl | hcmd
    · simpa [Tells, hmem, succeeds, work] using hsucc
    · simp [Tells, hsucc, hmem, hcmd, work_of_succeeds hsucc hcmd]

end Hwi

/-- The invariant: an entry is of a job that is not finished, or of one that failed, with its
status. -/
structure Tracked (s : Hwi) : Prop where
  table : Table s
  single : ∀ id, id ≠ 0 → (s.ongoingJobs.map DefOngoingJob.jobId).count id ≤ 1
  waiting : ∀ id, s.outcome id = some none ↔ id ∈ s.pending.map DefWork.id
  zero : s.outcome 0 = none
  entry : ∀ job ∈ s.ongoingJobs, job.jobId ≠ 0 →
    (s.outcome job.jobId = some none ∧ job.jobStatus = noError) ∨
      (s.outcome job.jobId = some (some false) ∧ job.jobStatus ≠ noError)
  failed : ∀ id, s.outcome id = some (some false) → ∃ job ∈ s.ongoingJobs, job.jobId = id
  worked : ∀ dw, s.pc = .worked dw → (s.jobStatus = noError ↔ s.succeeded = true)

variable {s t : Hwi} {op : Op}

theorem Hwi.start_tracked : Tracked ({} : Hwi) where
  table := start_table
  single id hid := by
    have hheld := start_occupied.held id hid
    simp only [pending, Pc.job] at hheld
    exact hheld.le.trans (by simp)
  waiting id := by simp [pending, Pc.job]
  zero := rfl
  entry job hjob hid := by
    rw [eq_of_mem_replicate hjob] at hid
    exact absurd rfl hid
  failed id h := by cases h
  worked dw h := by cases h

namespace Tracked

theorem find (hs : Tracked s) {id : ℕ} (h : s.outcome id = some none ∨ s.outcome id = some (some false)) :
    ∃ job, s.ongoingJobs.find? (isOf id) = some job ∧ job ∈ s.ongoingJobs ∧ job.jobId = id := by
  have hmem : ∃ job ∈ s.ongoingJobs, job.jobId = id := by
    rcases h with h | h
    · obtain ⟨dw, hdw, rfl⟩ := mem_map.mp ((hs.waiting id).mp h)
      have hpos := count_pos_iff.mpr (mem_map_of_mem (f := DefWork.id) hdw)
      have hheld := hs.table.held dw.id (hs.table.nonzero dw hdw)
      have hmem := count_pos_iff.mp (hpos.trans_le hheld)
      exact mem_map.mp hmem
    · exact hs.failed id h
  obtain ⟨job, hjob, hid⟩ := hmem
  obtain ⟨found, hfound⟩ := Option.isSome_iff_exists.mp
    (find?_isSome.mpr ⟨job, hjob, show isOf id job = true by simp [isOf, hid]⟩)
  exact ⟨found, hfound, mem_of_find?_eq_some hfound, isOf_of_find? hfound⟩

theorem reported (hs : Tracked s) : s.Reported := by
  have hzero : ∀ id, (s.outcome id).isSome → id ≠ 0 := fun id h hid => by
    rw [hid, hs.zero] at h
    cases h
  refine ⟨fun id h => ?_, fun id ok h => ?_⟩
  · obtain ⟨job, hfind, hmem, rfl⟩ := hs.find (.inl h)
    have hid := hzero job.jobId (by rw [h]; rfl)
    have hstatus : job.jobStatus = noError := by
      rcases hs.entry job hmem hid with ⟨-, hstatus⟩ | ⟨hfailed, -⟩
      · exact hstatus
      · rw [h] at hfailed
        cases hfailed
    simp [waitDeferredWork, hid, checkDeferredWork, hfind, hstatus]
  · have hid := hzero id (by rw [h]; rfl)
    rcases ok with _ | _
    · obtain ⟨job, hfind, hmem, rfl⟩ := hs.find (.inr h)
      have hstatus : job.jobStatus ≠ noError := by
        rcases hs.entry job hmem hid with ⟨hwaits, -⟩ | ⟨-, hstatus⟩
        · rw [h] at hwaits
          cases hwaits
        · exact hstatus
      refine ⟨job.jobStatus, ?_, by simpa using hstatus⟩
      simp [waitDeferredWork, hid, checkDeferredWork, getDefJobStatus, hfind, Ne.symm hstatus]
    · -- the entry of a job that succeeded is free again
      have hnone : s.ongoingJobs.find? (isOf id) = none := by
        rcases hfind : s.ongoingJobs.find? (isOf id) with _ | job
        · rfl
        · obtain rfl := isOf_of_find? hfind
          rcases hs.entry job (mem_of_find?_eq_some hfind) hid with ⟨hentry, -⟩ | ⟨hentry, -⟩ <;>
            rw [h] at hentry <;> cases hentry
      exact ⟨noError, by simp [waitDeferredWork, hid, checkDeferredWork,
        getDefJobStatus, hnone], by simp⟩

theorem accept (hs : Tracked s) {cmd : DeferredWorkCmd} {job : DefOngoingJob} (ht : Table t)
    (free : s.ongoingJobs.find? (isOf 0) = some job)
    (fresh : ∀ job ∈ s.ongoingJobs, job.jobId ≠ s.nextJobId)
    (jobs : t.ongoingJobs = changeFirst (isOf 0) (fun _ => ⟨s.nextJobId, 0⟩) s.ongoingJobs)
    (queue : t.pending = s.pending ++ [⟨cmd, s.nextJobId⟩])
    (outcome : t.outcome = update s.outcome s.nextJobId (some none)) (pc : t.pc = s.pc)
    (status : t.jobStatus = s.jobStatus) (succeeded : t.succeeded = s.succeeded) : Tracked t where
  table := ht
  single id hid := by
    have hcount := count_jobId free (fun _ => ⟨s.nextJobId, 0⟩) id
    dsimp only at hcount
    have hzero : [0].count id = 0 := by simp [Ne.symm hid]
    rw [jobs]
    rcases eq_or_ne id s.nextJobId with rfl | hne
    · have hnone : (s.ongoingJobs.map DefOngoingJob.jobId).count s.nextJobId = 0 :=
        count_eq_zero.mpr fun h => by
          obtain ⟨job, hjob, hid⟩ := mem_map.mp h
          exact fresh job hjob hid
      rw [count_singleton_self] at hcount
      omega
    · have hother : [s.nextJobId].count id = 0 := by simp [hne.symm]
      have hsingle := hs.single id hid
      omega
  waiting id := by
    rw [outcome, queue, map_append, mem_append, ← hs.waiting id, update_apply]
    split
    · next hid => simp [hid]
    · next hid => simp [hid]
  zero := by
    have hne : (0 : ℕ) ≠ s.nextJobId := by
      rw [hs.table.nextJobId]
      unfold idAt
      omega
    rw [outcome, update_of_ne hne, hs.zero]
  entry job' hjob' hid := by
    rw [jobs] at hjob'
    rw [outcome]
    rcases mem_changeFirst free hjob' with hold | rfl
    · rw [update_of_ne (fresh job' hold)]
      exact hs.entry job' hold hid
    · exact .inl ⟨update_self .., rfl⟩
  failed id h := by
    rw [outcome, update_apply] at h
    split at h
    · cases h
    · obtain ⟨job', hjob', rfl⟩ := hs.failed id h
      have hid : job'.jobId ≠ 0 := fun hid => by
        rw [hid, hs.zero] at h
        cases h
      refine ⟨job', ?_, rfl⟩
      rw [jobs]
      exact mem_changeFirst_of_not hjob' (by simp [isOf, hid])
  worked dw h := by
    rw [status, succeeded]
    exact hs.worked dw (pc ▸ h)

theorem finish (hs : Tracked s) {dw : DefWork} (hpc : s.pc = .worked dw) :
    Tracked (s.dequeueDeferredWork dw s.jobStatus) := by
  have hmem : dw ∈ s.pending := by simp [pending, hpc, Pc.job]
  have hnonzero := hs.table.nonzero dw hmem
  have hwaits := (hs.waiting dw.id).mpr (mem_map_of_mem hmem)
  obtain ⟨job, hfind, hjob, hid⟩ := hs.find (.inl hwaits)
  have hsingle := hs.single dw.id hnonzero
  rw [← hid] at hsingle
  have hworked := hs.worked dw hpc
  have hkept : s.jobStatus ≠ noError → (Hwi.reported s.jobStatus job).jobId = dw.id ∧
        (Hwi.reported s.jobStatus job).jobStatus = s.jobStatus := fun h => by
    simp [Hwi.reported, h, hid]
  have hfreed : s.jobStatus = noError → (Hwi.reported s.jobStatus job).jobId = 0 := fun h => by
    simp [Hwi.reported, h]
  refine ⟨hs.table.finish hpc, fun id hid' => ?_, fun id => ?_, ?_, fun job' hjob' hid' => ?_,
    fun id h => ?_, fun _ h => by cases h⟩
  · have hcount := count_jobId hfind (Hwi.reported s.jobStatus) id
    have hsingle' := hs.single id hid'
    have hzero : [0].count id = 0 := by simp [Ne.symm hid']
    rcases eq_or_ne s.jobStatus noError with hstatus | hstatus
    · rw [hfreed hstatus] at hcount
      simp only [dequeueDeferredWork]
      omega
    · rw [(hkept hstatus).1] at hcount
      simp only [dequeueDeferredWork]
      omega
  · -- its id is no other pending job's
    have hdistinct := hs.table.distinct
    have hwaiting := hs.waiting id
    simp only [pending, hpc, Pc.job, Option.toList_some, singleton_append, map_cons,
      nodup_cons, mem_cons] at hdistinct hwaiting
    simp only [dequeueDeferredWork, pending, Pc.job, Option.toList_none, nil_append, update_apply]
    split
    · next heq =>
      subst heq
      simpa using hdistinct.1
    · next hne => simpa [hne] using hwaiting
  · simp only [dequeueDeferredWork, update_of_ne (Ne.symm hnonzero), hs.zero]
  · simp only [dequeueDeferredWork]
    rcases mem_changeFirst_of_single DefOngoingJob.jobId hfind hsingle hjob' with rfl | ⟨hold, hne⟩
    · have hstatus : s.jobStatus ≠ noError := fun h => hid' (hfreed h)
      have hfailed : s.succeeded = false := by
        rw [Ne, hworked, Bool.not_eq_true] at hstatus
        exact hstatus
      right
      rw [(hkept hstatus).1, (hkept hstatus).2, update_self, hfailed]
      exact ⟨rfl, hstatus⟩
    · rw [update_of_ne (hid ▸ hne)]
      exact hs.entry job' hold hid'
  · simp only [dequeueDeferredWork, update_apply] at h ⊢
    split at h
    · next heq =>
      have hstatus : s.jobStatus ≠ noError := fun hstatus => by
        rw [hworked.mp hstatus] at h
        cases h
      exact ⟨_, mem_changeFirst_self hfind, (hkept hstatus).1.trans heq.symm⟩
    · next hne =>
      obtain ⟨job', hjob', rfl⟩ := hs.failed id h
      exact ⟨job', mem_changeFirst_of_not hjob' (by simp [isOf, hne]), rfl⟩

theorem step (hs : Tracked s) (hop : op.Clean s) (h : op.exec s = some t) : Tracked t := by
  have ht : Table t := hs.table.step h
  cases Op.outcome h with
  | refused => exact hs
  | store | takeNone hpc hcmds hqueue =>
    exact ⟨ht, hs.single, hs.waiting, hs.zero, hs.entry, hs.failed, hs.worked⟩
  | accepted hfree =>
    exact hs.accept ht hfree hop rfl (append_assoc _ _ _).symm rfl rfl rfl rfl
  | take hpc hcmds hqueue =>
    refine ⟨ht, hs.single, fun id => ?_, hs.zero, hs.entry, hs.failed, fun _ h => by cases h⟩
    have hwaiting := hs.waiting id
    simpa [pending, hpc, Pc.job, hqueue] using hwaiting
  | @work c dw hpc =>
    refine ⟨ht, hs.single, fun id => ?_, hs.zero, hs.entry, hs.failed, fun dw' h => ?_⟩
    · have hwaiting := hs.waiting id
      rw [pending, hpc] at hwaiting
      exact hwaiting
    · exact work_tells_iff.mpr (hop dw hpc)
  | finish hpc => exact hs.finish hpc

end Tracked

/-- **A deferred job's status is its own**, in every run whose steps are clean: who waits for a job
is told whether that job succeeded. And the work of the next job leaves that job's status exactly if
it is done in a clean step. -/
theorem status_own {ops : List Op} {s : Hwi} (h : Run Op.CleanStep ops {} s) : s.Reported ∧
    ∀ dw c, s.pc = .working dw →
      ((s.work dw.cmd c = noError ↔ s.succeeds dw.cmd c = true) ↔ Op.Clean s (.work c)) := by
  have hs : Tracked s := h.invariant (fun (op : Op) (s t : Hwi) hstep hs =>
    Tracked.step hs hstep.1 hstep.2) start_tracked
  refine ⟨hs.reported, fun dw c hpc => work_tells_iff.trans ⟨fun h dw' hpc' => ?_, fun h => h dw hpc⟩⟩
  rw [hpc] at hpc'
  cases hpc'
  exact h

/-- A generic task fails, and who waits for it is told. -/
theorem status_own_one : ∃ ops s, Run Op.CleanStep ops {} s ∧ s.outcome 1 = some (some false) ∧
    s.Reported ∧ ∀ dw c, s.pc = .working dw →
      ((s.work dw.cmd c = noError ↔ s.succeeds dw.cmd c = true) ↔ Op.Clean s (.work c)) := by
  obtain ⟨s, hrun, houtcome⟩ : ∃ s, Run Op.CleanStep failingJob {} s ∧
      s.outcome 1 = some (some false) := by
    refine ⟨_, .cons ⟨fun job hjob => ?_, rfl⟩ (.cons ⟨trivial, rfl⟩ (.cons ⟨fun dw hdw => ?_, rfl⟩
      (.one ⟨trivial, rfl⟩))), rfl⟩
    · rw [eq_of_mem_replicate hjob]
      exact Nat.zero_ne_one
    · cases hdw
      exact ⟨fun h => absurd rfl h, fun h => by cases h⟩
  exact ⟨_, s, hrun, houtcome, status_own hrun⟩

/-- A generic task fails, and so the allocation of the parameters after it is reported as a failure,
though it succeeds. And metadata buffers cannot be allocated, but who waits for that is told that
they were. -/
theorem status_wrong :
    (∃ ops s, Run Op.Step ops {} s ∧ s.outcome 2 = some (some true) ∧
      s.waitDeferredWork 2 = some badValue) ∧
    ∃ ops s, Run Op.Step ops {} s ∧ s.outcome 1 = some (some false) ∧
      s.waitDeferredWork 1 = some noError :=
  ⟨⟨failingJob ++ [.queue .paramAlloc true true, .take, .work {}, .finish], _,
    Run.of_execAll rfl, rfl, rfl⟩,
  ⟨[.queue .metadataAlloc true true, .take, .work { metadataMem := some noMemory }, .finish], _,
    Run.of_execAll rfl, rfl, rfl⟩⟩

end Deferred
