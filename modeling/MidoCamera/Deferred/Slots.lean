import MidoCamera.Deferred.DeferredWork

/-!
# The table of deferred jobs

The ids that are given out go round the numbers of 32 bits, with 0 left out. A job that is accepted
and not finished has an entry, so that there are 25 such jobs at most, and their ids are different.
An entry is free again when its job reports that it succeeded; the entry of a job that reports a
failure is not free any more, so that after enough failures no job is accepted.
-/

namespace Deferred

open Loop List Hwi

namespace Hwi

def pending (s : Hwi) : List DefWork := s.pc.job.toList ++ s.cmdQueue

/-- `queueDeferredWork` would refuse a job, though there is memory. -/
def Refuses (s : Hwi) (cmd : DeferredWorkCmd) : Prop := (s.queueDeferredWork cmd true true).1 = 0

/-- The accepted jobs that are not finished have different ids, none of them 0; jobs are taken once
and in the order in which they were accepted; and while one waits, so does a command to take it. -/
structure Conserved (s : Hwi) : Prop where
  nonzero : ∀ dw ∈ s.pending, dw.id ≠ 0
  distinct : (s.pending.map DefWork.id).Nodup
  order : s.accepted = s.taken ++ s.cmdQueue
  finished : s.accepted = s.finished ++ s.pending
  commands : s.cmds = s.cmdQueue.length

end Hwi

def Op.Reports (op : Op) (s : Hwi) : Prop := op = .finish → s.jobStatus = noError

def Op.Quiet (op : Op) (s t : Hwi) : Prop := op.Reports s ∧ op.Step s t

/-- The id of the job that is accepted after `k` others. -/
def idAt (k : ℕ) : ℕ := 1 + k % (2 ^ 32 - 1)

theorem followingId_idAt (k : ℕ) : Hwi.followingId (idAt k) = idAt (k + 1) := by
  unfold followingId idAt
  split <;> omega

theorem idAt_injective {j k : ℕ} (h : idAt j = idAt k) (near : j < k + (2 ^ 32 - 1))
    (near' : k < j + (2 ^ 32 - 1)) : j = k := by
  unfold idAt at h
  omega

/-- The invariant of the table: an entry for each job that is accepted and not finished. -/
structure Table (s : Hwi) : Prop where
  length : s.ongoingJobs.length = maxOngoingJobs
  nextJobId : s.nextJobId = idAt s.accepted.length
  ids : s.accepted.map DefWork.id = (List.range s.accepted.length).map idAt
  order : s.accepted = s.taken ++ s.cmdQueue
  finished : s.accepted = s.finished ++ s.pending
  commands : s.cmds = s.cmdQueue.length
  held : ∀ id, id ≠ 0 →
    (s.pending.map DefWork.id).count id ≤ (s.ongoingJobs.map DefOngoingJob.jobId).count id

/-- No failure was reported: the entries that are not free are those of the jobs, and the status
variable tells of none. -/
structure Occupied (s : Hwi) : Prop where
  held : ∀ id, id ≠ 0 →
    (s.ongoingJobs.map DefOngoingJob.jobId).count id = (s.pending.map DefWork.id).count id

variable {s t : Hwi} {op : Op}

theorem Hwi.start_table : Table ({} : Hwi) := by
  constructor <;> simp [maxOngoingJobs, idAt, pending, Pc.job]

theorem Hwi.start_occupied : Occupied ({} : Hwi) := by
  refine ⟨fun id hid => ?_⟩
  have hnot : id ∉ (replicate maxOngoingJobs (⟨0, 0⟩ : DefOngoingJob)).map DefOngoingJob.jobId := by
    simp [hid]
  simpa [pending, Pc.job] using count_eq_zero.mpr hnot

theorem isOf_of_find? {l : List DefOngoingJob} {id : ℕ} {job : DefOngoingJob}
    (h : l.find? (isOf id) = some job) : job.jobId = id := by
  simpa [isOf] using find?_some h

theorem count_jobId {l : List DefOngoingJob} {id : ℕ} {job : DefOngoingJob}
    (h : l.find? (isOf id) = some job) (f : DefOngoingJob → DefOngoingJob) (k : ℕ) :
    ((changeFirst (isOf id) f l).map DefOngoingJob.jobId).count k + [id].count k =
      (l.map DefOngoingJob.jobId).count k + [(f job).jobId].count k := by
  rw [← count_changeFirst DefOngoingJob.jobId k h, isOf_of_find? h]

namespace Table

theorem finish (hs : Table s) {dw : DefWork} (hpc : s.pc = .worked dw) :
    Table (s.dequeueDeferredWork dw s.jobStatus) where
  length := by simpa [dequeueDeferredWork] using hs.length
  nextJobId := hs.nextJobId
  ids := hs.ids
  order := hs.order
  finished := by
    have hfinished := hs.finished
    rw [pending, hpc] at hfinished
    simpa [dequeueDeferredWork, pending, Pc.job] using hfinished
  commands := hs.commands
  held id hid := by
    have hheld := hs.held id hid
    simp only [pending, hpc, Pc.job, Option.toList_some, map_append, map_cons,
      map_nil, count_append] at hheld
    simp only [dequeueDeferredWork, pending, Pc.job, Option.toList_none, nil_append]
    rcases hfind : s.ongoingJobs.find? (isOf dw.id) with _ | job
    · rw [changeFirst_of_none hfind]
      omega
    · have hcount := count_jobId hfind (reported s.jobStatus) id
      omega

theorem step (hs : Table s) (h : op.exec s = some t) : Table t := by
  cases Op.outcome h with
  | refused => exact hs
  | store => exact ⟨hs.length, hs.nextJobId, hs.ids, hs.order, hs.finished, hs.commands, hs.held⟩
  | @accepted cmd _ _ job hfree =>
    refine ⟨by simpa using hs.length, ?_, ?_, ?_, ?_, ?_, fun id hid => ?_⟩
    · simp only [hs.nextJobId, followingId_idAt, length_append, length_singleton]
    · simp only [map_append, hs.ids, length_append, length_singleton, range_succ,
        map_singleton, hs.nextJobId]
    · simp only [hs.order, append_assoc]
    · have hfinished := hs.finished
      rw [pending] at hfinished
      simp only [hfinished, pending, append_assoc]
    · simp only [hs.commands, length_append, length_singleton]
    · -- the entry was free
      have hcount := count_jobId hfree (fun _ => ⟨s.nextJobId, 0⟩) id
      dsimp only at hcount
      have hzero : [0].count id = 0 := by simp [Ne.symm hid]
      have hheld := hs.held id hid
      simp only [pending, map_append, count_append, map_singleton] at hheld ⊢
      omega
  | takeNone _ hcmds hqueue =>
    have hcommands := hs.commands
    simp [hcmds, hqueue] at hcommands
  | take hpc hcmds hqueue =>
    have hcommands := hs.commands
    have hfinished := hs.finished
    have hheld := hs.held
    simp only [pending, hpc, Pc.job, Option.toList_none, nil_append, hqueue] at hfinished hheld
    refine ⟨hs.length, hs.nextJobId, hs.ids, ?_, hfinished, ?_, hheld⟩
    · simp only [hs.order, hqueue, append_assoc, singleton_append]
    · rw [hcmds, hqueue, length_cons] at hcommands
      exact Nat.succ.inj hcommands
  | work hpc =>
    have hfinished := hs.finished
    have hheld := hs.held
    rw [pending, hpc] at hfinished hheld
    exact ⟨hs.length, hs.nextJobId, hs.ids, hs.order, hfinished, hs.commands, hheld⟩
  | finish hpc => exact hs.finish hpc

theorem nonzero (hs : Table s) : ∀ dw ∈ s.pending, dw.id ≠ 0 := fun dw hdw => by
  have hmem : dw.id ∈ s.accepted.map DefWork.id := by
    rw [hs.finished]
    exact mem_map_of_mem (mem_append_right _ hdw)
  rw [hs.ids] at hmem
  obtain ⟨k, -, hk⟩ := mem_map.mp hmem
  unfold idAt at hk
  omega

theorem length_pending (hs : Table s) : s.pending.length ≤ maxOngoingJobs := by
  have hsub : (s.pending.map DefWork.id).Subperm (s.ongoingJobs.map DefOngoingJob.jobId) :=
    subperm_ext_iff.mpr fun id hid => by
      obtain ⟨dw, hdw, rfl⟩ := mem_map.mp hid
      exact hs.held dw.id (hs.nonzero dw hdw)
  have hlength := hsub.length_le
  rwa [length_map, length_map, hs.length] at hlength

theorem distinct (hs : Table s) : (s.pending.map DefWork.id).Nodup := by
  have hlength := hs.length_pending
  have hall : s.accepted.length = s.finished.length + s.pending.length := by
    rw [hs.finished, length_append]
  have hids : s.pending.map DefWork.id =
      ((range s.accepted.length).drop s.finished.length).map idAt := by
    rw [map_drop, ← hs.ids, ← map_drop]
    conv_rhs => rw [hs.finished, drop_left]
  rw [hids]
  refine (nodup_range.sublist (drop_sublist _ _)).map_on fun j hj k hk hjk => ?_
  have hnear : ∀ i ∈ (range s.accepted.length).drop s.finished.length,
      s.finished.length ≤ i ∧ i < s.accepted.length := fun i hi => by
    rw [range_eq_range', drop_range'] at hi
    rw [mem_range'_1] at hi
    omega
  have hj := hnear j hj
  have hk := hnear k hk
  unfold maxOngoingJobs at hlength
  exact idAt_injective hjk (by omega) (by omega)

theorem conserved (hs : Table s) : s.Conserved :=
  ⟨hs.nonzero, hs.distinct, hs.order, hs.finished, hs.commands⟩

end Table

namespace Occupied

/-- **A step that reports no failure leaves no entry behind.** -/
theorem step (ho : Occupied s) (hs : Table s) (hop : op.Reports s) (h : op.exec s = some t) :
    Occupied t := by
  refine ⟨fun id hid => ?_⟩
  have hheld := ho.held id hid
  cases Op.outcome h with
  | refused | store | takeNone => exact hheld
  | accepted hfree =>
    have hcount := count_jobId hfree (fun _ => ⟨s.nextJobId, 0⟩) id
    dsimp only at hcount
    have hzero : [0].count id = 0 := by simp [Ne.symm hid]
    simp only [pending, map_append, count_append, map_singleton] at hheld ⊢
    omega
  | take hpc _ hqueue =>
    simpa only [pending, hpc, Pc.job, Option.toList_none, Option.toList_some, nil_append,
      singleton_append, hqueue] using hheld
  | work hpc =>
    rw [pending, hpc] at hheld
    exact hheld
  | @finish dw hpc =>
    -- the job's entry is found, and is free again
    have hstatus : s.jobStatus = noError := hop rfl
    have hmem : dw ∈ s.pending := by simp [pending, hpc, Pc.job]
    have hfind : (s.ongoingJobs.find? (isOf dw.id)).isSome := by
      have hpos := count_pos_iff.mpr (mem_map_of_mem (f := DefWork.id) hmem)
      rw [← ho.held dw.id (hs.nonzero dw hmem), count_pos_iff] at hpos
      obtain ⟨job, hjob, hid⟩ := mem_map.mp hpos
      exact find?_isSome.mpr ⟨job, hjob, by simp [isOf, hid]⟩
    obtain ⟨job, hjob⟩ := Option.isSome_iff_exists.mp hfind
    have hcount := count_jobId hjob (reported s.jobStatus) id
    have hreported : (reported s.jobStatus job).jobId = 0 := by simp [reported, hstatus]
    have hzero : [0].count id = 0 := by simp [Ne.symm hid]
    rw [hreported] at hcount
    simp only [pending, hpc, Pc.job, Option.toList_some, map_append, map_cons,
      map_nil, count_append] at hheld
    simp only [dequeueDeferredWork, pending, Pc.job, Option.toList_none, nil_append]
    omega

theorem full (ho : Occupied s) (hs : Table s) {cmd : DeferredWorkCmd} (h : s.Refuses cmd) :
    s.pending.length = maxOngoingJobs := by
  have hnone : s.ongoingJobs.find? (isOf 0) = none := by
    rcases s.queue_cases cmd true true with ⟨-, hnone⟩ | ⟨job, -, heq⟩
    · simpa using hnone
    · rw [Hwi.Refuses, heq, hs.nextJobId, idAt] at h
      omega
  have hperm : (s.ongoingJobs.map DefOngoingJob.jobId).Perm (s.pending.map DefWork.id) := by
    refine perm_iff_count.mpr fun id => ?_
    rcases eq_or_ne id 0 with rfl | hid
    · rw [count_eq_zero.mpr fun h => ?_, count_eq_zero.mpr fun h => ?_]
      · obtain ⟨dw, hdw, hzero⟩ := mem_map.mp h
        exact hs.nonzero dw hdw hzero
      · obtain ⟨job, hjob, hzero⟩ := mem_map.mp h
        have := find?_eq_none.mp hnone job hjob
        simp [isOf, hzero] at this
    · exact ho.held id hid
  have hlength := hperm.length_eq
  rw [length_map, length_map, hs.length] at hlength
  exact hlength.symm

end Occupied

/-- **Deferred jobs are conserved.** After every run the jobs that are accepted and not finished
have different ids, none of them 0, and every job is taken once and in order; and if no failure was
reported in the run, a job is refused only while 25 others are not finished. -/
theorem slots_conserved {ops : List Op} {s : Hwi} (h : Run Op.Step ops {} s) : s.Conserved ∧
    (Run Op.Quiet ops {} s → ∀ cmd, s.Refuses cmd → s.pending.length = maxOngoingJobs) := by
  have hs : Table s :=
    h.invariant (fun (op : Op) (s t : Hwi) hstep hs => Table.step hs hstep) start_table
  refine ⟨hs.conserved, fun hrun cmd hrefuses => ?_⟩
  have hboth : Table s ∧ Occupied s := by
    refine hrun.invariant (I := fun s => Table s ∧ Occupied s) (fun op s t hstep hs => ?_)
      ⟨start_table, start_occupied⟩
    exact ⟨hs.1.step hstep.2, hs.2.step hs.1 hstep.1 hstep.2⟩
  exact hboth.2.full hs hrefuses

/-- A job is accepted, taken, done and finished, and nothing is refused. -/
theorem slots_conserved_one : ∃ ops s, Run Op.Step ops {} s ∧ s.finished.length = 1 ∧ s.Conserved ∧
    ∀ cmd, s.Refuses cmd → s.pending.length = maxOngoingJobs := by
  have hone : ∃ s, Run Op.Quiet
      [.queue .generic true true, .take, .work {}, .finish] {} s ∧ s.finished.length = 1 :=
    ⟨_, .cons ⟨nofun, rfl⟩ (.cons ⟨nofun, rfl⟩ (.cons ⟨nofun, rfl⟩ (.one ⟨fun _ => rfl, rfl⟩))), rfl⟩
  obtain ⟨s, hrun, hfinished⟩ := hone
  have hsteps : Run Op.Step _ {} s := hrun.mono fun _ _ _ _ h => h.2
  exact ⟨_, s, hsteps, hfinished, (slots_conserved hsteps).1, (slots_conserved hsteps).2 hrun⟩

def failingJob : List Op :=
  [.queue .generic true true, .take, .work { bgFunction := badValue }, .finish]

/-- After 25 jobs that failed, every job is refused, though none is pending. -/
theorem slots_lost : ∃ ops s, Run Op.Step ops {} s ∧ s.pending = [] ∧ ∀ cmd, s.Refuses cmd := by
  obtain ⟨s, hexec, hpending, hfull⟩ : ∃ s, execAll Op.exec {} (replicate 25 failingJob).flatten =
      some s ∧ s.pending = [] ∧ s.ongoingJobs.find? (isOf 0) = none := ⟨_, rfl, rfl, rfl⟩
  refine ⟨_, s, Run.of_execAll hexec, hpending, fun cmd => ?_⟩
  rcases s.queue_cases cmd true true with ⟨h, -⟩ | ⟨job, hjob, -⟩
  · rw [Hwi.Refuses, h]
  · rw [hfull] at hjob
    cases hjob

end Deferred
