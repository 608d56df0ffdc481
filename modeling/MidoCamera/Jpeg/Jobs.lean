import MidoCamera.Jpeg.Numbers

/-!
# What becomes of a JPEG job

A job that is accepted is to be done, or ongoing, or its client was called back once, or it was
taken back by an abort or with its session.

The code loses count of a job in several ways. `mm_jpeg_start_job` may return the code of
`mm_jpeg_alloc_workbuffer` for a job that it does not queue; the job manager drops a job that finds
no output buffer or cannot be queued; and `jpeg_cb` is called without a look at `ongoing_job_q`, so
the client is called again for a job that was ended by an error or aborted.
-/

namespace MmJpeg

open Loop List

namespace JpegObj

/-! ## The count of a job -/

/-- How often a job is among those to do, the ongoing ones, the callbacks, and those taken back. -/
def places (s : JpegObj) (k : ℕ) : ℕ :=
  tally (fun j => [j.number]) k s.todo + tally (fun j => [j.number]) k s.ongoing +
    (s.calls.map Prod.fst).count k + s.removed.count k

/-- **Every accepted job is in one place, once**, and no other job is anywhere. -/
def Conserved (s : JpegObj) : Prop :=
  ∀ k, s.places k = if 1 ≤ k ∧ k ≤ s.accepted then 1 else 0

/-- The job that is done with a session is the one its client is called for: its own one, or none
if there is no `jpeg_cb`. -/
def Ends (s : JpegObj) (r : SessionPtr) : Prop :=
  (s.running r).map JobNode.number =
    if (s.session r).params.jpegCb then some (s.session r).job else none

end JpegObj

/-- **The condition on a step.** A job that `mm_jpeg_start_job` does not queue is not answered by
the code of the work buffers; a job that the manager takes can be queued again if no session is
idle, and otherwise finds an output buffer if it needs one, and can be queued as ongoing; and when
OMX or the manager ends a job of a session, it is the session's own job that is still ongoing under
its id. -/
def JpegOp.OnTime (s : JpegObj) : JpegOp → Prop
  | .startJob job mem =>
    (sessionAt job.sessionId).InTable → (s.jobWorkbuffer job mem.work).2.1 = 0 → s.Startable job
  | .pick mem => ∀ j ∈ s.todo.head?, match s.idleOf j with
    | none => mem.head = true
    | some r => mem.ongoing = true ∧ (j.encodeJob.dstIndex < 0 → s.nextOut r ≠ 0)
  | op => ∀ r mem, op.Ending s r mem → s.Ends r

namespace JpegObj

variable {s t u : JpegObj} {r : SessionPtr} {p : JobSession} {mem : Mem} {j : JobNode} {k : ℕ}

theorem Conserved.accepted (h : s.Conserved) (pos : 0 < s.places k) :
    1 ≤ k ∧ k ≤ s.accepted ∧ s.places k = 1 := by
  have hk := h k
  split_ifs at hk with hrange
  · exact ⟨hrange.1, hrange.2, hk⟩
  · omega

theorem Frame.places (h : Frame s t) (k : ℕ) : t.places k = s.places k := by
  rw [JpegObj.places, h.todo, h.ongoing, h.calls, h.removed]
  rfl

theorem Conserved.frame (hs : s.Conserved) (h : Frame s t) : t.Conserved := by
  intro k
  rw [h.places, h.accepted]
  exact hs k

theorem Conserved.of_places (hs : s.Conserved) (accepted : t.accepted = s.accepted)
    (places : ∀ k, t.places k = s.places k) : t.Conserved := by
  intro k
  rw [places, accepted]
  exact hs k

/-- The jobs are conserved by a step if and only if it meets a condition. -/
def Tells (c : Prop) (t : JpegObj) : Prop := t.Conserved ↔ c

theorem Tells.of_conserved {c : Prop} (h : c) (ht : t.Conserved) : Tells c t := iff_of_true ht h

theorem Tells.of_late {c : Prop} (h : ¬c) (ht : ¬t.Conserved) : Tells c t := iff_of_false ht h

/-! ## Jobs that are done -/

/-- **A job is done**, and its client called or not: what that does to the places of the jobs. -/
structure Done (s t : JpegObj) (r : SessionPtr) : Prop where
  accepted : t.accepted = s.accepted
  places : ∀ k, t.places k + ((s.running r).map JobNode.number).toList.count k =
    s.places k + (if (s.session r).params.jpegCb then [(s.session r).job] else []).count k

theorem tally_running (s : JpegObj) (r : SessionPtr) (k : ℕ) :
    tally (fun j => [j.number]) k (takeOut JobNode.jobId (s.session r).jobId s.ongoing) +
      ((s.running r).map JobNode.number).toList.count k =
        tally (fun j => [j.number]) k s.ongoing := by
  rcases hrun : s.running r with _ | j
  · rw [takeOut_of_find?_none hrun]
    rfl
  · exact tally_takeOut hrun

theorem done_of_endJob {status : JobStatus} (h : s.endJob r status mem = some t) : Done s t r := by
  have hrunning := s.tally_running r
  unfold endJob at h
  split_ifs at h with hcb
  · rw [jobDone_eq h]
    refine ⟨rfl, fun k => ?_⟩
    simp only [JpegObj.places, callback, map_append, map_cons, map_nil,
      count_append, hcb, if_true, ← hrunning k]
    omega
  · rw [jobDone_eq h]
    refine ⟨rfl, fun k => ?_⟩
    simp only [JpegObj.places, ← hrunning k, hcb]
    simp only [Bool.false_eq_true, if_false, count_nil]
    omega

theorem Done.conserved (hs : s.Conserved) (h : Done s t r) (ends : s.Ends r) : t.Conserved := by
  refine hs.of_places h.accepted fun k => ?_
  have hk := h.places k
  rw [ends] at hk
  split_ifs at hk
  · exact Nat.add_right_cancel hk
  · exact hk

/-- **A job that is done out of turn** leaves the jobs not conserved. -/
theorem Done.not_conserved (hs : s.Conserved) (h : Done s t r) (late : ¬s.Ends r) : ¬t.Conserved := by
  intro ht
  unfold Ends at late
  -- one that is taken off the queue without a callback is nowhere
  have hgone : ∀ j, s.running r = some j →
      (if (s.session r).params.jpegCb then [(s.session r).job] else []).count j.number = 0 →
        False := by
    intro j hrun hcount
    have hplaces := h.places j.number
    have htaken := s.tally_running r j.number
    rw [hrun, Option.map_some, Option.toList_some, count_singleton_self] at hplaces htaken
    rw [hcount] at hplaces
    have hpos : 0 < s.places j.number := by
      unfold JpegObj.places
      omega
    obtain ⟨h₁, h₂, h₃⟩ := hs.accepted hpos
    have htk := ht j.number
    rw [if_pos ⟨h₁, h.accepted ▸ h₂⟩] at htk
    omega
  by_cases hcb : (s.session r).params.jpegCb = true
  · simp only [hcb, if_true] at hgone late
    -- the client is called for a job that is not taken off the queue
    have hnot : ((s.running r).map JobNode.number).toList.count (s.session r).job = 0 := by
      rcases hrun : s.running r with _ | j
      · rfl
      · rw [hrun, Option.map_some] at late
        rw [Option.map_some, Option.toList_some]
        exact count_eq_zero_of_not_mem fun h =>
          late (congrArg some (mem_singleton.mp h).symm)
    have hplaces := h.places (s.session r).job
    simp only [hcb, if_true, count_singleton_self] at hplaces
    rw [hnot] at hplaces
    have htk := ht (s.session r).job
    have hsk := hs (s.session r).job
    rw [h.accepted] at htk
    rw [← hsk] at htk
    omega
  · simp only [hcb] at hgone late
    rcases hrun : s.running r with _ | j
    · exact late (by rw [hrun]; rfl)
    · exact hgone j hrun rfl

theorem Done.tells (hs : s.Conserved) (h : Done s t r) : Tells (s.Ends r) t :=
  ⟨fun ht => by_contra fun late => h.not_conserved hs late ht, h.conserved hs⟩

/-! ## Clients and sessions -/

theorem Conserved.removeJobs (hs : s.Conserved) (sessionId : ℕ) :
    (s.removeJobs sessionId).Conserved := by
  refine hs.of_places rfl fun k => ?_
  have htodo := tally_filter_add (f := fun j : JobNode => [j.number]) (k := k) (l := s.todo)
    fun j => j.encodeJob.sessionId == sessionId
  have hongoing := tally_filter_add (f := fun j : JobNode => [j.number]) (k := k) (l := s.ongoing)
    fun j => j.encodeJob.sessionId == sessionId
  simp only [JpegObj.places, JpegObj.removeJobs, count_append, ← tally_map, ← htodo, ← hongoing]
  omega

theorem Conserved.abortSessions (hs : s.Conserved) (clntIdx : ℕ) (sent : SessionPtr → Bool) :
    (s.abortSessions clntIdx sent).Conserved := by
  unfold JpegObj.abortSessions
  generalize range maxSession = l
  induction l generalizing s with
  | nil => exact hs
  | cons i l ih =>
    rw [foldl_cons]
    split_ifs
    · exact ih ((hs.removeJobs _).frame (frame_sessionAbort _ _ _ _))
    · exact ih hs

theorem Conserved.close (hs : s.Conserved) (clientHdl : ℕ) (sent : SessionPtr → Bool) :
    (s.close clientHdl sent).2.Conserved := by
  unfold JpegObj.close
  dsimp only
  split_ifs
  · exact hs
  · have h := (hs.abortSessions (getIndexByHandler clientHdl) sent).frame
      (frame_zeroSessions _ (getIndexByHandler clientHdl))
    exact h

/-! ## Starting and aborting a job -/

theorem Conserved.enqueueJob (hs : s.Conserved) {job : EncodeJob} {jobId sem : ℕ} :
    Conserved { s with
      todo := s.todo ++ [⟨job, jobId, s.accepted + 1⟩]
      accepted := s.accepted + 1
      jobSem := sem } := by
  intro k
  have hk := hs k
  unfold JpegObj.places at hk ⊢
  dsimp only
  rw [tally_append, tally_cons, tally_nil]
  by_cases heq : k = s.accepted + 1
  · rw [if_neg (by omega)] at hk
    rw [heq, count_singleton_self, if_pos (by omega), ← heq]
    omega
  · rw [count_eq_zero_of_not_mem fun h => heq (mem_singleton.mp h)]
    split_ifs at hk ⊢ <;> omega

/-- **A job that is started**: the jobs stay conserved if and only if it is on time. -/
theorem tells_startCounted (hs : s.Conserved) (job : EncodeJob) (mem : Mem) :
    Tells ((JpegOp.startJob job mem).OnTime s) (s.startCounted job mem) := by
  have hcases := startCounted_cases s job mem
  generalize s.startCounted job mem = t at hcases
  rcases hcases with ⟨w, honTime⟩ | ⟨w, htable, hcode, hnot⟩ | ⟨w, hstart⟩ | ⟨w, htable, hstart⟩
  · exact .of_conserved honTime (hs.frame (frame_workBufCnt s w))
  · -- a job is answered with 0 that is nowhere
    refine .of_late (fun h => hnot (h htable hcode)) fun ht => ?_
    have hsk := hs (s.accepted + 1)
    have htk := ht (s.accepted + 1)
    rw [if_neg (by omega)] at hsk
    rw [if_pos ⟨Nat.le_add_left 1 _, le_rfl⟩] at htk
    exact absurd (hsk.symm.trans htk) Nat.zero_ne_one
  · exact .of_conserved (fun _ _ => hstart)
      (hs.frame ((frame_workBufCnt s w).trans (frame_countJob _ _)))
  · refine .of_conserved (fun _ _ => hstart) ?_
    have h := hs.frame ((frame_workBufCnt s w).trans (frame_countJob _ (sessionAt job.sessionId)))
    exact h.enqueueJob

theorem Conserved.abortJob (hs : s.Conserved) (jobId : ℕ) (sent : SessionPtr → Bool) :
    (s.abortJob jobId sent).Conserved := by
  have hcases := abortJob_cases s jobId sent
  generalize s.abortJob jobId sent = t at hcases
  rcases hcases with ⟨hfound⟩ | ⟨f, -, hfound⟩ | _
  · have h := fun k => tally_takeOut (f := fun j : JobNode => [j.number]) (k := k) hfound
    refine hs.of_places rfl fun k => ?_
    simp only [JpegObj.places, count_append, ← h k]
    omega
  · have h := fun k => tally_takeOut (f := fun j : JobNode => [j.number]) (k := k) hfound
    refine hs.of_places rfl fun k => ?_
    simp only [JpegObj.places, count_append, ← h k]
    omega
  · exact hs

/-! ## The manager -/

theorem Conserved.not_of_dropped (hs : s.Conserved) (accepted : t.accepted = s.accepted)
    (places : t.places j.number < s.places j.number) :
    ¬t.Conserved := by
  intro ht
  obtain ⟨h₁, h₂, h₃⟩ := JpegObj.Conserved.accepted hs (Nat.zero_lt_of_lt places)
  have htk := ht j.number
  rw [accepted, if_pos ⟨h₁, h₂⟩] at htk
  exact absurd (htk ▸ h₃ ▸ places) (lt_irrefl _)

theorem Conserved.moved (hs : s.Conserved) {rest : List JobNode} {j' : JobNode}
    (todo : s.todo = j :: rest) (number : j'.number = j.number) (todo' : t.todo = rest)
    (ongoing : t.ongoing = s.ongoing ++ [j']) (calls : t.calls = s.calls)
    (removed : t.removed = s.removed) (accepted : t.accepted = s.accepted) : t.Conserved := by
  refine hs.of_places accepted fun k => ?_
  unfold JpegObj.places
  rw [todo', ongoing, calls, removed, todo, tally_append, tally_cons, tally_cons, tally_nil, number]
  omega

/-- **A job that the manager takes**: the jobs stay conserved if and only if it is on time. -/
theorem tells_pick (hn : s.Numbered) (hs : s.Conserved) (h : s.pick mem = some t) :
    Tells ((JpegOp.pick mem).OnTime s) t := by
  obtain ⟨-, hpicked⟩ := pick_cases h
  -- the condition is on the job at the head
  have honTime : ∀ {j rest}, s.todo = j :: rest → ((JpegOp.pick mem).OnTime s ↔
      match s.idleOf j with
      | none => mem.head = true
      | some r => mem.ongoing = true ∧ (j.encodeJob.dstIndex < 0 → s.nextOut r ≠ 0)) := by
    intro j rest htodo
    unfold JpegOp.OnTime
    dsimp only
    rw [htodo]
    exact ⟨fun h => h j rfl, fun h i hi => Option.some.inj hi ▸ h⟩
  rcases hpicked with htodo | ⟨htodo, hnamed⟩ | ⟨htodo, hnamed, hq, hidle⟩ |
    ⟨htodo, hnamed, hq, hidle, hplaced⟩
  · refine .of_conserved (fun i hi => ?_) (hs.frame (.of_pc s _))
    rw [htodo] at hi
    cases hi
  · -- a job to do is for a session of the table
    have hj := (hn.named _ (.inl (htodo ▸ mem_cons_self))).1
    unfold getSession at hnamed
    rw [if_pos hj] at hnamed
    cases hnamed
  · rename_i j rest a q
    have hon := honTime htodo
    rw [idleOf_eq hnamed hq hidle] at hon
    by_cases hhead : mem.head = true
    · rw [if_pos hhead, ← htodo]
      exact .of_conserved (hon.mpr hhead) (hs.frame (.of_pc s _))
    · rw [if_neg hhead]
      refine .of_late (fun h => hhead (hon.mp h)) (hs.not_of_dropped (j := j) rfl ?_)
      unfold JpegObj.places
      rw [htodo, tally_cons, count_singleton_self]
      dsimp only
      omega
  · rename_i j rest a r q l
    have hon := honTime htodo
    rw [idleOf_eq hnamed hq hidle, head?_cons] at hon
    dsimp only at hon
    have hdropped : ∀ {u : JpegObj}, u.todo = rest → u.calls = s.calls → u.removed = s.removed →
        (∀ k, tally (fun i => [i.number]) k u.ongoing ≤ tally (fun i => [i.number]) k s.ongoing) →
          u.places j.number < s.places j.number := by
      intro u hu₁ hu₂ hu₃ hu₄
      have := hu₄ j.number
      unfold JpegObj.places
      rw [hu₁, hu₂, hu₃, htodo, tally_cons, count_singleton_self]
      omega
    rcases hplaced with ⟨o, hleft, hout, hfree, hnone⟩ | ⟨hassigned, hmem⟩ |
      ⟨hassigned, hmem, hdone⟩
    · -- no output buffer
      refine .of_late (fun h => (hon.mp h).2 hleft ?_)
        (hs.not_of_dropped rfl (hdropped rfl rfl rfl fun k => le_rfl))
      rw [nextOut_eq (s := s) hout hfree]
      exact hnone
    · rename_i b o j'
      have hbuf : mem.ongoing = true ∧ (j.encodeJob.dstIndex < 0 → s.nextOut r ≠ 0) := by
        refine ⟨hmem, fun hneg => ?_⟩
        rcases hassigned with hge | ⟨-, hout, hfree, hvalid⟩
        · exact absurd hneg (not_lt.mpr hge)
        · rw [nextOut_eq (s := s) hout hfree]
          exact hvalid
      refine .of_conserved (hon.mpr hbuf) ?_
      exact hs.moved htodo hassigned.number rfl rfl rfl rfl rfl
    · -- the job cannot be queued
      refine .of_late (fun h => by rw [(hon.mp h).1] at hmem; cases hmem)
        (hs.not_of_dropped (by rw [jobDone_eq hdone]; rfl) (hdropped ?_ ?_ ?_ ?_))
      · rw [jobDone_eq hdone]
        rfl
      · rw [jobDone_eq hdone]
        rfl
      · rw [jobDone_eq hdone]
        rfl
      · intro k
        rw [jobDone_eq hdone]
        exact Nat.le.intro (tally_running _ _ k)

/-! ## The ends of jobs -/

theorem ends_setFlags (f : SessionPtr → Flags) (i : Option SessionPtr) (pc : MgrPc) :
    (s.setFlags f i pc).Ends r = s.Ends r := rfl

/-- **A job that is encoded**: the jobs stay conserved if and only if it is ended on time. -/
theorem Encoding.tells {op : JpegOp} (hs : s.Conserved) (h : s.Encoding op t) :
    Tells (∀ r mem, op.Ending s r mem → s.Ends r) t := by
  rcases h with ⟨f, i, pc, -, -, hnot⟩ | ⟨f, i, pc, -, -, hend, hdone⟩
  · exact .of_conserved (fun r mem hend => absurd hend (hnot r mem))
      (hs.frame (frame_setFlags s f i pc))
  · rename_i r mem status
    -- a step ends no two jobs
    have honly : ∀ b m, op.Ending s b m → b = r := by
      intro b m hend'
      cases op with
      | configure out mem => exact MgrPc.configuring.inj (hend'.1.symm.trans hend.1)
      | submit ok mem => exact MgrPc.submitting.inj (hend'.1.symm.trans hend.1)
      | fbd c mem | eventHandler c error mem => exact hend'.1.trans hend.1.symm
      | _ => exact hend'.elim
    have hflags := hs.frame (frame_setFlags s f i pc)
    have htells := (done_of_endJob hdone).tells hflags
    rw [ends_setFlags] at htells
    exact htells.trans ⟨fun hr b m hend' => honly b m hend' ▸ hr, fun hon => hon r mem hend⟩

end JpegObj

open JpegObj

variable {s t : JpegObj} {op : JpegOp}

/-- **A step** keeps the jobs conserved if and only if it is on time. -/
theorem JpegOp.Step.tells (hn : s.Numbered) (hs : s.Conserved) (h : op.Step s t) :
    Tells (op.OnTime s) t := by
  cases h.outcome with
  | newClient count =>
    exact .of_conserved (fun _ _ h => h.elim) (hs.frame (frame_newClient s count))
  | createSession _ created =>
    exact .of_conserved (fun _ _ h => h.elim) (hs.frame (createSession_setsUp created).frame)
  | startJob job mem => exact tells_startCounted hs job mem
  | abortJob jobId sent _ =>
    exact .of_conserved (fun _ _ h => h.elim) (hs.abortJob jobId sent)
  | destroySession _ _ destroyed =>
    exact .of_conserved (fun _ _ h => h.elim) ((hs.removeJobs _).frame (frame_destroySession destroyed))
  | unknownSession => exact .of_conserved (fun _ _ h => h.elim) hs
  | close clientHdl sent _ =>
    exact .of_conserved (fun _ _ h => h.elim) (hs.close clientHdl sent)
  | wake woken => exact .of_conserved (fun _ _ h => h.elim) (hs.frame (frame_wake woken))
  | look looked => exact .of_conserved (fun _ _ h => h.elim) (hs.frame (frame_look looked))
  | pick picked => exact tells_pick hn hs picked
  | encoding encodes encoding =>
    cases op with
    | configure out mem | submit ok mem | fbd r mem | eventHandler r error mem =>
      exact encoding.tells hs
    | _ => exact encodes.elim

theorem conserved_init (concurrent : ℕ) (reuse : Bool) :
    Conserved (.init concurrent reuse) := by
  intro k
  have hnone : ¬(1 ≤ k ∧ k ≤ (init concurrent reuse).accepted) := fun h =>
    Nat.not_succ_le_zero 0 (h.1.trans h.2)
  dsimp only [JpegObj.places]
  rw [if_neg hnone]
  rfl

def JpegOp.TimelyStep (op : JpegOp) (s t : JpegObj) : Prop := op.Step s t ∧ op.OnTime s

/-- **A job is lost, and a client is called twice.** A job for a buffer that the session does not
have is answered with 0, the code of `mm_jpeg_alloc_workbuffer`. An error that OMX reports ends a
job, and so does the output buffer that it then gives back; or that it does not take the buffers. -/
theorem jobs_lost_and_doubled :
    let session : List JpegOp := [.newClient 1, .createSession 512
      { numSrcBufs := 1, numDstBufs := 1, jpegCb := true } {} fun _ => {}]
    let start (i : ℤ) : JpegOp := .startJob { sessionId := 0x1000000, srcIndex := i, dstIndex := -1 } {}
    let encode : List JpegOp := [start 0, .wake, .look, .pick {}, .configure {} {}]
    (∃ s, Run JpegOp.Step (session ++ [start 1]) (.init 1 true) s ∧
      s.accepted = 1 ∧ s.places 1 = 0) ∧
    (∃ s, Run JpegOp.Step (session ++ encode ++ [.submit true {}, .eventHandler ⟨0, 0⟩ true {},
      .fbd ⟨0, 0⟩ {}]) (.init 1 false) s ∧ s.calls = [(1, .error), (1, .done)]) ∧
    ∃ s, Run JpegOp.Step (session ++ encode ++ [.eventHandler ⟨0, 0⟩ true {}, .submit false {}])
      (.init 1 false) s ∧ s.calls = [(1, .error), (1, .error)] :=
  ⟨⟨_, .of_execAll rfl, rfl, rfl⟩, ⟨_, .of_execAll rfl, rfl⟩, ⟨_, .of_execAll rfl, rfl⟩⟩

/-- **Jobs are conserved.** In every run of steps that are on time, every accepted job is in one
place, once; and a further step keeps it so if and only if it is on time. -/
theorem jobs_conserved {concurrent : ℕ} {reuse : Bool} {ops : List JpegOp}
    (h : Run JpegOp.TimelyStep ops (.init concurrent reuse) s) :
    s.Conserved ∧ ∀ (op : JpegOp) (t : JpegObj), op.Step s t → (t.Conserved ↔ op.OnTime s) := by
  have hs : s.Numbered ∧ s.Conserved := by
    refine h.invariant (I := fun s => s.Numbered ∧ s.Conserved) (fun op s t hstep hs => ?_)
      ⟨numbered_init concurrent reuse, conserved_init concurrent reuse⟩
    exact ⟨hstep.1.numbered hs.1, (hstep.1.tells hs.1 hs.2).mpr hstep.2⟩
  exact ⟨hs.2, fun op t hstep => hstep.tells hs.1 hs.2⟩

/-- A job that is encoded, and another that is aborted. -/
theorem jobs_conserved_encoded :
    let start : JpegOp := .startJob { sessionId := 0x1000000, dstIndex := -1 } {}
    ∃ s, Run JpegOp.TimelyStep [.newClient 1, .createSession 512
        { numSrcBufs := 1, numDstBufs := 1, jpegCb := true } {} fun _ => {}, start, start, .wake, .look,
        .pick {}, .configure {} {}, .submit true {}, .fbd ⟨0, 0⟩ {},
        .abortJob 0x1010000 fun _ => true] (.init 1 false) s ∧
      s.Conserved ∧ s.calls = [(1, .done)] ∧ s.removed = [2] := by
  intro start
  obtain ⟨s, h, hcalls, hremoved⟩ : ∃ s, Run JpegOp.TimelyStep [.newClient 1, .createSession 512
        { numSrcBufs := 1, numDstBufs := 1, jpegCb := true } {} fun _ => {}, start, start, .wake, .look,
        .pick {}, .configure {} {}, .submit true {}, .fbd ⟨0, 0⟩ {},
        .abortJob 0x1010000 fun _ => true] (.init 1 false) s ∧ s.calls = [(1, .done)] ∧
          s.removed = [2] := by
    refine ⟨_, .cons ⟨rfl, fun _ _ => nofun⟩ (.cons ⟨rfl, fun _ _ => nofun⟩ (.cons ⟨rfl, ?_⟩
      (.cons ⟨rfl, ?_⟩ (.cons ⟨rfl, fun _ _ => nofun⟩ (.cons ⟨rfl, fun _ _ => nofun⟩
      (.cons ⟨rfl, ?_⟩ (.cons ⟨rfl, ?_⟩ (.cons ⟨rfl, ?_⟩ (.cons ⟨rfl, ?_⟩
      (.one ⟨rfl, fun _ _ => nofun⟩)))))))))), rfl, rfl⟩
    · exact fun _ _ => by decide
    · exact fun _ _ => by decide
    · intro j hj
      cases hj
      exact ⟨rfl, fun _ => by decide⟩
    · rintro r m ⟨hr, hfail, -⟩
      cases hr
      cases hfail
    · rintro r m ⟨-, -, hfail, -⟩
      cases hfail
    · rintro r m ⟨rfl, -⟩
      rfl
  exact ⟨s, h, (jobs_conserved h).1, hcalls, hremoved⟩

end MmJpeg
