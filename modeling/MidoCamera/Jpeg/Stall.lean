import MidoCamera.Jpeg.Groups

/-!
# The job manager does not stall

The manager takes a token of its semaphore also where it cannot start a job: at the limit of ongoing
jobs, and without an idle session. It then relies on an ongoing job, which posts the semaphore when
it is done. So there has to be an ongoing job of each group that has no idle session.

An abort takes an ongoing job out of the queue without posting the semaphore or queueing its session
again, and so does the manager with a job for which there is no output buffer: the jobs behind are
never started.
-/

namespace MmJpeg

open Loop List

namespace JpegObj

/-- **A group without an idle session has an ongoing job.** -/
def Alive (s : JpegObj) : Prop :=
  ∀ a q, (s.session a).sessionHandleQ = some q → s.handleQs q = some [] →
    ∃ j ∈ s.ongoing, (s.session (sessionAt j.jobId)).sessionHandleQ = some q

/-- **With jobs to do**, there is a token, or an ongoing job, or the manager is on its way. -/
def Awake (s : JpegObj) : Prop :=
  s.todo ≠ [] → s.jobSem ≠ 0 ∨ s.ongoing ≠ [] ∨ s.pc = .woken ∨ s.pc = .picking

end JpegObj

/-- **The condition on a step** besides that it is orderly: no ongoing job is aborted; a job that
the manager takes finds an output buffer if it needs one, and can be queued as ongoing; and when a
job is ended, its session can be queued, and the ongoing job under its id is one of its group. -/
def JpegOp.Wakeful (s : JpegObj) : JpegOp → Prop
  | .createSession _ _ mem _ => mem.handle = true
  | .abortJob jobId _ => s.todo.find? (fun j => j.jobId == jobId) = none →
    s.ongoing.find? (fun j => j.jobId == jobId) = none
  | .pick mem => ∀ j ∈ s.todo.head?, ∀ r ∈ s.idleOf j,
    mem.ongoing = true ∧ (j.encodeJob.dstIndex < 0 → s.nextOut r ≠ 0)
  | op => ∀ r mem, op.Ending s r mem → mem.handle = true ∧ ∀ j ∈ s.running r,
    (s.session (sessionAt j.jobId)).sessionHandleQ = (s.session r).sessionHandleQ

namespace JpegObj

variable {s t u : JpegObj} {r : SessionPtr} {p : JobSession} {mem : Mem} {j : JobNode} {q : ℕ}

/-! ## Groups that are alive -/

theorem Alive.congr (hs : s.Alive) (ongoing : ∀ j ∈ s.ongoing, j ∈ t.ongoing)
    (sessionHandleQ : ∀ b, (t.session b).sessionHandleQ = (s.session b).sessionHandleQ)
    (handleQs : ∀ q, t.handleQs q = some [] → s.handleQs q = some []) : t.Alive := by
  intro a q ha hq
  obtain ⟨j, hj, hjq⟩ := hs a q (sessionHandleQ a ▸ ha) (handleQs q hq)
  exact ⟨j, ongoing j hj, (sessionHandleQ _).trans hjq⟩

theorem running_jobId (h : s.running r = some j) : j.jobId = (s.session r).jobId := by
  simpa using find?_some h

/-- **A job that is ended** leaves its group with an idle session, and the other groups alone. -/
theorem Alive.endJob {status : JobStatus} (hs : s.Alive) (room : mem.handle = true)
    (own : ∀ j ∈ s.running r,
      (s.session (sessionAt j.jobId)).sessionHandleQ = (s.session r).sessionHandleQ)
    (h : s.endJob r status mem = some t) : t.Alive := by
  have hdone : ∃ u : JpegObj, u.session = s.session ∧ u.handleQs = s.handleQs ∧
      u.jobDone r mem = some t := by
    unfold JpegObj.endJob at h
    split_ifs at h
    · exact ⟨s.callback r status, rfl, rfl, h⟩
    · exact ⟨s, rfl, rfl, h⟩
  obtain ⟨u, husession, huqs, hu⟩ := hdone
  obtain ⟨q, l, hq, hl, hqs⟩ := jobDone_handleQs hu room
  have ht := endJob_eq h
  rw [husession] at hq
  rw [huqs] at hl hqs
  have hhandleQ : ∀ b, (t.session b).sessionHandleQ = (s.session b).sessionHandleQ :=
    (steady_endJob h).sessionHandleQ
  intro a q' ha hq'
  -- the group of the session has an idle one now
  have hne : q' ≠ q := by
    intro heq
    rw [heq, hqs, Function.update_self] at hq'
    exact absurd (Option.some.inj hq') (append_ne_nil_of_right_ne_nil _ (cons_ne_nil r []))
  rw [hqs, Function.update_of_ne hne] at hq'
  rw [hhandleQ] at ha
  obtain ⟨j, hj, hjq⟩ := hs a q' ha hq'
  refine ⟨j, ?_, (hhandleQ _).trans hjq⟩
  rw [ht]
  refine (mem_eraseP_of_neg ?_).mpr hj
  intro hid
  rw [beq_iff_eq] at hid
  -- a job of this id is one of the group of the session
  rcases hrun : s.running r with _ | i
  · exact find?_eq_none.mp hrun j hj (by rw [hid]; exact beq_self_eq_true _)
  · have hi := own i hrun
    rw [running_jobId hrun, ← hid, hjq, hq] at hi
    exact hne (Option.some.inj hi)

theorem Grown.alive {c : ℕ} {rs : List SessionPtr} (hg : Grown s u c mem rs) (hs : s.Tied)
    (room : mem.handle = true) (h : s.Alive) : u.Alive := by
  intro a q ha hq
  by_cases hnext : q = s.nextQ
  · rw [hnext, hg.handleQs, Function.update_self, if_pos room] at hq
    have ha' : a ∉ rs := by
      rw [Option.some.inj hq]
      exact not_mem_nil
    rw [(hg.others a ha').2.2.1] at ha
    exact absurd (hs.old a q ha) (hnext ▸ lt_irrefl _)
  · rw [hg.handleQs, Function.update_of_ne hnext] at hq
    have hlive : s.handleQs q ≠ none := by
      rw [hq]
      exact Option.some_ne_none []
    have hactive : ∀ b, (s.session b).sessionHandleQ = some q →
        (u.session b).sessionHandleQ = some q := by
      intro b hb
      obtain ⟨n, d, hd⟩ := hg.kept b (hs.live b q hb hlive)
      rw [hd]
      exact hb
    have ha' : a ∉ rs := fun ha' => hnext (Option.some.inj ((hg.new a ha').2.2.1.symm.trans ha)).symm
    rw [(hg.others a ha').2.2.1] at ha
    obtain ⟨j, hj, hjq⟩ := h a q ha hq
    exact ⟨j, hg.frame.ongoing ▸ hj, hactive _ hjq⟩

theorem Destroyed.alive {id : ℕ} (h : Destroyed s t r q) (hn : s.Numbered) (hs : s.Tied)
    (hid : (s.session r).sessionId = id) (jobs : t.ongoing = (s.removeJobs id).ongoing)
    (ha : s.Alive) : t.Alive := by
  intro a q' haq hq'
  have hne : q' ≠ q := by
    intro heq
    rw [heq, h.handleQs, Function.update_self] at hq'
    cases hq'
  rw [h.handleQs, Function.update_of_ne hne] at hq'
  have har : a ≠ r := by
    intro har
    rw [har, h.self.1] at haq
    cases haq
  rw [(h.others a har).1] at haq
  obtain ⟨j, hj, hjq⟩ := ha a q' haq hq'
  have hother : sessionAt j.jobId ≠ r := by
    intro heq
    rw [heq, h.queue] at hjq
    exact hne (Option.some.inj hjq).symm
  refine ⟨j, ?_, (h.others _ hother).1.trans hjq⟩
  rw [jobs]
  refine mem_filter.mpr ⟨hj, ?_⟩
  -- the jobs that are taken back are those of the session
  have hactive := hs.live r q h.queue h.there
  rw [Bool.not_eq_true', beq_eq_false_iff_ne]
  intro hsession
  refine hother ?_
  rw [(hn.named j (.inr hj)).2, hsession, ← hid]
  exact (hs.named r hactive).1

theorem Alive.zeroSessions (ha : s.Alive) (hs : s.Tied) {c : ℕ}
    (inactive : ∀ r : SessionPtr, r.clientIdx = c → (s.session r).active = false) :
    (s.zeroSessions c).Alive := by
  have hzero : ∀ b q, ((s.zeroSessions c).session b).sessionHandleQ = some q →
      (s.session b).sessionHandleQ = some q := by
    intro b q hb
    simp only [JpegObj.zeroSessions] at hb
    split_ifs at hb
    exact hb
  intro a q haq hq
  obtain ⟨j, hj, hjq⟩ := ha a q (hzero a q haq) hq
  refine ⟨j, hj, ?_⟩
  have hactive := hs.live _ q hjq (by
    rw [show s.handleQs q = some [] from hq]
    exact Option.some_ne_none [])
  simp only [JpegObj.zeroSessions]
  rw [if_neg fun hb => by rw [inactive _ hb.1] at hactive; cases hactive]
  exact hjq

/-! ## The manager -/

/-- **A job that the manager takes** is ongoing then; without an idle session, one of its group
is. -/
theorem pick_alive (hn : s.Numbered) (ha : s.Alive) (hw : (JpegOp.pick mem).Wakeful s)
    (h : s.pick mem = some t) : t.Alive ∧ t.Awake := by
  obtain ⟨-, hpicked⟩ := pick_cases h
  rcases hpicked with htodo | ⟨htodo, hnamed⟩ | ⟨htodo, hnamed, hq, hidle⟩ |
    ⟨htodo, hnamed, hq, hidle, hplaced⟩
  · exact ⟨ha.congr (fun _ hj => hj) (fun _ => rfl) (fun _ hq => hq), fun hne => absurd htodo hne⟩
  · -- a job to do is for a session of the table
    have hj := (hn.named _ (.inl (htodo ▸ mem_cons_self))).1
    unfold getSession at hnamed
    rw [if_pos hj] at hnamed
    cases hnamed
  · obtain ⟨j, hj, -⟩ := ha _ _ hq hidle
    exact ⟨ha.congr (fun _ hj => hj) (fun _ => rfl) (fun _ hq => hq),
      fun _ => .inr (.inl (ne_nil_of_mem hj))⟩
  · rename_i j rest a r q l
    have hwake : mem.ongoing = true ∧ (j.encodeJob.dstIndex < 0 → s.nextOut r ≠ 0) := by
      refine hw j ?_ r ?_
      · rw [htodo]
        rfl
      · rw [idleOf_eq hnamed hq hidle]
        rfl
    rcases hplaced with ⟨o, hleft, hout, hfree, hnone⟩ | ⟨hassigned, hmem⟩ |
      ⟨hassigned, hmem, hdone⟩
    · refine absurd ?_ (hwake.2 hleft)
      rw [nextOut_eq (s := s) hout hfree]
      exact hnone
    · rename_i b o j'
      have hongoing : j' ∈ (((s.dequeued rest q l).setUp r b o).bind r j').ongoing :=
        mem_append_right _ (mem_singleton_self j')
      have hhandleQ := (steady_dequeued rest b o hidle).sessionHandleQ
      have hbind : ∀ c, ((((s.dequeued rest q l).setUp r b o).bind r j').session c).sessionHandleQ =
          (s.session c).sessionHandleQ := by
        intro c
        rw [← hhandleQ c]
        unfold bind
        by_cases hc : c = r
        · rw [hc]
          dsimp only
          rw [setSession_self]
        · dsimp only
          rw [setSession_other _ hc]
      refine ⟨fun c q' hc hq' => ?_, fun _ => .inr (.inl (ne_nil_of_mem hongoing))⟩
      rw [hbind] at hc
      by_cases hqq : q' = q
      · -- the job is one of the group of its session
        refine ⟨j', hongoing, ?_⟩
        unfold getSession at hnamed
        split_ifs at hnamed
        rw [hbind, hassigned.jobId, Option.some.inj hnamed, hqq]
        exact hq
      · obtain ⟨i, hi, hiq⟩ := ha c q' hc (by
          rw [← hq']
          simp only [bind, setUp, dequeued, setSession, Function.update_of_ne hqq])
        exact ⟨i, mem_append_left _ hi, (hbind _).trans hiq⟩
    · rw [hmem] at hwake
      cases hwake.1

/-- **A job that is encoded** keeps the groups alive, and the manager awake. -/
theorem Encoding.alive {op : JpegOp} (ha : s.Alive) (hw : s.Awake)
    (own : ∀ r mem, op.Ending s r mem → mem.handle = true ∧ ∀ j ∈ s.running r,
      (s.session (sessionAt j.jobId)).sessionHandleQ = (s.session r).sessionHandleQ)
    (h : s.Encoding op t) : t.Alive ∧ t.Awake := by
  rcases h with ⟨f, i, pc, hpc, -, -⟩ | ⟨f, i, pc, -, -, hend, hdone⟩
  · refine ⟨ha.congr (fun _ hj => hj) (fun _ => rfl) (fun _ hq => hq), fun htodo => ?_⟩
    rcases hw htodo with hsem | hongoing | hmgr
    · exact .inl hsem
    · exact .inr (.inl hongoing)
    · -- a manager that moves on has the lock, and it has it in neither of the two states
      have hfree : ¬s.Locked := by
        intro hlocked
        unfold Locked at hlocked
        rcases hmgr with hmgr | hmgr <;> rw [hmgr] at hlocked <;> exact hlocked.elim
      rcases hpc with _ | hconfiguring | hlocked
      · exact .inr (.inr hmgr)
      · exact absurd (locked_of_configuring hconfiguring) hfree
      · exact absurd hlocked hfree
  · rename_i r mem status
    obtain ⟨hroom, hown⟩ := own r mem hend
    have hflags : (s.setFlags f i pc).Alive :=
      ha.congr (fun _ hj => hj) (fun _ => rfl) (fun _ hq => hq)
    refine ⟨hflags.endJob hroom hown hdone, fun _ => .inl ?_⟩
    rw [endJob_eq hdone]
    exact Nat.succ_ne_zero _

end JpegObj

open JpegObj

variable {s t : JpegObj} {op : JpegOp}

theorem JpegOp.Step.concurrent (h : op.Step s t) (hs : s.Tied) (orderly : op.Orderly s) :
    t.concurrent = s.concurrent := by
  cases h.outcome with
  | newClient count =>
    unfold JpegObj.newClient
    split_ifs
    · rfl
    · split <;> rfl
  | createSession _ created =>
    rcases createSession_grown created with w | ⟨-, hgrown, -⟩
    · rfl
    · have hu := hgrown.concurrent
      split_ifs <;> exact hu
  | startJob job mem =>
    have hcases := startCounted_cases s job mem
    generalize s.startCounted job mem = u at hcases
    rcases hcases with _ | _ | _ | _ <;> rfl
  | abortJob jobId sent _ =>
    have hcases := abortJob_cases s jobId sent
    generalize s.abortJob jobId sent = u at hcases
    rcases hcases with _ | _ | _ <;> rfl
  | destroySession _ named destroyed =>
    obtain ⟨q, hdestroyed⟩ := destroySession_destroyed hs (orderly _ named) destroyed
    exact hdestroyed.concurrent
  | unknownSession => rfl
  | close clientHdl sent _ =>
    rcases close_eq orderly with heq | heq <;> rw [heq]
    rfl
  | wake woken =>
    dsimp only [JpegObj.wake] at woken
    split_ifs at woken
    cases woken
    rfl
  | look looked =>
    dsimp only [JpegObj.look] at looked
    split_ifs at looked <;> cases looked <;> rfl
  | pick picked =>
    rcases (pick_cases picked).2 with _ | _ | _ | ⟨-, -, -, -, hplaced⟩
    · rfl
    · rfl
    · rfl
    · rcases hplaced with _ | _ | ⟨-, -, hdone⟩
      · rfl
      · rfl
      · rw [jobDone_eq hdone]
        rfl
  | encoding _ encoding =>
    rcases encoding with _ | ⟨f, i, pc, -, -, -, hdone⟩
    · rfl
    · rw [endJob_eq hdone]
      rfl

/-- **Steps that meet the condition** keep the groups alive and the manager awake. -/
theorem JpegOp.Step.alive (h : op.Step s t) (hn : s.Numbered) (hs : s.Tied)
    (pos : 0 < s.concurrent) (ha : s.Alive) (hw : s.Awake) (orderly : op.Orderly s)
    (wakeful : op.Wakeful s) : t.Alive ∧ t.Awake := by
  -- what leaves the jobs, the semaphore and the manager alone
  have hawake : ∀ {u : JpegObj}, u.todo = s.todo → u.ongoing = s.ongoing → u.jobSem = s.jobSem →
      u.pc = s.pc → u.Awake := by
    intro u htodo hongoing hsem hpc
    unfold Awake
    rw [htodo, hongoing, hsem, hpc]
    exact hw
  cases h.outcome with
  | newClient count =>
    unfold JpegObj.newClient
    split_ifs
    · exact ⟨ha, hw⟩
    · split
      · rename_i idx hidx
        have hzero := ha.zeroSessions hs (c := idx) fun r hr => orderly r (hr ▸ hidx)
        exact ⟨hzero.congr (fun _ hj => hj) (fun _ => rfl) (fun _ hq => hq), hawake rfl rfl rfl rfl⟩
      · exact ⟨ha, hw⟩
  | createSession _ created =>
    rcases createSession_grown created with w | ⟨-, hgrown, -⟩
    · exact ⟨ha.congr (fun _ hj => hj) (fun _ => rfl) (fun _ hq => hq), hawake rfl rfl rfl rfl⟩
    · rename_i ok id u rs
      have hu := hgrown.alive hs wakeful ha
      have hframe := hgrown.frame
      have hsem := hgrown.jobSem
      have hpc := hgrown.pc
      split_ifs
      · exact ⟨hu.congr (fun _ hj => hj) (fun _ => rfl) (fun _ hq => hq),
          hawake hframe.todo hframe.ongoing hsem hpc⟩
      · exact ⟨hu.congr (fun _ hj => hj) (fun _ => rfl) (fun _ hq => hq),
          hawake hframe.todo hframe.ongoing hsem hpc⟩
  | startJob job mem =>
    have hsteady := steady_startCounted s job mem
    have hcases := startCounted_cases s job mem
    generalize s.startCounted job mem = u at hsteady hcases
    have halive : ∀ {u : JpegObj}, Steady s u → u.ongoing = s.ongoing → u.handleQs = s.handleQs →
        u.Alive := fun hu hongoing hqs =>
      ha.congr (fun _ hj => hongoing ▸ hj) hu.sessionHandleQ (fun _ hq => hqs ▸ hq)
    rcases hcases with ⟨w, _⟩ | ⟨w, _, _, _⟩ | ⟨w, _⟩ | ⟨w, _, _⟩
    · exact ⟨halive hsteady rfl rfl, hawake rfl rfl rfl rfl⟩
    · exact ⟨halive hsteady rfl rfl, hawake rfl rfl rfl rfl⟩
    · exact ⟨halive hsteady rfl rfl, hawake rfl rfl rfl rfl⟩
    · exact ⟨halive hsteady rfl rfl, fun _ => .inl (Nat.succ_ne_zero _)⟩
  | abortJob jobId sent _ =>
    have hcases := abortJob_cases s jobId sent
    generalize s.abortJob jobId sent = u at hcases
    rcases hcases with ⟨hfound⟩ | ⟨f, htodo, hfound⟩ | _
    · refine ⟨ha.congr (fun _ hj => hj) (fun _ => rfl) (fun _ hq => hq), fun _ => hw ?_⟩
      exact ne_nil_of_mem (mem_of_find?_eq_some hfound)
    · rw [wakeful htodo] at hfound
      cases hfound
    · exact ⟨ha, hw⟩
  | destroySession _ named destroyed =>
    have hframe := frame_destroySession destroyed
    obtain ⟨q, hdestroyed⟩ := destroySession_destroyed hs (orderly _ named) destroyed
    refine ⟨hdestroyed.alive hn hs rfl hframe.ongoing ha, fun _ => .inl ?_⟩
    rw [hdestroyed.jobSem]
    exact Nat.succ_ne_zero _
  | unknownSession => exact ⟨ha, hw⟩
  | close clientHdl sent _ =>
    rcases close_eq orderly with heq | heq <;> rw [heq]
    · exact ⟨ha, hw⟩
    · exact ⟨(ha.zeroSessions hs orderly).congr (fun _ hj => hj) (fun _ => rfl) (fun _ hq => hq),
        hawake rfl rfl rfl rfl⟩
  | wake woken =>
    dsimp only [JpegObj.wake] at woken
    split_ifs at woken
    cases woken
    exact ⟨ha.congr (fun _ hj => hj) (fun _ => rfl) (fun _ hq => hq),
      fun _ => .inr (.inr (.inl rfl))⟩
  | look looked =>
    dsimp only [JpegObj.look] at looked
    split_ifs at looked with hpc hfull
    · cases looked
      refine ⟨ha.congr (fun _ hj => hj) (fun _ => rfl) (fun _ hq => hq), fun _ => .inr (.inl ?_)⟩
      exact ne_nil_of_length_pos (pos.trans_le hfull)
    · cases looked
      exact ⟨ha.congr (fun _ hj => hj) (fun _ => rfl) (fun _ hq => hq),
        fun _ => .inr (.inr (.inr rfl))⟩
  | pick picked => exact pick_alive hn ha wakeful picked
  | encoding encodes encoding =>
    cases op with
    | configure out mem | submit ok mem | fbd r mem | eventHandler r error mem =>
      exact encoding.alive ha hw wakeful
    | _ => exact encodes.elim

def JpegOp.WakefulStep (op : JpegOp) (s t : JpegObj) : Prop :=
  op.Step s t ∧ op.Orderly s ∧ op.Wakeful s

/-- The manager waits without a token, with jobs to do and no ongoing one. -/
def JpegObj.Stalled (s : JpegObj) : Prop :=
  s.pc = .waiting ∧ s.jobSem = 0 ∧ s.todo ≠ [] ∧ s.ongoing = []

/-- **The manager stalls.** The token of the second job is taken while the first one is ongoing, and
the first one aborted. Or the first job finds no output buffer, and the second no session. -/
theorem manager_stalls :
    let session (numDstBufs : ℕ) : List JpegOp := [.newClient 1, .createSession 512
      { numSrcBufs := 1, numDstBufs := numDstBufs, jpegCb := true } {} fun _ => {}]
    let start : JpegOp := .startJob { sessionId := 0x1000000, dstIndex := -1 } {}
    (∃ s, Run JpegOp.Step (session 2 ++ [start, start, .wake, .look, .pick {}, .configure {} {},
      .submit true {}, .wake, .look, .abortJob 0x1000000 fun _ => true]) (.init 1 false) s ∧
      s.Stalled) ∧
    ∃ s, Run JpegOp.Step (session 0 ++ [start, start, .wake, .look, .pick {}, .wake, .look, .pick {}])
      (.init 1 false) s ∧ s.Stalled :=
  ⟨⟨_, .of_execAll rfl, rfl, rfl, nofun, rfl⟩, ⟨_, .of_execAll rfl, rfl, rfl, nofun, rfl⟩⟩

/-- **The manager does not stall** in runs that meet the condition: while it waits without a token
and there are jobs to do, there are ongoing ones. -/
theorem manager_alive {concurrent : ℕ} {reuse : Bool} {ops : List JpegOp} (pos : 0 < concurrent)
    (h : Run JpegOp.WakefulStep ops (.init concurrent reuse) s) :
    ¬s.Stalled := by
  have hinv : s.Numbered ∧ s.Tied ∧ 0 < s.concurrent ∧ s.Alive ∧ s.Awake := by
    refine h.invariant (I := fun s => s.Numbered ∧ s.Tied ∧ 0 < s.concurrent ∧ s.Alive ∧ s.Awake)
      (fun op s t hstep hs => ?_) ⟨numbered_init _ _, tied_init _ _, pos, ?_, fun hne => absurd rfl hne⟩
    · obtain ⟨hstep, horderly, hwakeful⟩ := hstep
      obtain ⟨hn, ht, hpos, halive, hawake⟩ := hs
      exact ⟨hstep.numbered hn, hstep.tied ht horderly, hstep.concurrent ht horderly ▸ hpos,
        hstep.alive hn ht hpos halive hawake horderly hwakeful⟩
    · exact fun a q ha => by cases ha
  rintro ⟨hpc, hsem, htodo, hongoing⟩
  rcases hinv.2.2.2.2 htodo with h | h | h | h
  · exact h hsem
  · exact h hongoing
  · rw [hpc] at h
    cases h
  · rw [hpc] at h
    cases h

/-- The second job waits for the first one, which is ended by an error. -/
theorem manager_alive_twoJobs :
    let start : JpegOp := .startJob { sessionId := 0x1000000, dstIndex := -1 } {}
    ∃ s, Run JpegOp.WakefulStep [.newClient 1, .createSession 512
        { numSrcBufs := 1, numDstBufs := 1, jpegCb := true } {} fun _ => {}, start, start, .wake, .look,
        .pick {}, .configure {} {}, .submit true {}, .wake, .look, .eventHandler ⟨0, 0⟩ true {}]
        (.init 1 false) s ∧
      s.todo.length = 1 ∧ s.jobSem = 1 ∧ ¬s.Stalled := by
  intro start
  obtain ⟨s, h, htodo, hsem⟩ : ∃ s, Run JpegOp.WakefulStep [.newClient 1, .createSession 512
        { numSrcBufs := 1, numDstBufs := 1, jpegCb := true } {} fun _ => {}, start, start, .wake, .look,
        .pick {}, .configure {} {}, .submit true {}, .wake, .look, .eventHandler ⟨0, 0⟩ true {}]
        (.init 1 false) s ∧ s.todo.length = 1 ∧ s.jobSem = 1 := by
    refine ⟨_, .cons ⟨rfl, fun _ _ => rfl, fun _ _ => nofun⟩ (.cons ⟨rfl, trivial, rfl⟩
      (.cons ⟨rfl, trivial, fun _ _ => nofun⟩ (.cons ⟨rfl, trivial, fun _ _ => nofun⟩
      (.cons ⟨rfl, trivial, fun _ _ => nofun⟩ (.cons ⟨rfl, trivial, fun _ _ => nofun⟩
      (.cons ⟨rfl, trivial, ?_⟩ (.cons ⟨rfl, trivial, ?_⟩ (.cons ⟨rfl, trivial, ?_⟩
      (.cons ⟨rfl, trivial, fun _ _ => nofun⟩ (.cons ⟨rfl, trivial, fun _ _ => nofun⟩
      (.one ⟨rfl, trivial, ?_⟩))))))))))), rfl, rfl⟩
    · intro j hj r hr
      cases hj
      cases hr
      exact ⟨rfl, fun _ => by decide⟩
    · rintro r m ⟨hr, hfail, -⟩
      cases hr
      cases hfail
    · rintro r m ⟨-, -, hfail, -⟩
      cases hfail
    · rintro r m ⟨rfl, -, -, -, rfl⟩
      refine ⟨rfl, fun j hj => ?_⟩
      cases hj
      rfl
  exact ⟨s, h, htodo, hsem, manager_alive Nat.one_pos h⟩

end MmJpeg
