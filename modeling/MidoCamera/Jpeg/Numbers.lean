import MidoCamera.Jpeg.Inversion
import MidoCamera.Library.Tally

/-!
# The numbers of the jobs

What holds of the job queues in every run, whatever goes wrong: a job is in one of them at most, and
once; a session that is bound to a job keeps its number until it is bound to another one; and no
session is bound to a job that is still to do, nor two sessions to the same job.
-/

namespace MmJpeg

open Loop List

variable {j' : JobNode} {o : ℕ → Option (List ℕ)}

namespace JpegObj

/-- A step that leaves the jobs alone, and the sessions as they were bound or not bound to a job. -/
structure Frame (s t : JpegObj) : Prop where
  todo : t.todo = s.todo
  ongoing : t.ongoing = s.ongoing
  calls : t.calls = s.calls
  removed : t.removed = s.removed
  accepted : t.accepted = s.accepted
  job : ∀ r, (t.session r).job = (s.session r).job ∨ (t.session r).job = 0

/-- A step that may take jobs off the two queues. -/
structure Shrinks (s t : JpegObj) : Prop where
  todo : t.todo.Sublist s.todo
  ongoing : t.ongoing.Sublist s.ongoing
  accepted : s.accepted ≤ t.accepted
  job : ∀ r, (t.session r).job = (s.session r).job ∨ (t.session r).job = 0

def queued (s : JpegObj) (k : ℕ) : ℕ :=
  tally (fun j => [j.number]) k s.todo + tally (fun j => [j.number]) k s.ongoing

/-- **The invariant**: no job is queued twice, and no other ones than those accepted; a session is
bound to an accepted job that is not to do any more, and no other session is bound to it; and the
ids of the jobs are those of sessions of the table. -/
structure Numbered (s : JpegObj) : Prop where
  once : ∀ k, s.queued k ≤ 1
  range : ∀ k, s.queued k ≠ 0 → 1 ≤ k ∧ k ≤ s.accepted
  bound : ∀ r, tally (fun j => [j.number]) (s.session r).job s.todo = 0
  fresh : ∀ r, (s.session r).job ≤ s.accepted
  distinct : ∀ r b, (s.session r).job = (s.session b).job → (s.session r).job ≠ 0 → r = b
  named : ∀ j, j ∈ s.todo ∨ j ∈ s.ongoing → (sessionAt j.jobId).InTable ∧
    sessionAt j.jobId = sessionAt j.encodeJob.sessionId

variable {s t u : JpegObj} {r : SessionPtr} {p : JobSession} {mem : Mem} {j : JobNode} {k : ℕ}

/-! ## Steps that leave the jobs alone -/

theorem Frame.refl (s : JpegObj) : Frame s s := ⟨rfl, rfl, rfl, rfl, rfl, fun _ => .inl rfl⟩

theorem Frame.trans (h : Frame s t) (h' : Frame t u) : Frame s u :=
  ⟨h'.todo.trans h.todo, h'.ongoing.trans h.ongoing, h'.calls.trans h.calls,
    h'.removed.trans h.removed, h'.accepted.trans h.accepted, fun r => by
      rcases h'.job r with h₂ | h₂
      · rw [h₂]
        exact h.job r
      · exact .inr h₂⟩

theorem frame_setSession (h : p.job = (s.session r).job ∨ p.job = 0) :
    Frame s (s.setSession r p) := by
  refine ⟨rfl, rfl, rfl, rfl, rfl, fun b => ?_⟩
  by_cases hb : b = r
  · rw [hb, setSession_self]
    exact h
  · rw [setSession_other p hb]
    exact .inl rfl

theorem Frame.update (session : t.session = Function.update s.session r p)
    (job : p.job = (s.session r).job ∨ p.job = 0) (todo : t.todo = s.todo)
    (ongoing : t.ongoing = s.ongoing) (calls : t.calls = s.calls) (removed : t.removed = s.removed)
    (accepted : t.accepted = s.accepted) : Frame s t :=
  ⟨todo, ongoing, calls, removed, accepted, fun b => session ▸ (frame_setSession job).job b⟩

theorem Frame.shrinks (h : Frame s t) : Shrinks s t :=
  ⟨by rw [h.todo], by rw [h.ongoing], h.accepted.ge, h.job⟩

theorem Shrinks.trans (h : Shrinks s t) (h' : Shrinks t u) : Shrinks s u :=
  ⟨h'.todo.trans h.todo, h'.ongoing.trans h.ongoing, h.accepted.trans h'.accepted, fun r => by
    rcases h'.job r with h₂ | h₂
    · rw [h₂]
      exact h.job r
    · exact .inr h₂⟩

theorem Shrinks.queued_le (h : Shrinks s t) (k : ℕ) : t.queued k ≤ s.queued k :=
  Nat.add_le_add (tally_sublist h.todo) (tally_sublist h.ongoing)

theorem Numbered.zero (hs : s.Numbered) : s.queued 0 = 0 := by
  by_contra hzero
  exact absurd (hs.range 0 hzero).1 (by decide)

theorem Numbered.shrinks (hs : s.Numbered) (h : Shrinks s t) : t.Numbered := by
  have hle := h.queued_le
  refine ⟨fun k => (hle k).trans (hs.once k), fun k hk => ?_, fun r => ?_, fun r => ?_,
    fun r b heq hne => ?_, fun j hj => hs.named j (hj.imp (h.todo.subset ·) (h.ongoing.subset ·))⟩
  · obtain ⟨h₁, h₂⟩ := hs.range k fun hzero => hk (Nat.le_zero.mp (hzero ▸ hle k))
    exact ⟨h₁, h₂.trans h.accepted⟩
  · have htodo := tally_sublist (f := fun j : JobNode => [j.number]) (k := (t.session r).job) h.todo
    rcases h.job r with hr | hr
    · rw [hr] at htodo ⊢
      exact Nat.le_zero.mp (hs.bound r ▸ htodo)
    · have hzero := hle 0
      rw [hs.zero, queued] at hzero
      rw [hr]
      omega
  · rcases h.job r with hr | hr <;> rw [hr]
    · exact (hs.fresh r).trans h.accepted
    · exact Nat.zero_le _
  · rcases h.job r with hr | hr
    · rcases h.job b with hb | hb
      · exact hs.distinct r b (hr ▸ hb ▸ heq) (hr ▸ hne)
      · exact absurd (heq.trans hb) hne
    · exact absurd hr hne

theorem Numbered.frame (hs : s.Numbered) (h : Frame s t) : t.Numbered := hs.shrinks h.shrinks

/-! ## Clients and sessions -/

theorem frame_sessionAbort (sent : SessionPtr → Bool) (fuel : ℕ) (s : JpegObj) (r : SessionPtr) :
    Frame s (s.sessionAbort sent fuel r) := by
  obtain ⟨f, h⟩ := sessionAbort_eq sent fuel s r
  rw [h]
  exact ⟨rfl, rfl, rfl, rfl, rfl, fun _ => .inl rfl⟩

theorem frame_zeroSessions (s : JpegObj) (idx : ℕ) : Frame s (s.zeroSessions idx) := by
  refine ⟨rfl, rfl, rfl, rfl, rfl, fun r => ?_⟩
  simp only [zeroSessions]
  split_ifs
  · exact .inr rfl
  · exact .inl rfl

theorem frame_newClient (s : JpegObj) (count : ℕ) : Frame s (s.newClient count).2 := by
  unfold newClient
  split_ifs
  · exact .refl s
  · split
    · exact (frame_zeroSessions s _).trans ⟨rfl, rfl, rfl, rfl, rfl, fun _ => .inl rfl⟩
    · exact .refl s

theorem shrinks_removeJobs (s : JpegObj) (sessionId : ℕ) : Shrinks s (s.removeJobs sessionId) :=
  ⟨filter_sublist, filter_sublist, le_rfl, fun _ => .inl rfl⟩

theorem shrinks_destroySessionUnlocked (s : JpegObj) (sent : SessionPtr → Bool) (r : SessionPtr) :
    Shrinks s (s.destroySessionUnlocked sent r) :=
  (shrinks_removeJobs s _).trans (frame_sessionAbort _ _ _ _).shrinks

theorem shrinks_abortSessions (s : JpegObj) (clntIdx : ℕ) (sent : SessionPtr → Bool) :
    Shrinks s (s.abortSessions clntIdx sent) := by
  unfold abortSessions
  generalize range maxSession = l
  induction l generalizing s with
  | nil => exact (Frame.refl s).shrinks
  | cons i l ih =>
    rw [foldl_cons]
    split_ifs
    · exact (shrinks_destroySessionUnlocked s _ _).trans (ih _)
    · exact ih s

theorem shrinks_close (s : JpegObj) (clientHdl : ℕ) (sent : SessionPtr → Bool) :
    Shrinks s (s.close clientHdl sent).2 := by
  unfold close
  dsimp only
  split_ifs
  · exact (Frame.refl s).shrinks
  · have hzero := frame_zeroSessions (s.abortSessions (getIndexByHandler clientHdl) sent)
      (getIndexByHandler clientHdl)
    exact (shrinks_abortSessions s _ _).trans ⟨.refl _, .refl _, le_rfl, hzero.job⟩

theorem frame_destroySession {sent : SessionPtr → Bool} (h : s.destroySession r sent = some t) :
    Frame (s.removeJobs (s.session r).sessionId) t := by
  obtain ⟨f, g, o, a, i, n, htear⟩ := tearDown_eq s r sent
  have hframe : Frame (s.removeJobs (s.session r).sessionId) (s.tearDown r sent) := by
    rw [htear]
    exact ⟨rfl, rfl, rfl, rfl, rfl, fun _ => .inl rfl⟩
  obtain ⟨q, q', -, -, -, rfl⟩ := freeQueues_eq h
  exact hframe.trans (.update rfl (.inl rfl) rfl rfl rfl rfl rfl)

theorem SetsUp.frame (h : SetsUp s t) : Frame s t := by
  obtain ⟨_, _, _, _, _, _, _, _, rfl, hsessions⟩ := h
  exact ⟨rfl, rfl, rfl, rfl, rfl, fun r => (hsessions r).1⟩

/-! ## Starting and aborting a job -/

theorem frame_workBufCnt (s : JpegObj) (w : ℕ) : Frame s { s with workBufCnt := w } :=
  ⟨rfl, rfl, rfl, rfl, rfl, fun _ => .inl rfl⟩

theorem frame_countJob (s : JpegObj) (r : SessionPtr) : Frame s (s.countJob r) :=
  frame_setSession (.inl rfl)

theorem sessionAt_or_shift (a b : ℕ) : sessionAt (a ||| (b <<< 16)) = sessionAt a := by
  have hbit : ∀ n i, n ≤ 8 → i < 8 → ((b <<< 16) >>> n).testBit i = false := by
    intro n i hn hi
    rw [Nat.testBit_shiftRight, Nat.testBit_shiftLeft, decide_eq_false (by omega), Bool.false_and]
  have hmask : ∀ n, n ≤ 8 → ((a ||| (b <<< 16)) >>> n) &&& 0xff = (a >>> n) &&& 0xff := by
    intro n hn
    refine Nat.eq_of_testBit_eq fun i => ?_
    rw [Nat.testBit_and, Nat.testBit_and, Nat.shiftRight_or_distrib, Nat.testBit_or]
    by_cases hi : i < 8
    · rw [hbit n i hn hi, Bool.or_false]
    · rw [show (0xff : ℕ) = 2 ^ 8 - 1 from rfl, Nat.testBit_two_pow_sub_one, decide_eq_false hi,
        Bool.and_false, Bool.and_false]
  exact congrArg₂ SessionPtr.mk (hmask 0 (Nat.zero_le _)) (hmask 8 le_rfl)

theorem sessionAt_nextJobId (s : JpegObj) (sessionId : ℕ) :
    sessionAt (s.nextJobId sessionId) = sessionAt sessionId := sessionAt_or_shift _ _

theorem Numbered.enqueueJob (hs : s.Numbered) {job : EncodeJob} {jobId sem : ℕ}
    (inTable : (sessionAt jobId).InTable) (named : sessionAt jobId = sessionAt job.sessionId) :
    Numbered { s with
      todo := s.todo ++ [⟨job, jobId, s.accepted + 1⟩]
      accepted := s.accepted + 1
      jobSem := sem } := by
  have hnew : s.queued (s.accepted + 1) = 0 := by
    by_contra hne
    exact absurd (hs.range _ hne).2 (Nat.not_succ_le_self _)
  have hqueued : ∀ k, queued { s with
      todo := s.todo ++ [⟨job, jobId, s.accepted + 1⟩]
      accepted := s.accepted + 1
      jobSem := sem } k = s.queued k + if k = s.accepted + 1 then 1 else 0 := by
    intro k
    simp only [queued, tally_append, tally_cons, tally_nil, count_singleton', eq_comm]
    omega
  refine ⟨fun k => ?_, fun k hk => ?_, fun r => ?_, fun r => (hs.fresh r).trans (Nat.le_succ _),
    hs.distinct, fun j hj => ?_⟩
  · rw [hqueued]
    split_ifs with heq
    · rw [heq, hnew]
    · exact hs.once k
  · rw [hqueued] at hk
    split_ifs at hk with heq
    · exact ⟨by omega, heq.le⟩
    · obtain ⟨h₁, h₂⟩ := hs.range k hk
      exact ⟨h₁, h₂.trans (Nat.le_succ _)⟩
  · have hr := hs.fresh r
    dsimp only
    rw [tally_append, hs.bound r, tally_cons, tally_nil, count_eq_zero_of_not_mem fun h =>
      absurd (mem_singleton.mp h) (show (s.session r).job ≠ s.accepted + 1 by omega)]
  · rcases hj with hj | hj
    · rcases mem_append.mp hj with hj | hj
      · exact hs.named j (.inl hj)
      · rw [mem_singleton.mp hj]
        exact ⟨inTable, named⟩
    · exact hs.named j (.inr hj)

theorem Numbered.startCounted (hs : s.Numbered) (job : EncodeJob) (mem : Mem) :
    (s.startCounted job mem).Numbered := by
  have hcases := startCounted_cases s job mem
  generalize s.startCounted job mem = t at hcases
  rcases hcases with ⟨w, _⟩ | ⟨w, _, _, _⟩ | ⟨w, _⟩ | ⟨w, htable, _⟩
  · exact hs.frame (frame_workBufCnt s w)
  · exact hs.shrinks ⟨.refl _, .refl _, Nat.le_succ _, fun _ => .inl rfl⟩
  · exact hs.frame ((frame_workBufCnt s w).trans (frame_countJob _ _))
  · have h := hs.frame ((frame_workBufCnt s w).trans (frame_countJob _ (sessionAt job.sessionId)))
    have hid := sessionAt_nextJobId s job.sessionId
    exact h.enqueueJob (by rw [hid]; exact htable) hid

theorem shrinks_abortJob (s : JpegObj) (jobId : ℕ) (sent : SessionPtr → Bool) :
    Shrinks s (s.abortJob jobId sent) := by
  have hcases := abortJob_cases s jobId sent
  generalize s.abortJob jobId sent = t at hcases
  rcases hcases with _ | _ | _
  · exact ⟨takeOut_sublist _ _ _, .refl _, le_rfl, fun _ => .inl rfl⟩
  · exact ⟨.refl _, takeOut_sublist _ _ _, le_rfl, fun _ => .inl rfl⟩
  · exact (Frame.refl s).shrinks

/-! ## The manager -/

theorem Frame.of_pc (s : JpegObj) (pc : MgrPc) : Frame s { s with pc := pc } :=
  ⟨rfl, rfl, rfl, rfl, rfl, fun _ => .inl rfl⟩

theorem frame_wake (h : s.wake = some t) : Frame s t := by
  unfold wake at h
  split_ifs at h
  cases h
  exact ⟨rfl, rfl, rfl, rfl, rfl, fun _ => .inl rfl⟩

theorem frame_look (h : s.look = some t) : Frame s t := by
  unfold look at h
  split_ifs at h <;> cases h <;> exact .of_pc s _

theorem Assigned.number {b : Bool} (h : Assigned s r j b o j') : j'.number = j.number := by
  cases h <;> rfl

theorem Assigned.jobId {b : Bool} (h : Assigned s r j b o j') : j'.jobId = j.jobId := by
  cases h <;> rfl

theorem Assigned.sessionId {b : Bool}
    (h : Assigned s r j b o j') : j'.encodeJob.sessionId = j.encodeJob.sessionId := by
  cases h <;> rfl

theorem shrinks_jobDone (h : s.jobDone r mem = some t) : Shrinks s t := by
  rw [jobDone_eq h]
  refine ⟨.refl _, takeOut_sublist _ _ _, le_rfl, fun b => .inl ?_⟩
  by_cases hb : b = r
  · rw [hb]
    dsimp only
    rw [Function.update_self]
  · dsimp only
    rw [Function.update_of_ne hb]

theorem Numbered.bindJob (hs : s.Numbered) {rest : List JobNode}
    (todo : s.todo = j :: rest) (number : j'.number = j.number)
    (named : sessionAt j'.jobId = sessionAt j.jobId ∧
      sessionAt j'.encodeJob.sessionId = sessionAt j.encodeJob.sessionId)
    (todo' : t.todo = rest) (ongoing : t.ongoing = s.ongoing ++ [j'])
    (accepted : t.accepted = s.accepted) (job : (t.session r).job = j.number)
    (others : ∀ b, b ≠ r → (t.session b).job = (s.session b).job) : t.Numbered := by
  have hqueued : ∀ k, t.queued k = s.queued k := by
    intro k
    unfold queued
    rw [todo', ongoing, todo, tally_append, tally_cons, tally_cons, tally_nil, number]
    omega
  have hnumber : s.queued j.number = 1 + (tally (fun j => [j.number]) j.number rest +
      tally (fun j => [j.number]) j.number s.ongoing) := by
    unfold queued
    rw [todo, tally_cons, count_singleton_self]
    omega
  -- no session was bound to a job that was to do
  have hnot : ∀ b, (s.session b).job ≠ j.number := by
    intro b hb
    have := hs.bound b
    rw [todo, tally_cons, hb, count_singleton_self] at this
    omega
  obtain ⟨h₁, h₂⟩ := hs.range j.number (by omega)
  have honce := hs.once j.number
  refine ⟨fun k => hqueued k ▸ hs.once k, fun k hk => ?_, fun b => ?_, fun b => ?_,
    fun b c heq hne => ?_, fun i hi => ?_⟩
  · rw [accepted]
    exact hs.range k (hqueued k ▸ hk)
  · rw [todo']
    by_cases hb : b = r
    · rw [hb, job]
      omega
    · have := hs.bound b
      rw [todo, tally_cons] at this
      rw [others b hb]
      omega
  · rw [accepted]
    by_cases hb : b = r
    · rw [hb, job]
      exact h₂
    · rw [others b hb]
      exact hs.fresh b
  · by_cases hb : b = r
    · by_cases hc : c = r
      · rw [hb, hc]
      · rw [hb, job, others c hc] at heq
        exact absurd heq.symm (hnot c)
    · rw [others b hb] at heq hne
      by_cases hc : c = r
      · rw [hc, job] at heq
        exact absurd heq (hnot b)
      · rw [others c hc] at heq
        exact hs.distinct b c heq hne
  · have hj := hs.named j (.inl (todo ▸ mem_cons_self))
    rcases hi with hi | hi
    · exact hs.named i (.inl (todo ▸ mem_cons_of_mem _ (todo' ▸ hi)))
    · rcases mem_append.mp (ongoing ▸ hi) with hi | hi
      · exact hs.named i (.inr hi)
      · rw [mem_singleton.mp hi, named.1, named.2]
        exact hj

theorem Numbered.pick (hs : s.Numbered) (h : s.pick mem = some t) : t.Numbered := by
  obtain ⟨-, hpicked⟩ := pick_cases h
  rcases hpicked with htodo | ⟨htodo, hnamed⟩ | ⟨htodo, hnamed, hq, hidle⟩ |
    ⟨htodo, hnamed, hq, hidle, hplaced⟩
  · exact hs.frame (.of_pc s _)
  · exact hs.shrinks ⟨htodo ▸ sublist_cons_self _ _, .refl _, le_rfl, fun _ => .inl rfl⟩
  · refine hs.shrinks ⟨?_, .refl _, le_rfl, fun _ => .inl rfl⟩
    rw [htodo]
    split_ifs
    · exact .refl _
    · exact sublist_cons_self _ _
  · rename_i j rest a r q l
    have hdequeued : ∀ b o, Shrinks s ((s.dequeued rest q l).setUp r b o) := by
      intro b o
      refine ⟨htodo ▸ sublist_cons_self _ _, .refl _, le_rfl, fun c => .inl ?_⟩
      simp only [setUp, dequeued, setSession]
      by_cases hc : c = r
      · rw [hc, Function.update_self]
      · rw [Function.update_of_ne hc]
    rcases hplaced with ⟨o, _, _, _, _⟩ | ⟨hassigned, _⟩ | ⟨hassigned, _, hdone⟩
    · exact hs.shrinks (hdequeued _ _)
    · refine hs.bindJob (r := r) htodo hassigned.number
        ⟨by rw [hassigned.jobId], by rw [hassigned.sessionId]⟩ rfl rfl rfl ?_ fun b hb => ?_
      · simp only [bind, setSession, Function.update_self]
        exact hassigned.number
      · simp only [bind, setUp, dequeued, setSession, Function.update_of_ne hb]
    · exact hs.shrinks ((hdequeued _ _).trans (shrinks_jobDone hdone))

/-! ## The ends of jobs -/

theorem frame_setFlags (s : JpegObj) (f : SessionPtr → Flags) (i : Option SessionPtr) (pc : MgrPc) :
    Frame s (s.setFlags f i pc) := ⟨rfl, rfl, rfl, rfl, rfl, fun _ => .inl rfl⟩

theorem shrinks_endJob {status : JobStatus} (h : s.endJob r status mem = some t) : Shrinks s t := by
  unfold endJob at h
  split_ifs at h
  · have hcall : Shrinks s (s.callback r status) := ⟨.refl _, .refl _, le_rfl, fun _ => .inl rfl⟩
    exact hcall.trans (shrinks_jobDone h)
  · exact shrinks_jobDone h

theorem Encoding.shrinks {op : JpegOp} (h : s.Encoding op t) : Shrinks s t := by
  rcases h with ⟨f, i, pc, -, -, -⟩ | ⟨f, i, pc, -, -, -, hdone⟩
  · exact (frame_setFlags s f i pc).shrinks
  · exact (frame_setFlags s f i pc).shrinks.trans (shrinks_endJob hdone)

end JpegObj

open JpegObj

variable {s t : JpegObj} {op : JpegOp}

/-- **Every step keeps the numbers of the jobs.** -/
theorem JpegOp.Step.numbered (h : op.Step s t) (hs : s.Numbered) : t.Numbered := by
  cases h.outcome with
  | newClient count => exact hs.frame (frame_newClient s count)
  | createSession _ created => exact hs.frame ((createSession_setsUp created).frame)
  | startJob job mem => exact hs.startCounted job mem
  | abortJob jobId sent _ => exact hs.shrinks (shrinks_abortJob s jobId sent)
  | destroySession _ _ destroyed =>
    exact (hs.shrinks (shrinks_removeJobs s _)).frame (frame_destroySession destroyed)
  | unknownSession => exact hs
  | close clientHdl sent _ => exact hs.shrinks (shrinks_close s clientHdl sent)
  | wake woken => exact hs.frame (frame_wake woken)
  | look looked => exact hs.frame (frame_look looked)
  | pick picked => exact hs.pick picked
  | encoding _ encoding => exact hs.shrinks encoding.shrinks

theorem numbered_init (concurrent : ℕ) (reuse : Bool) :
    Numbered (.init concurrent reuse) := by
  refine ⟨fun k => Nat.zero_le _, fun k hk => absurd rfl hk, fun r => rfl, fun r => le_rfl,
    fun r b _ hne => absurd rfl hne, fun j hj => ?_⟩
  rcases hj with hj | hj <;> cases hj

/-- **The jobs in every run**, whatever fails and whatever is aborted, destroyed or closed. -/
theorem jobs_numbered {concurrent : ℕ} {reuse : Bool} {ops : List JpegOp}
    (h : Run JpegOp.Step ops (.init concurrent reuse) s) : s.Numbered :=
  h.invariant (fun _ _ _ hstep hs => hstep.numbered hs) (numbered_init concurrent reuse)

/-- One job is encoded, and the next one is to do. -/
theorem jobs_numbered_two : ∃ s : JpegObj, s.Numbered ∧ s.ongoing.length = 1 ∧ s.todo.length = 1 := by
  obtain ⟨s, hrun, hqueued⟩ : ∃ s, Run JpegOp.Step [.newClient 1, .createSession 512
      { numSrcBufs := 1, numDstBufs := 1, jpegCb := true } {} fun _ => {},
      .startJob { sessionId := 0x1000000, dstIndex := -1 } {},
      .startJob { sessionId := 0x1000000, dstIndex := -1 } {}, .wake, .look, .pick {}]
      (.init 1 false) s ∧ s.ongoing.length = 1 ∧ s.todo.length = 1 := ⟨_, .of_execAll rfl, rfl, rfl⟩
  exact ⟨s, jobs_numbered hrun, hqueued⟩

end MmJpeg
