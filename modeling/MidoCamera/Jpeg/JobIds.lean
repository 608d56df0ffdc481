import MidoCamera.Jpeg.Groups

/-!
# The ids of the jobs

A job id is the id of the session, with a count of the jobs of the session from bit 16 on. The count
goes up to `JOB_HIST_MAX`, and so to bit 29 of the id; but bit 24 is that of `JOB_ID_MAGICVAL`,
which is set in every session id. Two counts that differ in their bit 8 alone give one id. The
client and the session are read back from every id.

`job_hist` is not set back by `mm_jpeg_create_session`. It starts anew where the entry is zeroed
with those of its client, and it wraps.
-/

namespace MmJpeg

open Loop Nat

namespace JpegObj

/-- A job for which `mm_jpeg_start_job` returns 0 and which is queued: the id that it gets. -/
def acceptJob (s : JpegObj) (job : EncodeJob) (mem : Mem) : Option ℕ :=
  let (rc, t) := s.startJob job mem
  if rc = 0 then t.todo[s.todo.length]?.map JobNode.jobId else none

/-- `mm_jpeg_start_job` comes to `job_hist++`. -/
def CountsJob (s : JpegObj) (job : EncodeJob) (mem : Mem) : Prop :=
  (sessionAt job.sessionId).InTable ∧ (s.jobWorkbuffer job mem.work).1 = true ∧ s.Startable job ∧
    mem.node = true

instance (s : JpegObj) (job : EncodeJob) (mem : Mem) : Decidable (s.CountsJob job mem) :=
  inferInstanceAs (Decidable (_ ∧ _ ∧ _ ∧ _))

end JpegObj

def JpegOp.Counts (s : JpegObj) (r : SessionPtr) : JpegOp → Prop
  | .startJob job mem => sessionAt job.sessionId = r ∧ s.CountsJob job mem
  | _ => False

instance (s : JpegObj) (r : SessionPtr) (op : JpegOp) : Decidable (op.Counts s r) :=
  match op with
  | .startJob _ _ => inferInstanceAs (Decidable (_ ∧ _))
  | .newClient _ | .createSession _ _ _ _ | .abortJob _ _ | .destroySession _ _ | .close _ _
  | .wake | .look | .pick _ | .configure _ _ | .submit _ _ | .fbd _ _ | .eventHandler _ _ _ =>
    .isFalse id

/-- A step that zeroes the entry of a session, with those of its client. -/
def JpegOp.Clears (s : JpegObj) (r : SessionPtr) : JpegOp → Prop
  | .newClient _ => s.numClients < maxJpegClientNum ∧
    ((List.range maxJpegClientNum).find? fun idx => !(s.client idx).isUsed) = some r.clientIdx
  | .close clientHdl _ => getIndexByHandler clientHdl = r.clientIdx
  | _ => False

/-- A step that leaves the session what it is: its entry is not zeroed. -/
def JpegOp.SameSession (r : SessionPtr) (op : JpegOp) (s t : JpegObj) : Prop :=
  op.Step s t ∧ ¬op.Clears s r

/-- How many jobs a session counts over the steps of a list. -/
def submissions (r : SessionPtr) : JpegObj → List JpegOp → ℕ
  | _, [] => 0
  | s, op :: ops => (if op.Counts s r then 1 else 0) +
    match op.exec s with
    | some t => submissions r t ops
    | none => 0

/-- **The counts that give one id**: the first is that of the first job, and the second that of a
job which is fewer than `JOB_HIST_MAX` submissions later. They differ by 256, and the lower one has
no bit 8; or, if `job_hist` wraps between them, they may be equal too. -/
def Clash (hist apart : ℕ) : Prop :=
  let count := hist % jobHistMax
  let wrap := 2 ^ 32 % jobHistMax
  (hist + apart < 2 ^ 32 ∧
    (apart = 256 ∧ count + 256 < jobHistMax ∧ count % 512 < 256 ∨
      apart + 256 = jobHistMax ∧ 256 ≤ count % 512)) ∨
  (2 ^ 32 ≤ hist + apart ∧ count < wrap ∧
    (apart = wrap ∨ apart = wrap + 256 ∧ count % 512 < 256 ∨
      apart + 256 = wrap ∧ 256 ≤ count % 512))

/-! ## What an id tells -/

theorem or_bit_inj (a b : ℕ) : a ||| 2 ^ 8 = b ||| 2 ^ 8 ↔ a / 512 = b / 512 ∧ a % 256 = b % 256 := by
  constructor
  · intro h
    have hbit : ∀ i, i ≠ 8 → a.testBit i = b.testBit i := by
      intro i hi
      have h := congrArg (testBit · i) h
      simp only [testBit_or, testBit_two_pow_of_ne hi.symm, Bool.or_false] at h
      exact h
    constructor
    · refine eq_of_testBit_eq fun i => ?_
      rw [show (512 : ℕ) = 2 ^ 9 from rfl, testBit_div_two_pow, testBit_div_two_pow]
      exact hbit _ (by omega)
    · refine eq_of_testBit_eq fun i => ?_
      rw [show (256 : ℕ) = 2 ^ 8 from rfl, testBit_mod_two_pow, testBit_mod_two_pow]
      by_cases hi : i < 8
      · rw [hbit i hi.ne]
      · rw [decide_eq_false hi, Bool.false_and, Bool.false_and]
  · rintro ⟨hhigh, hlow⟩
    refine eq_of_testBit_eq fun i => ?_
    rw [testBit_or, testBit_or]
    rcases lt_trichotomy i 8 with hi | rfl | hi
    · have h := congrArg (testBit · i) hlow
      simp only [show (256 : ℕ) = 2 ^ 8 from rfl, testBit_mod_two_pow, hi, decide_true,
        Bool.true_and] at h
      rw [h]
    · rw [testBit_two_pow_self, Bool.or_true, Bool.or_true]
    · have h := congrArg (testBit · (i - 9)) hhigh
      simp only [show (512 : ℕ) = 2 ^ 9 from rfl, testBit_div_two_pow] at h
      rw [show i - 9 + 9 = i by omega] at h
      rw [h]

theorem idOf_or (r : SessionPtr) (count : ℕ) : JpegObj.idOf r ||| (count <<< 16) =
    ((r.sessionIdx <<< 8) ||| r.clientIdx) ||| ((count ||| 2 ^ 8) <<< 16) := by
  rw [shiftLeft_or_distrib]
  show ((2 ^ 8 <<< 16) ||| _ ||| _) ||| _ = _
  rw [Nat.or_assoc (2 ^ 8 <<< 16), Nat.or_comm (2 ^ 8 <<< 16), Nat.or_assoc,
    Nat.or_comm (2 ^ 8 <<< 16)]

/-- **The counts that an id tells apart** are those that differ otherwise than in bit 8. -/
theorem idOf_or_inj {r : SessionPtr} (h : r.InTable) (a b : ℕ) :
    JpegObj.idOf r ||| (a <<< 16) = JpegObj.idOf r ||| (b <<< 16) ↔
      a / 512 = b / 512 ∧ a % 256 = b % 256 := by
  rw [idOf_or, idOf_or, ← or_bit_inj]
  constructor
  · intro h'
    -- the indices are below the count
    have hlow : ((r.sessionIdx <<< 8) ||| r.clientIdx) >>> 16 = 0 := by
      obtain ⟨hsession, hclient⟩ := h
      unfold maxSession at hsession
      unfold maxJpegClientNum at hclient
      rw [shiftRight_eq_div_pow]
      refine div_eq_of_lt (or_lt_two_pow ?_ (by omega))
      rw [shiftLeft_eq]
      omega
    have h := congrArg (· >>> 16) h'
    simp only [shiftRight_or_distrib, hlow, zero_or, shiftLeft_shiftRight] at h
    exact h
  · intro h'
    rw [h']

/-! ## The counts over a run -/

namespace JpegObj

variable {s t u : JpegObj} {r : SessionPtr} {p : JobSession} {mem : Mem}

def KeepsHist (s t : JpegObj) : Prop := ∀ r, (t.session r).jobHist = (s.session r).jobHist

theorem KeepsHist.refl (s : JpegObj) : KeepsHist s s := fun _ => rfl

theorem KeepsHist.trans (h : KeepsHist s t) (h' : KeepsHist t u) : KeepsHist s u :=
  fun r => (h' r).trans (h r)

theorem keepsHist_setSession (h : p.jobHist = (s.session r).jobHist) :
    KeepsHist s (s.setSession r p) := by
  intro b
  by_cases hb : b = r
  · rw [hb, setSession_self, h]
  · rw [setSession_other p hb]

theorem KeepsHist.update (session : t.session = Function.update s.session r p)
    (h : p.jobHist = (s.session r).jobHist) : KeepsHist s t :=
  fun b => session ▸ keepsHist_setSession h b

theorem SetsUp.keepsHist (h : SetsUp s t) : KeepsHist s t := by
  obtain ⟨_, _, _, _, _, _, _, _, rfl, hsessions⟩ := h
  exact fun r => (hsessions r).2

theorem keepsHist_destroySession {sent : SessionPtr → Bool} (h : s.destroySession r sent = some t) :
    KeepsHist s t := by
  obtain ⟨f, g, o, a, i, n, htear⟩ := tearDown_eq s r sent
  have hkeep : KeepsHist s (s.tearDown r sent) := by
    rw [htear]
    exact .refl s
  obtain ⟨q, q', -, -, -, rfl⟩ := freeQueues_eq h
  exact hkeep.trans (.update rfl rfl)

theorem keepsHist_abortSessions (s : JpegObj) (clntIdx : ℕ) (sent : SessionPtr → Bool) :
    KeepsHist s (s.abortSessions clntIdx sent) := by
  unfold abortSessions
  generalize List.range maxSession = l
  induction l generalizing s with
  | nil => exact .refl s
  | cons i l ih =>
    rw [List.foldl_cons]
    split_ifs
    · refine KeepsHist.trans ?_ (ih _)
      obtain ⟨f, h⟩ := sessionAbort_eq sent fuel
        (s.removeJobs (s.session ⟨clntIdx, i⟩).sessionId) ⟨clntIdx, i⟩
      unfold destroySessionUnlocked
      rw [h]
      exact .refl s
    · exact ih s

theorem keepsHist_abortJob (s : JpegObj) (jobId : ℕ) (sent : SessionPtr → Bool) :
    KeepsHist s (s.abortJob jobId sent) := by
  have hcases := abortJob_cases s jobId sent
  generalize s.abortJob jobId sent = t at hcases
  rcases hcases with _ | _ | _ <;> exact .refl s

theorem keepsHist_jobDone (h : s.jobDone r mem = some t) : KeepsHist s t := by
  rw [jobDone_eq h]
  exact .update rfl rfl

theorem keepsHist_pick (h : s.pick mem = some t) : KeepsHist s t := by
  obtain ⟨-, hpicked⟩ := pick_cases h
  rcases hpicked with htodo | ⟨htodo, hnamed⟩ | ⟨htodo, hnamed, hq, hidle⟩ |
    ⟨htodo, hnamed, hq, hidle, hplaced⟩
  · exact .refl s
  · exact .refl s
  · exact .refl s
  · rename_i j rest a r q l
    have hsetUp : ∀ b o, KeepsHist s ((s.dequeued rest q l).setUp r b o) := fun b o => .update rfl rfl
    rcases hplaced with ⟨o, _, _, _, _⟩ | ⟨_, _⟩ | ⟨_, _, hdone⟩
    · exact hsetUp _ _
    · exact (hsetUp _ _).trans (.update rfl rfl)
    · exact (hsetUp _ _).trans (keepsHist_jobDone hdone)

theorem Encoding.keepsHist {op : JpegOp} (h : s.Encoding op t) : KeepsHist s t := by
  rcases h with ⟨f, i, pc, -, -, -⟩ | ⟨f, i, pc, -, -, -, hdone⟩
  · exact .refl s
  · have hset : KeepsHist s (s.setFlags f i pc) := .refl s
    rw [endJob_eq hdone]
    exact hset.trans (.update rfl rfl)

theorem startJob_of_counts {job : EncodeJob} (h : s.CountsJob job mem) :
    ∃ w, s.startJob job mem =
      let t := ({ s with workBufCnt := w } : JpegObj).countJob (sessionAt job.sessionId)
      if mem.todo then (0, t.enqueueJob job (s.nextJobId job.sessionId)) else (-1, t) := by
  obtain ⟨htable, hok, hstart, hnode⟩ := h
  obtain ⟨w, hw, -⟩ := jobWorkbuffer_eq s job mem.work
  refine ⟨w, ?_⟩
  unfold startJob
  rw [if_neg (not_not_intro htable)]
  dsimp only
  rw [hw, hok, Bool.not_true, if_neg Bool.false_ne_true,
    if_neg (show ¬¬({ s with workBufCnt := w } : JpegObj).Startable job from not_not_intro hstart),
    hnode, Bool.not_true, if_neg Bool.false_ne_true]
  rfl

theorem startJob_of_not {job : EncodeJob} (h : ¬s.CountsJob job mem) :
    ∃ rc w, s.startJob job mem = (rc, { s with workBufCnt := w }) := by
  unfold startJob
  by_cases htable : (sessionAt job.sessionId).InTable
  · rw [if_neg (not_not_intro htable)]
    obtain ⟨w, hw, -⟩ := jobWorkbuffer_eq s job mem.work
    dsimp only
    rw [hw]
    by_cases hok : (s.jobWorkbuffer job mem.work).1 = true
    · rw [hok, Bool.not_true, if_neg Bool.false_ne_true]
      by_cases hstart : s.Startable job
      · have hnode : ¬mem.node = true := fun hnode => h ⟨htable, hok, hstart, hnode⟩
        rw [if_neg (show ¬¬({ s with workBufCnt := w } : JpegObj).Startable job from
          not_not_intro hstart), if_pos (by simpa using hnode)]
        exact ⟨_, w, rfl⟩
      · rw [if_pos (show ¬({ s with workBufCnt := w } : JpegObj).Startable job from hstart)]
        exact ⟨_, w, rfl⟩
    · rw [if_pos (by simpa using hok)]
      exact ⟨_, w, rfl⟩
  · rw [if_pos htable]
    exact ⟨_, s.workBufCnt, rfl⟩

theorem jobHist_countJob (s : JpegObj) (a r : SessionPtr) : ((s.countJob a).session r).jobHist =
    if a = r then ((s.session r).jobHist + 1) % 2 ^ 32 else (s.session r).jobHist := by
  split_ifs with hr
  · rw [hr, countJob, setSession_self]
  · rw [countJob, setSession_other _ (Ne.symm hr)]

/-- **A job is started**: its session counts it, if the call comes so far. -/
theorem jobHist_startCounted (s : JpegObj) (job : EncodeJob) (mem : Mem) (r : SessionPtr) :
    ((s.startCounted job mem).session r).jobHist =
      if sessionAt job.sessionId = r ∧ s.CountsJob job mem then ((s.session r).jobHist + 1) % 2 ^ 32
      else (s.session r).jobHist := by
  have hsession : (s.startCounted job mem).session = (s.startJob job mem).2.session := by
    unfold startCounted
    dsimp only
    split_ifs <;> rfl
  rw [hsession]
  by_cases hcount : s.CountsJob job mem
  · obtain ⟨w, h⟩ := startJob_of_counts hcount
    simp only [hcount, and_true]
    rw [h, ← jobHist_countJob]
    dsimp only
    split_ifs <;> rfl
  · obtain ⟨rc, w, h⟩ := startJob_of_not hcount
    rw [h, if_neg fun h => hcount h.2]

theorem acceptJob_eq {job : EncodeJob} {id : ℕ} (h : s.acceptJob job mem = some id) :
    s.CountsJob job mem ∧ id = s.nextJobId job.sessionId := by
  unfold acceptJob at h
  dsimp only at h
  split_ifs at h with hrc
  by_cases hcount : s.CountsJob job mem
  · obtain ⟨w, hstart⟩ := startJob_of_counts hcount
    rw [hstart] at h hrc
    dsimp only at h hrc
    split_ifs at h hrc
    · refine ⟨hcount, ?_⟩
      simp only [enqueueJob, countJob, setSession, List.getElem?_concat_length, Option.map_some,
        Option.some.injEq] at h
      exact h.symm
    · cases hrc
  · -- nothing is queued
    obtain ⟨rc, w, hstart⟩ := startJob_of_not hcount
    rw [hstart] at h
    simp at h

theorem jobHist_newClient (s : JpegObj) (count : ℕ) (r : SessionPtr) :
    ((JpegOp.newClient count).Clears s r ∧ ((s.newClient count).2.session r).jobHist = 0) ∨
      ((s.newClient count).2.session r).jobHist = (s.session r).jobHist := by
  unfold newClient
  split_ifs with hfull
  · exact .inr rfl
  · split
    · rename_i idx hidx
      dsimp only [zeroSessions]
      split_ifs with hzero
      · exact .inl ⟨⟨not_le.mp hfull, hzero.1 ▸ hidx⟩, rfl⟩
      · exact .inr rfl
    · exact .inr rfl

theorem jobHist_close (s : JpegObj) (clientHdl : ℕ) (sent : SessionPtr → Bool) (r : SessionPtr) :
    ((JpegOp.close clientHdl sent).Clears s r ∧
      ((s.close clientHdl sent).2.session r).jobHist = 0) ∨
      ((s.close clientHdl sent).2.session r).jobHist = (s.session r).jobHist := by
  unfold close
  dsimp only
  split_ifs with hidx
  · exact .inr rfl
  · have hkeep := keepsHist_abortSessions s (getIndexByHandler clientHdl) sent r
    dsimp only [zeroSessions]
    split_ifs with hzero
    · exact .inl ⟨hzero.1.symm, rfl⟩
    · exact .inr hkeep

theorem keepsHist_wake (h : s.wake = some t) : KeepsHist s t := by
  unfold wake at h
  split_ifs at h
  cases h
  exact .refl s

theorem keepsHist_look (h : s.look = some t) : KeepsHist s t := by
  unfold look at h
  split_ifs at h <;> cases h <;> exact .refl s

end JpegObj

open JpegObj

variable {s t : JpegObj} {r : SessionPtr} {op : JpegOp}

/-- **A step counts a job of a session**, or zeroes its entry, or leaves the count as it is. -/
theorem JpegOp.Step.jobHist (h : op.Step s t) (r : SessionPtr) :
    (op.Clears s r ∧ (t.session r).jobHist = 0) ∨ (t.session r).jobHist =
      if op.Counts s r then ((s.session r).jobHist + 1) % 2 ^ 32 else (s.session r).jobHist := by
  cases h.outcome with
  | newClient count =>
    exact (jobHist_newClient s count r).imp_right fun h => h.trans (if_neg id).symm
  | createSession _ created =>
    exact .inr (((createSession_setsUp created).keepsHist r).trans (if_neg id).symm)
  | startJob job mem => exact .inr (jobHist_startCounted s job mem r)
  | abortJob jobId sent _ =>
    exact .inr ((keepsHist_abortJob s jobId sent r).trans (if_neg id).symm)
  | destroySession _ _ destroyed =>
    exact .inr ((keepsHist_destroySession destroyed r).trans (if_neg id).symm)
  | unknownSession => exact .inr (if_neg id).symm
  | close clientHdl sent _ =>
    exact (jobHist_close s clientHdl sent r).imp_right fun h => h.trans (if_neg id).symm
  | wake woken => exact .inr ((keepsHist_wake woken r).trans (if_neg id).symm)
  | look looked => exact .inr ((keepsHist_look looked r).trans (if_neg id).symm)
  | pick picked => exact .inr ((keepsHist_pick picked r).trans (if_neg id).symm)
  | encoding encodes encoding =>
    have hnot : ¬op.Counts s r := by
      cases op with
      | startJob job mem => exact encodes.elim
      | _ => exact id
    exact .inr ((encoding.keepsHist r).trans (if_neg hnot).symm)

theorem jobHist_lt {concurrent : ℕ} {reuse : Bool} {ops : List JpegOp}
    (h : Run JpegOp.Step ops (.init concurrent reuse) s) (r : SessionPtr) :
    (s.session r).jobHist < 2 ^ 32 := by
  have hkeep : ∀ (op : JpegOp) (s t : JpegObj), op.Step s t → (s.session r).jobHist < 2 ^ 32 →
      (t.session r).jobHist < 2 ^ 32 := by
    intro op s t h hlt
    rcases h.jobHist r with ⟨-, hzero⟩ | hcount
    · rw [hzero]
      exact Nat.two_pow_pos 32
    · rw [hcount]
      split_ifs
      · exact mod_lt _ (Nat.two_pow_pos 32)
      · exact hlt
  exact h.invariant hkeep (Nat.two_pow_pos 32)

theorem jobHist_run {ops : List JpegOp} (h : Run (JpegOp.SameSession r) ops s t)
    (small : (s.session r).jobHist < 2 ^ 32) :
    (t.session r).jobHist = ((s.session r).jobHist + submissions r s ops) % 2 ^ 32 := by
  induction h with
  | nil s => exact (mod_eq_of_lt small).symm
  | @cons op ops s t u hstep hrest ih =>
    have hcount : (t.session r).jobHist = ((s.session r).jobHist +
        if op.Counts s r then 1 else 0) % 2 ^ 32 := by
      rcases hstep.1.jobHist r with ⟨hclear, -⟩ | hcount
      · exact absurd hclear hstep.2
      · rw [hcount]
        split_ifs
        · rfl
        · exact (mod_eq_of_lt small).symm
    have hlt : (t.session r).jobHist < 2 ^ 32 := by
      rw [hcount]
      exact mod_lt _ (Nat.two_pow_pos 32)
    have hexec : op.exec s = some t := hstep.1
    rw [ih hlt, hcount, submissions, hexec, mod_add_mod, Nat.add_assoc]

theorem bits_eq_iff (a b : ℕ) : (a / 512 = b / 512 ∧ a % 256 = b % 256) ↔
    a = b ∨ (b = a + 256 ∧ a % 512 < 256) ∨ (a = b + 256 ∧ 256 ≤ a % 512) := by
  constructor
  · rintro ⟨hhigh, hlow⟩
    omega
  · rintro (rfl | ⟨rfl, h⟩ | ⟨rfl, h⟩)
    · exact ⟨rfl, rfl⟩
    · omega
    · omega

/-- **The clashes** are the counts that an id does not tell apart. -/
theorem clash_iff {hist apart : ℕ} (hhist : hist < 2 ^ 32) (hpos : 0 < apart)
    (hwindow : apart < jobHistMax) : Clash hist apart ↔
      hist % jobHistMax / 512 = (hist + apart) % 2 ^ 32 % jobHistMax / 512 ∧
        hist % jobHistMax % 256 = (hist + apart) % 2 ^ 32 % jobHistMax % 256 := by
  rw [bits_eq_iff]
  unfold Clash jobHistMax at *
  dsimp only
  generalize hcount : hist % 10000 = count
  generalize hcount' : (hist + apart) % 2 ^ 32 % 10000 = count'
  have hlt : count < 10000 := hcount ▸ mod_lt _ (by decide)
  rcases Nat.lt_or_ge (hist + apart) (2 ^ 32) with hnowrap | hwrap
  · rw [mod_eq_of_lt hnowrap] at hcount'
    have hlt' : count' < 10000 := hcount' ▸ mod_lt _ (by decide)
    rw [or_iff_left fun h => absurd h.1 (Nat.not_le.mpr hnowrap), and_iff_right hnowrap]
    -- the second count is higher, or `JOB_HIST_MAX` has been passed
    have hsum : count' = count + apart ∨ count' + 10000 = count + apart := by omega
    clear hcount hcount' hnowrap hhist
    rcases hsum with rfl | hsum
    · omega
    · omega
  · have hsum : (hist + apart) % 2 ^ 32 = hist + apart - 2 ^ 32 := by omega
    rw [hsum, mod_eq_of_lt (by omega)] at hcount'
    rw [or_iff_right fun h => absurd h.1 (Nat.not_lt.mpr hwrap), and_iff_right hwrap]
    -- the wrap takes 7296 from the count
    have hdiff : (count < 7296 ∧ count' + 7296 = count + apart) ∨
        (7296 ≤ count ∧ count' + 17296 = count + apart) := by
      clear hsum
      omega
    clear hsum hcount hcount' hwrap hhist
    rw [show 2 ^ 32 % 10000 = 7296 from rfl]
    rcases hdiff with ⟨hlow, hdiff⟩ | ⟨hhigh, hdiff⟩
    · rw [and_iff_right hlow]
      omega
    · omega

section Ids

variable {job job' : EncodeJob} {mem mem' : Mem} {id id' : ℕ}

/-- **When two jobs of a session have different ids**: unless their counts clash. The indices of the
session are read back from the ids in any case. -/
theorem jobIds_unique_iff {concurrent : ℕ} {reuse : Bool} {before ops : List JpegOp}
    (reach : Run JpegOp.Step before (.init concurrent reuse) s) (inTable : r.InTable)
    (first : s.acceptJob job mem = some id) (on : job.sessionId = idOf r)
    (run : Run (JpegOp.SameSession r) (.startJob job mem :: ops) s t)
    (second : t.acceptJob job' mem' = some id') (on' : job'.sessionId = idOf r)
    (window : submissions r s (.startJob job mem :: ops) < jobHistMax) :
    (id ≠ id' ∧ sessionAt id = r ∧ sessionAt id' = r) ↔
      ¬Clash (s.session r).jobHist (submissions r s (.startJob job mem :: ops)) := by
  have hsmall : (s.session r).jobHist < 2 ^ 32 := jobHist_lt reach r
  have hnamed := sessionAt_idOf inTable
  obtain ⟨hcounts, rfl⟩ := acceptJob_eq first
  obtain ⟨-, rfl⟩ := acceptJob_eq second
  rw [on, on']
  -- the first job is counted itself
  have hpos : 0 < submissions r s (.startJob job mem :: ops) := by
    have hfirst : (JpegOp.startJob job mem).Counts s r := ⟨by rw [on, hnamed], hcounts⟩
    rw [submissions, if_pos hfirst]
    omega
  have hsession : ∀ u : JpegObj, sessionAt (u.nextJobId (idOf r)) = r := fun u =>
    (sessionAt_nextJobId u (idOf r)).trans hnamed
  have hids : s.nextJobId (idOf r) = t.nextJobId (idOf r) ↔
      Clash (s.session r).jobHist (submissions r s (.startJob job mem :: ops)) := by
    rw [clash_iff hsmall hpos window, ← jobHist_run run hsmall, nextJobId, nextJobId, hnamed,
      idOf_or_inj inTable]
  rw [← hids]
  exact ⟨And.left, fun h => ⟨h, hsession s, hsession t⟩⟩

/-- The first two jobs of a session. -/
theorem jobIds_unique_firstTwo :
    let job : EncodeJob := { sessionId := 0x1000000 }
    let before : List JpegOp := [.newClient 1, .createSession 512
      { numSrcBufs := 1, numDstBufs := 1 } {} fun _ => {}]
    ∃ s t, Run JpegOp.Step before (.init 1 false) s ∧
      Run (JpegOp.SameSession ⟨0, 0⟩) [.startJob job {}] s t ∧
      s.acceptJob job {} = some 0x1000000 ∧ t.acceptJob job {} = some 0x1010000 ∧
      0x1000000 ≠ 0x1010000 := by
  intro job before
  obtain ⟨s, hreach, t, hrun, hfirst, hsecond, hhist⟩ : ∃ s,
      Run JpegOp.Step before (.init 1 false) s ∧ ∃ t,
      Run (JpegOp.SameSession ⟨0, 0⟩) [.startJob job {}] s t ∧
      s.acceptJob job {} = some 0x1000000 ∧ t.acceptJob job {} = some 0x1010000 ∧
      (s.session ⟨0, 0⟩).jobHist = 0 :=
    ⟨_, .of_execAll rfl, _, .one ⟨rfl, id⟩, by decide +kernel, by decide +kernel, by decide +kernel⟩
  have hcounts : (JpegOp.startJob job {}).Counts s ⟨0, 0⟩ := 
    ⟨by decide, (acceptJob_eq hfirst).1⟩
  have hapart : submissions ⟨0, 0⟩ s [.startJob job {}] = 1 := by
    rw [submissions, if_pos hcounts]
    rfl
  refine ⟨s, t, hreach, hrun, hfirst, hsecond, ?_⟩
  have hunique := (jobIds_unique_iff hreach (by decide) hfirst (by decide) hrun hsecond
    (by decide) (by rw [hapart]; decide)).mpr ?_
  · exact hunique.1
  · rw [hhist, hapart]
    unfold Clash jobHistMax
    omega

end Ids

/-- **Two jobs of a session have one id**: the first, and the one 256 submissions later. -/
theorem jobIds_clash :
    let job : EncodeJob := { sessionId := 0x1000000 }
    let after (n : ℕ) : Option JpegObj := execAll JpegOp.exec (.init 1 false)
      ([.newClient 1, .createSession 512 { numSrcBufs := 1, numDstBufs := 1 } {} fun _ => {}] ++
        List.replicate n (.startJob job {}))
    (after 0).map (submissions ⟨0, 0⟩ · (List.replicate 256 (.startJob job {}))) = some 256 ∧
      256 < jobHistMax ∧ (after 0).bind (·.acceptJob job {}) = some 0x1000000 ∧
      (after 256).bind (·.acceptJob job {}) = some 0x1000000 := by
  decide +kernel

end MmJpeg
