import MidoCamera.Jpeg.Groups

/-!
# Idle sessions and free output buffers

Each session of a group is in the queue of idle sessions, or bound to one ongoing job; and each
output buffer is in the queue of free ones, or held by one ongoing job. A job is bound to the
session that has its number.

The two queues lose an entry where the manager gives up a job for which there is no output buffer,
and gain one where a job is ended that is not the session's own ongoing one: the callbacks of OMX do
not look for it. A job whose client has chosen the output buffer holds one that is also in the
queue.
-/

namespace MmJpeg

open Loop Function List

/-- The output buffer of a job, as the queue of free ones has it. -/
def JobNode.outIndex (j : JobNode) : ℕ := (j.encodeJob.dstIndex + 1).toNat

namespace JpegObj

def BoundIn (s : JpegObj) (q : ℕ) (j : JobNode) : Prop :=
  ∃ r ∈ table, (s.session r).sessionHandleQ = some q ∧ (s.session r).job = j.number

instance (s : JpegObj) (q : ℕ) (j : JobNode) : Decidable (s.BoundIn q j) :=
  inferInstanceAs (Decidable (∃ r ∈ table, _ ∧ _))

/-- What a job stands for in a group: nothing, if it is not bound to a session of it. -/
def inGroup (s : JpegObj) (q : ℕ) (f : JobNode → ℕ) (j : JobNode) : List ℕ :=
  if s.BoundIn q j then [f j] else []

/-- **The sessions and output buffers of a group are each in one place**: a session is idle or has
its ongoing job, and an output buffer is free or held by an ongoing job. -/
structure Even (s : JpegObj) (q : ℕ) : Prop where
  handles : ∀ l r, s.handleQs q = some l → (s.session r).sessionHandleQ = some q →
    l.count r + tally (s.inGroup q JobNode.number) (s.session r).job s.ongoing = 1
  outs : ∀ n, (q, n) ∈ s.groups → ∃ l, s.outBufQs q = some l ∧
    ∀ i, l.count i + tally (s.inGroup q JobNode.outIndex) i s.ongoing = if 1 ≤ i ∧ i ≤ n then 1 else 0
  /-- The session of a job has it as it is ongoing, and is of the group it was started for. -/
  bound : ∀ r j, (s.session r).sessionHandleQ = some q → j ∈ s.ongoing →
    (s.session r).job = j.number → (s.session r).jobId = j.jobId ∧ (s.session r).autoOutBuf = true ∧
      (s.session r).encodeJob = j.encodeJob ∧
        (s.session (sessionAt j.jobId)).sessionHandleQ = some q

/-- Every group is even, and those that have been returned are there. -/
structure Balanced (s : JpegObj) : Prop where
  even : ∀ q, s.handleQs q ≠ none → s.Even q
  there : ∀ g ∈ s.groups, s.handleQs g.1 ≠ none

def freeEntries (s : JpegObj) (c : ℕ) : List SessionPtr :=
  ((List.range maxSession).map fun i => ⟨c, i⟩).filter fun r => !(s.session r).active

end JpegObj

/-- **The condition on a step** besides that it is orderly: the allocations succeed; once the first
session of a group is created, the others are; no ongoing job is aborted; a job that is taken leaves
the choice of the output buffer, and there is a free one; and a job that is ended is the session's
own one, and ongoing. -/
def JpegOp.Careful (s : JpegObj) : JpegOp → Prop
  | .createSession clientHdl params mem out => mem.handle = true ∧ mem.out = true ∧
    ∀ i, 0 < i → i < (if params.burstMode then s.concurrent else 1) → (out i).handle = true ∧
      i < (s.freeEntries (getIndexByHandler clientHdl)).length
  | .abortJob jobId _ => s.todo.find? (fun j => j.jobId == jobId) = none →
    s.ongoing.find? (fun j => j.jobId == jobId) = none
  | .pick mem => ∀ j ∈ s.todo.head?, ∀ r ∈ s.idleOf j,
    mem.ongoing = true ∧ j.encodeJob.dstIndex < 0 ∧ s.nextOut r ≠ 0
  | op => ∀ r mem, op.Ending s r mem → mem.handle = true ∧ mem.out = true ∧
    (s.running r).map JobNode.number = some (s.session r).job

namespace JpegObj

variable {s t u : JpegObj} {r : SessionPtr} {p : JobSession} {mem : Mem} {j : JobNode} {q n : ℕ}

/-! ## Steps that leave a group alone -/

/-- A step that leaves a group alone. -/
structure Keeps (s t : JpegObj) (q : ℕ) : Prop where
  member : ∀ b, (t.session b).sessionHandleQ = some q ↔ (s.session b).sessionHandleQ = some q
  fields : ∀ b, (s.session b).sessionHandleQ = some q → (t.session b).job = (s.session b).job ∧
    (t.session b).jobId = (s.session b).jobId ∧ (t.session b).autoOutBuf = (s.session b).autoOutBuf ∧
      (t.session b).encodeJob = (s.session b).encodeJob
  handleQs : t.handleQs q = s.handleQs q
  outBufQs : t.outBufQs q = s.outBufQs q
  groups : ∀ n, (q, n) ∈ t.groups → (q, n) ∈ s.groups
  ongoing : ∀ j ∈ t.ongoing, s.BoundIn q j → j ∈ s.ongoing
  jobs : ∀ (f : JobNode → ℕ) (k : ℕ),
    tally (s.inGroup q f) k t.ongoing = tally (s.inGroup q f) k s.ongoing

theorem boundIn_congr
    (member : ∀ b, (t.session b).sessionHandleQ = some q ↔ (s.session b).sessionHandleQ = some q)
    (job : ∀ b, (s.session b).sessionHandleQ = some q → (t.session b).job = (s.session b).job) :
    t.BoundIn q j ↔ s.BoundIn q j := by
  constructor
  · rintro ⟨b, hb, hq, hj⟩
    have hq' := (member b).mp hq
    exact ⟨b, hb, hq', job b hq' ▸ hj⟩
  · rintro ⟨b, hb, hq, hj⟩
    exact ⟨b, hb, (member b).mpr hq, (job b hq).trans hj⟩

theorem inGroup_congr {f : JobNode → ℕ}
    (member : ∀ b, (t.session b).sessionHandleQ = some q ↔ (s.session b).sessionHandleQ = some q)
    (job : ∀ b, (s.session b).sessionHandleQ = some q → (t.session b).job = (s.session b).job) :
    t.inGroup q f = s.inGroup q f := by
  funext j
  unfold inGroup
  simp only [boundIn_congr member job]

theorem Keeps.inGroup (h : Keeps s t q) (f : JobNode → ℕ) : t.inGroup q f = s.inGroup q f :=
  inGroup_congr h.member fun b hb => (h.fields b hb).1

theorem Keeps.even (h : Keeps s t q) (inTable : ∀ b, (s.session b).sessionHandleQ = some q → b ∈ table)
    (hs : s.Even q) : t.Even q := by
  refine ⟨fun l r hl hr => ?_, fun n hn => ?_, fun r j hr hj hjob => ?_⟩
  · have hr' := (h.member r).mp hr
    rw [h.inGroup, h.jobs, (h.fields r hr').1]
    exact hs.handles l r (h.handleQs ▸ hl) hr'
  · obtain ⟨l, hl, hcount⟩ := hs.outs n (h.groups n hn)
    refine ⟨l, h.outBufQs ▸ hl, fun i => ?_⟩
    rw [h.inGroup, h.jobs]
    exact hcount i
  · have hr' := (h.member r).mp hr
    obtain ⟨hjob', hid, hauto, henc⟩ := h.fields r hr'
    rw [hjob'] at hjob
    rw [hid, hauto, henc, h.member]
    exact hs.bound r j hr' (h.ongoing j hj ⟨r, inTable r hr', hr', hjob⟩) hjob

theorem Keeps.of_ongoing (handleQs : t.handleQs q = s.handleQs q)
    (outBufQs : t.outBufQs q = s.outBufQs q) (groups : ∀ n, (q, n) ∈ t.groups → (q, n) ∈ s.groups)
    (ongoing : t.ongoing = s.ongoing)
    (member : ∀ b, (t.session b).sessionHandleQ = some q ↔ (s.session b).sessionHandleQ = some q)
    (fields : ∀ b, (s.session b).sessionHandleQ = some q → (t.session b).job = (s.session b).job ∧
      (t.session b).jobId = (s.session b).jobId ∧
        (t.session b).autoOutBuf = (s.session b).autoOutBuf ∧
          (t.session b).encodeJob = (s.session b).encodeJob) : Keeps s t q :=
  ⟨member, fields, handleQs, outBufQs, groups, fun j hj _ => ongoing ▸ hj, fun f k => by rw [ongoing]⟩

theorem Tied.mem_table (hs : s.Tied) (hq : s.handleQs q ≠ none) (b : SessionPtr)
    (hb : (s.session b).sessionHandleQ = some q) : b ∈ table :=
  MmJpeg.mem_table.mpr (hs.named b (hs.live b q hb hq)).2

theorem Balanced.quiet (hs : s.Balanced) (ht : s.Tied) (handleQs : t.handleQs = s.handleQs)
    (outBufQs : t.outBufQs = s.outBufQs) (groups : t.groups = s.groups)
    (ongoing : t.ongoing = s.ongoing)
    (fields : ∀ b, (t.session b).sessionHandleQ = (s.session b).sessionHandleQ ∧
      (t.session b).job = (s.session b).job ∧ (t.session b).jobId = (s.session b).jobId ∧
        (t.session b).autoOutBuf = (s.session b).autoOutBuf ∧
          (t.session b).encodeJob = (s.session b).encodeJob) : t.Balanced := by
  refine ⟨fun q hq => ?_, fun g hg => ?_⟩
  · rw [handleQs] at hq
    refine Keeps.even (.of_ongoing (by rw [handleQs]) (by rw [outBufQs]) (fun n hn => groups ▸ hn)
      ongoing (fun b => ?_) fun b _ => (fields b).2) (ht.mem_table hq) (hs.even q hq)
    rw [(fields b).1]
  · rw [handleQs]
    exact hs.there g (groups ▸ hg)

/-! ## The ends of jobs -/

theorem Numbered.boundIn_unique (hn : s.Numbered) {f : JobNode → ℕ} (hj : j ∈ s.ongoing)
    (job : (s.session r).job = j.number) (other : (s.session r).sessionHandleQ ≠ some q) :
    s.inGroup q f j = [] := by
  refine if_neg ?_
  rintro ⟨b, -, hb, hjob⟩
  have hpos : s.queued j.number ≠ 0 := by
    have := le_tally (f := fun j : JobNode => [j.number]) (k := j.number) hj
    rw [count_singleton_self] at this
    unfold queued
    omega
  have hnumber := (hn.range j.number hpos).1
  exact other ((hn.distinct b r (hjob.trans job.symm) (by omega)) ▸ hb)

/-- **A job that is ended** gives its session and its output buffer back. -/
theorem Balanced.endJob {status : JobStatus} (hs : s.Balanced) (hn : s.Numbered) (ht : s.Tied)
    (handle : mem.handle = true) (out : mem.out = true)
    (own : (s.running r).map JobNode.number = some (s.session r).job)
    (h : s.endJob r status mem = some t) : t.Balanced := by
  have hdone : ∃ u : JpegObj, u.session = s.session ∧ u.handleQs = s.handleQs ∧
      u.outBufQs = s.outBufQs ∧ u.jobDone r mem = some t := by
    unfold JpegObj.endJob at h
    split_ifs at h
    · exact ⟨s.callback r status, rfl, rfl, rfl, h⟩
    · exact ⟨s, rfl, rfl, rfl, h⟩
  obtain ⟨u, husession, huqs, huouts, hu⟩ := hdone
  obtain ⟨j, hrun, hnumber⟩ := Option.map_eq_some_iff.mp own
  have hj : j ∈ s.ongoing := mem_of_find?_eq_some hrun
  obtain ⟨q, l, hq, hl, hqs⟩ := jobDone_handleQs hu handle
  rw [husession] at hq
  rw [huqs] at hl hqs
  have hlive : s.handleQs q ≠ none := by
    rw [hl]
    exact Option.some_ne_none l
  have heven := hs.even q hlive
  obtain ⟨-, hauto, henc, -⟩ := heven.bound r j hq hj hnumber.symm
  obtain ⟨q', lo, hq', hlo, houts⟩ := jobDone_outBufQs hu out (by rw [husession]; exact hauto)
  rw [husession, ht.same, hq] at hq'
  cases hq'
  rw [huouts] at hlo houts
  rw [husession, henc] at houts
  have heq := endJob_eq h
  have hfields : ∀ b, (t.session b).sessionHandleQ = (s.session b).sessionHandleQ ∧
      (t.session b).job = (s.session b).job ∧ (t.session b).jobId = (s.session b).jobId ∧
        (t.session b).autoOutBuf = (s.session b).autoOutBuf ∧
          (t.session b).encodeJob = (s.session b).encodeJob := by
    intro b
    rw [heq]
    by_cases hb : b = r
    · rw [hb]
      dsimp only
      rw [update_self]
      exact ⟨rfl, rfl, rfl, rfl, rfl⟩
    · dsimp only
      rw [update_of_ne hb]
      exact ⟨rfl, rfl, rfl, rfl, rfl⟩
  have hmember : ∀ a b, (t.session b).sessionHandleQ = some a ↔
      (s.session b).sessionHandleQ = some a := by
    intro a b
    rw [(hfields b).1]
  have hgroups : t.groups = s.groups := by
    rw [heq]
  have hongoing : t.ongoing = takeOut JobNode.jobId (s.session r).jobId s.ongoing := by
    rw [heq]
  have hsub : ∀ i ∈ t.ongoing, i ∈ s.ongoing := fun i hi =>
    (takeOut_sublist JobNode.jobId (s.session r).jobId s.ongoing).subset (hongoing ▸ hi)
  -- what the job stands for is taken with it
  have hjobs : ∀ a (f : JobNode → ℕ) k, tally (s.inGroup a f) k t.ongoing +
      (s.inGroup a f j).count k = tally (s.inGroup a f) k s.ongoing := by
    intro a f k
    rw [hongoing]
    exact tally_takeOut hrun
  refine ⟨fun a ha => ?_, fun g hg => ?_⟩
  · by_cases haq : a = q
    · rw [haq]
      have hown : ∀ f : JobNode → ℕ, s.inGroup q f j = [f j] := fun f =>
        if_pos ⟨r, ht.mem_table hlive r hq, hq, hnumber.symm⟩
      have hsame : ∀ f : JobNode → ℕ, t.inGroup q f = s.inGroup q f := fun f =>
        inGroup_congr (hmember q) fun b _ => (hfields b).2.1
      refine ⟨fun l' b hl' hb => ?_, fun n hn' => ⟨lo ++ [j.outIndex], ?_, fun i => ?_⟩,
        fun b i hb hi hjob => ?_⟩
      · have hbefore := heven.handles l b hl ((hmember q b).mp hb)
        have htaken := hjobs q JobNode.number (s.session b).job
        rw [hown] at htaken
        rw [hqs, update_self] at hl'
        rw [hsame, (hfields b).2.1, ← Option.some.inj hl', count_append]
        by_cases hbr : b = r
        · rw [hbr, ← hnumber, count_singleton_self] at htaken
          rw [hbr, ← hnumber] at hbefore
          rw [hbr, count_singleton_self, ← hnumber]
          omega
        · rw [count_eq_zero_of_not_mem fun hmem => hbr ?_] at htaken
          · rw [count_eq_zero_of_not_mem fun hmem => hbr (mem_singleton.mp hmem)]
            omega
          · -- two sessions are not bound to one job
            have hjob := mem_singleton.mp hmem
            refine hn.distinct b r (hjob.trans hnumber) ?_
            intro hzero
            have hpos := le_tally (f := fun j : JobNode => [j.number]) (k := j.number) hj
            rw [count_singleton_self, ← hjob, hzero] at hpos
            have hnone := hn.zero
            unfold queued at hnone
            omega
      · rw [houts, update_self]
        rfl
      · obtain ⟨lo', hlo', hcount⟩ := heven.outs n (hgroups ▸ hn')
        cases hlo.symm.trans hlo'
        have htaken := hjobs q JobNode.outIndex i
        rw [hown] at htaken
        rw [hsame, count_append, ← hcount i, ← htaken]
        omega
      · obtain ⟨hsh, hjob', hid, hauto', henc'⟩ := hfields b
        rw [hid, hauto', henc', hmember]
        exact heven.bound b i ((hmember q b).mp hb) (hsub i hi) (hjob' ▸ hjob)
    · have hlive' : s.handleQs a ≠ none := by
        rw [hqs, update_of_ne haq] at ha
        exact ha
      refine Keeps.even ⟨hmember a, fun b _ => (hfields b).2, ?_, ?_, fun n hn' => hgroups ▸ hn',
        fun i hi _ => hsub i hi, fun f k => ?_⟩ (ht.mem_table hlive') (hs.even a hlive')
      · rw [hqs, update_of_ne haq]
      · rw [houts, update_of_ne haq]
      · have hnone : s.inGroup a f j = [] := hn.boundIn_unique hj hnumber.symm (by
          rw [hq]
          exact fun h => haq (Option.some.inj h).symm)
        rw [← hjobs, hnone, count_nil, add_zero]
  · rw [hqs]
    have hg' := hs.there g (hgroups ▸ hg)
    by_cases hgq : g.1 = q
    · rw [hgq, update_self]
      exact Option.some_ne_none _
    · rw [update_of_ne hgq]
      exact hg'

/-! ## The manager -/

theorem Numbered.todo_head (hn : s.Numbered) {rest : List JobNode} (todo : s.todo = j :: rest) :
    (∀ i ∈ s.ongoing, i.number ≠ j.number) ∧ ∀ b, (s.session b).job ≠ j.number := by
  have htodo : 0 < tally (fun j => [j.number]) j.number s.todo :=
    tally_pos_iff.mpr ⟨j, todo ▸ mem_cons_self, mem_singleton_self _⟩
  constructor
  · intro i hi heq
    have hongoing : 0 < tally (fun j => [j.number]) j.number s.ongoing :=
      tally_pos_iff.mpr ⟨i, hi, mem_singleton.mpr heq.symm⟩
    have honce := hn.once j.number
    unfold queued at honce
    omega
  · intro b hb
    have hbound := hn.bound b
    rw [hb] at hbound
    omega

/-- **A job that is bound to an idle session**, with the next free output buffer. -/
theorem Balanced.bindJob (hs : s.Balanced) (hn : s.Numbered) (ht : s.Tied) {rest : List JobNode}
    {a : SessionPtr} {l : List SessionPtr} {lo : List ℕ} {i : ℕ} (todo : s.todo = j :: rest)
    (named : sessionAt j.jobId = a) (queue : (s.session a).sessionHandleQ = some q)
    (idle : s.handleQs q = some (r :: l)) (free : s.outBufQs q = some (i :: lo)) :
    Balanced (((s.dequeued rest q l).setUp r true (update s.outBufQs q (some lo))).bind r
      { j with encodeJob := { j.encodeJob with dstIndex := (i : ℤ) - 1 } }) := by
  generalize hj' : ({ j with encodeJob := { j.encodeJob with dstIndex := (i : ℤ) - 1 } } : JobNode) = j'
  generalize ht' : ((s.dequeued rest q l).setUp r true (update s.outBufQs q (some lo))).bind r
    j' = t
  have hnumber : j'.number = j.number := by rw [← hj']
  have hid : j'.jobId = j.jobId := by rw [← hj']
  have hindex : j'.outIndex = i := by
    rw [← hj', JobNode.outIndex]
    dsimp only
    rw [sub_add_cancel, Int.toNat_natCast]
  have hlive : s.handleQs q ≠ none := by
    rw [idle]
    exact Option.some_ne_none _
  have hr : (s.session r).sessionHandleQ = some q := ht.home q (r :: l) r idle mem_cons_self
  have heven := hs.even q hlive
  obtain ⟨hnotOngoing, hnotBound⟩ := hn.todo_head todo
  have hself : (t.session r).sessionHandleQ = some q ∧ (t.session r).job = j.number ∧
      (t.session r).jobId = j'.jobId ∧ (t.session r).autoOutBuf = true ∧
        (t.session r).encodeJob = j'.encodeJob := by
    rw [← ht']
    simp only [bind, setUp, dequeued, setSession, update_self]
    exact ⟨hr, hnumber, trivial, trivial, trivial⟩
  have hother : ∀ b, b ≠ r → t.session b = s.session b := by
    intro b hb
    rw [← ht']
    simp only [bind, setUp, dequeued, setSession, update_of_ne hb]
  have hhandleQ : ∀ b, (t.session b).sessionHandleQ = (s.session b).sessionHandleQ := by
    intro b
    by_cases hb : b = r
    · rw [hb, hself.1, hr]
    · rw [hother b hb]
  have hongoing : t.ongoing = s.ongoing ++ [j'] := by
    rw [← ht']
    rfl
  have hqs : t.handleQs = update s.handleQs q (some l) := by
    rw [← ht']
    rfl
  have houts : t.outBufQs = update s.outBufQs q (some lo) := by
    rw [← ht']
    rfl
  have hgroups : t.groups = s.groups := by
    rw [← ht']
    rfl
  refine ⟨fun b hb => ?_, fun g hg => ?_⟩
  · by_cases hbq : b = q
    · rw [hbq]
      have hidleJob := heven.handles (r :: l) r idle hr
      rw [count_cons_self] at hidleJob
      -- the idle session had no ongoing job
      have hnoJob : ∀ k ∈ s.ongoing, k.number ≠ (s.session r).job := by
        intro k hk heq
        have hpos : 0 < tally (s.inGroup q JobNode.number) (s.session r).job s.ongoing := by
          refine tally_pos_iff.mpr ⟨k, hk, ?_⟩
          rw [inGroup, if_pos ⟨r, ht.mem_table hlive r hr, hr, heq.symm⟩, heq]
          exact mem_singleton_self _
        omega
      have hsame : ∀ (f : JobNode → ℕ), ∀ k ∈ s.ongoing, t.inGroup q f k = s.inGroup q f k := by
        intro f k hk
        have hiff : t.BoundIn q k ↔ s.BoundIn q k := by
          constructor
          · rintro ⟨c, hc, hcq, hcj⟩
            by_cases hcr : c = r
            · rw [hcr, hself.2.1] at hcj
              exact absurd hcj.symm (hnotOngoing k hk)
            · rw [hother c hcr] at hcq hcj
              exact ⟨c, hc, hcq, hcj⟩
          · rintro ⟨c, hc, hcq, hcj⟩
            have hcr : c ≠ r := fun hcr => hnoJob k hk (hcr ▸ hcj.symm)
            exact ⟨c, hc, by rw [hother c hcr]; exact hcq, by rw [hother c hcr]; exact hcj⟩
        unfold inGroup
        simp only [hiff]
      have htally : ∀ f k, tally (t.inGroup q f) k t.ongoing =
          tally (s.inGroup q f) k s.ongoing + [f j'].count k := by
        intro f k
        rw [hongoing, tally_append, tally_congr (hsame f), tally_cons, tally_nil, add_zero, inGroup,
          if_pos ⟨r, ht.mem_table hlive r hr, hself.1, hself.2.1.trans hnumber.symm⟩]
      refine ⟨fun l' c hl' hc => ?_, fun n hn' => ⟨lo, ?_, fun k => ?_⟩, fun c k hc hk hjob => ?_⟩
      · rw [hqs, update_self] at hl'
        rw [← Option.some.inj hl', htally]
        by_cases hcr : c = r
        · have hnew : tally (s.inGroup q JobNode.number) j.number s.ongoing = 0 := by
            refine tally_eq_zero_iff.mpr fun k hk hmem => ?_
            unfold inGroup at hmem
            split_ifs at hmem
            · exact hnotOngoing k hk (mem_singleton.mp hmem).symm
            · cases hmem
          rw [hcr, hself.2.1, hnew, hnumber, count_singleton_self]
          omega
        · have hbefore := heven.handles (r :: l) c idle (hhandleQ c ▸ hc)
          rw [count_cons_of_ne (Ne.symm hcr)] at hbefore
          rw [hother c hcr, count_eq_zero_of_not_mem (a := (s.session c).job) (l := [j'.number])
            fun h => hnotBound c ((mem_singleton.mp h).trans hnumber)]
          exact hbefore
      · rw [houts, update_self]
      · obtain ⟨lo', hlo', hcount⟩ := heven.outs n (hgroups ▸ hn')
        cases free.symm.trans hlo'
        rw [htally, ← hcount k, hindex, count_singleton', count_cons]
        simp only [beq_iff_eq]
        omega
      · rw [hhandleQ]
        by_cases hcr : c = r
        · rw [hcr, hself.2.1] at hjob
          rcases mem_append.mp (hongoing ▸ hk) with hk | hk
          · exact absurd hjob.symm (hnotOngoing k hk)
          · rw [mem_singleton.mp hk, hcr, hid, named]
            exact ⟨hself.2.2.1.trans hid, hself.2.2.2.1, hself.2.2.2.2, queue⟩
        · rw [hother c hcr] at hjob ⊢
          rcases mem_append.mp (hongoing ▸ hk) with hk | hk
          · exact heven.bound c k (hhandleQ c ▸ hc) hk hjob
          · rw [mem_singleton.mp hk, hnumber] at hjob
            exact absurd hjob (hnotBound c)
    · have hlive' : s.handleQs b ≠ none := by
        rw [hqs, update_of_ne hbq] at hb
        exact hb
      have hnot : ¬s.BoundIn b j' := by
        rintro ⟨c, -, -, hc⟩
        exact hnotBound c (hc.trans hnumber)
      refine Keeps.even ⟨fun c => by rw [hhandleQ], fun c hc => ?_, ?_, ?_, fun n hn' => hgroups ▸ hn',
        fun k hk hbound => ?_, fun f k => ?_⟩ (ht.mem_table hlive') (hs.even b hlive')
      · have hcr : c ≠ r := by
          intro hcr
          rw [hcr, hr] at hc
          exact hbq (Option.some.inj hc).symm
        rw [hother c hcr]
        exact ⟨rfl, rfl, rfl, rfl⟩
      · rw [hqs, update_of_ne hbq]
      · rw [houts, update_of_ne hbq]
      · rcases mem_append.mp (hongoing ▸ hk) with hk | hk
        · exact hk
        · rw [mem_singleton.mp hk] at hbound
          exact absurd hbound hnot
      · rw [hongoing, tally_append, tally_cons, tally_nil, inGroup, if_neg hnot]
        rfl
  · rw [hqs]
    by_cases hgq : g.1 = q
    · rw [hgq, update_self]
      exact Option.some_ne_none _
    · rw [update_of_ne hgq]
      exact hs.there g (hgroups ▸ hg)

theorem Balanced.pick (hs : s.Balanced) (hn : s.Numbered) (ht : s.Tied)
    (careful : (JpegOp.pick mem).Careful s) (h : s.pick mem = some t) : t.Balanced := by
  obtain ⟨-, hpicked⟩ := pick_cases h
  rcases hpicked with htodo | ⟨htodo, hnamed⟩ | ⟨htodo, hnamed, hq, hidle⟩ |
    ⟨htodo, hnamed, hq, hidle, hplaced⟩
  · exact hs.quiet ht rfl rfl rfl rfl fun _ => ⟨rfl, rfl, rfl, rfl, rfl⟩
  · exact hs.quiet ht rfl rfl rfl rfl fun _ => ⟨rfl, rfl, rfl, rfl, rfl⟩
  · exact hs.quiet ht rfl rfl rfl rfl fun _ => ⟨rfl, rfl, rfl, rfl, rfl⟩
  · rename_i j rest a r q l
    obtain ⟨hmem, hleft, hfree⟩ : mem.ongoing = true ∧ j.encodeJob.dstIndex < 0 ∧ s.nextOut r ≠ 0 := by
      refine careful j ?_ r ?_
      · rw [htodo]
        rfl
      · rw [idleOf_eq hnamed hq hidle]
        rfl
    rcases hplaced with ⟨o, _, hout, hlo, hnone⟩ | ⟨hassigned, _⟩ | ⟨_, hfull, _⟩
    · refine absurd ?_ hfree
      rw [nextOut_eq (s := s) hout hlo]
      exact hnone
    · rcases hassigned with hge | ⟨-, hout, hlo, -⟩
      · exact absurd hleft (not_lt.mpr hge)
      · rename_i q' i lo
        have hr := ht.home q (r :: l) r hidle mem_cons_self
        have hq' : q' = q := by
          have hout' : (s.session r).outBufQ = some q' := hout
          rw [ht.same, hr] at hout'
          exact (Option.some.inj hout').symm
        subst hq'
        unfold getSession at hnamed
        split_ifs at hnamed
        exact hs.bindJob hn ht htodo (Option.some.inj hnamed) hq hidle hlo
    · rw [hmem] at hfull
      cases hfull

theorem Balanced.encoding {op : JpegOp} (hs : s.Balanced) (hn : s.Numbered) (ht : s.Tied)
    (careful : ∀ r mem, op.Ending s r mem → mem.handle = true ∧ mem.out = true ∧
      (s.running r).map JobNode.number = some (s.session r).job) (h : s.Encoding op t) :
    t.Balanced := by
  have hflags : ∀ f i pc, (s.setFlags f i pc).Balanced ∧ (s.setFlags f i pc).Numbered ∧
      (s.setFlags f i pc).Tied := fun f i pc =>
    ⟨hs.quiet ht rfl rfl rfl rfl fun _ => ⟨rfl, rfl, rfl, rfl, rfl⟩, hn.frame (frame_setFlags s f i pc),
      (steady_setFlags s f i pc).tied ht⟩
  rcases h with ⟨f, i, pc, -, -, -⟩ | ⟨f, i, pc, -, -, hend, hdone⟩
  · exact (hflags f i pc).1
  · rename_i r mem status
    obtain ⟨hhandle, hout, hown⟩ := careful r mem hend
    exact (hflags f i pc).1.endJob (hflags f i pc).2.1 (hflags f i pc).2.2 hhandle hout hown hdone

/-! ## Groups that are created or destroyed -/

theorem count_indices (n i : ℕ) :
    ((List.range n).map (· + 1)).count i = if 1 ≤ i ∧ i ≤ n then 1 else 0 := by
  have hnodup : ((range n).map (· + 1)).Nodup :=
    Nodup.map (fun _ _ h => Nat.succ.inj h) nodup_range
  have hmem : i ∈ (range n).map (· + 1) ↔ 1 ≤ i ∧ i ≤ n := by
    rw [mem_map]
    constructor
    · rintro ⟨k, hk, rfl⟩
      have := mem_range.mp hk
      omega
    · rintro ⟨h₁, h₂⟩
      exact ⟨i - 1, mem_range.mpr (by omega), by omega⟩
  split_ifs with h
  · exact count_eq_one_of_mem hnodup (hmem.mpr h)
  · exact count_eq_zero_of_not_mem fun h' => h (hmem.mp h')

theorem Grown.keeps {c : ℕ} {rs : List SessionPtr} (hg : Grown s u c mem rs) (ht : s.Tied)
    (hlive : s.handleQs q ≠ none) (session : t.session = u.session) (handleQs : t.handleQs = u.handleQs)
    (ongoing : t.ongoing = u.ongoing) (outBufQs : t.outBufQs q = s.outBufQs q)
    (groups : ∀ n, (q, n) ∈ t.groups → (q, n) ∈ s.groups) : Keeps s t q := by
  have hnext : q ≠ s.nextQ := by
    intro hq
    exact hlive (ht.fresh q hq.ge)
  refine .of_ongoing ?_ outBufQs groups (ongoing.trans hg.frame.ongoing) (fun b => ?_) fun b hb => ?_
  · rw [handleQs, hg.handleQs, update_of_ne hnext]
  · rw [session]
    by_cases hb : b ∈ rs
    · rw [(hg.new b hb).2.2.1]
      constructor
      · exact fun h => absurd (Option.some.inj h).symm hnext
      · intro h
        have hactive := ht.live b q h hlive
        rw [(hg.entry b hb).2.2] at hactive
        cases hactive
    · rw [(hg.others b hb).2.2.1]
  · obtain ⟨n, d, hd⟩ := hg.kept b (ht.live b q hb hlive)
    rw [session, hd]
    exact ⟨rfl, rfl, rfl, rfl⟩

theorem Grown.not_bound {c : ℕ} {rs : List SessionPtr} (hg : Grown s u c mem rs) (hn : s.Numbered)
    (ht : s.Tied) (hj : j ∈ s.ongoing) (b : SessionPtr)
    (hb : (u.session b).sessionHandleQ = some s.nextQ) : (u.session b).job ≠ j.number := by
  have hbr : b ∈ rs := by
    by_contra hbr
    rw [(hg.others b hbr).2.2.1] at hb
    exact absurd (ht.old b _ hb) (lt_irrefl _)
  have hpos : s.queued j.number ≠ 0 := by
    have := le_tally (f := fun j : JobNode => [j.number]) (k := j.number) hj
    rw [count_singleton_self] at this
    unfold queued
    omega
  rw [(hg.new b hbr).2.2.2.2]
  have := (hn.range _ hpos).1
  omega

theorem Creation.balanced {c : ℕ} {params : EncodeParams} {out : ℕ → SessionOutcome}
    (h : Creation s c params mem out t) (hs : s.Balanced) (hn : s.Numbered) (ht : s.Tied)
    (handle : mem.handle = true) (room : mem.out = true)
    (whole : ∀ i, 0 < i → i < (if params.burstMode then s.concurrent else 1) →
      (out i).handle = true ∧ i < (s.freeEntries c).length) : t.Balanced := by
  rcases h with w | ⟨-, hgrown, hloop⟩
  · exact hs.quiet ht rfl rfl rfl rfl fun _ => ⟨rfl, rfl, rfl, rfl, rfl⟩
  rename_i ok id u rs
  have hnew : s.handleQs s.nextQ = none := ht.fresh _ le_rfl
  -- the queue of output buffers is a new one, and that of a group that is returned is full
  have houts : ∃ lo, u.outBufQs = update s.outBufQs s.nextQ (some lo) ∧
      ((ok && id ≠ 0) = true → lo = (range params.numDstBufs).map (· + 1)) := by
    rcases hloop with ⟨-, hout⟩ | ⟨hless, hnone, hwhy, hout⟩ | ⟨hout⟩
    · rw [if_pos room] at hout
      exact ⟨_, hout, fun _ => rfl⟩
    · refine ⟨[], hout, fun hid => ?_⟩
      rw [Bool.true_and, decide_eq_true_eq] at hid
      have hlength : 0 < rs.length := length_pos_of_ne_nil fun hnil => hid (hnone hnil)
      obtain ⟨hhandle, hfree⟩ := whole rs.length hlength hless
      rcases hwhy with hall | hfail
      · -- every free entry is one of the group
        have hsub : s.freeEntries c ⊆ rs := by
          intro b hb
          obtain ⟨hb, hactive⟩ := mem_filter.mp hb
          obtain ⟨i, hi, rfl⟩ := mem_map.mp hb
          exact hall _ rfl (mem_range.mp hi) (by simpa using hactive)
        have hnodup : (s.freeEntries c).Nodup :=
          (Nodup.map (fun _ _ h => (SessionPtr.mk.inj h).2) nodup_range).filter _
        exact absurd (hnodup.subperm hsub).length_le (not_le.mpr hfree)
      · rw [Nat.zero_add, hhandle] at hfail
        cases hfail
    · exact ⟨[], hout, fun hok => by cases hok⟩
  obtain ⟨lo, hlo, hfull⟩ := houts
  generalize htt : (if (ok && id ≠ 0) = true then
    { u with groups := (s.nextQ, params.numDstBufs) :: u.groups } else u) = t
  have hsession : t.session = u.session := by rw [← htt]; split_ifs <;> rfl
  have hhandleQs : t.handleQs = u.handleQs := by rw [← htt]; split_ifs <;> rfl
  have hongoing : t.ongoing = u.ongoing := by rw [← htt]; split_ifs <;> rfl
  have houtBufQs : t.outBufQs = u.outBufQs := by rw [← htt]; split_ifs <;> rfl
  have hgroups : ∀ g ∈ t.groups, g ∈ s.groups ∨ (g = (s.nextQ, params.numDstBufs) ∧
      (ok && id ≠ 0) = true) := by
    have hug : u.groups = s.groups := hgrown.groups
    intro g hg
    rw [← htt] at hg
    split_ifs at hg with hok
    · rcases mem_cons.mp hg with hg | hg
      · exact .inr ⟨hg, hok⟩
      · exact .inl (hug ▸ hg)
    · exact .inl (hug ▸ hg)
  have hother : ∀ a, a ≠ s.nextQ → u.handleQs a = s.handleQs a := by
    intro a ha
    have hqs := congrFun hgrown.handleQs a
    rw [update_of_ne ha] at hqs
    exact hqs
  have hself : u.handleQs s.nextQ = some rs := by
    have hqs := congrFun hgrown.handleQs s.nextQ
    rw [update_self, if_pos handle] at hqs
    exact hqs
  refine ⟨fun a ha => ?_, fun g hg => ?_⟩
  · by_cases hnext : a = s.nextQ
    · rw [hnext]
      have hnone : ∀ f : JobNode → ℕ, ∀ k, tally (t.inGroup s.nextQ f) k t.ongoing = 0 := by
        refine fun f k => tally_eq_zero_iff.mpr fun j hj => ?_
        have hj' : j ∈ s.ongoing := hgrown.frame.ongoing ▸ hongoing ▸ hj
        rw [inGroup, if_neg]
        · exact not_mem_nil
        · rintro ⟨b, -, hb, hjob⟩
          rw [hsession] at hb hjob
          exact hgrown.not_bound hn ht hj' b hb hjob
      refine ⟨fun l b hl hb => ?_, fun n hn' => ⟨lo, ?_, fun i => ?_⟩, fun b j hb hj hjob => ?_⟩
      · rw [hsession] at hb
        have hbr : b ∈ rs := by
          by_contra hbr
          have hold := (hgrown.others b hbr).2.2.1
          exact absurd (ht.old b _ (hold ▸ hb)) (lt_irrefl _)
        rw [hhandleQs, hself] at hl
        rw [hnone, ← Option.some.inj hl, count_eq_one_of_mem hgrown.nodup hbr]
      · rw [houtBufQs, hlo, update_self]
      · rcases hgroups _ hn' with hold | ⟨hg, hok⟩
        · exact absurd hnew (hs.there _ hold)
        · rw [hnone, hfull hok, (Prod.mk.inj hg).2, count_indices]
          rfl
      · rw [hsession] at hb hjob
        exact absurd hjob (hgrown.not_bound hn ht (hgrown.frame.ongoing ▸ hongoing ▸ hj) b hb)
    · have hlive : s.handleQs a ≠ none := by
        rw [hhandleQs, hother a hnext] at ha
        exact ha
      refine Keeps.even (hgrown.keeps ht hlive hsession hhandleQs hongoing ?_ fun n hn' => ?_)
        (ht.mem_table hlive) (hs.even a hlive)
      · rw [houtBufQs, hlo, update_of_ne hnext]
      · rcases hgroups _ hn' with hold | ⟨hg, -⟩
        · exact hold
        · exact absurd (Prod.mk.inj hg).1 hnext
  · rw [hhandleQs]
    rcases hgroups g hg with hold | ⟨rfl, -⟩
    · have hg' := hs.there g hold
      rw [hother]
      · exact hg'
      · exact fun h => hg' (h ▸ hnew)
    · rw [hself]
      exact Option.some_ne_none _

theorem Destroyed.balanced {id : ℕ} (h : Destroyed s t r q) (hs : s.Balanced) (hn : s.Numbered)
    (ht : s.Tied) (hid : (s.session r).sessionId = id) (jobs : t.ongoing = (s.removeJobs id).ongoing) :
    t.Balanced := by
  have hactive := ht.live r q h.queue h.there
  refine ⟨fun a ha => ?_, fun g hg => ?_⟩
  · have haq : a ≠ q := by
      intro haq
      rw [haq, h.handleQs, update_self] at ha
      exact ha rfl
    rw [h.handleQs, update_of_ne haq] at ha
    have hr : (s.session r).sessionHandleQ ≠ some a := by
      rw [h.queue]
      exact fun h => haq (Option.some.inj h).symm
    refine Keeps.even ⟨fun b => ?_, fun b hb => ?_, ?_, ?_, fun n hn' => ?_, fun j hj _ => ?_,
      fun f k => ?_⟩ (ht.mem_table ha) (hs.even a ha)
    · by_cases hb : b = r
      · rw [hb, h.self.1]
        exact ⟨fun h => (Option.some_ne_none a h.symm).elim, fun h => absurd h hr⟩
      · rw [(h.others b hb).1]
    · obtain ⟨h₁, h₂, h₃, h₄⟩ := h.bound b
      exact ⟨h₁, h₂, h₄, h₃⟩
    · rw [h.handleQs, update_of_ne haq]
    · rw [h.outBufQs, update_of_ne haq]
    · rw [h.groups] at hn'
      exact mem_of_mem_filter hn'
    · rw [jobs] at hj
      exact mem_of_mem_filter hj
    · rw [jobs]
      refine tally_filter_eq fun j hj hout => if_neg ?_
      -- the jobs that are taken back are of the group that is destroyed
      rintro ⟨b, -, hb, hjob⟩
      obtain ⟨-, -, -, hgroup⟩ := (hs.even a ha).bound b j hb hj hjob
      rw [Bool.not_eq_false', beq_iff_eq] at hout
      rw [(hn.named j (.inr hj)).2, hout, ← hid, (ht.named r hactive).1] at hgroup
      exact hr hgroup
  · rw [h.groups] at hg
    obtain ⟨hg, hne⟩ := mem_filter.mp hg
    rw [h.handleQs, update_of_ne (by simpa using hne)]
    exact hs.there g hg

theorem Balanced.zeroSessions (hs : s.Balanced) (ht : s.Tied) {c : ℕ}
    (inactive : ∀ r : SessionPtr, r.clientIdx = c → (s.session r).active = false) :
    (s.zeroSessions c).Balanced := by
  refine ⟨fun a ha => ?_, hs.there⟩
  have hsame : ∀ b, (s.session b).sessionHandleQ = some a →
      (s.zeroSessions c).session b = s.session b := by
    intro b hb
    have hactive := ht.live b a hb ha
    simp only [JpegObj.zeroSessions]
    rw [if_neg fun h => by rw [inactive b h.1] at hactive; cases hactive]
  refine Keeps.even (s := s) (.of_ongoing rfl rfl (fun _ h => h) rfl
    (fun b => ⟨fun hb => ?_, fun hb => ?_⟩) fun b hb => ?_) (ht.mem_table ha) (hs.even a ha)
  · simp only [JpegObj.zeroSessions] at hb
    split_ifs at hb
    exact hb
  · rw [hsame b hb]
    exact hb
  · rw [hsame b hb]
    exact ⟨rfl, rfl, rfl, rfl⟩

end JpegObj

open JpegObj

variable {s t : JpegObj} {op : JpegOp}

/-- **Steps that meet the condition** keep the groups even. -/
theorem JpegOp.Step.balanced (h : op.Step s t) (hs : s.Balanced) (hn : s.Numbered) (ht : s.Tied)
    (orderly : op.Orderly s) (careful : op.Careful s) : t.Balanced := by
  cases h.outcome with
  | newClient count =>
    unfold JpegObj.newClient
    split_ifs
    · exact hs
    · split
      · -- the sessions of a client that is new are written over: they hold nothing
        rename_i idx hidx
        have hinactive : ∀ r : SessionPtr, r.clientIdx = idx → (s.session r).active = false :=
          fun r hr => orderly r (hr ▸ hidx)
        exact (hs.zeroSessions ht hinactive).quiet (tied_zeroSessions ht hinactive) rfl rfl rfl rfl
          fun _ => ⟨rfl, rfl, rfl, rfl, rfl⟩
      · exact hs
  | createSession _ created =>
    exact (createSession_grown created).balanced hs hn ht careful.1 careful.2.1 careful.2.2
  | startJob job mem =>
    have hcases := startCounted_cases s job mem
    generalize s.startCounted job mem = u at hcases
    -- a job count is no part of what is balanced
    have hcount : ∀ b r : SessionPtr, ∀ n : ℕ,
        let p := (update s.session r { s.session r with jobHist := n }) b
        p.sessionHandleQ = (s.session b).sessionHandleQ ∧ p.job = (s.session b).job ∧
          p.jobId = (s.session b).jobId ∧ p.autoOutBuf = (s.session b).autoOutBuf ∧
            p.encodeJob = (s.session b).encodeJob := by
      intro b r n
      by_cases hb : b = r
      · rw [hb, update_self]
        exact ⟨rfl, rfl, rfl, rfl, rfl⟩
      · rw [update_of_ne hb]
        exact ⟨rfl, rfl, rfl, rfl, rfl⟩
    rcases hcases with ⟨w, _⟩ | ⟨w, _, _, _⟩ | ⟨w, _⟩ | ⟨w, _, _⟩
    · exact hs.quiet ht rfl rfl rfl rfl fun _ => ⟨rfl, rfl, rfl, rfl, rfl⟩
    · exact hs.quiet ht rfl rfl rfl rfl fun _ => ⟨rfl, rfl, rfl, rfl, rfl⟩
    · exact hs.quiet ht rfl rfl rfl rfl fun b => hcount b _ _
    · exact hs.quiet ht rfl rfl rfl rfl fun b => hcount b _ _
  | abortJob jobId sent _ =>
    have hcases := abortJob_cases s jobId sent
    generalize s.abortJob jobId sent = u at hcases
    rcases hcases with ⟨hfound⟩ | ⟨f, htodo, hfound⟩ | _
    · exact hs.quiet ht rfl rfl rfl rfl fun _ => ⟨rfl, rfl, rfl, rfl, rfl⟩
    · -- a careful abort finds the job in the to-do list or nowhere
      rw [careful htodo] at hfound
      cases hfound
    · exact hs
  | destroySession _ named destroyed =>
    have hframe := frame_destroySession destroyed
    obtain ⟨q, hdestroyed⟩ := destroySession_destroyed ht (orderly _ named) destroyed
    exact hdestroyed.balanced hs hn ht rfl hframe.ongoing
  | unknownSession => exact hs
  | close clientHdl sent _ =>
    rcases close_eq orderly with heq | heq <;> rw [heq]
    · exact hs
    · exact (hs.zeroSessions ht orderly).quiet (tied_zeroSessions ht orderly) rfl rfl rfl rfl
        fun _ => ⟨rfl, rfl, rfl, rfl, rfl⟩
  | wake woken =>
    dsimp only [JpegObj.wake] at woken
    split_ifs at woken
    cases woken
    exact hs.quiet ht rfl rfl rfl rfl fun _ => ⟨rfl, rfl, rfl, rfl, rfl⟩
  | look looked =>
    dsimp only [JpegObj.look] at looked
    split_ifs at looked <;> cases looked <;>
      exact hs.quiet ht rfl rfl rfl rfl fun _ => ⟨rfl, rfl, rfl, rfl, rfl⟩
  | pick picked => exact hs.pick hn ht careful picked
  | encoding encodes encoding =>
    cases op with
    | configure out mem | submit ok mem | fbd r mem | eventHandler r error mem =>
      exact hs.encoding hn ht careful encoding
    | _ => exact encodes.elim

def JpegOp.CarefulStep (op : JpegOp) (s t : JpegObj) : Prop :=
  op.Step s t ∧ op.Orderly s ∧ op.Careful s

/-- **A session and an output buffer are free twice**: the job is ended by an error, and by the
output buffer that the component gives back. And a session is lost for which there is no output
buffer. -/
theorem handles_doubled :
    let session (numDstBufs : ℕ) : List JpegOp := [.newClient 1, .createSession 512
      { numSrcBufs := 1, numDstBufs := numDstBufs, jpegCb := true } {} fun _ => {},
      .startJob { sessionId := 0x1000000, dstIndex := -1 } {}, .wake, .look, .pick {}]
    (∃ s, Run JpegOp.Step (session 1 ++ [.configure {} {}, .submit true {},
      .eventHandler ⟨0, 0⟩ true {}, .fbd ⟨0, 0⟩ {}]) (.init 1 false) s ∧ s.groups = [(0, 1)] ∧
        s.handleQs 0 = some [⟨0, 0⟩, ⟨0, 0⟩] ∧ s.outBufQs 0 = some [1, 1] ∧ ¬s.Even 0) ∧
    ∃ s, Run JpegOp.Step (session 0) (.init 1 false) s ∧ s.groups = [(0, 0)] ∧
      s.handleQs 0 = some [] ∧ s.ongoing = [] ∧ ¬s.Even 0 := by
  refine ⟨⟨_, .of_execAll rfl, rfl, rfl, rfl, fun h => ?_⟩,
    ⟨_, .of_execAll rfl, rfl, rfl, rfl, fun h => ?_⟩⟩
  · exact absurd (h.handles _ ⟨0, 0⟩ rfl rfl) (by decide)
  · exact absurd (h.handles _ ⟨0, 0⟩ rfl rfl) (by decide)

/-- **Sessions and output buffers are conserved** in every run that meets the condition: those of
each group are each in one place, and no two ongoing jobs of it hold the same output buffer. -/
theorem handles_conserved {concurrent : ℕ} {reuse : Bool} {ops : List JpegOp}
    (h : Run JpegOp.CarefulStep ops (.init concurrent reuse) s) :
    ∀ g ∈ s.groups, s.Even g.1 ∧ (s.ongoing.flatMap (s.inGroup g.1 JobNode.outIndex)).Nodup := by
  have hinv : s.Numbered ∧ s.Tied ∧ s.Balanced := by
    refine h.invariant (I := fun s => s.Numbered ∧ s.Tied ∧ s.Balanced) (fun op s t hstep hs => ?_)
      ⟨numbered_init _ _, tied_init _ _, fun q hq => absurd rfl hq, fun g hg => by cases hg⟩
    obtain ⟨hstep, horderly, hcareful⟩ := hstep
    obtain ⟨hn, ht, hb⟩ := hs
    exact ⟨hstep.numbered hn, hstep.tied ht horderly, hstep.balanced hb hn ht horderly hcareful⟩
  intro g hg
  have heven := hinv.2.2.even g.1 (hinv.2.2.there g hg)
  refine ⟨heven, nodup_iff_count_le_one.mpr fun i => ?_⟩
  obtain ⟨l, -, hcount⟩ := heven.outs g.2 hg
  have hi := hcount i
  unfold tally at hi
  split_ifs at hi <;> omega

/-- Of two sessions, one is bound to a job that is ended, and one to a job that is encoded. -/
theorem handles_conserved_twoSessions :
    let start : JpegOp := .startJob { sessionId := 0x1000000, dstIndex := -1 } {}
    let ops : List JpegOp := [.newClient 1, .createSession 512 ⟨1, 2, true, true⟩ {} fun _ => {},
      start, start, .wake, .look, .pick {}, .configure {} {}, .submit false {}, .wake, .look, .pick {}]
    ∃ s, Run JpegOp.CarefulStep ops (.init 2 false) s ∧ s.groups = [(0, 2)] ∧
      s.handleQs 0 = some [⟨0, 0⟩] ∧ s.outBufQs 0 = some [1] ∧ s.Even 0 := by
  intro start ops
  obtain ⟨s, h, hgroups, hhandles, houts⟩ : ∃ s, Run JpegOp.CarefulStep ops (.init 2 false) s ∧
      s.groups = [(0, 2)] ∧ s.handleQs 0 = some [⟨0, 0⟩] ∧ s.outBufQs 0 = some [1] := by
    refine ⟨_, .cons ⟨rfl, fun _ _ => rfl, fun _ _ => nofun⟩ (.cons ⟨rfl, trivial, rfl, rfl, ?_⟩
      (.cons ⟨rfl, trivial, fun _ _ => nofun⟩ (.cons ⟨rfl, trivial, fun _ _ => nofun⟩
      (.cons ⟨rfl, trivial, fun _ _ => nofun⟩ (.cons ⟨rfl, trivial, fun _ _ => nofun⟩
      (.cons ⟨rfl, trivial, ?_⟩ (.cons ⟨rfl, trivial, ?_⟩ (.cons ⟨rfl, trivial, ?_⟩
      (.cons ⟨rfl, trivial, fun _ _ => nofun⟩ (.cons ⟨rfl, trivial, fun _ _ => nofun⟩
      (.one ⟨rfl, trivial, ?_⟩))))))))))), rfl, rfl, rfl⟩
    · intro i h₁ h₂
      have hi : i < 2 := h₂
      rw [show i = 1 by omega]
      exact ⟨rfl, by decide⟩
    · intro j hj r hr
      cases hj
      cases hr
      exact ⟨rfl, by decide, by decide⟩
    · rintro r m ⟨hr, hfail, -⟩
      cases hr
      cases hfail
    · rintro r m ⟨hr, -, -, rfl⟩
      cases hr
      exact ⟨rfl, rfl, rfl⟩
    · intro j hj r hr
      cases hj
      cases hr
      exact ⟨rfl, by decide, by decide⟩
  have heven := handles_conserved h (0, 2) (by rw [hgroups]; exact mem_singleton_self _)
  exact ⟨s, h, hgroups, hhandles, houts, heven.1⟩

end MmJpeg
