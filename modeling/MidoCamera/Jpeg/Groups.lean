import MidoCamera.Jpeg.Numbers

/-!
# Session groups

The sessions of a group share two queues, which are there as long as the group is. Two things undo
this: the slot of a client is zeroed while sessions of it are active, and a group is destroyed whose
sessions are linked to a session that is not of the group, or not active any more.
-/

namespace MmJpeg

open Loop Function List Option

variable {clientHdl : ℕ} {out : ℕ → SessionOutcome} {sent : SessionPtr → Bool}

def table : List SessionPtr :=
  (List.range maxJpegClientNum).flatMap fun c => (List.range maxSession).map fun i => ⟨c, i⟩

theorem mem_table {r : SessionPtr} : r ∈ table ↔ r.InTable := by
  unfold table
  rw [mem_flatMap]
  constructor
  · rintro ⟨c, hc, hr⟩
    obtain ⟨i, hi, rfl⟩ := mem_map.mp hr
    exact ⟨mem_range.mp hi, mem_range.mp hc⟩
  · rintro ⟨hi, hc⟩
    exact ⟨r.clientIdx, mem_range.mpr hc, mem_map.mpr ⟨r.sessionIdx, mem_range.mpr hi, rfl⟩⟩

theorem nodup_table : table.Nodup := by decide

namespace JpegObj

/-- Sessions that are active have the id of their entry in the table. -/
def Named (s : JpegObj) : Prop :=
  ∀ r, (s.session r).active = true → sessionAt (s.session r).sessionId = r ∧ r.InTable

/-- **Sessions and queues are tied.** A session whose queue is there is active; a queue holds
sessions that point to it; and the queues yet to come are neither there nor pointed to. -/
structure Tied (s : JpegObj) : Prop where
  named : s.Named
  live : ∀ r q, (s.session r).sessionHandleQ = some q → s.handleQs q ≠ none →
    (s.session r).active = true
  home : ∀ q l r, s.handleQs q = some l → r ∈ l → (s.session r).sessionHandleQ = some q
  fresh : ∀ q, s.nextQ ≤ q → s.handleQs q = none
  old : ∀ r q, (s.session r).sessionHandleQ = some q → q < s.nextQ
  same : ∀ r, (s.session r).outBufQ = (s.session r).sessionHandleQ

/-- The sessions linked after one are all active and of its group. -/
def Intact (s : JpegObj) (r : SessionPtr) : Prop :=
  (s.chain fuel r).Nodup ∧ ∀ b ∈ s.chain fuel r, (s.session b).active = true ∧
    (s.session b).sessionHandleQ = (s.session r).sessionHandleQ

end JpegObj

/-- **The condition on a step** for groups: a slot that is zeroed has no active session, and a group
that is destroyed is intact. -/
def JpegOp.Orderly (s : JpegObj) : JpegOp → Prop
  | .newClient _ => ∀ r : SessionPtr,
    (List.range maxJpegClientNum).find? (fun idx => !(s.client idx).isUsed) = some r.clientIdx →
      (s.session r).active = false
  | .close clientHdl _ => ∀ r : SessionPtr, r.clientIdx = getIndexByHandler clientHdl →
    (s.session r).active = false
  | .destroySession sessionId _ => ∀ r, getSession sessionId = some r → s.Intact r
  | _ => True

namespace JpegObj

variable {s t u : JpegObj} {r : SessionPtr} {p : JobSession} {mem : Mem} {j : JobNode} {q : ℕ}

/-! ## Steps that leave the groups alone -/

/-- A step that leaves the groups alone: a queue may lose sessions, and gain such that point to
it. -/
structure Steady (s t : JpegObj) : Prop where
  active : ∀ r, (t.session r).active = (s.session r).active
  sessionId : ∀ r, (t.session r).sessionId = (s.session r).sessionId
  sessionHandleQ : ∀ r, (t.session r).sessionHandleQ = (s.session r).sessionHandleQ
  outBufQ : ∀ r, (t.session r).outBufQ = (s.session r).outBufQ
  nextQ : t.nextQ = s.nextQ
  there : ∀ q, t.handleQs q = none ↔ s.handleQs q = none
  home : ∀ q l r, t.handleQs q = some l → r ∈ l →
    (∃ l', s.handleQs q = some l' ∧ r ∈ l') ∨ (s.session r).sessionHandleQ = some q

theorem Steady.tied (h : Steady s t) (hs : s.Tied) : t.Tied := by
  refine ⟨fun r hr => ?_, fun r q hq hlive => ?_, fun q l r hl hr => ?_, fun q hq => ?_,
    fun r q hq => ?_, fun r => ?_⟩
  · rw [h.sessionId]
    exact hs.named r (h.active r ▸ hr)
  · rw [h.active]
    exact hs.live r q (h.sessionHandleQ r ▸ hq) fun hnone => hlive ((h.there q).mpr hnone)
  · rw [h.sessionHandleQ]
    rcases h.home q l r hl hr with ⟨l', hl', hr'⟩ | hq
    · exact hs.home q l' r hl' hr'
    · exact hq
  · exact (h.there q).mpr (hs.fresh q (h.nextQ ▸ hq))
  · rw [h.nextQ]
    exact hs.old r q (h.sessionHandleQ r ▸ hq)
  · rw [h.outBufQ, h.sessionHandleQ]
    exact hs.same r

theorem Steady.refl (s : JpegObj) : Steady s s :=
  ⟨fun _ => rfl, fun _ => rfl, fun _ => rfl, fun _ => rfl, rfl, fun _ => .rfl,
    fun _ l _ hl hr => .inl ⟨l, hl, hr⟩⟩

theorem Steady.trans (h : Steady s t) (h' : Steady t u) : Steady s u := by
  refine ⟨fun r => (h'.active r).trans (h.active r), fun r => (h'.sessionId r).trans (h.sessionId r),
    fun r => (h'.sessionHandleQ r).trans (h.sessionHandleQ r),
    fun r => (h'.outBufQ r).trans (h.outBufQ r), h'.nextQ.trans h.nextQ,
    fun q => (h'.there q).trans (h.there q), fun q l r hl hr => ?_⟩
  rcases h'.home q l r hl hr with ⟨l', hl', hr'⟩ | hq
  · exact h.home q l' r hl' hr'
  · exact .inr (h.sessionHandleQ r ▸ hq)

theorem Steady.of_queues (active : ∀ r, (t.session r).active = (s.session r).active)
    (sessionId : ∀ r, (t.session r).sessionId = (s.session r).sessionId)
    (sessionHandleQ : ∀ r, (t.session r).sessionHandleQ = (s.session r).sessionHandleQ)
    (outBufQ : ∀ r, (t.session r).outBufQ = (s.session r).outBufQ) (nextQ : t.nextQ = s.nextQ)
    (handleQs : t.handleQs = s.handleQs) : Steady s t :=
  ⟨active, sessionId, sessionHandleQ, outBufQ, nextQ, fun q => by rw [handleQs],
    fun q l r hl hr => .inl ⟨l, handleQs ▸ hl, hr⟩⟩

theorem Steady.update (session : t.session = update s.session r p)
    (active : p.active = (s.session r).active) (sessionId : p.sessionId = (s.session r).sessionId)
    (sessionHandleQ : p.sessionHandleQ = (s.session r).sessionHandleQ)
    (outBufQ : p.outBufQ = (s.session r).outBufQ) (nextQ : t.nextQ = s.nextQ)
    (handleQs : t.handleQs = s.handleQs) : Steady s t := by
  have hfield : ∀ {α : Type} (f : JobSession → α), f p = f (s.session r) →
      ∀ b, f (t.session b) = f (s.session b) := by
    intro α f hf b
    rw [session]
    by_cases hb : b = r
    · rw [hb, update_self, hf]
    · rw [update_of_ne hb]
  exact .of_queues (hfield _ active) (hfield _ sessionId) (hfield _ sessionHandleQ)
    (hfield _ outBufQ) nextQ handleQs

theorem steady_enqHandle {ok : Bool} (h : s.enqHandle (s.session r).sessionHandleQ r ok = some t) :
    Steady s t := by
  cases ok with
  | false =>
    cases h
    exact .refl s
  | true =>
    obtain ⟨q, l, hq, hl, rfl⟩ := enqHandle_ok h
    refine ⟨fun _ => rfl, fun _ => rfl, fun _ => rfl, fun _ => rfl, rfl, fun a => ?_,
      fun a l' b hl' hb => ?_⟩
    · by_cases ha : a = q
      · simp only [ha, update_self, hl, reduceCtorEq]
      · simp only [update_of_ne ha]
    · by_cases ha : a = q
      · simp only [ha, update_self, some.injEq] at hl'
        rw [← hl'] at hb
        rcases mem_append.mp hb with hb | hb
        · exact .inl ⟨l, ha ▸ hl, hb⟩
        · rw [mem_singleton.mp hb, ha]
          exact .inr hq
      · simp only [update_of_ne ha] at hl'
        exact .inl ⟨l', hl', hb⟩

theorem steady_jobDone (h : s.jobDone r mem = some t) : Steady s t := by
  simp only [jobDone, bind_eq_bind, bind_eq_some_iff] at h
  obtain ⟨s₁, h₁, s₂, h₂, h⟩ := h
  have hset : Steady s ({ s with
      ongoing := takeOut JobNode.jobId (s.session r).jobId s.ongoing }.setSession r
        { s.session r with encoding := false }) := .update rfl rfl rfl rfl rfl rfl rfl
  have henq : Steady _ s₁ := steady_enqHandle (by rw [setSession_self]; exact h₁)
  have hs₂ := returnOut_eq h₂
  have hout : Steady s₁ t := by
    cases h
    rw [hs₂]
    exact .of_queues (fun _ => rfl) (fun _ => rfl) (fun _ => rfl) (fun _ => rfl) rfl rfl
  exact (hset.trans henq).trans hout

theorem steady_endJob {status : JobStatus} (h : s.endJob r status mem = some t) : Steady s t := by
  unfold endJob at h
  split_ifs at h
  · have hcall : Steady s (s.callback r status) :=
      .of_queues (fun _ => rfl) (fun _ => rfl) (fun _ => rfl) (fun _ => rfl) rfl rfl
    exact hcall.trans (steady_jobDone h)
  · exact steady_jobDone h

theorem steady_setFlags (s : JpegObj) (f : SessionPtr → Flags) (i : Option SessionPtr) (pc : MgrPc) :
    Steady s (s.setFlags f i pc) :=
  .of_queues (fun _ => rfl) (fun _ => rfl) (fun _ => rfl) (fun _ => rfl) rfl rfl

theorem Encoding.steady {op : JpegOp} (h : s.Encoding op t) : Steady s t := by
  rcases h with ⟨f, i, pc, -, -, -⟩ | ⟨f, i, pc, -, -, -, hdone⟩
  · exact steady_setFlags s f i pc
  · exact (steady_setFlags s f i pc).trans (steady_endJob hdone)

theorem steady_abortJob (s : JpegObj) (jobId : ℕ) (sent : SessionPtr → Bool) :
    Steady s (s.abortJob jobId sent) := by
  have hcases := abortJob_cases s jobId sent
  generalize s.abortJob jobId sent = t at hcases
  rcases hcases with _ | _ | _
  · exact .of_queues (fun _ => rfl) (fun _ => rfl) (fun _ => rfl) (fun _ => rfl) rfl rfl
  · exact .of_queues (fun _ => rfl) (fun _ => rfl) (fun _ => rfl) (fun _ => rfl) rfl rfl
  · exact .refl s

theorem steady_startCounted (s : JpegObj) (job : EncodeJob) (mem : Mem) :
    Steady s (s.startCounted job mem) := by
  have hcases := startCounted_cases s job mem
  generalize s.startCounted job mem = t at hcases
  have hwork : ∀ w, Steady s { s with workBufCnt := w } := fun w =>
    .of_queues (fun _ => rfl) (fun _ => rfl) (fun _ => rfl) (fun _ => rfl) rfl rfl
  rcases hcases with ⟨w, _⟩ | ⟨w, _, _, _⟩ | ⟨w, _⟩ | ⟨w, _, _⟩
  · exact hwork w
  · exact .of_queues (fun _ => rfl) (fun _ => rfl) (fun _ => rfl) (fun _ => rfl) rfl rfl
  · exact (hwork w).trans (.update rfl rfl rfl rfl rfl rfl rfl)
  · exact (hwork w).trans (.update rfl rfl rfl rfl rfl rfl rfl)

theorem steady_dequeued {l : List SessionPtr} (rest : List JobNode) (b : Bool)
    (o : ℕ → Option (List ℕ)) (idle : s.handleQs q = some (r :: l)) :
    Steady s ((s.dequeued rest q l).setUp r b o) := by
  have hdeq : Steady s (s.dequeued rest q l) := by
    refine ⟨fun _ => rfl, fun _ => rfl, fun _ => rfl, fun _ => rfl, rfl, fun a => ?_,
      fun a l' c hl' hc => .inl ?_⟩
    · by_cases ha : a = q
      · simp only [dequeued, ha, update_self, idle, reduceCtorEq]
      · simp only [dequeued, update_of_ne ha]
    · by_cases ha : a = q
      · simp only [dequeued, ha, update_self, some.injEq] at hl'
        exact ⟨r :: l, ha ▸ idle, mem_cons_of_mem r (hl' ▸ hc)⟩
      · simp only [dequeued, update_of_ne ha] at hl'
        exact ⟨l', hl', hc⟩
  exact hdeq.trans (.update rfl rfl rfl rfl rfl rfl rfl)

theorem steady_pick (h : s.pick mem = some t) : Steady s t := by
  obtain ⟨-, hpicked⟩ := pick_cases h
  rcases hpicked with htodo | ⟨htodo, hnamed⟩ | ⟨htodo, hnamed, hq, hidle⟩ |
    ⟨htodo, hnamed, hq, hidle, hplaced⟩
  · exact .of_queues (fun _ => rfl) (fun _ => rfl) (fun _ => rfl) (fun _ => rfl) rfl rfl
  · exact .of_queues (fun _ => rfl) (fun _ => rfl) (fun _ => rfl) (fun _ => rfl) rfl rfl
  · exact .of_queues (fun _ => rfl) (fun _ => rfl) (fun _ => rfl) (fun _ => rfl) rfl rfl
  · rcases hplaced with ⟨o, _, _, _, _⟩ | ⟨hassigned, _⟩ | ⟨hassigned, _, hdone⟩
    · exact steady_dequeued _ _ _ hidle
    · exact (steady_dequeued _ _ _ hidle).trans (.update rfl rfl rfl rfl rfl rfl rfl)
    · exact (steady_dequeued _ _ _ hidle).trans (steady_jobDone hdone)

theorem getNewSessionIdx_some {c : ℕ} (h : s.getNewSessionIdx c = some r) :
    r.clientIdx = c ∧ r.sessionIdx < maxSession ∧ (s.session r).active = false := by
  unfold getNewSessionIdx at h
  obtain ⟨i, hi, rfl⟩ := map_eq_some_iff.mp h
  have hfound := find?_some hi
  exact ⟨rfl, mem_range.mp (mem_of_find?_eq_some hi), by simpa using hfound⟩

theorem getNewSessionIdx_none {c : ℕ} (h : s.getNewSessionIdx c = none) (i : ℕ)
    (hi : i < maxSession) : (s.session ⟨c, i⟩).active = true := by
  unfold getNewSessionIdx at h
  have hnone := find?_eq_none.mp (map_eq_none_iff.mp h) i (mem_range.mpr hi)
  simpa using hnone

theorem sessionAt_idOf (h : r.InTable) : sessionAt (idOf r) = r := by
  have hall : ∀ c < maxJpegClientNum, ∀ i < maxSession, sessionAt (idOf ⟨c, i⟩) = ⟨c, i⟩ := by
    decide
  exact hall r.clientIdx h.2 r.sessionIdx h.1

/-- **A group that is created**, so far: its sessions are new, named, and queued as idle; and
nothing else is changed, but for links and configurations, and sessions that are not active. -/
structure Grown (s u : JpegObj) (c : ℕ) (mem : Mem) (rs : List SessionPtr) : Prop where
  frame : Frame s u
  jobSem : u.jobSem = s.jobSem
  pc : u.pc = s.pc
  concurrent : u.concurrent = s.concurrent
  groups : u.groups = s.groups
  nextQ : u.nextQ = s.nextQ + 1
  handleQs : u.handleQs = update s.handleQs s.nextQ (some (if mem.handle then rs else []))
  outBufQs : u.outBufQs = update s.outBufQs s.nextQ (some [])
  nodup : rs.Nodup
  entry : ∀ b ∈ rs, b.InTable ∧ b.clientIdx = c ∧ (s.session b).active = false
  new : ∀ b ∈ rs, (u.session b).active = true ∧ (u.session b).sessionId = idOf b ∧
    (u.session b).sessionHandleQ = some s.nextQ ∧ (u.session b).outBufQ = some s.nextQ ∧
      (u.session b).job = 0
  others : ∀ b ∉ rs, (u.session b).active = (s.session b).active ∧
    (u.session b).sessionId = (s.session b).sessionId ∧
      (u.session b).sessionHandleQ = (s.session b).sessionHandleQ ∧
        (u.session b).outBufQ = (s.session b).outBufQ
  kept : ∀ b, (s.session b).active = true → ∃ n c, u.session b =
    { s.session b with nextSession := n, config := c }

section

variable {v : JpegObj} {c w : ℕ} {rs : List SessionPtr} {prev : Option SessionPtr}
  {params : EncodeParams} {conf : Bool}

theorem grown_newQueues (s : JpegObj) (c w : ℕ) (mem : Mem) :
    Grown s ({ s with workBufCnt := w } : JpegObj).newQueues c mem [] where
  frame := ⟨rfl, rfl, rfl, rfl, rfl, fun _ => .inl rfl⟩
  jobSem := rfl
  pc := rfl
  concurrent := rfl
  groups := rfl
  nextQ := rfl
  handleQs := by
    rw [ite_self]
    rfl
  outBufQs := rfl
  nodup := .nil
  entry := fun b hb => absurd hb not_mem_nil
  new := fun b hb => absurd hb not_mem_nil
  others := fun b _ => ⟨rfl, rfl, rfl, rfl⟩
  kept := fun b _ => ⟨_, _, rfl⟩

theorem Grown.entry_new (hg : Grown s u c mem rs) (entry : u.getNewSessionIdx c = some r) :
    r ∉ rs ∧ (s.session r).active = false := by
  have hactive := (getNewSessionIdx_some entry).2.2
  have hr : r ∉ rs := by
    intro hr
    rw [(hg.new r hr).1] at hactive
    cases hactive
  exact ⟨hr, (hg.others r hr).1 ▸ hactive⟩

theorem Grown.noHandle (hg : Grown s u c mem rs) (entry : u.getNewSessionIdx c = some r)
    (hprev : prev ≠ some r) (created : (u.takeEntry prev r params).sessionCreate r false = v) :
    Grown s (v.setSession r { v.session r with active := false }) c mem rs := by
  obtain ⟨hr, hinactive⟩ := hg.entry_new entry
  have hactive := (getNewSessionIdx_some entry).2.2
  obtain ⟨f, hf⟩ := created_eq u prev r params false hprev
  rw [← created, hf]
  simp only [setSession, update_self, update_idem]
  have hother : ∀ {b}, b ≠ r → ∀ x, update (fun b => { u.session b with
      nextSession := f b }) r x b = { u.session b with nextSession := f b } := fun hb x =>
    update_of_ne hb _ _
  have hmem : ∀ {b}, b ∈ rs → b ≠ r := fun hb h => hr (h ▸ hb)
  refine ⟨⟨hg.frame.todo, hg.frame.ongoing, hg.frame.calls, hg.frame.removed, hg.frame.accepted,
    fun b => ?_⟩, hg.jobSem, hg.pc, hg.concurrent, hg.groups, hg.nextQ, hg.handleQs, hg.outBufQs,
    hg.nodup, hg.entry, fun b hb => ?_, fun b hb => ?_, fun b hb => ?_⟩
  · by_cases hbr : b = r
    · exact .inr (by rw [hbr]; dsimp only; rw [update_self])
    · dsimp only
      rw [hother hbr]
      exact hg.frame.job b
  · dsimp only
    rw [hother (hmem hb)]
    exact hg.new b hb
  · dsimp only
    by_cases hbr : b = r
    · rw [hbr, update_self]
      exact ⟨hinactive.symm, (hg.others r hr).2⟩
    · rw [hother hbr]
      exact hg.others b hb
  · have hbr : b ≠ r := by
      intro hbr
      rw [hbr, hinactive] at hb
      cases hb
    obtain ⟨n, d, hd⟩ := hg.kept b hb
    dsimp only
    rw [hother hbr, hd]
    exact ⟨f b, d, rfl⟩

theorem Grown.next (hg : Grown s u c mem rs) (valid : c < maxJpegClientNum)
    (entry : u.getNewSessionIdx c = some r) (hprev : prev ≠ some r)
    (named : ((u.takeEntry prev r params).sessionCreate r true).nameSession r s.nextQ mem = some v) :
    Grown s (v.configureFirst r conf).2 c mem (rs ++ [r]) := by
  obtain ⟨hr, hinactive⟩ := hg.entry_new entry
  obtain ⟨hclient, hidx, hactive⟩ := getNewSessionIdx_some entry
  obtain ⟨f, hf⟩ := created_eq u prev r params true hprev
  obtain ⟨d, i, hd⟩ := named_eq named conf
  have hqueue : u.handleQs s.nextQ = some (if mem.handle then rs else []) := by
    rw [hg.handleQs, update_self]
  rw [hf] at named hd
  have hqs := named_handleQs named hqueue
  rw [hd]
  have hother : ∀ {b}, b ≠ r → ∀ x y, update (update (fun b =>
      { u.session b with nextSession := f b }) r x) r y b =
        { u.session b with nextSession := f b } := fun hb x y => by
    rw [update_of_ne hb, update_of_ne hb]
  have hmem : ∀ {b}, b ∈ rs → b ≠ r := fun hb h => hr (h ▸ hb)
  refine ⟨⟨hg.frame.todo, hg.frame.ongoing, hg.frame.calls, hg.frame.removed, hg.frame.accepted,
    fun b => ?_⟩, hg.jobSem, hg.pc, hg.concurrent, hg.groups, hg.nextQ, ?_, hg.outBufQs,
    ?_, fun b hb => ?_, fun b hb => ?_, fun b hb => ?_, fun b hb => ?_⟩
  · by_cases hbr : b = r
    · refine .inr ?_
      rw [hbr]
      simp only [update_self]
    · dsimp only
      rw [hother hbr]
      exact hg.frame.job b
  · dsimp only at hqs ⊢
    rw [hqs, hg.handleQs, update_idem]
    cases mem.handle <;> rfl
  · exact nodup_append.mpr ⟨hg.nodup, nodup_singleton r, fun b hb a ha =>
      mem_singleton.mp ha ▸ hmem hb⟩
  · rcases mem_append.mp hb with hb | hb
    · exact hg.entry b hb
    · rw [mem_singleton.mp hb]
      exact ⟨⟨hidx, hclient ▸ valid⟩, hclient, hinactive⟩
  · dsimp only
    rcases mem_append.mp hb with hb | hb
    · rw [hother (hmem hb)]
      exact hg.new b hb
    · rw [mem_singleton.mp hb, update_self, update_self]
      exact ⟨rfl, rfl, rfl, rfl, rfl⟩
  · have hbr : b ≠ r := fun h => hb (mem_append_right _ (mem_singleton.mpr h))
    dsimp only
    rw [hother hbr]
    exact hg.others b fun h => hb (mem_append_left _ h)
  · have hbr : b ≠ r := by
      intro hbr
      rw [hbr, hinactive] at hb
      cases hb
    obtain ⟨n, d, hd⟩ := hg.kept b hb
    dsimp only
    rw [hother hbr, hd]
    exact ⟨f b, d, rfl⟩

/-- How the loop ends: with all the output buffers queued; or early, for want of an entry or of a
component; or it fails. -/
inductive LoopEnd (s : JpegObj) (c : ℕ) (params : EncodeParams) (mem : Mem)
    (out : ℕ → SessionOutcome) (rs rs' : List SessionPtr) (n i id : ℕ) : Bool × ℕ × JpegObj → Prop
  | through {id' : ℕ} {t : JpegObj} (all : rs'.length = n)
      (outBufQs : t.outBufQs = update s.outBufQs s.nextQ
        (some (if mem.out then (List.range params.numDstBufs).map (· + 1) else []))) :
      LoopEnd s c params mem out rs rs' n i id (true, id', t)
  | early {id' : ℕ} {t : JpegObj} (less : rs'.length < n) (none : rs' = [] → id' = id)
      (why : (∀ b, b.clientIdx = c → b.sessionIdx < maxSession → (s.session b).active = false →
        b ∈ rs ++ rs') ∨ (out (i + rs'.length)).handle = false)
      (outBufQs : t.outBufQs = update s.outBufQs s.nextQ (some [])) :
      LoopEnd s c params mem out rs rs' n i id (true, id', t)
  | failed {id' : ℕ} {t : JpegObj}
      (outBufQs : t.outBufQs = update s.outBufQs s.nextQ (some [])) :
      LoopEnd s c params mem out rs rs' n i id (false, id', t)

theorem Grown.createLoop (hg : Grown s u c mem rs) (valid : c < maxJpegClientNum)
    {n i id : ℕ} {res : Bool × ℕ × JpegObj} (hprev : ∀ p, prev = some p → p ∈ rs)
    (h : u.createLoop c params s.nextQ mem out n i prev id = some res) :
    ∃ rs', Grown s { res.2.2 with outBufQs := update s.outBufQs s.nextQ (some []) } c mem
      (rs ++ rs') ∧ LoopEnd s c params mem out rs rs' n i id res := by
  have hsame : ∀ {v rs}, Grown s v c mem rs →
      Grown s { v with outBufQs := update s.outBufQs s.nextQ (some []) } c mem rs := by
    intro v rs hv
    rw [← hv.outBufQs]
    exact hv
  induction n generalizing u i prev id rs with
  | zero =>
    cases h
    refine ⟨[], ?_, .through rfl ?_⟩
    · have h := hsame hg
      rw [append_nil]
      exact h
    · dsimp only
      rw [hg.outBufQs, update_idem]
  | succ n ih =>
    have hne : ∀ {r}, u.getNewSessionIdx c = some r → prev ≠ some r := fun hentry hp =>
      (hg.entry_new hentry).1 (hprev _ hp)
    rcases createLoop_cases h with ⟨hnone⟩ | ⟨hentry, hcreated, hhandle⟩ | ⟨hentry, hnamed, -⟩ |
      ⟨hentry, hnamed, -, hrest⟩
    · refine ⟨[], ?_, .early (Nat.succ_pos n) (fun _ => rfl) (.inl fun b hb hidx hactive => ?_)
        hg.outBufQs⟩
      · rw [append_nil]
        exact hsame hg
      · -- an entry that was not active and is active now is of the group
        by_contra hb'
        rw [append_nil] at hb'
        have hfull := getNewSessionIdx_none hnone b.sessionIdx hidx
        rw [← hb, (hg.others b hb').1, hactive] at hfull
        cases hfull
    · have hg' := hg.noHandle hentry (hne hentry) hcreated
      refine ⟨[], ?_, .early (Nat.succ_pos n) (fun _ => rfl) (.inr hhandle) hg'.outBufQs⟩
      rw [append_nil]
      exact hsame hg'
    · rename_i r v id'
      have hg' : Grown s (v.configureFirst r (out i).configure).2 c mem (rs ++ [r]) :=
        hg.next valid hentry (hne hentry) hnamed
      exact ⟨[r], hsame hg', .failed hg'.outBufQs⟩
    · rename_i r v
      have hg' : Grown s (v.configureFirst r (out i).configure).2 c mem (rs ++ [r]) :=
        hg.next valid hentry (hne hentry) hnamed
      obtain ⟨rs', hgrown, hend⟩ := ih hg' (fun p hp => by
        exact mem_append_right _ (mem_singleton.mpr (some.inj hp).symm)) hrest
      rw [append_assoc, singleton_append] at hgrown
      refine ⟨r :: rs', hgrown, ?_⟩
      rcases hend with ⟨hall, hout⟩ | ⟨hless, hnone, hwhy, hout⟩ | ⟨hout⟩
      · exact .through (congrArg Nat.succ hall) hout
      · refine .early (Nat.succ_lt_succ hless) nofun ?_ hout
        rw [append_assoc, singleton_append] at hwhy
        rw [length_cons, Nat.add_comm rs'.length, ← Nat.add_assoc]
        exact hwhy
      · exact .failed hout

/-- **What `mm_jpeg_create_session` creates**: nothing, or a group. -/
inductive Creation (s : JpegObj) (c : ℕ) (params : EncodeParams) (mem : Mem)
    (out : ℕ → SessionOutcome) : JpegObj → Prop
  | nothing (w : ℕ) : Creation s c params mem out { s with workBufCnt := w }
  | group {ok : Bool} {id : ℕ} {u : JpegObj} {rs : List SessionPtr}
      (bound : params.numDstBufs ≤ maxBuf)
      (grown : Grown s { u with outBufQs := update s.outBufQs s.nextQ (some []) } c mem rs)
      (loop : LoopEnd s c params mem out [] rs (if params.burstMode then s.concurrent else 1) 0 0
        (ok, id, u)) :
      Creation s c params mem out
        (if ok && id ≠ 0 then { u with groups := (s.nextQ, params.numDstBufs) :: u.groups } else u)

theorem createSession_grown (h : s.createSession clientHdl params mem out = some t) :
    Creation s (getIndexByHandler clientHdl) params mem out t := by
  rcases createSession_cases h with w | ⟨hvalid, hbound, hloop⟩
  · exact .nothing w
  · rename_i w _ _
    obtain ⟨rs, hgrown, hend⟩ := (grown_newQueues s (getIndexByHandler clientHdl) w mem).createLoop
      hvalid (fun p hp => by cases hp) hloop
    exact .group hbound hgrown hend

/-- The sessions of a new group are tied to its queues. -/
theorem Grown.tied (hg : Grown s u c mem rs) (hs : s.Tied) : u.Tied := by
  have hold : ∀ b, b ∉ rs → ∀ q, (u.session b).sessionHandleQ = some q → q ≠ s.nextQ := by
    intro b hb q hq hnext
    rw [(hg.others b hb).2.2.1] at hq
    exact absurd (hs.old b q hq) (hnext ▸ lt_irrefl _)
  have hqs : ∀ q, q ≠ s.nextQ → u.handleQs q = s.handleQs q := by
    intro q hq
    rw [hg.handleQs, update_of_ne hq]
  refine ⟨fun b hb => ?_, fun b q hq hlive => ?_, fun q l b hl hb => ?_, fun q hq => ?_,
    fun b q hq => ?_, fun b => ?_⟩
  · by_cases hbr : b ∈ rs
    · rw [(hg.new b hbr).2.1]
      exact ⟨sessionAt_idOf (hg.entry b hbr).1, (hg.entry b hbr).1⟩
    · rw [(hg.others b hbr).2.1]
      exact hs.named b ((hg.others b hbr).1 ▸ hb)
  · by_cases hbr : b ∈ rs
    · exact (hg.new b hbr).1
    · rw [hqs q (hold b hbr q hq)] at hlive
      rw [(hg.others b hbr).1]
      exact hs.live b q ((hg.others b hbr).2.2.1 ▸ hq) hlive
  · by_cases hq : q = s.nextQ
    · rw [hq, hg.handleQs, update_self] at hl
      have hbr : b ∈ rs := by
        rw [← some.inj hl] at hb
        split_ifs at hb
        · exact hb
        · cases hb
      rw [hq]
      exact (hg.new b hbr).2.2.1
    · rw [hqs q hq] at hl
      have hhome := hs.home q l b hl hb
      -- a session that is in a queue is active, and so not a new one
      have hactive := hs.live b q hhome (by rw [hl]; exact some_ne_none l)
      have hbr : b ∉ rs := by
        intro hbr
        rw [(hg.entry b hbr).2.2] at hactive
        cases hactive
      rw [(hg.others b hbr).2.2.1]
      exact hhome
  · rw [hg.nextQ] at hq
    rw [hqs q (Nat.lt_of_succ_le hq).ne']
    exact hs.fresh q (Nat.le_of_succ_le hq)
  · rw [hg.nextQ]
    by_cases hbr : b ∈ rs
    · rw [(hg.new b hbr).2.2.1] at hq
      rw [← some.inj hq]
      exact Nat.lt_succ_self _
    · exact (hs.old b q ((hg.others b hbr).2.2.1 ▸ hq)).trans (Nat.lt_succ_self _)
  · by_cases hbr : b ∈ rs
    · rw [(hg.new b hbr).2.2.1, (hg.new b hbr).2.2.2.1]
    · rw [(hg.others b hbr).2.2.1, (hg.others b hbr).2.2.2]
      exact hs.same b

theorem Creation.tied (h : Creation s c params mem out t) (hs : s.Tied) :
    t.Tied := by
  rcases h with w | ⟨-, hgrown, -⟩
  · have hwork : Steady s { s with workBufCnt := w } :=
      .of_queues (fun _ => rfl) (fun _ => rfl) (fun _ => rfl) (fun _ => rfl) rfl rfl
    exact hwork.tied hs
  · refine Steady.tied (.of_queues (fun _ => ?_) (fun _ => ?_) (fun _ => ?_) (fun _ => ?_) ?_ ?_)
      (hgrown.tied hs) <;> split_ifs <;> rfl

end

/-! ## Sessions that are given up -/

theorem tied_zeroSessions (hs : s.Tied) {c : ℕ}
    (inactive : ∀ r : SessionPtr, r.clientIdx = c → (s.session r).active = false) :
    (s.zeroSessions c).Tied := by
  have hcases : ∀ b, (s.zeroSessions c).session b = s.session b ∨
      ((s.zeroSessions c).session b = {} ∧ (s.session b).active = false) := by
    intro b
    simp only [zeroSessions]
    split_ifs with hb
    · exact .inr ⟨rfl, inactive b hb.1⟩
    · exact .inl rfl
  refine ⟨fun b hb => ?_, fun b q hq hlive => ?_, fun q l b hl hb => ?_, hs.fresh,
    fun b q hq => ?_, fun b => ?_⟩
  · rcases hcases b with h | ⟨h, -⟩ <;> rw [h] at hb ⊢
    · exact hs.named b hb
    · cases hb
  · rcases hcases b with h | ⟨h, -⟩ <;> rw [h] at hq ⊢
    · exact hs.live b q hq hlive
    · cases hq
  · have hhome := hs.home q l b hl hb
    rcases hcases b with h | ⟨-, hnot⟩
    · rw [h]
      exact hhome
    · have hactive := hs.live b q hhome (by
        rw [show s.handleQs q = some l from hl]
        exact some_ne_none l)
      rw [hnot] at hactive
      cases hactive
  · rcases hcases b with h | ⟨h, -⟩ <;> rw [h] at hq
    · exact hs.old b q hq
    · cases hq
  · rcases hcases b with h | ⟨h, -⟩ <;> rw [h]
    exact hs.same b

theorem Steady.of_client (client : ℕ → JpegClient) (numClients : ℤ) :
    Steady s { s with client := client, numClients := numClients } :=
  .of_queues (fun _ => rfl) (fun _ => rfl) (fun _ => rfl) (fun _ => rfl) rfl rfl

theorem tied_newClient (hs : s.Tied) {count : ℕ} (h : (JpegOp.newClient count).Orderly s) :
    (s.newClient count).2.Tied := by
  unfold newClient
  split_ifs
  · exact hs
  · split
    · rename_i idx hidx
      refine Steady.tied (.of_client _ _) (tied_zeroSessions hs (c := idx) fun r hr => ?_)
      exact h r (hr ▸ hidx)
    · exact hs

theorem abortSessions_inactive {c : ℕ} (sent : SessionPtr → Bool)
    (inactive : ∀ r : SessionPtr, r.clientIdx = c → (s.session r).active = false) :
    s.abortSessions c sent = s := by
  unfold abortSessions
  generalize range maxSession = l
  induction l with
  | nil => rfl
  | cons i l ih =>
    rw [foldl_cons, if_neg (by rw [inactive ⟨c, i⟩ rfl]; exact Bool.false_ne_true)]
    exact ih

theorem close_eq (h : (JpegOp.close clientHdl sent).Orderly s) : (s.close clientHdl sent).2 = s ∨
      (s.close clientHdl sent).2 = { s.zeroSessions (getIndexByHandler clientHdl) with
        client := update s.client (getIndexByHandler clientHdl) {} } := by
  unfold close
  dsimp only
  split_ifs
  · exact .inl rfl
  · rw [abortSessions_inactive sent h]
    exact .inr rfl

theorem tied_close (hs : s.Tied)
    (h : (JpegOp.close clientHdl sent).Orderly s) : (s.close clientHdl sent).2.Tied := by
  rcases close_eq h with heq | heq <;> rw [heq]
  · exact hs
  · exact Steady.tied (.of_client _ _) (tied_zeroSessions hs h)

/-- Where sessions have their own ids, exactly those of a list are not active any more when they are
removed. -/
theorem removeSessionIdx_active {l : List SessionPtr}
    (named : ∀ b ∈ l, sessionAt (s.session b).sessionId = b) (b : SessionPtr) :
    ((s.removeSessionIdx l).session b).active = if b ∈ l then false else (s.session b).active := by
  induction l generalizing s with
  | nil => rfl
  | cons r rest ih =>
    unfold removeSessionIdx
    dsimp only
    rw [named r mem_cons_self, ih (fun c hc => ?_)]
    · by_cases hb : b = r
      · rw [hb, setSession_self, ite_self, if_pos mem_cons_self]
      · rw [setSession_other _ hb]
        simp only [mem_cons, hb, false_or]
    · by_cases hc' : c = r
      · rw [hc', setSession_self]
        exact named r mem_cons_self
      · rw [setSession_other _ hc']
        exact named c (mem_cons_of_mem _ hc)

theorem chain_congr (link : ∀ b, (t.session b).nextSession = (s.session b).nextSession) (n : ℕ)
    (r : SessionPtr) : t.chain n r = s.chain n r := by
  induction n generalizing r with
  | zero => rfl
  | succ n ih =>
    unfold chain
    rw [link]
    rcases (s.session r).nextSession with _ | next
    · rfl
    · dsimp only
      rw [ih]

/-- **A group that is torn down**: exactly the sessions of its chain are not active any more. -/
theorem tearDown_active (hs : s.Named) (intact : ∀ b ∈ s.chain fuel r, (s.session b).active = true)
    (sent : SessionPtr → Bool) (b : SessionPtr) : ((s.tearDown r sent).session b).active =
      if b ∈ s.chain fuel r then false else (s.session b).active := by
  obtain ⟨a, ha⟩ := sessionAbort_eq sent fuel (s.removeJobs (s.session r).sessionId) r
  obtain ⟨g, h, i, n, hn⟩ := sessionDestroy_eq ((s.destroySessionUnlocked sent r).chain fuel r)
    (s.destroySessionUnlocked sent r)
  have hchain : (s.destroySessionUnlocked sent r).chain fuel r = s.chain fuel r := by
    refine chain_congr (fun b => ?_) fuel r
    rw [destroySessionUnlocked, ha]
    rfl
  rw [hchain] at hn
  unfold tearDown
  dsimp only
  rw [hchain, removeSessionIdx_active, hn, destroySessionUnlocked, ha]
  · rfl
  · intro c hc
    rw [hn, destroySessionUnlocked, ha]
    exact (hs c (intact c hc)).1

/-- **A group that is destroyed**: what is left of the sessions and the queues. -/
structure Destroyed (s t : JpegObj) (r : SessionPtr) (q : ℕ) : Prop where
  queue : (s.session r).sessionHandleQ = some q
  there : s.handleQs q ≠ none
  handleQs : t.handleQs = update s.handleQs q none
  outBufQs : t.outBufQs = update s.outBufQs q none
  groups : t.groups = s.groups.filter fun g => g.1 ≠ q
  nextQ : t.nextQ = s.nextQ
  jobSem : t.jobSem = s.jobSem + 1
  pc : t.pc = s.pc
  concurrent : t.concurrent = s.concurrent
  active : ∀ b, (t.session b).active = if b ∈ s.chain fuel r then false else (s.session b).active
  sessionId : ∀ b, (t.session b).sessionId = (s.session b).sessionId
  bound : ∀ b, (t.session b).job = (s.session b).job ∧ (t.session b).jobId = (s.session b).jobId ∧
    (t.session b).encodeJob = (s.session b).encodeJob ∧
      (t.session b).autoOutBuf = (s.session b).autoOutBuf
  others : ∀ b ≠ r, (t.session b).sessionHandleQ = (s.session b).sessionHandleQ ∧
    (t.session b).outBufQ = (s.session b).outBufQ
  self : (t.session r).sessionHandleQ = none ∧ (t.session r).outBufQ = none

theorem destroySession_destroyed (hs : s.Tied) (intact : s.Intact r)
    (h : s.destroySession r sent = some t) : ∃ q, Destroyed s t r q := by
  obtain ⟨f, g, o, a, i, n, htear⟩ := tearDown_eq s r sent
  have hactive := tearDown_active hs.named (fun b hb => (intact.2 b hb).1) sent
  obtain ⟨q, q', hq, hq', hthere, ht⟩ := freeQueues_eq h
  have hsame := hs.same r
  rw [htear] at hq hq' hthere hactive
  dsimp only [removeJobs] at hq hq' hthere hactive
  cases (hq'.symm.trans hsame).trans hq
  rw [htear] at ht
  dsimp only [removeJobs] at ht
  have hself : ∀ {α : Type} (k : JobSession → α), k (t.session r) = k { s.session r with
      active := f r, config := g r, omxHandle := o r, abortState := a r
      sessionHandleQ := none, outBufQ := none } := by
    intro α k
    rw [ht]
    dsimp only
    rw [update_self]
  have hother : ∀ {b}, b ≠ r → t.session b = { s.session b with
      active := f b, config := g b, omxHandle := o b, abortState := a b } := by
    intro b hb
    rw [ht]
    dsimp only
    rw [update_of_ne hb]
  refine ⟨q, hq, ne_none_iff_isSome.mpr hthere, by rw [ht], by rw [ht], by rw [ht],
    by rw [ht], by rw [ht], by rw [ht], by rw [ht], fun b => ?_, fun b => ?_, fun b => ?_,
    fun b hb => ?_, hself (·.sessionHandleQ), hself (·.outBufQ)⟩
  · rw [← hactive b]
    by_cases hb : b = r
    · rw [hb, hself (·.active)]
    · rw [hother hb]
  · by_cases hb : b = r
    · rw [hb, hself (·.sessionId)]
    · rw [hother hb]
  · by_cases hb : b = r
    · rw [hb, hself (·.job), hself (·.jobId), hself (·.encodeJob), hself (·.autoOutBuf)]
      exact ⟨rfl, rfl, rfl, rfl⟩
    · rw [hother hb]
      exact ⟨rfl, rfl, rfl, rfl⟩
  · rw [hother hb]
    exact ⟨rfl, rfl⟩

theorem Destroyed.tied (h : Destroyed s t r q) (hs : s.Tied) (intact : s.Intact r) : t.Tied := by
  have hqs : ∀ a, a ≠ q → t.handleQs a = s.handleQs a := by
    intro a ha
    rw [h.handleQs, update_of_ne ha]
  have hgone : t.handleQs q = none := by
    rw [h.handleQs, update_self]
  have hpoint : ∀ b a, (t.session b).sessionHandleQ = some a →
      b ≠ r ∧ (s.session b).sessionHandleQ = some a := by
    intro b a ha
    by_cases hb : b = r
    · rw [hb, h.self.1] at ha
      cases ha
    · exact ⟨hb, (h.others b hb).1 ▸ ha⟩
  -- a session whose queue is still there is of another group, and so not in the chain
  have hchain : ∀ b a, (s.session b).sessionHandleQ = some a → a ≠ q → b ∉ s.chain fuel r := by
    intro b a ha hne hb
    rw [(intact.2 b hb).2, h.queue] at ha
    exact hne (some.inj ha).symm
  refine ⟨fun b hb => ?_, fun b a ha hlive => ?_, fun a l b hl hb => ?_, fun a ha => ?_,
    fun b a ha => ?_, fun b => ?_⟩
  · rw [h.active] at hb
    split_ifs at hb
    rw [h.sessionId]
    exact hs.named b hb
  · obtain ⟨hb, ha⟩ := hpoint b a ha
    have hne : a ≠ q := fun hq => hlive (hq ▸ hgone)
    rw [h.active, if_neg (hchain b a ha hne)]
    exact hs.live b a ha (hqs a hne ▸ hlive)
  · have hne : a ≠ q := by
      intro hq
      rw [hq, hgone] at hl
      cases hl
    rw [hqs a hne] at hl
    have hhome := hs.home a l b hl hb
    have hbr : b ≠ r := by
      intro hbr
      rw [hbr, h.queue] at hhome
      exact hne (some.inj hhome).symm
    rw [(h.others b hbr).1]
    exact hhome
  · by_cases hq : a = q
    · rw [hq, hgone]
    · rw [hqs a hq]
      exact hs.fresh a (h.nextQ ▸ ha)
  · rw [h.nextQ]
    exact hs.old b a (hpoint b a ha).2
  · by_cases hb : b = r
    · rw [hb, h.self.1, h.self.2]
    · rw [(h.others b hb).1, (h.others b hb).2]
      exact hs.same b

theorem steady_wake (h : s.wake = some t) : Steady s t := by
  unfold wake at h
  split_ifs at h
  cases h
  exact .of_queues (fun _ => rfl) (fun _ => rfl) (fun _ => rfl) (fun _ => rfl) rfl rfl

theorem steady_look (h : s.look = some t) : Steady s t := by
  unfold look at h
  split_ifs at h <;> cases h <;>
    exact .of_queues (fun _ => rfl) (fun _ => rfl) (fun _ => rfl) (fun _ => rfl) rfl rfl

end JpegObj

open JpegObj

variable {s t : JpegObj} {op : JpegOp}

/-- **Orderly steps keep sessions and queues tied.** -/
theorem JpegOp.Step.tied (h : op.Step s t) (hs : s.Tied) (orderly : op.Orderly s) : t.Tied := by
  cases h.outcome with
  | newClient count => exact tied_newClient hs orderly
  | createSession _ created => exact (createSession_grown created).tied hs
  | startJob job mem => exact (steady_startCounted s job mem).tied hs
  | abortJob jobId sent _ => exact (steady_abortJob s jobId sent).tied hs
  | destroySession _ named destroyed =>
    obtain ⟨q, hdestroyed⟩ := destroySession_destroyed hs (orderly _ named) destroyed
    exact hdestroyed.tied hs (orderly _ named)
  | unknownSession => exact hs
  | close clientHdl sent _ => exact tied_close hs orderly
  | wake woken => exact (steady_wake woken).tied hs
  | look looked => exact (steady_look looked).tied hs
  | pick picked => exact (steady_pick picked).tied hs
  | encoding _ encoding => exact encoding.steady.tied hs

theorem tied_init (concurrent : ℕ) (reuse : Bool) :
    Tied (.init concurrent reuse) where
  named := fun r hr => Bool.noConfusion hr
  live := fun r q hq => by cases hq
  home := fun q l r hl => by cases hl
  fresh := fun _ _ => rfl
  old := fun r q hq => by cases hq
  same := fun _ => rfl

end MmJpeg
