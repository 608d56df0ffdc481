import MidoCamera.Jpeg.Groups

/-!
# A session that cannot be created

`mm_jpeg_create_session` can fail at the work buffers, at the queues of the group, and in each
iteration of its loop over the OMX sessions. The loop of `mm_jpeg_alloc_workbuffer` that undoes a
failure frees all the work buffers there are, and the labels at the end of the call undo nothing:
the sessions that were made in earlier iterations stay active, and so does one that cannot be
configured.

The call is modelled here with its work buffers one by one, and with the point at which it ends.
-/

namespace MmJpeg

open Loop List JpegObj

/-- `mm_jpeg_obj`, with its work buffers: which entries of `ionBuffer` are allocated. -/
structure IonObj extends JpegObj where
  ionBuffer : ℕ → Bool := fun _ => false

/-- Where `mm_jpeg_create_session` ends: with the group created; at its arguments, at the work
buffers, at the queues of the group; or in the loop, for want of an entry or of a component, or
where a session cannot be configured. -/
inductive CreatePoint
  | created | invalid | workBuffer | queues | noSlot | noHandle | notConfigured
  deriving DecidableEq, Repr

/-- The loop ends with the return code 0: also where it has found no entry, or no component. -/
def CreatePoint.loopOk : CreatePoint → Bool
  | .notConfigured => false
  | _ => true

/-- What the calls on the way answer: `buffer_allocate` for each work buffer, `malloc` for the two
queues of the group, and for their nodes; and OMX for each session. -/
structure CreateEnv where
  buffer : ℕ → Bool := fun _ => true
  sessionHandleQ : Bool := true
  outBufQ : Bool := true
  handle : Bool := true
  out : Bool := true
  session : ℕ → SessionOutcome := fun _ => {}

/-- The allocations of the call as one of a run has them, after those of the work buffers. -/
def CreateEnv.mem (env : CreateEnv) (work : Bool) : Mem :=
  { node := env.sessionHandleQ && env.outBufQ
    handle := env.handle
    out := env.out
    work := work }

namespace JpegObj

/-- The loop of `mm_jpeg_create_session`, with the point at which it ends. -/
def createLoopTo (clntIdx : ℕ) (params : EncodeParams) (q : ℕ) (mem : Mem)
    (out : ℕ → SessionOutcome) : ℕ → ℕ → Option SessionPtr → ℕ → JpegObj →
      Option (CreatePoint × ℕ × JpegObj)
  | 0, _, _, id, s => do
    let l := if mem.out then (List.range params.numDstBufs).map (· + 1) else []
    some (.created, id, { s with outBufQs := Function.update s.outBufQs q (some l) })
  | n + 1, i, prev, id, s =>
    match s.getNewSessionIdx clntIdx with
    | none => some (.noSlot, id, s)
    | some r =>
      let s := (s.takeEntry prev r params).sessionCreate r (out i).handle
      if (out i).handle then do
        let s ← s.nameSession r q mem
        let id := if id = 0 then (s.session r).sessionId else id
        let (ok, s) := s.configureFirst r (out i).configure
        if ok then s.createLoopTo clntIdx params q mem out n (i + 1) (some r) id
        else some (.notConfigured, id, s)
      else some (.noHandle, id, s.setSession r { s.session r with active := false })

/-- The group is returned with its id, also where the loop has ended early. -/
def returned (s : JpegObj) (ok : Bool) (id q : ℕ) (params : EncodeParams) : JpegObj :=
  if ok && id ≠ 0 then { s with groups := (q, params.numDstBufs) :: s.groups } else s

end JpegObj

namespace IonObj

/-- `mm_jpeg_init`, where it succeeds. -/
def init (concurrent : ℕ) (reuse : Bool) : IonObj :=
  { JpegObj.init concurrent reuse with ionBuffer := fun i => !reuse && i == 0 }

/-- `while (i--)` of `mm_jpeg_alloc_workbuffer`: the work buffers below `i` are freed. -/
def deallocDown : ℕ → IonObj → IonObj
  | 0, s => s
  | i + 1, s => deallocDown i { s with
      ionBuffer := Function.update s.ionBuffer i false
      workBufCnt := s.workBufCnt - 1 }

/-- The loop of `mm_jpeg_alloc_workbuffer`, `n` iterations from `i` on, with the return code so
far. -/
def allocLoop (buffer : ℕ → Bool) : ℕ → ℕ → ℤ → IonObj → ℤ × IonObj
  | 0, _, rc, s => (rc, s)
  | n + 1, i, _, s =>
    if buffer i then
      allocLoop buffer n (i + 1) i { s with
        ionBuffer := Function.update s.ionBuffer i true
        workBufCnt := s.workBufCnt + 1 }
    else (-1, s.deallocDown i)

def allocWorkbuffer (s : IonObj) (workBufsNeed : ℕ) (buffer : ℕ → Bool) : ℤ × IonObj :=
  allocLoop buffer (workBufsNeed - s.workBufCnt) s.workBufCnt 0 s

def numOmxSessions (s : JpegObj) (params : EncodeParams) : ℕ :=
  if params.burstMode then s.concurrent else 1

/-- The work buffers of a group: the return code, and what it leaves. -/
def groupWorkbuffer (s : IonObj) (n : ℕ) (buffer : ℕ → Bool) : ℤ × IonObj :=
  if s.reuseReprocBuffer then (0, s) else s.allocWorkbuffer (min n s.concurrent) buffer

/-- `mm_jpeg_create_session`, once its arguments are in order, with the point at which it ends. -/
def createGroup (s : IonObj) (clntIdx : ℕ) (params : EncodeParams) (env : CreateEnv) :
    Option (CreatePoint × IonObj) :=
  let n := numOmxSessions s.toJpegObj params
  let (rc, s) := s.groupWorkbuffer n env.buffer
  if rc = -1 then some (.workBuffer, s)
  else if env.sessionHandleQ = false then some (.queues, s)
  else if env.outBufQ = false then some (.queues, s)
  else do
    let q := s.nextQ
    let (point, id, obj) ←
      s.newQueues.createLoopTo clntIdx params q (env.mem true) env.session n 0 none 0
    some (point, { s with toJpegObj := obj.returned point.loopOk id q params })

/-- `mm_jpeg_create_session`, with the point at which it ends. -/
def createSession (s : IonObj) (clientHdl : ℕ) (params : EncodeParams) (env : CreateEnv) :
    Option (CreatePoint × IonObj) :=
  if maxBuf < params.numSrcBufs ∨ maxBuf < params.numDstBufs then some (.invalid, s)
  else if maxJpegClientNum ≤ getIndexByHandler clientHdl then some (.invalid, s)
  else s.createGroup (getIndexByHandler clientHdl) params env

/-! ## Work buffers -/

/-- The work buffers that are allocated are the first `workBufCnt` of them. -/
structure Counted (s : IonObj) : Prop where
  allocated : ∀ i, s.ionBuffer i = true ↔ i < s.workBufCnt
  bound : s.workBufCnt ≤ s.concurrent

/-- One of the work buffers that a group of `n` sessions needs cannot be allocated. -/
def WorkFails (s : IonObj) (n : ℕ) (buffer : ℕ → Bool) : Prop :=
  s.reuseReprocBuffer = false ∧
    ∃ i < min n s.concurrent, s.workBufCnt ≤ i ∧ buffer i = false

instance (s : IonObj) (n : ℕ) (buffer : ℕ → Bool) : Decidable (s.WorkFails n buffer) :=
  inferInstanceAs (Decidable (_ ∧ _))

section

variable {s : IonObj} {n : ℕ} {buffer : ℕ → Bool}

theorem deallocDown_eq (i : ℕ) (s : IonObj) : s.deallocDown i = { s with
    ionBuffer := fun j => s.ionBuffer j && decide (i ≤ j)
    workBufCnt := s.workBufCnt - i } := by
  induction i generalizing s with
  | zero => simp [deallocDown]
  | succ i ih =>
    unfold deallocDown
    rw [ih]
    congr 1
    · rw [Nat.sub_sub, Nat.add_comm 1 i]
    · funext j
      by_cases hj : j = i
      · simp [hj]
      · have hle : i ≤ j ↔ i + 1 ≤ j := ⟨fun h => lt_of_le_of_ne h (Ne.symm hj), Nat.le_of_succ_le⟩
        simp [Function.update_of_ne hj, hle]

/-- **The loop of `mm_jpeg_alloc_workbuffer`**: all the buffers are allocated, or no buffer is left,
not even of those that were there before. -/
theorem allocLoop_cases (hs : ∀ j, s.ionBuffer j = true ↔ j < s.workBufCnt) (n : ℕ)
    (buffer : ℕ → Bool) (rc : ℤ) :
    ((∀ j, s.workBufCnt ≤ j → j < s.workBufCnt + n → buffer j = true) ∧
      allocLoop buffer n s.workBufCnt rc s =
        (if n = 0 then rc else (s.workBufCnt + n - 1 : ℕ), { s with
          ionBuffer := fun j => decide (j < s.workBufCnt + n)
          workBufCnt := s.workBufCnt + n })) ∨
    ((∃ j, s.workBufCnt ≤ j ∧ j < s.workBufCnt + n ∧ buffer j = false) ∧
      allocLoop buffer n s.workBufCnt rc s =
        (-1, { s with ionBuffer := fun _ => false, workBufCnt := 0 })) := by
  induction n generalizing s rc with
  | zero =>
    refine .inl ⟨fun j hj hlt => absurd hlt (Nat.not_lt.mpr hj), ?_⟩
    have hbuf : s.ionBuffer = fun j => decide (j < s.workBufCnt + 0) := by
      funext j
      rw [Nat.add_zero, Bool.eq_iff_iff, hs, decide_eq_true_iff]
    rw [← hbuf]
    rfl
  | succ n ih =>
    unfold allocLoop
    cases hb : buffer s.workBufCnt with
    | false =>
      refine .inr ⟨⟨s.workBufCnt, le_rfl, by omega, hb⟩, ?_⟩
      rw [if_neg Bool.false_ne_true, deallocDown_eq, Nat.sub_self]
      have hbuf : (fun j => s.ionBuffer j && decide (s.workBufCnt ≤ j)) = fun _ => false := by
        funext j
        rw [Bool.and_eq_false_iff, ← Bool.not_eq_true, hs]
        simpa using lt_or_ge j s.workBufCnt |>.symm
      rw [hbuf]
    | true =>
      rw [if_pos rfl]
      have hs' : ∀ j, ({ s with
          ionBuffer := Function.update s.ionBuffer s.workBufCnt true
          workBufCnt := s.workBufCnt + 1 } : IonObj).ionBuffer j = true ↔ j < s.workBufCnt + 1 := by
        intro j
        dsimp only
        by_cases hj : j = s.workBufCnt
        · simp [hj]
        · rw [Function.update_of_ne hj, hs]
          omega
      rcases ih hs' (s.workBufCnt : ℤ) with ⟨hall, heq⟩ | ⟨⟨j, hle, hlt, hj⟩, heq⟩
      · refine .inl ⟨fun j hj hlt => ?_, heq.trans ?_⟩
        · rcases Nat.eq_or_lt_of_le hj with rfl | hj
          · exact hb
          · exact hall j hj (by dsimp only; omega)
        · dsimp only
          rw [if_neg n.succ_ne_zero, Nat.add_right_comm, Nat.add_assoc]
          split_ifs with hn
          · rw [hn]
            rfl
          · rfl
      · exact .inr ⟨⟨j, by dsimp only at hle; omega, by dsimp only at hlt; omega, hj⟩, heq⟩

/-- **The work buffers of a group**: they are all there, or none is left. -/
inductive WorkBuffers (s : IonObj) (n : ℕ) (buffer : ℕ → Bool) : ℤ × IonObj → Prop
  | allocated {rc : ℤ} {w : ℕ} {f : ℕ → Bool} (ok : ¬s.WorkFails n buffer) (code : rc ≠ -1)
      (counted : Counted { s with ionBuffer := f, workBufCnt := w }) (more : s.workBufCnt ≤ w)
      (coarse : s.toJpegObj.groupWorkbuffer n true = (rc, { s.toJpegObj with workBufCnt := w })) :
      WorkBuffers s n buffer (rc, { s with ionBuffer := f, workBufCnt := w })
  | lost (fails : s.WorkFails n buffer)
      (coarse : s.toJpegObj.groupWorkbuffer n false = (-1, { s.toJpegObj with workBufCnt := 0 })) :
      WorkBuffers s n buffer (-1, { s with ionBuffer := fun _ => false, workBufCnt := 0 })

theorem Counted.workBuffers (hs : s.Counted) (n : ℕ) (buffer : ℕ → Bool) :
    WorkBuffers s n buffer (s.groupWorkbuffer n buffer) := by
  unfold groupWorkbuffer
  cases hreuse : s.reuseReprocBuffer with
  | true =>
    rw [if_pos rfl]
    refine .allocated (fun h => ?_) (by decide) hs le_rfl ?_
    · cases hreuse.symm.trans h.1
    · unfold JpegObj.groupWorkbuffer
      rw [if_pos hreuse]
  | false =>
    rw [if_neg Bool.false_ne_true]
    unfold allocWorkbuffer
    have hcoarse : ∀ ok, s.toJpegObj.groupWorkbuffer n ok =
        s.toJpegObj.allocWorkbuffer (min n s.concurrent) ok := by
      intro ok
      unfold JpegObj.groupWorkbuffer
      rw [if_neg (by rw [hreuse]; exact Bool.false_ne_true)]
    by_cases hmore : s.workBufCnt < min n s.concurrent
    · have hneed : s.workBufCnt + (min n s.concurrent - s.workBufCnt) = min n s.concurrent :=
        Nat.add_sub_cancel' hmore.le
      rcases allocLoop_cases hs.allocated (min n s.concurrent - s.workBufCnt) buffer 0 with
        ⟨hall, heq⟩ | ⟨⟨j, hle, hlt, hj⟩, heq⟩
      · rw [heq, if_neg (Nat.sub_ne_zero_of_lt hmore), hneed]
        rw [hneed] at hall
        refine .allocated ?_ (by omega) ⟨fun i => decide_eq_true_iff, min_le_right _ _⟩ hmore.le ?_
        · rintro ⟨-, j, hlt, hle, hj⟩
          rw [hall j hle hlt] at hj
          cases hj
        · rw [hcoarse]
          unfold JpegObj.allocWorkbuffer
          rw [if_pos hmore, if_pos rfl]
      · rw [heq]
        refine .lost ⟨hreuse, j, hneed ▸ hlt, hle, hj⟩ ?_
        rw [hcoarse]
        unfold JpegObj.allocWorkbuffer
        rw [if_pos hmore, if_neg Bool.false_ne_true]
    · -- no buffer more is needed
      rw [Nat.sub_eq_zero_of_le (not_lt.mp hmore)]
      refine .allocated ?_ (by decide) hs le_rfl ?_
      · rintro ⟨-, j, hlt, hle, -⟩
        exact hmore (lt_of_le_of_lt hle hlt)
      · rw [hcoarse]
        unfold JpegObj.allocWorkbuffer
        rw [if_neg hmore]

end

/-! ## The call in a run -/

section

variable {s t : IonObj} {clientHdl : ℕ} {params : EncodeParams} {env : CreateEnv}

theorem createLoopTo_coarse {c q n i id : ℕ} {mem : Mem} {out : ℕ → SessionOutcome}
    {prev : Option SessionPtr} {u : JpegObj} :
    (u.createLoopTo c params q mem out n i prev id).map (fun res => (res.1.loopOk, res.2)) =
      u.createLoop c params q mem out n i prev id := by
  induction n generalizing u i prev id with
  | zero => rfl
  | succ n ih =>
    unfold createLoopTo createLoop
    cases u.getNewSessionIdx c with
    | none => rfl
    | some r =>
      dsimp only
      cases (out i).handle with
      | false => rfl
      | true =>
        simp only [if_true]
        cases ((u.takeEntry prev r params).sessionCreate r true).nameSession r q mem with
        | none => rfl
        | some v =>
          simp only [Option.bind_eq_bind, Option.bind_some]
          cases (v.configureFirst r (out i).configure).1 with
          | false => rfl
          | true => exact ih

end

/-! ## Failures that leave no trace -/

/-- **The call has left no trace**: the sessions that are active and those with a component are the
same, and so is their number; every work buffer that was allocated still is, and the count is that
of the allocated ones. -/
structure Atomic (s t : IonObj) : Prop where
  active : ∀ r, (t.session r).active = (s.session r).active
  handle : ∀ r, (t.session r).omxHandle = (s.session r).omxHandle
  numSessions : t.numSessions = s.numSessions
  kept : ∀ i, s.ionBuffer i = true → t.ionBuffer i = true
  count : t.workBufCnt = (List.range t.concurrent).countP t.ionBuffer

/-- The arguments of a call are out of range. -/
def Invalid (clientHdl : ℕ) (params : EncodeParams) : Prop :=
  (maxBuf < params.numSrcBufs ∨ maxBuf < params.numDstBufs) ∨
    maxJpegClientNum ≤ getIndexByHandler clientHdl

/-- **The failures before the first session is made**: at the arguments; at the work buffers, where
there was none before; at the queues; for want of an entry for the first session, or of a component,
where its entry had none left over. -/
inductive CleanFailure (s : IonObj) (clientHdl : ℕ) (params : EncodeParams) (env : CreateEnv) : Prop
  | invalid (args : Invalid clientHdl params)
  | workBuffer (fails : s.WorkFails (numOmxSessions s.toJpegObj params) env.buffer)
      (noneBefore : s.workBufCnt = 0)
  | queues (buffers : ¬s.WorkFails (numOmxSessions s.toJpegObj params) env.buffer)
      (alloc : env.sessionHandleQ = false ∨ env.outBufQ = false)
  | noSlot (buffers : ¬s.WorkFails (numOmxSessions s.toJpegObj params) env.buffer)
      (full : s.getNewSessionIdx (getIndexByHandler clientHdl) = none)
  | noHandle {r : SessionPtr}
      (buffers : ¬s.WorkFails (numOmxSessions s.toJpegObj params) env.buffer)
      (entry : s.getNewSessionIdx (getIndexByHandler clientHdl) = some r)
      (component : (env.session 0).handle = false) (clean : (s.session r).omxHandle = false)

section

variable {s t : IonObj} {u v : JpegObj} {c n w : ℕ} {params : EncodeParams} {env : CreateEnv}
  {mem : Mem} {out : ℕ → SessionOutcome} {point : CreatePoint}

theorem Counted.count (hs : s.Counted) :
    s.workBufCnt = (List.range s.concurrent).countP s.ionBuffer := by
  obtain ⟨k, hk⟩ := Nat.exists_eq_add_of_le hs.bound
  rw [hk, range_add, countP_append]
  have hfirst : (range s.workBufCnt).countP s.ionBuffer = (range s.workBufCnt).length :=
    countP_eq_length.mpr fun i hi => (hs.allocated i).mpr (mem_range.mp hi)
  have hrest : ((range k).map (s.workBufCnt + ·)).countP s.ionBuffer = 0 := by
    refine countP_eq_zero.mpr fun i hi hbuf => ?_
    obtain ⟨j, -, rfl⟩ := mem_map.mp hi
    exact absurd ((hs.allocated _).mp hbuf) (by omega)
  rw [hfirst, hrest, length_range, Nat.add_zero]

/-- **How the loop fails**: at its first entry, or with the session of that entry active. -/
inductive FailedLoop (u : JpegObj) (c : ℕ) (params : EncodeParams) (out : ℕ → SessionOutcome) :
    JpegObj → Prop
  | noSlot (full : u.getNewSessionIdx c = none) : FailedLoop u c params out u
  | noHandle {r : SessionPtr} (entry : u.getNewSessionIdx c = some r)
      (component : (out 0).handle = false) (v : JpegObj)
      (created : (u.takeEntry none r params).sessionCreate r false = v) :
      FailedLoop u c params out (v.setSession r { v.session r with active := false })
  | partly {r : SessionPtr} {v : JpegObj} (entry : u.getNewSessionIdx c = some r)
      (component : (out 0).handle = true) (left : (v.session r).active = true) :
      FailedLoop u c params out v

theorem createLoopTo_fails {id : ℕ} {base : JpegObj} (hg : JpegObj.Grown base u c mem [])
    (valid : c < maxJpegClientNum) (failed : point ≠ .created)
    (h : u.createLoopTo c params base.nextQ mem out n 0 none 0 = some (point, id, v)) :
    FailedLoop u c params out v := by
  cases n with
  | zero =>
    cases h
    exact absurd rfl failed
  | succ n =>
    have hrun : u.createLoop c params base.nextQ mem out (n + 1) 0 none 0 =
        some (point.loopOk, id, v) := by
      rw [← createLoopTo_coarse, h]
      rfl
    unfold createLoopTo at h
    rcases hentry : u.getNewSessionIdx c with _ | r <;> simp only [hentry] at h
    · cases h
      exact .noSlot hentry
    cases hhandle : (out 0).handle with
    | false =>
      simp only [hhandle, Bool.false_eq_true, if_false] at h
      cases h
      exact .noHandle hentry hhandle _ rfl
    | true =>
      -- the first session is made: it is of the group, and those stay active
      refine .partly hentry hhandle ?_
      have hprev : (none : Option SessionPtr) ≠ some r := nofun
      obtain ⟨res, hres⟩ : ∃ res, res = (point.loopOk, id, v) := ⟨_, rfl⟩
      rw [← hres] at hrun
      rw [show v = res.2.2 by rw [hres]]
      rcases createLoop_cases hrun with ⟨hnone⟩ | ⟨hentry', -, hnone⟩ |
        ⟨hentry', hnamed, -⟩ | ⟨hentry', hnamed, -, hrest⟩
      · cases hentry.symm.trans hnone
      · cases hhandle.symm.trans hnone
      · cases hentry.symm.trans hentry'
        exact ((hg.next valid hentry hprev hnamed).new r (mem_singleton_self r)).1
      · cases hentry.symm.trans hentry'
        have hmem : ∀ p, some r = some p → p ∈ [] ++ [r] := fun p hp =>
          mem_singleton.mpr (Option.some.inj hp).symm
        obtain ⟨rs, hgrown, -⟩ := (hg.next valid hentry hprev hnamed).createLoop valid hmem hrest
        exact (hgrown.new r mem_cons_self).1

/-- The work buffers once those of the group are there: none is lost, and they are counted. -/
structure Extended (s : IonObj) (w : ℕ) (f : ℕ → Bool) : Prop where
  counted : Counted { s with ionBuffer := f, workBufCnt := w }
  more : s.workBufCnt ≤ w

/-- **How the call fails**, and what it leaves. -/
inductive Failed (s : IonObj) (clientHdl : ℕ) (params : EncodeParams) (env : CreateEnv) :
    IonObj → Prop
  | invalid (args : Invalid clientHdl params) : Failed s clientHdl params env s
  | workBuffer (valid : ¬Invalid clientHdl params)
      (fails : s.WorkFails (numOmxSessions s.toJpegObj params) env.buffer) :
      Failed s clientHdl params env { s with ionBuffer := fun _ => false, workBufCnt := 0 }
  | queues {w : ℕ} {f : ℕ → Bool}
      (buffers : ¬s.WorkFails (numOmxSessions s.toJpegObj params) env.buffer)
      (alloc : env.sessionHandleQ = false ∨ env.outBufQ = false) (extended : s.Extended w f) :
      Failed s clientHdl params env { s with ionBuffer := f, workBufCnt := w }
  | loop {w : ℕ} {f : ℕ → Bool} {v : JpegObj} (ok : Bool) (id : ℕ)
      (valid : ¬Invalid clientHdl params)
      (alloc : ¬(env.sessionHandleQ = false ∨ env.outBufQ = false))
      (buffers : ¬s.WorkFails (numOmxSessions s.toJpegObj params) env.buffer)
      (extended : s.Extended w f)
      (loop : FailedLoop ({ s.toJpegObj with workBufCnt := w } : JpegObj).newQueues
        (getIndexByHandler clientHdl) params env.session v) :
      Failed s clientHdl params env
        { toJpegObj := v.returned ok id s.nextQ params, ionBuffer := f }

theorem createSession_fails {clientHdl : ℕ} (hs : s.Counted) (failed : point ≠ .created)
    (h : s.createSession clientHdl params env = some (point, t)) :
    Failed s clientHdl params env t := by
  unfold createSession at h
  split_ifs at h with hbufs hclient
  · cases h
    exact .invalid (.inl hbufs)
  · cases h
    exact .invalid (.inr hclient)
  have hvalid : ¬Invalid clientHdl params := not_or.mpr ⟨hbufs, hclient⟩
  unfold createGroup at h
  dsimp only at h
  have hwork := hs.workBuffers (numOmxSessions s.toJpegObj params) env.buffer
  rcases hw : s.groupWorkbuffer (numOmxSessions s.toJpegObj params) env.buffer with ⟨rc, u⟩
  rw [hw] at hwork
  simp only [hw] at h
  rcases hwork with ⟨hok, hcode, hcounted, hmore, -⟩ | ⟨hfails, -⟩
  · rw [if_neg hcode] at h
    split_ifs at h with hq hq'
    · cases h
      exact .queues hok (.inl hq) ⟨hcounted, hmore⟩
    · cases h
      exact .queues hok (.inr hq') ⟨hcounted, hmore⟩
    · simp only [Option.bind_eq_bind, Option.bind_eq_some_iff] at h
      obtain ⟨⟨point', id, v⟩, hloop, h⟩ := h
      cases h
      exact .loop _ id hvalid (not_or.mpr ⟨hq, hq'⟩) hok ⟨hcounted, hmore⟩ (createLoopTo_fails
        (grown_newQueues s.toJpegObj (getIndexByHandler clientHdl) _ (env.mem true))
        (not_le.mp hclient) failed hloop)
  · rw [if_pos rfl] at h
    cases h
    exact .workBuffer hvalid hfails

theorem returned_eq (v : JpegObj) (ok : Bool) (id q : ℕ) (params : EncodeParams) :
    ∃ g, v.returned ok id q params = { v with groups := g } := by
  unfold returned
  split_ifs
  · exact ⟨_, rfl⟩
  · exact ⟨v.groups, rfl⟩

theorem Extended.atomic {f : ℕ → Bool} (hf : s.Extended w f)
    (hactive : ∀ r, (v.session r).active = (s.session r).active)
    (hhandle : ∀ r, (v.session r).omxHandle = (s.session r).omxHandle)
    (hnum : v.numSessions = s.numSessions) (hcnt : v.workBufCnt = w)
    (hcon : v.concurrent = s.concurrent) (hs : s.Counted) :
    Atomic s { toJpegObj := v, ionBuffer := f } where
  active := hactive
  handle := hhandle
  numSessions := hnum
  kept i hi := (hf.counted.allocated i).mpr (lt_of_lt_of_le ((hs.allocated i).mp hi) hf.more)
  count := by
    dsimp only
    rw [hcnt, hcon]
    exact hf.counted.count

theorem noHandle_eq {r : SessionPtr}
    (created : (u.takeEntry none r params).sessionCreate r false = v) :
    (∀ b ≠ r, ((v.setSession r { v.session r with active := false }).session b).active =
        (u.session b).active ∧
      ((v.setSession r { v.session r with active := false }).session b).omxHandle =
        (u.session b).omxHandle) ∧
      (v.session r).omxHandle = false ∧ v.numSessions = u.numSessions ∧
        v.workBufCnt = u.workBufCnt ∧ v.concurrent = u.concurrent := by
  obtain ⟨f, hf⟩ := created_eq u none r params false nofun
  rw [← created, hf]
  refine ⟨fun b hb => ?_, ?_, rfl, rfl, rfl⟩
  · rw [setSession_other _ hb]
    dsimp only
    rw [Function.update_of_ne hb]
    exact ⟨rfl, rfl⟩
  · dsimp only
    rw [Function.update_self]

/-- **A call that fails leaves no trace exactly at a clean failure**: before the first session is
made, and without a work buffer to lose. -/
theorem createSession_atomic_iff {clientHdl : ℕ} (counted : s.Counted) (failed : point ≠ .created)
    (call : s.createSession clientHdl params env = some (point, t)) :
    s.Atomic t ↔ s.CleanFailure clientHdl params env := by
  rcases createSession_fails counted failed call with hargs | ⟨hvalid, hfails⟩ |
    ⟨hok, halloc, hext⟩ | ⟨ok, id, hvalid, halloc, hok, hext, hloop⟩
  · exact iff_of_true ⟨fun _ => rfl, fun _ => rfl, rfl, fun _ hi => hi, counted.count⟩
      (.invalid hargs)
  · -- all the work buffers are lost
    constructor
    · intro h
      refine .workBuffer hfails (Nat.eq_zero_of_not_pos fun hpos => ?_)
      cases h.kept 0 ((counted.allocated 0).mpr hpos)
    · rintro (hargs | ⟨-, hnone⟩ | ⟨hok, -⟩ | ⟨hok, -⟩ | ⟨hok, -, -, -⟩)
      · exact absurd hargs hvalid
      · refine ⟨fun _ => rfl, fun _ => rfl, rfl, fun i hi => ?_, ?_⟩
        · exact absurd ((counted.allocated i).mp hi) (hnone ▸ Nat.not_lt_zero i)
        · exact (countP_eq_zero.mpr fun _ _ => Bool.false_ne_true).symm
      · exact absurd hfails hok
      · exact absurd hfails hok
      · exact absurd hfails hok
  · exact iff_of_true (hext.atomic (fun _ => rfl) (fun _ => rfl) rfl rfl rfl counted)
      (.queues hok halloc)
  · obtain ⟨g, hg⟩ := returned_eq _ ok id s.nextQ params
    rw [hg]
    rcases hloop with hfull | ⟨hentry, hcomp, v, hcreated⟩ | ⟨hentry, hcomp, hleft⟩
    · exact iff_of_true (hext.atomic (fun _ => rfl) (fun _ => rfl) rfl rfl rfl counted)
        (.noSlot hok hfull)
    · rename_i r
      obtain ⟨hother, hhandle, hnum, hcnt, hcon⟩ := noHandle_eq hcreated
      have hinactive := (getNewSessionIdx_some hentry).2.2
      -- the entry is given back, but a component it had left over is forgotten
      constructor
      · intro h
        refine .noHandle hok hentry hcomp ((h.handle r).symm.trans ?_)
        dsimp only
        rw [setSession_self]
        exact hhandle
      · rintro (hargs | ⟨hfails, -⟩ | ⟨-, halloc'⟩ | ⟨-, hfull⟩ | ⟨-, hentry', -, hclean⟩)
        · exact absurd hargs hvalid
        · exact absurd hfails hok
        · exact absurd halloc' halloc
        · cases hentry.symm.trans hfull
        · cases hentry.symm.trans hentry'
          refine hext.atomic (fun b => ?_) (fun b => ?_) hnum hcnt hcon counted
          · by_cases hb : b = r
            · rw [hb]
              dsimp only
              rw [setSession_self]
              exact hinactive.symm
            · exact (hother b hb).1
          · by_cases hb : b = r
            · rw [hb]
              dsimp only
              rw [setSession_self]
              exact hhandle.trans hclean.symm
            · exact (hother b hb).2
    · rename_i r
      -- the session of the first entry stays active
      have hinactive := (getNewSessionIdx_some hentry).2.2
      refine iff_of_false (fun h => ?_) ?_
      · have hactive := h.active r
        dsimp only at hactive
        rw [hleft] at hactive
        cases hactive.trans hinactive
      · rintro (hargs | ⟨hfails, -⟩ | ⟨-, halloc'⟩ | ⟨-, hfull⟩ | ⟨-, -, hcomp', -⟩)
        · exact absurd hargs hvalid
        · exact absurd hfails hok
        · exact absurd halloc' halloc
        · cases hentry.symm.trans hfull
        · cases hcomp.symm.trans hcomp'

/-! ## The work buffers stay counted -/

theorem counted_init {concurrent : ℕ} (reuse : Bool) (h : 0 < concurrent) :
    (init concurrent reuse).Counted := by
  cases reuse with
  | true => exact ⟨fun i => ⟨fun hi => absurd hi Bool.false_ne_true, fun hi => absurd hi
      (Nat.not_lt_zero i)⟩, Nat.zero_le _⟩
  | false => exact ⟨fun i => beq_iff_eq.trans Nat.lt_one_iff.symm, h⟩

end

/-- OMX answers for the first session as given, and for the others that all is well. -/
def answers (first : SessionOutcome) : CreateEnv :=
  { session := fun i => if i = 0 then first else {} }

/-- There is no component for the first session: the call has left no trace. -/
theorem createSession_atomic_noHandle :
    ∃ t, (init 1 false).createSession 0x100 {} (answers ⟨false, true⟩) = some (.noHandle, t) ∧
      (init 1 false).Atomic t := by
  obtain ⟨t, hcall⟩ : ∃ t, (init 1 false).createSession 0x100 {} (answers ⟨false, true⟩) =
    some (.noHandle, t) := ⟨_, rfl⟩
  have hpoint : CreatePoint.noHandle ≠ .created := nofun
  exact ⟨t, hcall, (createSession_atomic_iff (counted_init false one_pos) hpoint hcall).mpr
    (.noHandle (by decide) (r := ⟨0, 0⟩) rfl rfl rfl)⟩

/-- **A session is left active though its call has failed**: it cannot be configured, and keeps its
component. -/
theorem createSession_not_atomic :
    ¬∀ (s t : IonObj) (clientHdl : ℕ) (params : EncodeParams) (env : CreateEnv)
      (point : CreatePoint), s.Counted → point ≠ .created →
        s.createSession clientHdl params env = some (point, t) → s.Atomic t := by
  intro hall
  have h := hall (init 1 false) _ 0x100 {} (answers ⟨true, false⟩) .notConfigured
    (counted_init false one_pos) (by decide) rfl
  exact absurd (h.active ⟨0, 0⟩) (by decide)

end IonObj

end MmJpeg
