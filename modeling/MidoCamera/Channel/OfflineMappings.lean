import MidoCamera.Library.Run
import MidoCamera.Library.RoundRobin

/-!
# The mappings of offline buffers

`doReprocessOffline` maps the input buffer and the metadata buffer of a job, each at the next index of
its own range, and starts the job. When a job is completed, the mapping at the head of each of two
lists is unmapped. The two ranges are gone through in step, and the heads are those of the job, as long
as a job that is not started leaves no mapping behind.
-/

namespace OfflineMappings

open Loop RoundRobin Function List

def MAX_REPROCESS_PIPELINE_STAGES : ℕ := 2

/-- The types of the two mappings. -/
inductive BufType
  | OFFLINE_INPUT_BUF
  | OFFLINE_META_BUF
  deriving DecidableEq

/-- `OfflineBuffer`; its stream is always the one of the channel. -/
structure OfflineBuffer where
  index : ℕ
  type : BufType
  deriving DecidableEq

/-- The counters and the lists of a reprocess channel. The last three fields are what is mapped by the
backend, and for which job, which jobs are outstanding, in order, and how many there have been. -/
structure Offline where
  numBuffers : ℕ
  offlineBuffersIndex : ℤ
  offlineMetaIndex : ℤ
  offlineBuffers : List OfflineBuffer := []
  offlineMetaBuffers : List OfflineBuffer := []
  mapped : BufType → ℕ → Option ℕ := fun _ _ => none
  jobs : List ℕ := []
  calls : ℕ := 0

/-- What comes of the calls of a job: none is made if it does not get as far as the mappings. -/
inductive Outcome
  | returns
  | calls (input metadata param : Bool)
  deriving DecidableEq

/-- The next call, or the completion of the first job. -/
inductive Act
  | reprocess (o : Outcome)
  | complete
  deriving DecidableEq

namespace Offline

/-- The constructor of the channel. -/
def create (chNumBuffers : ℕ) : Offline :=
  let numBuffers := chNumBuffers + (MAX_REPROCESS_PIPELINE_STAGES - 1)
  { numBuffers, offlineBuffersIndex := numBuffers - 1, offlineMetaIndex := 2 * numBuffers - 1 }

def mapBuf (s : Offline) (type : BufType) (index : ℕ) (ok : Bool) : Offline :=
  if ok then
    { s with
      mapped := update s.mapped type (update (s.mapped type) index (some s.calls)) }
  else s

def unmapBuf (s : Offline) (b : OfflineBuffer) : Offline :=
  { s with
    mapped := update s.mapped b.type (update (s.mapped b.type) b.index none) }

/-- The index goes back to the start if the maximal burst count is reached. -/
def loopBack (index max first : ℤ) : ℤ := if index = max then first else index

/-- The input buffer is mapped at its next index. -/
def mapInput (s : Offline) (ok : Bool) : Offline :=
  let s := { s with offlineBuffersIndex := loopBack s.offlineBuffersIndex (s.numBuffers - 1) (-1) }
  let bufIdx : ℕ := (s.offlineBuffersIndex + 1).toNat
  let s := s.mapBuf .OFFLINE_INPUT_BUF bufIdx ok
  if ok then
    { s with
      offlineBuffers := s.offlineBuffers ++ [⟨bufIdx, .OFFLINE_INPUT_BUF⟩]
      offlineBuffersIndex := bufIdx }
  else s

/-- The metadata buffer is mapped at its next index; it is in the list only if both are mapped. -/
def mapMeta (s : Offline) (input ok : Bool) : Offline :=
  let s := { s with
    offlineMetaIndex := loopBack s.offlineMetaIndex (s.numBuffers * 2 - 1) (s.numBuffers - 1) }
  let metaBufIdx : ℕ := (s.offlineMetaIndex + 1).toNat
  let s := s.mapBuf .OFFLINE_META_BUF metaBufIdx ok
  if input && ok then
    { s with
      offlineMetaBuffers := s.offlineMetaBuffers ++ [⟨metaBufIdx, .OFFLINE_META_BUF⟩]
      offlineMetaIndex := metaBufIdx }
  else s

/-- `doReprocessOffline`, from the mappings on: the job is started if all is well. -/
def doReprocessOffline (s : Offline) : Outcome → Offline
  | .returns => s
  | .calls input metadata param =>
    let t := (s.mapInput input).mapMeta input metadata
    { t with
      jobs := if input && metadata && param then t.jobs ++ [s.calls] else t.jobs
      calls := s.calls + 1 }

/-- The head of a list is unmapped, or all of it. -/
def unmapList (s : Offline) (all : Bool) : List OfflineBuffer → Offline × List OfflineBuffer
  | [] => (s, [])
  | b :: bs => if all then (bs.foldl unmapBuf (s.unmapBuf b), []) else (s.unmapBuf b, bs)

def unmapOfflineBuffers (s : Offline) (all : Bool) : Offline :=
  let r := s.unmapList all s.offlineBuffers
  let s := { r.1 with offlineBuffers := r.2 }
  let r := s.unmapList all s.offlineMetaBuffers
  { r.1 with offlineMetaBuffers := r.2 }

end Offline

/-- **The steps**: a call, or the first job is completed. -/
def Act.exec (a : Act) (s : Offline) : Option Offline :=
  match a, s.jobs with
  | .reprocess o, _ => some (s.doReprocessOffline o)
  | .complete, [] => none
  | .complete, _ :: jobs => some ({ s.unmapOfflineBuffers false with jobs := jobs })

/-- A step, with no more jobs outstanding than there are buffers. -/
def Step (a : Act) (s t : Offline) : Prop := a.exec s = some t ∧ t.jobs.length ≤ t.numBuffers

/-- **Each job has its mappings**, in the ranges. -/
structure Offline.Sound (s : Offline) : Prop where
  input : ∀ i, s.mapped .OFFLINE_INPUT_BUF i ≠ none → i < s.numBuffers
  metadata : ∀ i, s.mapped .OFFLINE_META_BUF i ≠ none → s.numBuffers ≤ i ∧ i < 2 * s.numBuffers
  jobs : ∀ type, ∀ j ∈ s.jobs, ∃ i, s.mapped type i = some j

/-- **A step follows the job**: a call replaces no mapping, and the completion of a job undoes those
that were made for it. -/
structure Follows (a : Act) (s t : Offline) : Prop where
  fresh : ∀ o, a = .reprocess o → ∀ type i, s.mapped type i ≠ none → t.mapped type i = s.mapped type i
  exact : a = .complete → ∀ j, s.jobs.head? = some j → ∀ type i,
    t.mapped type i = if s.mapped type i = some j then none else s.mapped type i

/-- A job is started, or maps nothing. -/
def Act.Paired : Act → Prop
  | .reprocess (.calls input metadata param) => input = metadata ∧ (metadata = true → param = true)
  | .reprocess .returns | .complete => True

instance : (a : Act) → Decidable a.Paired
  | .reprocess (.calls input metadata param) =>
    inferInstanceAs (Decidable (input = metadata ∧ (metadata = true → param = true)))
  | .reprocess .returns | .complete => isTrue trivial

def listed (type : BufType) (bs : List ℕ) : List OfflineBuffer := bs.map fun i => ⟨i, type⟩

/-- **What is kept**: both ranges are taken in turn, by the jobs, and in step; the counters are at the
slots that come next. -/
structure Kept (s : Offline) : Prop where
  ranges : ∃ head inputs metas,
    Turns 0 s.numBuffers head inputs (s.mapped .OFFLINE_INPUT_BUF) s.jobs ∧
    Turns s.numBuffers s.numBuffers head metas (s.mapped .OFFLINE_META_BUF) s.jobs ∧
    s.offlineBuffers = listed .OFFLINE_INPUT_BUF inputs ∧
    s.offlineMetaBuffers = listed .OFFLINE_META_BUF metas ∧
    Offline.loopBack s.offlineBuffersIndex (s.numBuffers - 1) (-1) + 1 =
      slot 0 s.numBuffers head s.jobs.length ∧
    Offline.loopBack s.offlineMetaIndex (s.numBuffers * 2 - 1) (s.numBuffers - 1) + 1 =
      slot s.numBuffers s.numBuffers head s.jobs.length
  nodup : s.jobs.Nodup
  fresh : ∀ j ∈ s.jobs, j < s.calls

/-! ## The counters -/

variable {s t : Offline} {lo n head k : ℕ}

theorem loopBack_idem {max first : ℤ} (hne : first ≠ max) (index : ℤ) :
    Offline.loopBack (Offline.loopBack index max first) max first =
      Offline.loopBack index max first := by
  unfold Offline.loopBack
  by_cases h : index = max
  · rw [if_pos h, if_neg hne]
  · rw [if_neg h, if_neg h]

theorem loopBack_slot (hhead : head < n) (hk : k < n) :
    Offline.loopBack (slot lo n head k) (lo + n - 1) (lo - 1) + 1 = slot lo n head (k + 1) := by
  unfold Offline.loopBack slot
  split <;> split <;> split <;> omega

theorem listed_concat (type : BufType) (bs : List ℕ) (b : ℕ) :
    listed type bs ++ [⟨b, type⟩] = listed type (bs ++ [b]) := by
  unfold listed
  rw [map_append]
  rfl

/-- **A job that maps nothing** leaves all as it is, but for the counters. -/
theorem Kept.nothing (h : Kept s) (param : Bool) :
    Kept (s.doReprocessOffline (.calls false false param)) where
  ranges := by
    obtain ⟨head, inputs, metas, hin, hmeta, hbufs, hmetas, hnext, hnextMeta⟩ := h.ranges
    have hn := hin.head_lt
    have hne : (-1 : ℤ) ≠ s.numBuffers - 1 := by omega
    have hneMeta : (s.numBuffers - 1 : ℤ) ≠ s.numBuffers * 2 - 1 := by omega
    refine ⟨head, inputs, metas, hin, hmeta, hbufs, hmetas, ?_, ?_⟩
    · exact (congrArg (· + 1) (loopBack_idem hne _)).trans hnext
    · exact (congrArg (· + 1) (loopBack_idem hneMeta _)).trans hnextMeta
  nodup := h.nodup
  fresh j hj := (h.fresh j hj).trans (Nat.lt_succ_self _)

/-- The job that is started takes these two indices. -/
def Offline.started (s : Offline) (bufIdx metaBufIdx : ℕ) : Offline :=
  { s with
    offlineBuffersIndex := bufIdx
    offlineMetaIndex := metaBufIdx
    offlineBuffers := s.offlineBuffers ++ [⟨bufIdx, .OFFLINE_INPUT_BUF⟩]
    offlineMetaBuffers := s.offlineMetaBuffers ++ [⟨metaBufIdx, .OFFLINE_META_BUF⟩]
    mapped := fun
      | .OFFLINE_INPUT_BUF =>
        update (s.mapped .OFFLINE_INPUT_BUF) bufIdx (some s.calls)
      | .OFFLINE_META_BUF =>
        update (s.mapped .OFFLINE_META_BUF) metaBufIdx (some s.calls)
    jobs := s.jobs ++ [s.calls]
    calls := s.calls + 1 }

theorem doReprocessOffline_started {bufIdx metaBufIdx : ℕ}
    (hnext : Offline.loopBack s.offlineBuffersIndex (s.numBuffers - 1) (-1) + 1 = bufIdx)
    (hnextMeta : Offline.loopBack s.offlineMetaIndex (s.numBuffers * 2 - 1) (s.numBuffers - 1) + 1 =
      metaBufIdx) :
    s.doReprocessOffline (.calls true true true) = s.started bufIdx metaBufIdx := by
  simp only [Offline.doReprocessOffline, Offline.mapInput, Offline.mapMeta, Offline.mapBuf,
    Bool.and_self, if_true, hnext, hnextMeta, Int.toNat_natCast]
  unfold Offline.started
  congr 1
  funext type
  cases type with
  | OFFLINE_INPUT_BUF => rfl
  | OFFLINE_META_BUF => rfl

/-- **A job is started**, with the next index of each range. -/
theorem Kept.started (h : Kept s) (space : s.jobs.length < s.numBuffers) :
    Kept (s.doReprocessOffline (.calls true true true)) := by
  obtain ⟨head, inputs, metas, hin, hmeta, hbufs, hmetas, hnext, hnextMeta⟩ := h.ranges
  have hn := hin.head_lt
  have hlength : (s.started (slot 0 s.numBuffers head s.jobs.length)
      (slot s.numBuffers s.numBuffers head s.jobs.length)).jobs.length = s.jobs.length + 1 :=
    length_append
  rw [doReprocessOffline_started hnext hnextMeta]
  refine ⟨⟨head, _, _, hin.push space s.calls, hmeta.push space s.calls, ?_, ?_, ?_, ?_⟩, ?_, ?_⟩
  · show s.offlineBuffers ++ _ = _
    rw [hbufs, listed_concat]
  · show s.offlineMetaBuffers ++ _ = _
    rw [hmetas, listed_concat]
  · have hmax : (s.numBuffers - 1 : ℤ) = (0 : ℕ) + s.numBuffers - 1 := by omega
    rw [hlength]
    exact hmax ▸ loopBack_slot hn space
  · have hmax : (s.numBuffers * 2 - 1 : ℤ) = s.numBuffers + s.numBuffers - 1 := by omega
    rw [hlength]
    exact hmax ▸ loopBack_slot hn space
  · refine nodup_append.mpr ⟨h.nodup, nodup_singleton _, fun j hj k hk heq => ?_⟩
    rw [heq, mem_singleton.mp hk] at hj
    exact absurd (h.fresh _ hj) (Nat.lt_irrefl _)
  · intro j hj
    rcases mem_append.mp hj with hj | hj
    · exact (h.fresh j hj).trans (Nat.lt_succ_self _)
    · rw [mem_singleton.mp hj]
      exact Nat.lt_succ_self _

/-- The first job gives these two indices back. -/
def Offline.completed (s : Offline) (bufIdx metaBufIdx : ℕ) (jobs : List ℕ) : Offline :=
  { s with
    offlineBuffers := s.offlineBuffers.tail
    offlineMetaBuffers := s.offlineMetaBuffers.tail
    mapped := fun
      | .OFFLINE_INPUT_BUF => update (s.mapped .OFFLINE_INPUT_BUF) bufIdx none
      | .OFFLINE_META_BUF => update (s.mapped .OFFLINE_META_BUF) metaBufIdx none
    jobs := jobs }

theorem unmapOfflineBuffers_completed {bufIdx metaBufIdx : ℕ} {bs ms : List OfflineBuffer}
    (hbufs : s.offlineBuffers = ⟨bufIdx, .OFFLINE_INPUT_BUF⟩ :: bs)
    (hmetas : s.offlineMetaBuffers = ⟨metaBufIdx, .OFFLINE_META_BUF⟩ :: ms) (jobs : List ℕ) :
    { s.unmapOfflineBuffers false with jobs := jobs } = s.completed bufIdx metaBufIdx jobs := by
  simp only [Offline.unmapOfflineBuffers, Offline.unmapList, Offline.unmapBuf, hbufs, hmetas,
    Bool.false_eq_true, if_false]
  unfold Offline.completed
  rw [hbufs, hmetas]
  congr 1
  funext type
  cases type with
  | OFFLINE_INPUT_BUF => rfl
  | OFFLINE_META_BUF => rfl

/-- **The first job is completed**, and gives back what was mapped for it. -/
theorem Kept.completed {j : ℕ} {jobs : List ℕ} (h : Kept s) (hjobs : s.jobs = j :: jobs) :
    Kept { s.unmapOfflineBuffers false with jobs := jobs } ∧
      Follows .complete s { s.unmapOfflineBuffers false with jobs := jobs } := by
  obtain ⟨head, inputs, metas, hin, hmeta, hbufs, hmetas, hnext, hnextMeta⟩ := h.ranges
  have hnodup := h.nodup
  rw [hjobs] at hin hmeta hnext hnextMeta hnodup
  have hbuf := hbufs.trans (congrArg _ hin.queue_head)
  have hmetaBuf := hmetas.trans (congrArg _ hmeta.queue_head)
  rw [unmapOfflineBuffers_completed hbuf hmetaBuf]
  refine ⟨⟨⟨advance s.numBuffers head, _, _, hin.pop, hmeta.pop, ?_, ?_, ?_, ?_⟩, ?_, ?_⟩, nofun, ?_⟩
  · show s.offlineBuffers.tail = _
    rw [hbufs]
    exact map_tail.symm
  · show s.offlineMetaBuffers.tail = _
    rw [hmetas]
    exact map_tail.symm
  · exact hnext.trans (congrArg _ (slot_succ hin.head_lt hin.bound))
  · exact hnextMeta.trans (congrArg _ (slot_succ hin.head_lt hin.bound))
  · exact (nodup_cons.mp hnodup).2
  · intro k hk
    exact h.fresh k (hjobs ▸ mem_cons_of_mem _ hk)
  · rintro - k hk type i
    obtain rfl : j = k := by
      rw [hjobs] at hk
      exact Option.some.inj hk
    cases type with
    | OFFLINE_INPUT_BUF => exact hin.pop_eq hnodup i
    | OFFLINE_META_BUF => exact hmeta.pop_eq hnodup i

theorem Kept.sound (h : Kept s) : s.Sound := by
  obtain ⟨head, inputs, metas, hin, hmeta, -⟩ := h.ranges
  refine ⟨fun i hi => ?_, fun i hi => ?_, fun type j hj => ?_⟩
  · have := hin.mem hi
    omega
  · have := hmeta.mem hi
    omega
  · cases type with
    | OFFLINE_INPUT_BUF => exact hin.exists_of_mem hj
    | OFFLINE_META_BUF => exact hmeta.exists_of_mem hj

theorem Kept.started_follows (h : Kept s) (space : s.jobs.length < s.numBuffers) :
    Follows (.reprocess (.calls true true true)) s (s.doReprocessOffline (.calls true true true)) := by
  obtain ⟨head, inputs, metas, hin, hmeta, hbufs, hmetas, hnext, hnextMeta⟩ := h.ranges
  rw [doReprocessOffline_started hnext hnextMeta]
  refine ⟨fun _ _ type i hi => ?_, nofun⟩
  cases type with
  | OFFLINE_INPUT_BUF =>
    refine update_of_ne ?_ ..
    rintro rfl
    exact hi (hin.free space)
  | OFFLINE_META_BUF =>
    refine update_of_ne ?_ ..
    rintro rfl
    exact hi (hmeta.free space)

/-- **A step** follows its job, and keeps what is kept. -/
theorem Kept.step {a : Act} (h : Kept s) (paired : a.Paired) (step : Step a s t) :
    Kept t ∧ Follows a s t := by
  obtain ⟨hexec, hbound⟩ := step
  unfold Act.exec at hexec
  split at hexec
  · next o =>
    cases hexec
    cases o with
    | returns => exact ⟨h, fun _ _ _ _ _ => rfl, nofun⟩
    | calls input metadata param =>
      obtain ⟨rfl, hparam⟩ := paired
      cases input with
      | false => exact ⟨h.nothing param, fun _ _ _ _ _ => rfl, nofun⟩
      | true =>
        obtain rfl := hparam rfl
        have space : s.jobs.length < s.numBuffers := by
          have hlength : (s.doReprocessOffline (.calls true true true)).jobs.length =
            s.jobs.length + 1 := length_append
          rw [hlength] at hbound
          exact hbound
        exact ⟨h.started space, h.started_follows space⟩
  · cases hexec
  · next j jobs hjobs =>
    cases hexec
    exact h.completed hjobs

theorem kept_create (chNumBuffers : ℕ) : Kept (.create chNumBuffers) where
  ranges := by
    have hn : 0 < chNumBuffers + 1 := Nat.succ_pos chNumBuffers
    refine ⟨0, [], [], .empty 0 hn, .empty _ hn, rfl, rfl, ?_, ?_⟩
    · show Offline.loopBack ((chNumBuffers + 1 : ℕ) - 1) ((chNumBuffers + 1 : ℕ) - 1) (-1) + 1 =
        (slot 0 (chNumBuffers + 1) 0 0 : ℤ)
      unfold Offline.loopBack
      rw [if_pos rfl, slot_zero hn]
      rfl
    · show Offline.loopBack (2 * (chNumBuffers + 1 : ℕ) - 1) ((chNumBuffers + 1 : ℕ) * 2 - 1)
        ((chNumBuffers + 1 : ℕ) - 1) + 1 = (slot (chNumBuffers + 1) (chNumBuffers + 1) 0 0 : ℤ)
      unfold Offline.loopBack
      rw [if_pos (by omega), slot_zero hn]
      omega
  nodup := .nil
  fresh := nofun

/-- **The mappings follow their jobs**: in every run in which each job is started or maps nothing, the
mappings are in their ranges, each step maps no index that is mapped, and the completion of a job
unmaps what was mapped for it. -/
theorem mappings_follow {chNumBuffers : ℕ} {acts : List Act}
    (run : Run (fun a s t => a.Paired ∧ Step a s t) acts (.create chNumBuffers) s) :
    s.Sound ∧ ∀ a t, a.Paired → Step a s t → Follows a s t := by
  have hkept : Kept s :=
    run.invariant (fun _ _ _ hstep h => (h.step hstep.1 hstep.2).1) (kept_create chNumBuffers)
  exact ⟨hkept.sound, fun a t paired step => (hkept.step paired step).2⟩

/-- The step that is computed, under a condition on what is done. -/
def stepIf (cond : Act → Bool) (s : Offline) (a : Act) : Option Offline :=
  if cond a then (a.exec s).filter fun t => t.jobs.length ≤ t.numBuffers else none

theorem step_of_stepIf {cond : Act → Bool} {a : Act} (h : stepIf cond s a = some t) :
    cond a ∧ Step a s t := by
  obtain ⟨hcond, hfilter⟩ := Option.ite_none_right_eq_some.mp h
  obtain ⟨hexec, hle⟩ := Option.filter_eq_some_iff.mp hfilter
  exact ⟨hcond, hexec, of_decide_eq_true hle⟩

/-- A job is started, another one maps nothing, and a third one is started; when the first is
completed, a fourth one takes its indices. -/
theorem mappings_follow_two : ∃ s : Offline, s.Sound ∧ s.jobs = [2, 3] ∧
    s.offlineBuffers = [⟨1, .OFFLINE_INPUT_BUF⟩, ⟨0, .OFFLINE_INPUT_BUF⟩] ∧
    s.offlineMetaBuffers = [⟨3, .OFFLINE_META_BUF⟩, ⟨2, .OFFLINE_META_BUF⟩] := by
  obtain ⟨s, hs, hjobs, hbufs, hmetas⟩ : ∃ s, execAll (stepIf fun a => a.Paired) (.create 1)
        [.reprocess (.calls true true true), .reprocess (.calls false false true),
          .reprocess (.calls true true true), .complete, .reprocess (.calls true true true)] =
        some s ∧ s.jobs = [2, 3] ∧
      s.offlineBuffers = [⟨1, .OFFLINE_INPUT_BUF⟩, ⟨0, .OFFLINE_INPUT_BUF⟩] ∧
      s.offlineMetaBuffers = [⟨3, .OFFLINE_META_BUF⟩, ⟨2, .OFFLINE_META_BUF⟩] :=
    ⟨_, rfl, rfl, rfl, rfl⟩
  refine ⟨s, (mappings_follow ((Run.of_execAll hs).mono fun a _ s t hstep => ?_)).1, hjobs, hbufs,
    hmetas⟩
  obtain ⟨hpaired, hstep⟩ := step_of_stepIf hstep
  exact ⟨of_decide_eq_true hpaired, hstep⟩

/-- The metadata buffer of a job is not mapped: its input buffer is unmapped in place of that of the
next job. -/
theorem mappings_shift : ∃ acts s t, Run Step acts (.create 1) s ∧ Step .complete s t ∧
    s.jobs = [1] ∧ s.mapped .OFFLINE_INPUT_BUF 1 = some 1 ∧ t.mapped .OFFLINE_INPUT_BUF 1 = some 1 ∧
      ¬ Follows .complete s t := by
  obtain ⟨s, t, hs, ht, hjobs, hold, hnew⟩ : ∃ s t, execAll (stepIf fun _ => true) (.create 1)
        [.reprocess (.calls true false true), .reprocess (.calls true true true)] = some s ∧
      stepIf (fun _ => true) s .complete = some t ∧ s.jobs = [1] ∧
      s.mapped .OFFLINE_INPUT_BUF 1 = some 1 ∧ t.mapped .OFFLINE_INPUT_BUF 1 = some 1 :=
    ⟨_, _, rfl, rfl, rfl, rfl, rfl⟩
  have hstep := (step_of_stepIf ht).2
  refine ⟨_, s, t, (Run.of_execAll hs).mono fun a _ s t hstep => (step_of_stepIf hstep).2, hstep,
    hjobs, hold, hnew, fun h => ?_⟩
  have hexact := h.exact rfl 1 (by rw [hjobs]; rfl) .OFFLINE_INPUT_BUF 1
  rw [hold, hnew, if_pos rfl] at hexact
  cases hexact

end OfflineMappings
