import MidoCamera.Muxer.Composer

/-!
# Releasing the JPEGs

A JPEG is given to the muxer with a callback that releases it. The muxer has it until then: in a
queue, or in the thread, which releases what it took whether it could compose it or not. The memory
for the MPO is the muxer's too.

A JPEG is lost where there is no memory for its entry, and where a flush finds it without data for
its callback. A memory is lost where another is asked for while it is still there, which is so after
`compose_mpo` failed.
-/

namespace Muxer

open Loop SyncCmd List QCameraMuxer
open PostProc (Queue)

variable {s t : QCameraMuxer} {op : Op} {ops : List Op} {i : JpegInfo}

def QCameraMuxer.held (s : QCameraMuxer) : List JpegInfo :=
  s.mainJpegQ.items ++ s.auxJpegQ.items ++ s.pc.held

/-- **Each JPEG with a release callback is with the muxer, or was released once.** -/
def ReleasedOnce (s : QCameraMuxer) : Prop :=
  ∀ info ∈ s.handed, info.releaseCb → s.held.count info + s.released.count info = 1

/-- **Each memory of the memory callback is the MPO's, or was released once.** -/
def MemReleasedOnce (s : QCameraMuxer) : Prop :=
  ∀ mem < s.nextMem, s.relCamMpoJpeg.toList.count mem + s.releasedMem.count mem = 1

instance (s : QCameraMuxer) : Decidable (ReleasedOnce s) :=
  inferInstanceAs (Decidable (∀ info ∈ s.handed, _ → _))

instance (s : QCameraMuxer) : Decidable (MemReleasedOnce s) :=
  inferInstanceAs (Decidable (∀ mem < s.nextMem, _))

/-- A step that loses nothing: a JPEG with a callback has data and finds memory for its entry, a
flush finds the data of each callback, and a memory is asked for while there is none. -/
def Op.Conserves (s : QCameraMuxer) : Op → Prop
  | .jpegDataCallback _ _ data releaseCb _ m =>
    releaseCb → data ∧ (m.mpoEnabled → m.malloc)
  | .flush camType => ∀ info ∈ (s.queue camType).flushed, info.releaseCb → info.releaseData
  | .getMemory _ => s.relCamMpoJpeg = none
  | _ => True

instance : ∀ op : Op, Decidable (op.Conserves s)
  | .jpegDataCallback .. => inferInstanceAs (Decidable (_ → _ ∧ (_ → _)))
  | .flush _ => inferInstanceAs (Decidable (∀ _ ∈ (_ : List _), _ → _))
  | .getMemory _ => inferInstanceAs (Decidable (_ = _))
  | .init _ | .send _ _ | .destroy | .getCmd | .next | .composeMpo _ =>
    inferInstanceAs (Decidable True)

def Op.ConservesStep (op : Op) (s t : QCameraMuxer) : Prop := op.Step s t ∧ op.Conserves s

/-! ## The JPEGs -/

/-- The invariant of the JPEGs: those with a callback that were handed over are held or released,
and no two have one token. -/
structure Owned (s : QCameraMuxer) : Prop where
  balance : ∀ info, info.releaseCb → s.held.count info + s.released.count info = s.handed.count info
  tokens : s.handed.map JpegInfo.token = List.range s.handed.length

theorem Owned.nodup (hs : Owned s) : s.handed.Nodup :=
  Nodup.of_map JpegInfo.token (hs.tokens ▸ nodup_range)

theorem Owned.releasedOnce (hs : Owned s) : ReleasedOnce s := fun info hinfo hcb =>
  (hs.balance info hcb).trans (count_eq_one_of_mem hs.nodup hinfo)

theorem QCameraMuxer.held_count (s : QCameraMuxer) (info : JpegInfo) : s.held.count info =
    s.mainJpegQ.items.count info + s.auxJpegQ.items.count info + s.pc.held.count info := by
  unfold held
  rw [count_append, count_append]

theorem Owned.of_handed (hs : Owned s) (token : i.token = s.handed.length)
    (handed : t.handed = s.handed ++ [i])
    (kept : ∀ other, other.releaseCb → t.held.count other + t.released.count other =
      s.held.count other + s.released.count other + [i].count other) : Owned t where
  balance other hcb := by
    rw [kept other hcb, hs.balance other hcb, handed, count_append]
  tokens := by
    rw [handed, map_append, hs.tokens, length_append, map_singleton, token]
    exact range_succ.symm

theorem Owned.of_released (hs : Owned s) (handed : t.handed = s.handed)
    (moved : ∀ other, other.releaseCb → t.held.count other + t.released.count other =
      s.held.count other + s.released.count other) : Owned t where
  balance other hcb := by
    rw [moved other hcb, hs.balance other hcb, handed]
  tokens := handed ▸ hs.tokens

theorem count_releaseJpegInfo {infos : List JpegInfo} (hcb : i.releaseCb)
    (hdata : ∀ other ∈ infos, other.releaseCb → other.releaseData) :
    (QCameraMuxer.releaseJpegInfo infos).count i = infos.count i := by
  unfold releaseJpegInfo
  by_cases hmem : i ∈ infos
  · exact count_filter (by simp [hcb, hdata i hmem hcb])
  · rw [count_eq_zero_of_not_mem hmem, count_eq_zero_of_not_mem]
    exact fun h => hmem (mem_of_mem_filter h)

theorem count_flush (q : Queue JpegInfo) (info : JpegInfo) :
    q.flush.items.count info + q.flushed.count info = q.items.count info := by
  simpa using q.count_flush id info

theorem count_callback {other : JpegInfo} (hcb : other.releaseCb) :
    (if i.releaseCb then [i] else []).count other = [i].count other := by
  split
  · rfl
  · next hnone =>
    refine (count_eq_zero_of_not_mem fun hmem => ?_).symm
    exact hnone (mem_singleton.mp hmem ▸ hcb)

theorem Owned.step (hs : Owned s) (h : op.Step s t) (hcons : op.Conserves s) : Owned t := by
  cases Op.outcome h with
  | dropped hwhy =>
    rename_i camType frameIdx data releaseCb releaseData m
    refine hs.of_handed (i := ⟨s.handed.length, frameIdx, releaseCb, releaseData⟩) rfl rfl
      fun other hcb => ?_
    -- only a JPEG without a callback may be dropped
    have hnone : other ∉ [(⟨s.handed.length, frameIdx, releaseCb, releaseData⟩ : JpegInfo)] := by
      intro hmem
      cases mem_singleton.mp hmem
      obtain ⟨rfl, hmalloc⟩ := hcons hcb
      rcases hwhy with hdata | ⟨hmpo, hnone⟩
      · cases hdata
      · cases hnone.symm.trans (hmalloc hmpo)
    rw [count_eq_zero_of_not_mem hnone]
    rfl
  | released =>
    rename_i camType frameIdx releaseCb releaseData m
    refine hs.of_handed (i := ⟨s.handed.length, frameIdx, releaseCb, releaseData⟩) rfl rfl
      fun other hcb => ?_
    have hrel := count_callback (i := ⟨s.handed.length, frameIdx, releaseCb, releaseData⟩) hcb
    simp only [held, count_append] at hrel ⊢
    omega
  | storedMain hm hactive | storedAux hm hactive =>
    rename_i frameIdx releaseCb releaseData m
    refine hs.of_handed (i := ⟨s.handed.length, frameIdx, releaseCb, releaseData⟩) rfl rfl
      fun other hcb => ?_
    simp only [held_count, count_append]
    omega
  | init =>
    rename_i camType
    rcases camType with _ | _
    · exact hs.of_released rfl fun _ _ => rfl
    · exact hs.of_released rfl fun _ _ => rfl
  | flush =>
    rename_i camType
    rcases camType with _ | _
    · refine hs.of_released rfl fun other hcb => ?_
      have hflush := count_flush s.mainJpegQ other
      have hrel := count_releaseJpegInfo hcb hcons
      simp only [held_count, flush, setQueue, queue, count_append] at hrel ⊢
      omega
    · refine hs.of_released rfl fun other hcb => ?_
      have hflush := count_flush s.auxJpegQ other
      have hrel := count_releaseJpegInfo hcb hcons
      simp only [held_count, flush, setQueue, queue, count_append] at hrel ⊢
      omega
  | destroy => exact hs.of_released rfl fun _ _ => rfl
  | moved hheld hwaiting =>
    refine hs.of_released rfl fun other _ => ?_
    simp only [held_count, hheld]
  | dequeueMain hpc hitems hactive =>
    rename_i main q
    refine hs.of_released rfl fun other _ => ?_
    simp only [held_count, hpc, hitems, Pc.held, count_cons, count_nil]
    omega
  | dequeueAux hpc hitems hactive =>
    rename_i main aux q
    refine hs.of_released rfl fun other _ => ?_
    simp only [held_count, hpc, hitems, Pc.held, count_cons, count_nil]
    omega
  | noAux hpc hempty =>
    refine hs.of_released rfl fun other _ => ?_
    simp only [held_count, hpc, Pc.held, Option.toList_none]
  | memory hpc =>
    refine hs.of_released rfl fun other _ => ?_
    simp only [held_count, hpc, Pc.held]
  | noMemory hpc =>
    refine hs.of_released rfl fun other _ => ?_
    simp only [held_count, hpc, Pc.held, Option.toList_some]
  | deliver hpc =>
    refine hs.of_released rfl fun other _ => ?_
    simp only [held_count, QCameraMuxer.releaseMpo, hpc, Pc.held, Option.toList_some]
  | release hheld hwaiting hwaiting' =>
    rename_i info pc
    refine hs.of_released rfl fun other hcb => ?_
    have hrel := count_callback (i := info) hcb
    simp only [held_count, release, hheld, count_append, count_cons, count_nil] at hrel ⊢
    omega

/-! ## The memories -/

/-- The invariant of the memories: one that was obtained is the MPO's or released, and one that will
be is not. -/
def MemBalance (s : QCameraMuxer) : Prop :=
  ∀ mem, s.relCamMpoJpeg.toList.count mem + s.releasedMem.count mem = if mem < s.nextMem then 1 else 0

theorem MemBalance.releaseMpo (hs : MemBalance s) : MemBalance s.releaseMpo := fun mem => by
  refine Eq.trans ?_ (hs mem)
  simp only [QCameraMuxer.releaseMpo, Option.toList_none, count_nil, count_append]
  omega

theorem MemBalance.step (hs : MemBalance s) (h : op.Step s t) (hcons : op.Conserves s) :
    MemBalance t := by
  cases Op.outcome h with
  | dropped | released | storedMain | storedAux | moved | dequeueMain | dequeueAux | noAux
  | release => exact hs
  | init | flush =>
    rename_i camType
    rcases camType with _ | _ <;> exact hs
  | destroy | deliver hpc => exact hs.releaseMpo
  | memory hpc =>
    -- no memory is there that the new one would take the place of
    have hnone : s.relCamMpoJpeg = none := hcons
    intro mem
    have hmem := hs mem
    rw [hnone] at hmem
    simp only [Option.toList_some, Option.toList_none, count_nil, count_singleton,
      beq_iff_eq] at hmem ⊢
    split <;> split <;> split at hmem <;> omega
  | noMemory hpc =>
    have hnone : s.relCamMpoJpeg = none := hcons
    intro mem
    have hmem := hs mem
    rwa [hnone] at hmem

/-- **A run that loses nothing releases each JPEG and each memory once.** -/
theorem released_once (h : Run Op.ConservesStep ops {} s) : ReleasedOnce s ∧ MemReleasedOnce s := by
  have howned : Owned s := h.invariant (fun _ _ _ hstep hs => hs.step hstep.1 hstep.2)
    ⟨fun _ _ => rfl, rfl⟩
  have hmem : MemBalance s := h.invariant (fun _ _ _ hstep hs => hs.step hstep.1 hstep.2)
    fun _ => rfl
  exact ⟨howned.releasedOnce, fun mem hlt => (hmem mem).trans (if_pos hlt)⟩

def Op.execConserves (s : QCameraMuxer) (op : Op) : Option QCameraMuxer :=
  if op.Conserves s then op.exec s else none

theorem Op.ConservesStep.of_execConserves (h : op.execConserves s = some t) : op.ConservesStep s t :=
  (Option.ite_none_right_eq_some.mp h).symm

/-- A picture is composed, one is flushed, and one comes while MPO is off. -/
theorem released_once_four : ∃ s : QCameraMuxer, s.handed.length = 4 ∧ s.nextMem = 1 ∧
    s.held = [] ∧ s.relCamMpoJpeg = none ∧ ReleasedOnce s ∧ MemReleasedOnce s :=
  have h : Run (fun op s t => Op.execConserves s op = some t) [.send .startDataProc true, .getCmd,
      .jpegDataCallback .main 1 true true true ⟨true, true, true, true⟩,
      .jpegDataCallback .aux 1 true true true ⟨true, true, true, true⟩, .getCmd, .next, .next,
      .next, .next, .getMemory true, .composeMpo 0, .next, .next, .next,
      .jpegDataCallback .main 2 true true true ⟨true, true, true, true⟩, .flush .main,
      .jpegDataCallback .aux 2 true true true ⟨false, true, true, true⟩] {} _ :=
    Run.of_execAll rfl
  ⟨_, rfl, rfl, rfl, rfl, released_once (h.mono fun _ _ _ _ => Op.ConservesStep.of_execConserves)⟩

/-- **A JPEG is lost, and a memory.** There is no memory for the entry of a JPEG, which nothing
releases then; and a picture is composed after one that `compose_mpo` failed for, whose memory is
forgotten. -/
theorem release_fails :
    (∃ s, Run Op.Step [.jpegDataCallback .main 1 true true true ⟨true, false, true, true⟩] {} s ∧
      s.held = [] ∧ s.released = [] ∧ ¬ ReleasedOnce s) ∧
    ∃ s, Run Op.Step [.send .startDataProc true, .getCmd,
      .jpegDataCallback .main 1 true true true ⟨true, true, true, true⟩,
      .jpegDataCallback .main 2 true true true ⟨true, true, true, true⟩,
      .jpegDataCallback .aux 1 true true true ⟨true, true, true, true⟩,
      .jpegDataCallback .aux 2 true true true ⟨true, true, true, true⟩, .getCmd,
      .next, .next, .next, .next, .getMemory true, .composeMpo (-1), .next, .next,
      .next, .next, .next, .next, .getMemory true, .composeMpo 0, .next] {} s ∧
      s.nextMem = 2 ∧ s.releasedMem = [1] ∧ s.relCamMpoJpeg = none ∧ ¬ MemReleasedOnce s :=
  ⟨⟨_, Run.of_execAll rfl, rfl, rfl, by decide⟩, _, Run.of_execAll rfl, rfl, rfl, rfl, by decide⟩

end Muxer
