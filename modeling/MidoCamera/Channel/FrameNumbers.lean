import MidoCamera.Channel.Requests

/-!
# The frame number of a callback

A request queues its slot first and marks it afterwards, under no common lock, and the callback reads
whatever mark the slot has. A callback that comes between the two reads the mark of an earlier
request. Heap buffers, which the YUV and the picture channel take for frames to be postprocessed, are
marked first.
-/

namespace StreamBufs

open Loop List

/-- **Each callback** has reported the number of the request that queued its slot. -/
def Chan.Reported (c : Chan) : Prop := ∀ e ∈ c.reports, e.1 = e.2

abbrev Chan.markOf (c : Chan) (i : ℕ) : Int32 := c.mem.gralloc.currentFrameNumbers i

def Cb.unread : Cb → Option ℕ
  | .getBufferHandle i | .getFrameNumber i _ => some i
  | .idle | .bufRelease .. | .unregister .. | .give .. => none

/-- What a callback has read, with the number of the request. -/
def Cb.number : Cb → Option (Int32 × UInt32)
  | .bufRelease _ _ number q | .unregister _ _ number q => some (number, q)
  | .idle | .getBufferHandle _ | .getFrameNumber .. | .give .. => none

/-- A slot that is still to be marked has no mark that would be reported, but for that of its
request, when a callback reads it. -/
def Act.ReadsMarked (a : Act) (c : Chan) : Prop :=
  ∀ i h b n, a = .getFrameNumber → c.callback = .getFrameNumber i h → c.request = .mark b n i →
    0 ≤ c.markOf i → c.markOf i = n.toInt32

def Chan.unread (c : Chan) : List ℕ := c.kernel ++ c.callback.unread.toList

/-- **A slot that has not been read** has the mark of its request, if that is not about to mark it; and
what has been read is the number of the request. -/
structure Chan.Marked (c : Chan) : Prop where
  owned : c.Owned
  unread : ∀ i ∈ c.unread, (∀ b n, c.request ≠ .mark b n i) → c.markOf i = (c.queuedBy i).toInt32
  marking : ∀ b n i, c.request = .mark b n i → c.queuedBy i = n
  read : ∀ number q, c.callback.number = some (number, q) → 0 ≤ number → number = q.toInt32
  giving : ∀ h number q, c.callback = .give h number q → number = q.toInt32
  reported : c.Reported

theorem Cb.slot_of_unread {cb : Cb} {i : ℕ} (h : cb.unread = some i) : cb.slot = some i := by
  cases cb with
  | getBufferHandle | getFrameNumber => exact h
  | idle | bufRelease | unregister | give => cases h

namespace Chan

variable {c t : Chan} {b : Buffer} {n : UInt32} {i : ℕ} {handle : Option ℕ}

theorem busy_of_unread (h : i ∈ c.unread) : i ∈ c.busy := by
  rcases mem_append.mp h with h | h
  · exact mem_append_left _ h
  · exact mem_busy (Cb.slot_of_unread (Option.mem_toList.mp h))

theorem Owned.getFrameNumber (h : c.Owned) (hi : i ∈ c.busy) :
    c.mem.getFrameNumber i = c.markOf i := by
  obtain ⟨hrange, hused, -⟩ := h.busy i hi
  unfold StreamMem.getFrameNumber
  rw [if_neg (by have := hrange.1; omega), if_neg (by have := hrange.2; omega), if_pos hused]

theorem registerBuffer_marks (c : Chan) (b : Buffer) (import_ : StreamMem.Import) :
    (c.registerBuffer b import_).1.gralloc.currentFrameNumbers =
      c.mem.gralloc.currentFrameNumbers := by
  have hmem : (c.mem.registerBuffer b import_).1.gralloc.currentFrameNumbers =
      c.mem.gralloc.currentFrameNumbers := by
    rcases hreg : c.mem.registerBuffer b import_ with ⟨m, rc⟩
    obtain ⟨rfl, -⟩ | ⟨idx, info, count, -, -, -, rfl, -⟩ := StreamMem.registerBuffer_cases hreg
    · rfl
    · rfl
  rcases registerBuffer_eq c b import_ with heq | heq
  · rw [heq]
  · rw [heq, hmem]

/-- **The request goes on**, and is not about to mark. -/
theorem Marked.goOn (h : c.Marked) (owned : t.Owned) (hc : ∀ b n i, c.request ≠ .mark b n i)
    (ht : ∀ b n i, t.request ≠ .mark b n i)
    (marks : t.mem.gralloc.currentFrameNumbers = c.mem.gralloc.currentFrameNumbers)
    (kernel : t.kernel = c.kernel) (callback : t.callback = c.callback)
    (queuedBy : t.queuedBy = c.queuedBy) (reports : t.reports = c.reports) : t.Marked where
  owned := owned
  unread j hj _ := by
    have hj : j ∈ c.unread := by
      unfold Chan.unread at hj ⊢
      rw [← kernel, ← callback]
      exact hj
    rw [markOf, marks, queuedBy]
    exact h.unread j hj fun b n => hc b n j
  marking b n j hr := absurd hr (ht b n j)
  read number q hq := h.read number q (callback ▸ hq)
  giving x number q hq := h.giving x number q (callback.symm.trans hq)
  reported e he := h.reported e (reports ▸ he)

/-- **The callback goes on**: it reads what a slot has, or has read it. -/
theorem Marked.turn (h : c.Marked) (owned : t.Owned) (request : t.request = c.request)
    (marks : ∀ i ∈ t.unread, i ∈ c.unread ∧ t.markOf i = c.markOf i)
    (queuedBy : t.queuedBy = c.queuedBy)
    (read : ∀ number q, t.callback.number = some (number, q) → 0 ≤ number → number = q.toInt32)
    (giving : ∀ h number q, t.callback = .give h number q → number = q.toInt32)
    (reported : t.Reported) : t.Marked where
  owned := owned
  unread j hj hnot := by
    obtain ⟨hj, hmark⟩ := marks j hj
    rw [hmark, queuedBy]
    exact h.unread j hj fun b n hr => hnot b n (request.trans hr)
  marking b n j hr := by
    rw [queuedBy]
    exact h.marking b n j (request.symm.trans hr)
  read := read
  giving := giving
  reported := reported

theorem Marked.register {next : Req} (h : c.Marked) (import_ : StreamMem.Import)
    (owned : (c.register b import_ next).Owned) (hc : ∀ b n i, c.request ≠ .mark b n i)
    (hnext : ∀ b n i, next ≠ .mark b n i) : (c.register b import_ next).Marked := by
  have hmarks := registerBuffer_marks c b import_
  unfold Chan.register at owned ⊢
  split at owned
  · next m hreg =>
    rw [hreg] at hmarks
    exact h.goOn owned hc hnext hmarks rfl rfl rfl rfl
  · next m rc hrc hreg =>
    rw [hreg] at hmarks
    exact h.goOn owned hc nofun hmarks rfl rfl rfl rfl

/-- **A slot is queued**: it is about to be marked. -/
theorem Marked.queue {s : Stream} (h : c.Marked) (hr : c.request = .bufDone b n i)
    (owned : Owned { c with
      stream := s
      kernel := c.kernel ++ [i]
      queuedBy := Function.update c.queuedBy i n
      request := .mark b n i }) :
    Marked { c with
      stream := s
      kernel := c.kernel ++ [i]
      queuedBy := Function.update c.queuedBy i n
      request := .mark b n i } where
  owned := owned
  unread j hj hnot := by
    have hne : j ≠ i := by
      rintro rfl
      exact hnot b n rfl
    have hj : j ∈ c.unread := by
      simp only [Chan.unread, mem_append, mem_singleton, hne, or_false] at hj ⊢
      exact hj
    show c.markOf j = (Function.update c.queuedBy i n j).toInt32
    rw [Function.update_of_ne hne]
    exact h.unread j hj fun b n => by
      rw [hr]
      nofun
  marking b' n' j hr' := by
    cases hr'
    exact Function.update_self ..
  read := h.read
  giving := h.giving
  reported := h.reported

/-- **A slot is marked**: a slot that has not been read is registered, and so the mark is kept. -/
theorem Marked.mark (h : c.Marked) (hr : c.request = .mark b n i)
    (owned : Owned { c with mem := (c.mem.markFrameNumber i n).1, request := .idle }) :
    Marked { c with mem := (c.mem.markFrameNumber i n).1, request := .idle } where
  owned := owned
  unread j hj _ := by
    show (c.mem.markFrameNumber i n).1.gralloc.currentFrameNumbers j = _
    rcases eq_or_ne j i with rfl | hne
    · obtain ⟨hrange, hused, -⟩ := h.owned.busy j (busy_of_unread hj)
      rw [StreamMem.markFrameNumber_of_used hrange hused, h.marking b n j hr]
      exact Function.update_self ..
    · rw [StreamMem.markFrameNumber_other hne]
      refine h.unread j hj fun b' n' hr' => ?_
      cases hr.symm.trans hr'
      exact hne rfl
  marking := nofun
  read := h.read
  giving := h.giving
  reported := h.reported

/-- **The callback reads the number**, and has that of the request. -/
theorem Marked.readNumber (h : c.Marked) (hcb : c.callback = .getFrameNumber i handle)
    (marked : Act.ReadsMarked .getFrameNumber c) (number : 0 ≤ c.mem.getFrameNumber i) :
    c.mem.getFrameNumber i = (c.queuedBy i).toInt32 := by
  have hmem : i ∈ c.unread := by
    refine mem_append_right _ (Option.mem_toList.mpr ?_)
    rw [hcb]
    rfl
  rw [h.owned.getFrameNumber (busy_of_unread hmem)] at number ⊢
  by_cases hmark : ∃ b n, c.request = .mark b n i
  · obtain ⟨b, n, hr⟩ := hmark
    rw [h.marking b n i hr]
    exact marked i handle b n rfl hcb hr number
  · exact h.unread i hmem fun b n hr => hmark ⟨b, n, hr⟩

/-- **The callback ends**, or gives its buffer back with the number that it has read. -/
theorem Marked.settle {number : Int32} {q : UInt32} (h : c.Marked)
    (owned : (c.settle handle number q).Owned) (read : 0 ≤ number → number = q.toInt32) :
    (c.settle handle number q).Marked := by
  unfold Chan.settle at owned ⊢
  split at owned
  · next hle =>
    rw [if_pos hle]
    refine h.turn owned rfl (fun j hj => ⟨?_, rfl⟩) rfl nofun ?_ h.reported
    · exact mem_append_left _ (by simpa [Chan.unread, Cb.unread] using hj)
    · rintro x m r ⟨⟩
      exact read hle
  · next hlt =>
    rw [if_neg hlt]
    refine h.turn owned rfl (fun j hj => ⟨?_, rfl⟩) rfl nofun nofun h.reported
    exact mem_append_left _ (by simpa [Chan.unread, Cb.unread] using hj)

/-- **The slot of the callback is unregistered**: there is nothing to read in it any more. -/
theorem Marked.unregister {number : Int32} {q : UInt32} (h : c.Marked)
    (hcb : c.callback = .unregister i handle number q)
    (owned : ({ c with mem := (c.mem.unregisterBuffer i).1 }.settle handle number q).Owned) :
    ({ c with mem := (c.mem.unregisterBuffer i).1 }.settle handle number q).Marked := by
  have hslot : c.callback.slot = some i := congrArg Cb.slot hcb
  have hread := h.owned.read i handle (congrArg Cb.read hcb)
  have hsettled : (c.settle handle number q).Marked :=
    h.settle (h.owned.settle hslot hread number q) (h.read number q (congrArg Cb.number hcb))
  refine hsettled.turn owned rfl (fun j hj => ⟨hj, ?_⟩) rfl hsettled.read hsettled.giving
    hsettled.reported
  have hkernel : j ∈ c.kernel := by
    unfold Chan.settle at hj
    split at hj
    · simpa [Chan.unread, Cb.unread] using hj
    · simpa [Chan.unread, Cb.unread] using hj
  have hne : j ≠ i := by
    have hcross := (nodup_append.mp h.owned.nodup).2.2
    exact hcross j hkernel i (Option.mem_toList.mpr hslot)
  obtain ⟨hrange, hused, -⟩ := h.owned.busy i (mem_busy hslot)
  show (c.mem.unregisterBuffer i).1.gralloc.currentFrameNumbers j = c.markOf j
  rw [StreamMem.unregisterBuffer_of_used hrange hused]
  exact Function.update_of_ne hne ..

/-- **A step** keeps the marks, if it reads no earlier one. -/
theorem Marked.step {a : Act} (h : c.Marked) (used : a.QueuesUsed c) (marked : a.ReadsMarked c)
    (step : a.exec c = some t) : t.Marked := by
  have owned := h.owned.step used step
  unfold Act.exec at step
  split at step
  · next hr =>
    cases step
    exact h.goOn owned (by rw [hr]; nofun) (by rw [hr]; nofun) rfl rfl rfl rfl rfl
  · next b n hr =>
    split at step
    · cases step
    · cases step
      refine h.goOn owned (by rw [hr]; nofun) (fun b n i => ?_) rfl rfl rfl rfl rfl
      show ite .. ≠ _
      split <;> nofun
  · next i b n hr =>
    cases step
    exact h.register i owned (by rw [hr]; nofun) nofun
  · next i b n hr =>
    cases step
    exact h.register i owned (by rw [hr]; nofun) nofun
  · next ok b n hr =>
    cases step
    cases ok with
    | true | false => exact h.goOn owned (by rw [hr]; nofun) nofun rfl rfl rfl rfl rfl
  · -- the buffer is looked up
    next b n hr =>
    cases step
    refine h.goOn owned (by rw [hr]; nofun) (fun b' n' i' heq => ?_) rfl rfl rfl rfl rfl
    dsimp only at heq
    split at heq <;> cases heq
  · next b n hr =>
    split at step
    · cases step
      exact h.goOn owned (by rw [hr]; nofun) nofun rfl rfl rfl rfl rfl
    · cases step
      exact h.goOn owned (by rw [hr]; nofun) nofun rfl rfl rfl rfl rfl
  · -- the slot is queued
    next m u q b n index hr =>
    cases step
    unfold Chan.bufDone at owned ⊢
    split at owned
    · exact h.queue hr owned
    · exact h.goOn owned (by rw [hr]; nofun) nofun rfl rfl rfl rfl rfl
  · next b n index hr =>
    cases step
    exact h.mark hr owned
  · -- a slot comes back
    next index ok hcb =>
    split at step
    · next hi =>
      cases step
      refine h.turn owned rfl (fun j hj => ⟨mem_append_left _ ?_, rfl⟩) rfl ?_ ?_ h.reported
      · rcases mem_append.mp hj with hj | hj
        · exact mem_of_mem_erase hj
        · dsimp only at hj
          split at hj
          · obtain rfl : index = j := by simpa [Cb.unread, eq_comm] using hj
            exact hi
          · simp [Cb.unread] at hj
      · dsimp only
        split <;> nofun
      · dsimp only
        split <;> nofun
    · cases step
  · next index m u q =>
    split at step
    · next hi =>
      cases step
      have hperm : (c.kernel.erase index ++ [index]).Perm c.kernel :=
        (perm_append_singleton ..).trans (perm_cons_erase hi).symm
      unfold Chan.requeue at owned ⊢
      split at owned
      · refine h.turn owned rfl (fun j hj => ⟨?_, rfl⟩) rfl h.read h.giving h.reported
        exact (hperm.append_right _).mem_iff.mp hj
      · refine h.turn owned rfl (fun j hj => ⟨?_, rfl⟩) rfl h.read h.giving h.reported
        exact (erase_sublist.append_right _).subset hj
    · cases step
  · -- the callback reads the handle
    next index hcb =>
    cases step
    refine h.turn owned rfl (fun j hj => ⟨?_, rfl⟩) rfl nofun nofun h.reported
    unfold Chan.unread
    rw [show c.callback.unread = some index from congrArg Cb.unread hcb]
    exact hj
  · -- the callback reads the number
    next index handle hcb =>
    have hread := h.readNumber hcb marked
    split at step
    · cases step
      refine h.turn owned rfl (fun j hj => ⟨mem_append_left _ ?_, rfl⟩) rfl ?_ nofun h.reported
      · simpa [Chan.unread, Cb.unread] using hj
      · rintro number q ⟨⟩
        exact hread
    · cases step
      exact h.settle owned hread
  · next u index handle number q hcb =>
    cases step
    refine h.turn owned rfl (fun j hj => ⟨mem_append_left _ ?_, rfl⟩) rfl ?_ nofun h.reported
    · simpa [Chan.unread, Cb.unread] using hj
    · rintro m r ⟨⟩
      exact h.read number q (congrArg Cb.number hcb)
  · next index handle number q hcb =>
    cases step
    exact h.unregister hcb owned
  · -- the buffer is given back
    next handle number q hcb =>
    cases step
    refine h.turn owned rfl (fun j hj => ⟨mem_append_left _ ?_, rfl⟩) rfl nofun nofun ?_
    · simpa [Chan.unread, Cb.unread] using hj
    · intro e he
      rcases mem_append.mp he with he | he
      · exact h.reported e he
      · obtain rfl := mem_singleton.mp he
        exact congrArg Int32.toUInt32 (h.giving handle number q hcb)
  · cases step

theorem marked_created (perFrameMapUnmap : Bool) (maxHeapBuffers numBufs : ℕ) :
    (created perFrameMapUnmap maxHeapBuffers numBufs).Marked where
  owned := owned_created ..
  unread := nofun
  marking := nofun
  read := nofun
  giving := nofun
  reported := nofun

end Chan

/-- **The numbers are right** in every run in which no callback reads an earlier mark of a slot. -/
theorem numbers_reported {perFrameMapUnmap : Bool} {maxHeapBuffers numBufs : ℕ} {acts : List Act}
    {c : Chan} (run : Run (fun a c t => a.QueuesUsed c ∧ a.ReadsMarked c ∧ a.exec c = some t) acts
      (.created perFrameMapUnmap maxHeapBuffers numBufs) c) : c.Reported := by
  have hmarked : c.Marked :=
    run.invariant (fun _ _ _ hstep h => h.step hstep.1 hstep.2.1 hstep.2.2) (Chan.marked_created ..)
  exact hmarked.reported

/-- A buffer is requested, and its callback comes to an end; then it is requested again. -/
def requestedAgain (second : List Act) : List Act :=
  let b : Buffer := ⟨7, 70, 4096⟩
  [.getBufs ⟨1, fun _ => 4096, fun _ => 0⟩ ⟨none, fun _ => true, fun _ => true, true, true, true⟩,
    .request b 1, .register .mapped, .start true, .lookup, .bufDone true true true, .mark,
    .streamCb 8 true, .getBufferHandle, .getFrameNumber, .give,
    .request b 2, .lookup, .bufDone true true true] ++ second

/-- The slot that is queued has its handle. -/
def Act.queuesHandle (a : Act) (c : Chan) : Bool :=
  match a, c.request with
  | .bufDone .., .bufDone _ _ i => (c.mem.gralloc.memInfo i).handle
  | _, _ => true

/-- No number is read before the slot is marked. -/
def Act.readsMark (a : Act) (c : Chan) : Bool :=
  match a, c.request with
  | .getFrameNumber, .mark .. => false
  | _, _ => true

/-- The slot is marked before the callback reads it. -/
theorem numbers_reported_two : ∃ c : Chan, c.Reported ∧ c.reports = [(1, 1), (2, 2)] := by
  obtain ⟨c, hc, hreports⟩ : ∃ c,
      execAll (fun c a => if a.queuesHandle c ∧ a.readsMark c then Act.exec a c else none)
        (.created false 8 64)
        (requestedAgain [.streamCb 8 true, .getBufferHandle, .mark, .getFrameNumber, .give]) =
          some c ∧ c.reports = [(1, 1), (2, 2)] := ⟨_, rfl, rfl⟩
  refine ⟨c, numbers_reported ((Run.of_execAll hc).mono fun a _ c t hstep => ?_), hreports⟩
  obtain ⟨⟨hqueues, hreads⟩, hexec⟩ := Option.ite_none_right_eq_some.mp hstep
  refine ⟨?_, ?_, hexec⟩
  · rintro map unmap qbuf b n i rfl hr -
    simpa [Act.queuesHandle, hr] using hqueues
  · rintro i h b n rfl hcb hr
    simp [Act.readsMark, hr] at hreads

/-- The callback comes first, and reports the number of the first request for the second. -/
theorem numbers_stale : ∃ acts c, Run (fun (a : Act) c t => a.QueuesUsed c ∧ a.exec c = some t) acts
    (.created false 8 64) c ∧ c.reports = [(1, 1), (1, 2)] ∧ ¬ c.Reported := by
  obtain ⟨c, hc, hreports⟩ : ∃ c,
      execAll (fun c a => if a.queuesHandle c then Act.exec a c else none) (.created false 8 64)
        (requestedAgain [.streamCb 8 true, .getBufferHandle, .getFrameNumber, .give, .mark]) =
          some c ∧ c.reports = [(1, 1), (1, 2)] := ⟨_, rfl, rfl⟩
  refine ⟨_, c, (Run.of_execAll hc).mono fun a _ c t hstep => ?_, hreports, fun h => ?_⟩
  · obtain ⟨hqueues, hexec⟩ := Option.ite_none_right_eq_some.mp hstep
    refine ⟨?_, hexec⟩
    rintro map unmap qbuf b n i rfl hr -
    simpa [Act.queuesHandle, hr] using hqueues
  · have hlast := h (1, 2) (by rw [hreports]; decide)
    exact absurd hlast (by decide)

end StreamBufs
