import MidoCamera.Channel.YuvBypass
import MidoCamera.Library.MarkedPool

/-!
# The bypass mode loses and duplicates nothing

The list of requests splits where the stream is: the entries whose frames have come, and those whose
buffers are still with the stream, in the same order. Of the former, the plain ones have their frame
cached and the others are with the post-processor, again in order, and the first is with the
post-processor: a cached frame at the head is returned at once. So a frame that comes out of the
post-processor finds its entry at the head.
-/

namespace YuvBypass

open Loop Function List YuvChannel PpInfo

variable {come waiting : List PpInfo} {n : ℕ}

/-! ## Pairs of lists -/

section Pairs

variable {α β : Type} {R S : α → β → Prop} {l : List α} {l' : List β}

theorem forall₂_imp_of_mem (h : List.Forall₂ R l l')
    (sub : ∀ a ∈ l, ∀ b ∈ l', R a b → S a b) : List.Forall₂ S l l' := by
  induction h with
  | nil => exact .nil
  | cons hab _ ih =>
    refine .cons (sub _ mem_cons_self _ mem_cons_self hab) (ih fun a ha b hb => ?_)
    exact sub a (mem_cons_of_mem _ ha) b (mem_cons_of_mem _ hb)

theorem exists_of_mem_left (h : List.Forall₂ R l l') {a : α} (ha : a ∈ l) : ∃ b ∈ l', R a b := by
  induction h with
  | nil => cases ha
  | cons hab _ ih =>
    rcases mem_cons.mp ha with rfl | ha
    · exact ⟨_, mem_cons_self, hab⟩
    · obtain ⟨b, hb, hR⟩ := ih ha
      exact ⟨b, mem_cons_of_mem _ hb, hR⟩

end Pairs

/-! ## Frame numbers -/

theorem int32_inj {m : ℕ} (hm : m < 2 ^ 32) (hn : n < 2 ^ 32) (h : int32 m = int32 n) : m = n := by
  unfold int32 at h
  split at h <;> split at h <;> omega

theorem uint32_int32 (hn : n < 2 ^ 32) : uint32 (int32 n) = n := by
  unfold uint32 int32
  split <;> omega

theorem int32_nonneg (hn : n < 2 ^ 31) : 0 ≤ int32 n := by
  unfold int32
  rw [if_pos hn]
  omega

theorem int32_ne_neg_one (hn : n ≠ 2 ^ 32 - 1) : int32 n ≠ -1 := by
  unfold int32
  split <;> omega

def PpInfo.key (e : PpInfo) : ℕ × ℕ := (e.frameNumber, e.output)

namespace YuvChannel

/-! ## What holds at all times -/

/-- The buffer at an index is that of a request, and marked with its frame number. -/
def Marks (s : YuvChannel) (i : ℕ) (e : PpInfo) : Prop :=
  s.frameNumbers i = int32 e.frameNumber ∧
    if e.offlinePpFlag then i < s.heapCount else s.maxHeapBuffers ≤ i ∧ s.handles i = e.output

/-- The frame number and the output of a frame, and of what a thread has to return. -/
def frameOf (s : YuvChannel) (i : ℕ) : ℕ × ℕ := (uint32 (s.frameNumbers i), s.handles i)

def deliveryOf (s : YuvChannel) : Delivery → ℕ × ℕ
  | .result n output => (n, output)
  | .cached i => s.frameOf i

def inHand (s : YuvChannel) : List (ℕ × ℕ) :=
  s.streamTh.indices.map s.frameOf ++ s.reprocTh.map s.deliveryOf

def listed (s : YuvChannel) : List (ℕ × ℕ) := s.offlinePpInfoList.map PpInfo.key

/-- An entry whose frame has come: cached, or with the post-processor. -/
def Parked (s : YuvChannel) (e : PpInfo) : Prop :=
  if e.offlinePpFlag then e.callbackBuffer = none
  else ∃ i, e.callbackBuffer = some i ∧ s.Marks i e

/-- How the list, the stream and the post-processor belong together. -/
structure Flow (s : YuvChannel) (come waiting : List PpInfo) : Prop where
  list : s.offlinePpInfoList = come ++ waiting
  stream : List.Forall₂ s.Marks s.streamQ waiting
  fresh : ∀ e ∈ waiting, e.callbackBuffer = none
  parked : ∀ e ∈ come, s.Parked e
  pp : s.ppQ = (come.filter PpInfo.offlinePpFlag).map PpInfo.key
  drained : ∀ e ∈ come.head?, e.offlinePpFlag = true

/-- A frame number that survives its conversion: a buffer of the framework with a negative mark is
not returned, and the mark -1 is that of a free heap buffer. -/
def SoundNumber (n : ℕ) (offline : Bool) : Prop :=
  if offline then n ≠ 2 ^ 32 - 1 else n < 2 ^ 31

/-- The frame numbers increase, and are sound. -/
structure Numbers (s : YuvChannel) : Prop where
  sorted : (s.offlinePpInfoList.map PpInfo.frameNumber).Pairwise (· < ·)
  sound : ∀ e ∈ s.offlinePpInfoList,
    e.frameNumber < 2 ^ 32 ∧ SoundNumber e.frameNumber e.offlinePpFlag
  last : ∀ e ∈ s.offlinePpInfoList, ∃ l ∈ s.lastFrameNumber, e.frameNumber ≤ l
  requests : (s.requested.map Prod.fst).Pairwise (· < ·)
  lastRequest : ∀ r ∈ s.requested, ∃ l ∈ s.lastFrameNumber, r.1 ≤ l

def keys (l : List PpInfo) : List ℤ :=
  (l.filter PpInfo.offlinePpFlag).map fun e => int32 e.frameNumber

/-- **What holds at all times**. -/
structure Kept (s : YuvChannel) : Prop where
  flow : ∃ come waiting, s.Flow come waiting
  numbers : s.Numbers
  room : s.heapCount ≤ s.maxHeapBuffers
  pool : Marked (-1) s.heapCount s.freeHeapBufferList s.frameNumbers (keys s.offlinePpInfoList)
  hand : ∀ i ∈ s.handIndices, s.maxHeapBuffers ≤ i ∧ 0 ≤ s.frameNumbers i
  ledger : ∀ r, s.requested.count r = s.delivered.count r + s.inHand.count r + s.listed.count r
  errors : s.errors = []

/-! ## Lists of requests -/

section Lists

variable {s t : YuvChannel} {e : PpInfo} {i : ℕ} {before after : List PpInfo}

theorem Marks.mono (h : s.Marks i e) (mark : t.frameNumbers i = s.frameNumbers i)
    (handle : t.handles i = s.handles i) (count : s.heapCount ≤ t.heapCount)
    (room : t.maxHeapBuffers = s.maxHeapBuffers) : t.Marks i e := by
  obtain ⟨hmark, hplace⟩ := h
  refine ⟨mark.trans hmark, ?_⟩
  split
  · rename_i hoff
    rw [if_pos hoff] at hplace
    omega
  · rename_i hoff
    rw [if_neg hoff] at hplace
    exact ⟨room ▸ hplace.1, handle.trans hplace.2⟩

theorem Marks.frameOf (h : s.Marks i e) (hnum : e.frameNumber < 2 ^ 32)
    (hplain : e.offlinePpFlag = false) : s.frameOf i = e.key := by
  obtain ⟨hmark, hplace⟩ := h
  rw [if_neg (by simp [hplain])] at hplace
  simp only [YuvChannel.frameOf, key, hmark, uint32_int32 hnum, hplace.2]

theorem find_eq (hlist : s.offlinePpInfoList = before ++ e :: after)
    (sorted : (s.offlinePpInfoList.map PpInfo.frameNumber).Pairwise (· < ·)) :
    s.find e.frameNumber = (before, e :: after) := by
  have hbefore : ∀ b ∈ before, decide (b.frameNumber ≠ e.frameNumber) = true := by
    intro b hb
    rw [hlist, map_append, map_cons] at sorted
    have hlt := (pairwise_append.mp sorted).2.2 b.frameNumber (mem_map_of_mem hb)
      e.frameNumber mem_cons_self
    simpa using hlt.ne
  unfold find
  rw [hlist, takeWhile_append_of_pos hbefore, dropWhile_append_of_pos hbefore]
  simp

theorem keys_append (l l' : List PpInfo) : keys (l ++ l') = keys l ++ keys l' := by
  simp only [keys, filter_append, map_append]

theorem keys_cons_plain (l : List PpInfo) (hplain : e.offlinePpFlag = false) :
    keys (e :: l) = keys l := by
  rw [keys, filter_cons_of_neg (by simp [hplain]), keys]

theorem keys_cons_offline (l : List PpInfo) (hoff : e.offlinePpFlag = true) :
    keys (e :: l) = int32 e.frameNumber :: keys l := by
  rw [keys, filter_cons_of_pos hoff, map_cons, keys]

theorem mem_keys {l : List PpInfo} {z : ℤ} :
    z ∈ keys l ↔ ∃ e ∈ l, e.offlinePpFlag = true ∧ int32 e.frameNumber = z := by
  simp only [keys, mem_map, mem_filter, and_assoc]

theorem drain_spec (l : List PpInfo) : ∃ cached, l = cached ++ (drain l).2 ∧
    cached.map PpInfo.callbackBuffer = (drain l).1.map some ∧
    ∀ e ∈ (drain l).2.head?, e.callbackBuffer = none := by
  induction l with
  | nil => exact ⟨[], rfl, rfl, nofun⟩
  | cons e l ih =>
    unfold drain
    cases hcb : e.callbackBuffer with
    | none => exact ⟨[], rfl, rfl, fun e' he' => by cases he'; exact hcb⟩
    | some i =>
      obtain ⟨cached, hl, hmap, hhead⟩ := ih
      refine ⟨e :: cached, ?_, ?_, hhead⟩
      · exact congrArg (e :: ·) hl
      · rw [map_cons, hcb, hmap]
        rfl

theorem Numbers.keys_sound (h : s.Numbers) : (-1 : ℤ) ∉ keys s.offlinePpInfoList := by
  intro hmem
  obtain ⟨e, he, hoff, hnum⟩ := mem_keys.mp hmem
  have hsound := (h.sound e he).2
  rw [SoundNumber, if_pos hoff] at hsound
  exact int32_ne_neg_one hsound hnum

end Lists

/-! ## Requests -/

section Steps

variable {s t : YuvChannel} {e : PpInfo} {i : ℕ}

/-- What a request does, whichever buffer it is for. -/
structure Requested (s t : YuvChannel) (e : PpInfo) (i : ℕ) : Prop where
  list : t.offlinePpInfoList = s.offlinePpInfoList ++ [e]
  streamQ : t.streamQ = s.streamQ ++ [i]
  marks : t.frameNumbers = update s.frameNumbers i (int32 e.frameNumber)
  handles : ∀ j ≠ i, t.handles j = s.handles j
  mark : t.Marks i e
  count : s.heapCount ≤ t.heapCount
  room : t.maxHeapBuffers = s.maxHeapBuffers
  last : t.lastFrameNumber = some e.frameNumber
  requested : t.requested = s.requested ++ [e.key]
  fresh : e.callbackBuffer = none
  pp : t.ppQ = s.ppQ
  threads : t.streamTh = s.streamTh ∧ t.reprocTh = s.reprocTh
  rest : t.delivered = s.delivered ∧ t.errors = s.errors

theorem Requested.marks_mono (h : Requested s t e i) {j : ℕ} {e' : PpInfo} (hj : j ≠ i)
    (hmarks : s.Marks j e') : t.Marks j e' :=
  hmarks.mono (by rw [h.marks, update_of_ne hj]) (h.handles j hj) h.count h.room

theorem Requested.frameOf (h : Requested s t e i) {j : ℕ} (hj : j ≠ i) :
    t.frameOf j = s.frameOf j := by
  simp only [YuvChannel.frameOf, h.marks, update_of_ne hj, h.handles j hj]

theorem Requested.flow (h : Requested s t e i) (hout : i ∉ s.outstanding)
    (flow : s.Flow come waiting) : t.Flow come (waiting ++ [e]) := by
  simp only [outstanding, mem_append, not_or] at hout
  obtain ⟨⟨hstream, hcached⟩, -⟩ := hout
  refine ⟨?_, ?_, fun e' he' => ?_, fun e' he' => ?_, h.pp.trans flow.pp, flow.drained⟩
  · rw [h.list, flow.list, append_assoc]
  · rw [h.streamQ]
    refine rel_append ?_ (.cons h.mark .nil)
    refine forall₂_imp_of_mem flow.stream fun j hj e' _ hmarks => h.marks_mono ?_ hmarks
    exact fun heq => hstream (heq ▸ hj)
  · rcases mem_append.mp he' with hold | hnew
    · exact flow.fresh e' hold
    · rw [mem_singleton.mp hnew]
      exact h.fresh
  · have hparked := flow.parked e' he'
    unfold Parked at hparked ⊢
    split
    · rename_i hoff
      rwa [if_pos hoff] at hparked
    · rename_i hoff
      rw [if_neg hoff] at hparked
      obtain ⟨j, hj, hmarks⟩ := hparked
      refine ⟨j, hj, h.marks_mono (fun heq => hcached (heq ▸ ?_)) hmarks⟩
      refine mem_filterMap.mpr ⟨e', ?_, hj⟩
      rw [flow.list]
      exact mem_append_left _ he'

theorem Requested.numbers (h : Requested s t e i) (hnum : e.frameNumber < 2 ^ 32)
    (sound : SoundNumber e.frameNumber e.offlinePpFlag)
    (hlast : ∀ m ∈ s.lastFrameNumber, m < e.frameNumber) (numbers : s.Numbers) : t.Numbers := by
  refine ⟨?_, fun e' he' => ?_, fun e' he' => ?_, ?_, fun r hr => ?_⟩
  · rw [h.list, map_append, pairwise_append]
    refine ⟨numbers.sorted, pairwise_singleton .., fun m hm n hn => ?_⟩
    obtain ⟨e', he', rfl⟩ := mem_map.mp hm
    obtain ⟨l, hl, hle⟩ := numbers.last e' he'
    rw [map_singleton, mem_singleton] at hn
    rw [hn]
    exact hle.trans_lt (hlast l hl)
  · rw [h.list] at he'
    rcases mem_append.mp he' with hold | hnew
    · exact numbers.sound e' hold
    · rw [mem_singleton.mp hnew]
      exact ⟨hnum, sound⟩
  · refine ⟨_, h.last, ?_⟩
    rw [h.list] at he'
    rcases mem_append.mp he' with hold | hnew
    · obtain ⟨l, hl, hle⟩ := numbers.last e' hold
      exact hle.trans (hlast l hl).le
    · rw [mem_singleton.mp hnew]
  · rw [h.requested, map_append, pairwise_append]
    refine ⟨numbers.requests, pairwise_singleton .., fun m hm n hn => ?_⟩
    obtain ⟨r, hr, rfl⟩ := mem_map.mp hm
    obtain ⟨l, hl, hle⟩ := numbers.lastRequest r hr
    rw [map_singleton, mem_singleton] at hn
    rw [hn]
    exact hle.trans_lt (hlast l hl)
  · refine ⟨_, h.last, ?_⟩
    rw [h.requested] at hr
    rcases mem_append.mp hr with hold | hnew
    · obtain ⟨l, hl, hle⟩ := numbers.lastRequest r hold
      exact hle.trans (hlast l hl).le
    · rw [mem_singleton.mp hnew]
      exact le_rfl

theorem Requested.inHand (h : Requested s t e i) (hout : i ∉ s.handIndices) :
    t.inHand = s.inHand ∧ t.handIndices = s.handIndices := by
  simp only [handIndices, mem_append, not_or] at hout
  obtain ⟨hstream, hreproc⟩ := hout
  unfold YuvChannel.inHand handIndices
  rw [h.threads.1, h.threads.2]
  refine ⟨congrArg₂ _ (map_congr_left fun j hj => ?_) (map_congr_left fun d hd => ?_), rfl⟩
  · exact h.frameOf fun heq => hstream (heq ▸ hj)
  · cases d with
    | result n output => rfl
    | cached j =>
      refine h.frameOf fun heq => hreproc (heq ▸ ?_)
      exact mem_flatMap.mpr ⟨_, hd, mem_singleton_self j⟩

/-- **A request keeps what holds**, whichever buffer it is for. -/
theorem Requested.kept (h : Requested s t e i) (hout : i ∉ s.outstanding)
    (hnum : e.frameNumber < 2 ^ 32) (sound : SoundNumber e.frameNumber e.offlinePpFlag)
    (hlast : ∀ m ∈ s.lastFrameNumber, m < e.frameNumber) (kept : s.Kept)
    (room : t.heapCount ≤ t.maxHeapBuffers)
    (pool : Marked (-1) t.heapCount t.freeHeapBufferList t.frameNumbers
      (keys t.offlinePpInfoList)) : t.Kept := by
  have hhand : i ∉ s.handIndices := fun hmem => hout (mem_append_right _ hmem)
  obtain ⟨hinHand, hindices⟩ := h.inHand hhand
  obtain ⟨come, waiting, flow⟩ := kept.flow
  refine ⟨⟨come, _, h.flow hout flow⟩, h.numbers hnum sound hlast kept.numbers, room, pool,
    fun j hj => ?_, fun r => ?_, h.rest.2.trans kept.errors⟩
  · rw [hindices] at hj
    have hne : j ≠ i := fun heq => hhand (heq ▸ hj)
    rw [h.room, h.marks, update_of_ne hne]
    exact kept.hand j hj
  · have hledger := kept.ledger r
    rw [h.requested, h.rest.1, hinHand, listed, h.list, map_append, count_append,
      count_append, map_singleton]
    unfold listed at hledger
    omega

theorem Kept.heap_not_out (h : s.Kept) {b : ℕ} (hroom : b < s.maxHeapBuffers)
    (hfree : b < s.heapCount → s.frameNumbers b = -1) : b ∉ s.outstanding := by
  obtain ⟨come, waiting, flow⟩ := h.flow
  simp only [outstanding, mem_append, not_or]
  -- the buffer of a listed request is marked, or one of the framework
  have hmarks {e' : PpInfo} (he' : e' ∈ s.offlinePpInfoList) (hb : s.Marks b e') : False := by
    obtain ⟨hmark, hplace⟩ := hb
    split at hplace
    · rename_i hoff
      have hsound := (h.numbers.sound e' he').2
      rw [SoundNumber, if_pos hoff] at hsound
      exact int32_ne_neg_one hsound (hmark.symm.trans (hfree hplace))
    · exact absurd hplace.1 (Nat.not_le.mpr hroom)
  refine ⟨⟨fun hmem => ?_, fun hmem => ?_⟩, fun hmem => ?_⟩
  · obtain ⟨e', he', hb⟩ := exists_of_mem_left flow.stream hmem
    exact hmarks (flow.list ▸ mem_append_right _ he') hb
  · obtain ⟨e', he', hcb⟩ := mem_filterMap.mp hmem
    rw [flow.list] at he'
    rcases mem_append.mp he' with hcome | hwaiting
    · have hparked := flow.parked e' hcome
      unfold Parked at hparked
      split at hparked
      · exact absurd (hcb.symm.trans hparked) (by simp)
      · obtain ⟨j, hj, hb⟩ := hparked
        obtain rfl : j = b := Option.some.inj (hj.symm.trans hcb)
        exact hmarks (flow.list ▸ he') hb
    · exact absurd (hcb.symm.trans (flow.fresh e' hwaiting)) (by simp)
  · exact absurd (h.hand b hmem).1 (Nat.not_le.mpr hroom)

theorem Numbers.new_key (h : s.Numbers) (hn : n < 2 ^ 32)
    (hlast : ∀ m ∈ s.lastFrameNumber, m < n) : int32 n ∉ keys s.offlinePpInfoList := by
  intro hmem
  obtain ⟨e', he', -, heq⟩ := mem_keys.mp hmem
  obtain ⟨l, hl, hle⟩ := h.last e' he'
  have hsame := int32_inj (h.sound e' he').1 hn heq
  have hlt := hlast l hl
  omega

theorem Kept.requested (h : s.Kept) {output slot : ℕ} {offline : Bool} (hn : n < 2 ^ 32)
    (hlast : ∀ m ∈ s.lastFrameNumber, m < n) (hslot : s.maxHeapBuffers ≤ slot)
    (hout : slot ∉ s.outstanding) (hreq : s.request n offline output slot = some t) :
    ∃ i, i ∉ s.outstanding ∧ Requested s t ⟨n, offline, output, none⟩ i ∧
      t.heapCount ≤ t.maxHeapBuffers ∧
      Marked (-1) t.heapCount t.freeHeapBufferList t.frameNumbers (keys t.offlinePpInfoList) := by
  have hnew := h.numbers.new_key hn hlast
  have hkeys : keys (s.offlinePpInfoList ++ [⟨n, true, output, none⟩]) =
      keys s.offlinePpInfoList ++ [int32 n] := keys_append ..
  unfold request at hreq
  cases offline with
  | false =>
    obtain rfl := Option.some.inj hreq
    refine ⟨slot, hout, ⟨rfl, rfl, rfl, fun j hj => update_of_ne hj .., ?_, le_rfl, rfl, rfl,
      rfl, rfl, rfl, ⟨rfl, rfl⟩, ⟨rfl, rfl⟩⟩, h.room, ?_⟩
    · exact ⟨update_self .., hslot, update_self ..⟩
    · -- the heap buffers are not touched
      have hsame : keys (s.offlinePpInfoList ++ [⟨n, false, output, none⟩]) =
          keys s.offlinePpInfoList := (keys_append ..).trans (append_nil _)
      show Marked (-1) s.heapCount s.freeHeapBufferList _ (keys (_ ++ _))
      rw [hsame]
      refine h.pool.congr fun b hb => update_of_ne ?_ ..
      have hroom := h.room
      omega
  | true =>
    simp only [if_true] at hreq
    cases hfree : s.freeHeapBufferList with
    | cons b rest =>
      simp only [hfree] at hreq
      obtain rfl := Option.some.inj hreq
      have hpool := h.pool
      rw [hfree] at hpool
      obtain ⟨hb, hmark⟩ := hpool.loose b mem_cons_self
      exact ⟨b, h.heap_not_out (hb.trans_le h.room) fun _ => hmark,
        ⟨rfl, rfl, rfl, fun _ _ => rfl, ⟨update_self .., hb⟩, le_rfl, rfl, rfl, rfl, rfl,
          rfl, ⟨rfl, rfl⟩, ⟨rfl, rfl⟩⟩, h.room, hkeys ▸ hpool.take hnew⟩
    | nil =>
      simp only [hfree] at hreq
      obtain ⟨hroom, ⟨⟩⟩ := Option.ite_none_right_eq_some.mp hreq
      have hpool := h.pool
      rw [hfree] at hpool
      exact ⟨s.heapCount, h.heap_not_out hroom fun hlt => absurd hlt (lt_irrefl _),
        ⟨rfl, rfl, rfl, fun _ _ => rfl, ⟨update_self .., Nat.lt_succ_self _⟩,
          Nat.le_succ _, rfl, rfl, rfl, rfl, rfl, ⟨rfl, rfl⟩, ⟨rfl, rfl⟩⟩, hroom,
        hkeys ▸ hpool.grow hnew⟩

theorem Kept.request (h : s.Kept) {output slot : ℕ} {offline : Bool} (hn : n < 2 ^ 32)
    (hlast : ∀ m ∈ s.lastFrameNumber, m < n) (hslot : s.maxHeapBuffers ≤ slot)
    (hout : slot ∉ s.outstanding) (sound : SoundNumber n offline)
    (hreq : s.request n offline output slot = some t) : t.Kept := by
  obtain ⟨i, hi, requested, room, pool⟩ := h.requested hn hlast hslot hout hreq
  exact requested.kept hi hn sound hlast h room pool

/-! ## The stream thread -/

/-- The requests of `l` are taken off the list, into the hands of a thread. -/
structure Taken (s t : YuvChannel) (l : List (ℕ × ℕ)) : Prop where
  listed : s.listed = l ++ t.listed
  inHand : t.inHand.Perm (s.inHand ++ l)
  delivered : t.delivered = s.delivered
  requested : t.requested = s.requested

theorem Taken.ledger {l : List (ℕ × ℕ)} (taken : Taken s t l) (h : s.Kept) (r : ℕ × ℕ) :
    t.requested.count r = t.delivered.count r + t.inHand.count r + t.listed.count r := by
  have hledger := h.ledger r
  rw [taken.listed, count_append] at hledger
  rw [taken.requested, taken.delivered, taken.inHand.count_eq, count_append]
  omega

theorem returnFrame_eq (s : YuvChannel) (hmark : 0 ≤ s.frameNumbers i) :
    s.returnFrame i = { s with delivered := s.delivered ++ [s.frameOf i] } := by
  rw [returnFrame, if_pos hmark]
  rfl

theorem Flow.first (flow : s.Flow come waiting)
    (numbers : s.Numbers) {rest : List ℕ} (hstream : s.streamQ = i :: rest) :
    ∃ e left, waiting = e :: left ∧ s.Marks i e ∧ List.Forall₂ s.Marks rest left ∧
      s.find (uint32 (s.frameNumbers i)) = (come, e :: left) ∧
      uint32 (s.frameNumbers i) = e.frameNumber := by
  have hforall := flow.stream
  rw [hstream] at hforall
  obtain ⟨e, left, hmarks, hrest, rfl⟩ := forall₂_cons_left_iff.mp hforall
  have he : e ∈ s.offlinePpInfoList := flow.list ▸ mem_append_right _ mem_cons_self
  have hnum : uint32 (s.frameNumbers i) = e.frameNumber := by
    rw [hmarks.1, uint32_int32 (numbers.sound e he).1]
  refine ⟨e, left, rfl, hmarks, hrest, ?_, hnum⟩
  rw [hnum]
  exact find_eq flow.list numbers.sorted

theorem Numbers.congr (h : s.Numbers)
    (list : t.offlinePpInfoList.map (fun e => (e.frameNumber, e.offlinePpFlag)) =
      s.offlinePpInfoList.map fun e => (e.frameNumber, e.offlinePpFlag))
    (last : t.lastFrameNumber = s.lastFrameNumber) (requested : t.requested = s.requested) :
    t.Numbers := by
  have hfrom (e : PpInfo) (he : e ∈ t.offlinePpInfoList) : ∃ e' ∈ s.offlinePpInfoList,
      e'.frameNumber = e.frameNumber ∧ e'.offlinePpFlag = e.offlinePpFlag := by
    have hmem := mem_map_of_mem (f := fun e => (e.frameNumber, e.offlinePpFlag)) he
    rw [list] at hmem
    obtain ⟨e', he', heq⟩ := mem_map.mp hmem
    exact ⟨e', he', Prod.mk.inj heq⟩
  refine ⟨?_, fun e he => ?_, fun e he => ?_, requested ▸ h.requests, ?_⟩
  · have hmap := congrArg (map Prod.fst) list
    rw [map_map, map_map] at hmap
    exact (hmap ▸ h.sorted : (t.offlinePpInfoList.map frameNumber).Pairwise _)
  · obtain ⟨e', he', hnum, hoff⟩ := hfrom e he
    rw [← hnum, ← hoff]
    exact h.sound e' he'
  · obtain ⟨e', he', hnum, -⟩ := hfrom e he
    rw [last, ← hnum]
    exact h.last e' he'
  · rw [requested, last]
    exact h.lastRequest

theorem Numbers.sublist (h : s.Numbers)
    (list : t.offlinePpInfoList.Sublist s.offlinePpInfoList)
    (last : t.lastFrameNumber = s.lastFrameNumber) (requested : t.requested = s.requested) :
    t.Numbers := by
  refine ⟨h.sorted.sublist (list.map _), fun e he => h.sound e (list.subset he), fun e he => ?_,
    requested ▸ h.requests, ?_⟩
  · rw [last]
    exact h.last e (list.subset he)
  · rw [requested, last]
    exact h.lastRequest

/-- The entry of the first frame of the stream is the head, and plain. -/
def Takes (s : YuvChannel) : Prop :=
  ∃ i rest e after, s.streamQ = i :: rest ∧ s.find (uint32 (s.frameNumbers i)) = ([], e :: after) ∧
    e.offlinePpFlag = false

/-- **A frame comes**: it is handed to the post-processor, cached behind the requests ahead of it,
or taken off the head. -/
theorem Kept.streamCb (h : s.Kept) (hidle : s.streamTh = .idle) (hne : s.streamQ ≠ []) :
    (s.streamCb true).Kept ∧ (s.streamCb true).reprocTh = s.reprocTh ∧
      ((s.streamCb true).streamTh = .idle ∧ (s.streamCb true).inHand = s.inHand ∧
          Taken s (s.streamCb true) [] ∨
        s.Takes ∧ ∃ r, Taken s (s.streamCb true) [r]) := by
  obtain ⟨come, waiting, flow⟩ := h.flow
  obtain ⟨i, rest, hstream⟩ := exists_cons_of_ne_nil hne
  obtain ⟨e, left, rfl, hmarks, hrest, hfind, hnum⟩ := flow.first h.numbers hstream
  have he : e ∈ s.offlinePpInfoList := flow.list ▸ mem_append_right _ mem_cons_self
  have hfresh := flow.fresh e mem_cons_self
  have hfresh' (e' : PpInfo) (he' : e' ∈ left) := flow.fresh e' (mem_cons_of_mem _ he')
  unfold YuvChannel.streamCb
  simp only [hstream, hfind]
  cases hoff : e.offlinePpFlag with
  | true =>
    simp only [if_true]
    have taken : Taken s { s with
        streamQ := rest, ppQ := s.ppQ ++ [(uint32 (s.frameNumbers i), e.output)] } [] :=
      ⟨rfl, (append_nil _).symm ▸ .refl _, rfl, rfl⟩
    refine ⟨⟨⟨come ++ [e], left, ?_⟩, h.numbers.congr rfl rfl rfl, h.room, h.pool, h.hand, h.ledger,
      h.errors⟩, trivial, .inl ⟨hidle, rfl, taken⟩⟩
    refine ⟨by rw [append_assoc]; exact flow.list, hrest, hfresh', fun e' he' => ?_, ?_, ?_⟩
    · rcases mem_append.mp he' with hold | hnew
      · exact flow.parked e' hold
      · rw [mem_singleton.mp hnew]
        unfold Parked
        rw [if_pos hoff]
        exact hfresh
    · show s.ppQ ++ [(uint32 (s.frameNumbers i), e.output)] = _
      rw [flow.pp, filter_append, map_append, hnum, filter_cons_of_pos hoff]
      rfl
    · cases come with
      | nil =>
        intro e' he'
        cases he'
        exact hoff
      | cons a come => exact flow.drained
  | false =>
    simp only [Bool.false_eq_true, if_false, hfresh, if_true]
    have hplace := hmarks.2
    rw [if_neg (by simp [hoff])] at hplace
    cases hcome : come with
    | cons a come' =>
      -- cached: the entry differs in that only
      rw [if_pos (cons_ne_nil _ _), ← hcome]
      set e' : PpInfo := ⟨e.frameNumber, false, e.output, some i⟩ with he'
      have hlist : (come ++ e' :: left).map (fun e => (e.frameNumber, e.offlinePpFlag)) =
          s.offlinePpInfoList.map fun e => (e.frameNumber, e.offlinePpFlag) := by
        simp only [flow.list, map_append, map_cons, he', hoff]
      have taken : Taken s { s with
          streamQ := rest, offlinePpInfoList := come ++ e' :: left } [] := by
        refine ⟨?_, (append_nil _).symm ▸ .refl _, rfl, rfl⟩
        simp only [listed, flow.list, map_append, map_cons, he', key, nil_append]
      refine ⟨⟨⟨come ++ [e'], left, ?_⟩, h.numbers.congr hlist rfl rfl, h.room, ?_, h.hand,
        taken.ledger h, h.errors⟩, rfl, .inl ⟨hidle, rfl, taken⟩⟩
      · refine ⟨by rw [append_assoc]; rfl, hrest, hfresh', fun e'' he'' => ?_, ?_, ?_⟩
        · rcases mem_append.mp he'' with hold | hnew
          · exact flow.parked e'' hold
          · rw [mem_singleton.mp hnew]
            unfold Parked
            rw [if_neg (by simp [he'])]
            refine ⟨i, rfl, hmarks.1, ?_⟩
            rw [if_neg (by simp [he'])]
            exact hplace
        · show s.ppQ = _
          rw [flow.pp, filter_append, filter_cons_of_neg (by simp [he']), filter_nil, append_nil]
        · have hdrained := flow.drained
          rw [hcome] at hdrained ⊢
          exact hdrained
      · show Marked (-1) s.heapCount s.freeHeapBufferList s.frameNumbers (keys (come ++ e' :: left))
        have hkeys : keys (come ++ e' :: left) = keys s.offlinePpInfoList := by
          rw [flow.list, keys_append, keys_append, keys_cons_plain left hoff,
            keys_cons_plain left (show e'.offlinePpFlag = false from rfl)]
        rw [hkeys]
        exact h.pool
    | nil =>
      -- at the head: the stream thread has it to return
      rw [if_neg (fun hnil => hnil rfl)]
      have hsound := (h.numbers.sound e he).2
      rw [SoundNumber, if_neg (by simp [hoff])] at hsound
      have hlist : s.offlinePpInfoList = e :: left := by rw [flow.list, hcome, nil_append]
      have hindices : s.handIndices = s.reprocTh.flatMap Delivery.indices := by
        rw [handIndices, hidle]
        rfl
      have taken : Taken s { s with
          streamQ := rest, offlinePpInfoList := left, streamTh := .deliver i } [e.key] := by
        refine ⟨by rw [listed, hlist]; rfl, ?_, rfl, rfl⟩
        have hinHand : s.inHand = s.reprocTh.map s.deliveryOf := by
          rw [YuvChannel.inHand, hidle]
          rfl
        have hkey := hmarks.frameOf (h.numbers.sound e he).1 hoff
        show (s.frameOf i :: s.reprocTh.map s.deliveryOf).Perm _
        rw [hinHand, hkey]
        exact (perm_append_singleton ..).symm
      have takes : s.Takes := ⟨i, rest, e, left, hstream, hcome ▸ hfind, hoff⟩
      refine ⟨⟨⟨[], left, ⟨rfl, hrest, hfresh', nofun, ?_, nofun⟩⟩,
        h.numbers.sublist (hlist ▸ sublist_cons_self e left) rfl rfl, h.room, ?_,
        fun j hj => ?_, taken.ledger h, h.errors⟩, rfl, .inr ⟨takes, _, taken⟩⟩
      · rw [flow.pp, hcome]
      · have hpool := h.pool
        rw [hlist, keys_cons_plain left hoff] at hpool
        exact hpool
      · have hj' : j = i ∨ j ∈ s.handIndices := by
          rw [hindices]
          exact mem_cons.mp hj
        rcases hj' with rfl | hold
        · exact ⟨hplace.1, hmarks.1 ▸ int32_nonneg hsound⟩
        · exact h.hand j hold

theorem Kept.deliverStream (h : s.Kept) (hth : s.streamTh = .deliver i) :
    s.deliverStream.Kept := by
  have hi : i ∈ s.handIndices := by
    rw [handIndices, hth]
    exact mem_cons_self
  unfold YuvChannel.deliverStream
  simp only [hth, returnFrame_eq s (h.hand i hi).2]
  obtain ⟨come, waiting, flow⟩ := h.flow
  refine ⟨⟨come, waiting, ⟨flow.list, flow.stream, flow.fresh, flow.parked, flow.pp, flow.drained⟩⟩,
    h.numbers.congr rfl rfl rfl, h.room, h.pool, fun j hj => h.hand j ?_, fun r => ?_, h.errors⟩
  · rw [handIndices, hth]
    exact mem_cons_of_mem _ hj
  · have hledger := h.ledger r
    rw [inHand, hth] at hledger
    simp only [StreamThread.indices, map_cons, map_nil, count_append,
      count_cons, count_nil] at hledger
    show _ = (s.delivered ++ [s.frameOf i]).count r + (s.reprocTh.map s.deliveryOf).count r + _
    rw [count_append, count_singleton]
    show s.requested.count r = _ + s.listed.count r
    omega

/-- **The stream thread finds nothing cached**: the frames after the one it has returned have not
come. -/
theorem Kept.nextStream_eq (h : s.Kept) : s.nextStream = { s with streamTh := .idle } := by
  obtain ⟨come, waiting, flow⟩ := h.flow
  have hnone (e : PpInfo) (l : List PpInfo) (hlist : s.offlinePpInfoList = e :: l) :
      e.callbackBuffer = none := by
    rw [flow.list] at hlist
    cases come with
    | nil =>
      obtain rfl : waiting = e :: l := hlist
      exact flow.fresh e mem_cons_self
    | cons a come =>
      obtain ⟨rfl, -⟩ := cons.inj hlist
      have hparked := flow.parked a mem_cons_self
      rwa [Parked, if_pos (flow.drained a rfl)] at hparked
  unfold nextStream
  cases hlist : s.offlinePpInfoList with
  | nil => rfl
  | cons e l => simp only [hnone e l hlist]

theorem Kept.nextStream (h : s.Kept) (hth : s.streamTh = .next) : s.nextStream.Kept := by
  rw [h.nextStream_eq]
  obtain ⟨come, waiting, flow⟩ := h.flow
  have hindices : s.handIndices = s.reprocTh.flatMap Delivery.indices := by
    rw [handIndices, hth]
    rfl
  refine ⟨⟨come, waiting, ⟨flow.list, flow.stream, flow.fresh, flow.parked, flow.pp, flow.drained⟩⟩,
    h.numbers.congr rfl rfl rfl, h.room, h.pool, fun j hj => h.hand j (hindices ▸ hj), fun r => ?_,
    h.errors⟩
  have hledger := h.ledger r
  rw [inHand, hth] at hledger
  exact hledger

/-! ## The reprocess thread -/

theorem Flow.head (flow : s.Flow come waiting) (hne : s.ppQ ≠ []) :
    ∃ e left, come = e :: left ∧ e.offlinePpFlag = true ∧
      s.ppQ = e.key :: (left.filter PpInfo.offlinePpFlag).map PpInfo.key := by
  cases hcome : come with
  | nil =>
    refine absurd ?_ hne
    rw [flow.pp, hcome]
    rfl
  | cons e left =>
    have hoff : e.offlinePpFlag = true := flow.drained e (by rw [hcome]; rfl)
    refine ⟨e, left, rfl, hoff, ?_⟩
    rw [flow.pp, hcome, filter_cons_of_pos hoff, map_cons]

/-- What is drained behind the head are frames that have come; the next that has come is with the
post-processor. -/
theorem Flow.drain {left : List PpInfo} (flow : s.Flow (e :: left) waiting) :
    ∃ cached rest, left = cached ++ rest ∧ (YuvChannel.drain (left ++ waiting)).2 = rest ++ waiting ∧
      cached.map PpInfo.callbackBuffer = (YuvChannel.drain (left ++ waiting)).1.map some ∧
      (∀ e' ∈ cached, e'.offlinePpFlag = false) ∧ ∀ e' ∈ rest.head?, e'.offlinePpFlag = true := by
  obtain ⟨cached, hsplit, hmap, hhead⟩ := drain_spec (left ++ waiting)
  have hsome (e' : PpInfo) (he' : e' ∈ cached) : e'.callbackBuffer ≠ none := by
    intro hnone
    have hmem := mem_map_of_mem (f := callbackBuffer) he'
    rw [hmap, hnone] at hmem
    obtain ⟨j, -, hj⟩ := mem_map.mp hmem
    cases hj
  -- nothing is cached that has not come
  obtain ⟨rest, hleft, hrest⟩ : ∃ rest, left = cached ++ rest ∧
      (YuvChannel.drain (left ++ waiting)).2 = rest ++ waiting := by
    rcases append_eq_append_iff.mp hsplit with ⟨a, ha, hwaiting⟩ | ⟨c, hc, hrest⟩
    · cases a with
      | nil => exact ⟨[], by simpa using ha.symm, by simpa using hwaiting.symm⟩
      | cons x a =>
        refine absurd (flow.fresh x ?_) (hsome x ?_)
        · rw [hwaiting]
          exact mem_cons_self
        · rw [ha]
          exact mem_append_right _ mem_cons_self
    · exact ⟨c, hc, hrest⟩
  refine ⟨cached, rest, hleft, hrest, hmap, fun e' he' => ?_, fun e' he' => ?_⟩
  · have hparked := flow.parked e' (by rw [hleft]; simp [he'])
    unfold Parked at hparked
    by_contra hoff
    rw [if_pos (by simpa using hoff)] at hparked
    exact hsome e' he' hparked
  · have hmem : e' ∈ rest := mem_of_mem_head? he'
    have hparked := flow.parked e' (by rw [hleft]; simp [hmem])
    unfold Parked at hparked
    by_contra hoff
    rw [if_neg (by simpa using hoff)] at hparked
    obtain ⟨j, hj, -⟩ := hparked
    have hnone : e'.callbackBuffer = none := by
      refine hhead e' ?_
      rw [hrest, head?_append, Option.mem_def.mp he']
      rfl
    exact absurd (hj.symm.trans hnone) (by simp)

/-- **A frame comes out of the post-processor**: its entry is the head, its heap buffer is free, and
the frames cached behind it are to be returned. -/
theorem Kept.reprocessCb (h : s.Kept) (hth : s.reprocTh = []) (hne : s.ppQ ≠ []) :
    s.reprocessCb.Kept ∧ s.reprocessCb.streamTh = s.streamTh ∧
      ∃ l, Taken s s.reprocessCb l ∧ s.reprocessCb.inHand = s.inHand ++ l := by
  obtain ⟨come, waiting, flow⟩ := h.flow
  obtain ⟨e, left, rfl, hoff, hpp⟩ := flow.head hne
  obtain ⟨cached, rest, rfl, hdrain, hmap, hplain, hhead⟩ := flow.drain
  have hlist : s.offlinePpInfoList = e :: (cached ++ rest ++ waiting) := flow.list
  have hnum := h.numbers.sound e (hlist ▸ mem_cons_self)
  have hsound := hnum.2
  rw [SoundNumber, if_pos hoff] at hsound
  have hkeys : keys s.offlinePpInfoList = int32 e.frameNumber :: keys (rest ++ waiting) := by
    rw [hlist, keys_cons_offline _ hoff, append_assoc, keys_append]
    have hnil : keys cached = [] := by
      rw [keys, filter_eq_nil_iff.mpr fun e' he' => by simp [hplain e' he'], map_nil]
    rw [hnil, nil_append]
  -- the other entries have other numbers
  have hothers (e' : PpInfo) (he' : e' ∈ cached ++ rest ++ waiting) :
      int32 e'.frameNumber ≠ int32 e.frameNumber := by
    intro heq
    have hsorted := h.numbers.sorted
    rw [hlist, map_cons, pairwise_cons] at hsorted
    have hlt := hsorted.1 e'.frameNumber (mem_map_of_mem he')
    have hsame := int32_inj (h.numbers.sound e' (hlist ▸ mem_cons_of_mem _ he')).1 hnum.1 heq
    omega
  have hpool := h.pool
  rw [hkeys] at hpool
  -- the heap buffer is found by its mark
  obtain ⟨b, hfound, hb, hmark⟩ : ∃ b, s.getHeapBufferIndex e.frameNumber = some b ∧
      b < s.heapCount ∧ s.frameNumbers b = int32 e.frameNumber := by
    obtain ⟨b₀, hb₀, -, hmark₀⟩ := hpool.marked _ mem_cons_self
    have hsome : (s.getHeapBufferIndex e.frameNumber).isSome := by
      rw [getHeapBufferIndex, find?_isSome]
      exact ⟨b₀, mem_range.mpr hb₀, by simpa using hmark₀⟩
    obtain ⟨b, hb⟩ := Option.isSome_iff_exists.mp hsome
    refine ⟨b, hb, mem_range.mp (mem_of_find?_eq_some hb), ?_⟩
    simpa using find?_some hb
  have hfind : s.find e.frameNumber = ([], e :: (cached ++ rest ++ waiting)) :=
    @find_eq s e [] _ hlist h.numbers.sorted
  set t : YuvChannel := { s with
    ppQ := ((cached ++ rest).filter offlinePpFlag).map key
    freeHeapBufferList := s.freeHeapBufferList ++ [b]
    frameNumbers := update s.frameNumbers b (-1)
    offlinePpInfoList := rest ++ waiting
    reprocTh := .result e.frameNumber e.output ::
      (YuvChannel.drain (cached ++ rest ++ waiting)).1.map .cached } with ht
  have heq : s.reprocessCb = t := by
    have hfind' : ∀ q err, find { s with ppQ := q, errors := err } e.frameNumber =
        ([], e :: (cached ++ rest ++ waiting)) := fun _ _ => hfind
    have hfound' : ∀ q err, getHeapBufferIndex { s with ppQ := q, errors := err }
        e.frameNumber = some b := fun _ _ => hfound
    unfold YuvChannel.reprocessCb
    simp only [hpp, key, hfound, reduceCtorEq, if_false, handleOfflinePpCallback, hfind',
      hfound', hoff, if_true, hdrain]
    rfl
  rw [heq]
  have hbroom : b < s.maxHeapBuffers := hb.trans_le h.room
  have hmono (j : ℕ) (e' : PpInfo) (he' : e' ∈ cached ++ rest ++ waiting) (hmarks : s.Marks j e') :
      t.Marks j e' := by
    refine hmarks.mono (update_of_ne ?_ ..) rfl le_rfl rfl
    rintro rfl
    exact hothers e' he' (hmarks.1.symm.trans hmark)
  have hcached : ∀ e' ∈ cached, ∃ j, e'.callbackBuffer = some j ∧ s.Marks j e' := by
    intro e' he'
    have hparked := flow.parked e' (by simp [he'])
    rwa [Parked, if_neg (by simp [hplain e' he'])] at hparked
  -- the head and the entries drained are in the hands of the thread
  have hhands : t.inHand = s.inHand ++ e.key :: cached.map key := by
    have hstream : s.streamTh.indices.map t.frameOf = s.inHand := by
      rw [inHand, hth, map_nil, append_nil]
      refine map_congr_left fun j hj => ?_
      have hroom := (h.hand j (mem_append_left _ hj)).1
      simp only [frameOf, ht, update_of_ne (show j ≠ b by omega)]
    have hrest : (YuvChannel.drain (cached ++ rest ++ waiting)).1.map t.frameOf =
        cached.map key := by
      have hsome : ((YuvChannel.drain (cached ++ rest ++ waiting)).1.map some).map
          (fun o => o.map t.frameOf) = (cached.map key).map some := by
        rw [← hmap, map_map, map_map]
        refine map_congr_left fun e' he' => ?_
        obtain ⟨j, hj, hmarks⟩ := hcached e' he'
        have hframe := (hmono j e' (by simp [he']) hmarks).frameOf
          (h.numbers.sound e' (hlist ▸ by simp [he'])).1 (hplain e' he')
        simp only [Function.comp_apply, hj, Option.map_some, hframe]
      rw [map_map] at hsome
      refine map_injective_iff.mpr (fun _ _ hsome => Option.some.inj hsome) ?_
      rw [map_map]
      exact hsome
    show s.streamTh.indices.map t.frameOf ++ (e.key ::
      ((YuvChannel.drain (cached ++ rest ++ waiting)).1.map Delivery.cached).map t.deliveryOf) = _
    rw [hstream, map_map, ← hrest]
    rfl
  have taken : Taken s t (e.key :: cached.map key) := by
    refine ⟨?_, hhands ▸ .refl _, rfl, rfl⟩
    show s.offlinePpInfoList.map key = _ ++ (rest ++ waiting).map key
    simp only [hlist, map_cons, map_append, cons_append, append_assoc]
  refine ⟨⟨⟨rest, waiting, ?_⟩, h.numbers.sublist ?_ rfl rfl, h.room, ?_, fun j hj => ?_,
    taken.ledger h, h.errors⟩, rfl, _, taken, hhands⟩
  · refine ⟨rfl, ?_, flow.fresh, fun e' he' => ?_, ?_, hhead⟩
    · exact forall₂_imp_of_mem flow.stream fun j _ e' he' => hmono j e' (by simp [he'])
    · have hparked := flow.parked e' (by simp [he'])
      unfold Parked at hparked ⊢
      split
      · rename_i hoff'
        rwa [if_pos hoff'] at hparked
      · rename_i hoff'
        rw [if_neg hoff'] at hparked
        obtain ⟨j, hj, hmarks⟩ := hparked
        exact ⟨j, hj, hmono j e' (by simp [he']) hmarks⟩
    · show ((cached ++ rest).filter offlinePpFlag).map key = _
      rw [filter_append, filter_eq_nil_iff.mpr fun e' he' => by simp [hplain e' he'], nil_append]
  · rw [hlist, append_assoc]
    exact ((sublist_append_right cached (rest ++ waiting)).cons e)
  · refine hpool.release hb hmark (int32_ne_neg_one hsound).symm fun hmem => ?_
    obtain ⟨e', he', -, heq'⟩ := mem_keys.mp hmem
    refine hothers e' ?_ heq'
    rw [append_assoc]
    exact mem_append_right _ he'
  · -- what is cached is in buffers of the framework
    have hj' : j ∈ s.handIndices ∨ j ∈ (YuvChannel.drain (cached ++ rest ++ waiting)).1 := by
      have hmem : j ∈ s.streamTh.indices ++ t.reprocTh.flatMap Delivery.indices := hj
      rcases mem_append.mp hmem with hs | hr
      · exact .inl (mem_append_left _ hs)
      · right
        obtain ⟨d, hd, hjd⟩ := mem_flatMap.mp hr
        rcases mem_cons.mp hd with rfl | hd
        · cases hjd
        · obtain ⟨j', hj', rfl⟩ := mem_map.mp hd
          rw [mem_singleton.mp hjd]
          exact hj'
    have hne {k : ℕ} (hk : s.maxHeapBuffers ≤ k) : update s.frameNumbers b (-1) k =
        s.frameNumbers k := update_of_ne (by omega) ..
    show s.maxHeapBuffers ≤ j ∧ 0 ≤ update s.frameNumbers b (-1) j
    rcases hj' with hold | hnew
    · have hhand := h.hand j hold
      rw [hne hhand.1]
      exact hhand
    · have hmem : some j ∈ cached.map callbackBuffer := hmap ▸ mem_map_of_mem hnew
      obtain ⟨e', he', hcb⟩ := mem_map.mp hmem
      obtain ⟨j', hj', hmarks⟩ := hcached e' he'
      obtain rfl : j' = j := Option.some.inj (hj'.symm.trans hcb)
      have hplace := hmarks.2
      rw [if_neg (by simp [hplain e' he'])] at hplace
      have hsnd := (h.numbers.sound e' (hlist ▸ by simp [he'])).2
      rw [SoundNumber, if_neg (by simp [hplain e' he'])] at hsnd
      rw [hne hplace.1, hmarks.1]
      exact ⟨hplace.1, int32_nonneg hsnd⟩

theorem Kept.deliverReprocess_eq (h : s.Kept) {d : Delivery} {rest : List Delivery}
    (hth : s.reprocTh = d :: rest) : s.deliverReprocess =
      { s with delivered := s.delivered ++ [s.deliveryOf d], reprocTh := rest } := by
  unfold YuvChannel.deliverReprocess
  cases d with
  | result n output => simp only [hth, deliveryOf]
  | cached j =>
    have hj : j ∈ s.handIndices := by
      rw [handIndices, hth]
      exact mem_append_right _ (mem_flatMap.mpr ⟨_, mem_cons_self, mem_singleton_self j⟩)
    simp only [hth, returnFrame_eq s (h.hand j hj).2, deliveryOf]

theorem Kept.deliverReprocess (h : s.Kept) : s.deliverReprocess.Kept := by
  cases hth : s.reprocTh with
  | nil =>
    rw [YuvChannel.deliverReprocess, hth]
    exact h
  | cons d rest =>
    obtain ⟨come, waiting, flow⟩ := h.flow
    rw [h.deliverReprocess_eq hth]
    refine ⟨⟨come, waiting,
      ⟨flow.list, flow.stream, flow.fresh, flow.parked, flow.pp, flow.drained⟩⟩,
      h.numbers.congr rfl rfl rfl, h.room, h.pool, fun j hj => h.hand j ?_, fun r => ?_, h.errors⟩
    · rw [handIndices, hth]
      rcases mem_append.mp hj with hs | hr
      · exact mem_append_left _ hs
      · exact mem_append_right _ (mem_append_right _ hr)
    · have hledger := h.ledger r
      rw [inHand, hth, map_cons, count_append, count_cons] at hledger
      show s.requested.count r = (s.delivered ++ [s.deliveryOf d]).count r +
        (s.streamTh.indices.map s.frameOf ++ rest.map s.deliveryOf).count r + s.listed.count r
      rw [count_append, count_singleton, count_append]
      omega

end Steps

/-- **Each request is listed, in the hands of a thread, or returned**, and in one of these only; no
error branch has been taken; and a heap buffer is free exactly if no request is marked on it. -/
structure Conserved (s : YuvChannel) : Prop where
  once : ∀ r ∈ s.requested, s.delivered.count r + s.inHand.count r + s.listed.count r = 1
  only : ∀ r, r ∈ s.delivered ∨ r ∈ s.inHand ∨ r ∈ s.listed → r ∈ s.requested
  errors : s.errors = []
  free : s.freeHeapBufferList.Nodup ∧ ∀ b ∈ s.freeHeapBufferList, b < s.heapCount
  marked : ∀ b < s.heapCount, b ∈ s.freeHeapBufferList ↔
    ∀ e ∈ s.offlinePpInfoList, e.offlinePpFlag = true → s.frameNumbers b ≠ int32 e.frameNumber

theorem Kept.conserved {s : YuvChannel} (h : s.Kept) : s.Conserved := by
  have hnodup : s.requested.Nodup :=
    Nodup.of_map Prod.fst (h.numbers.requests.imp fun hlt => hlt.ne)
  refine ⟨fun r hr => ?_, fun r hr => ?_, h.errors, ⟨h.pool.nodup, fun b hb => (h.pool.loose b hb).1⟩,
    fun b hb => ?_⟩
  · rw [← h.ledger r]
    exact count_eq_one_of_mem hnodup hr
  · have hledger := h.ledger r
    rw [← count_pos_iff]
    rcases hr with hr | hr | hr <;> have hpos := count_pos_iff.mpr hr <;> omega
  · rw [h.pool.mem_free_iff h.numbers.keys_sound hb, mem_keys]
    push Not
    refine forall₂_congr fun e _ => imp_congr_right fun _ => ?_
    exact ne_comm

/-- When nothing is with the stream or the post-processor, and the threads are idle, everything has
been returned. -/
theorem Kept.settled {s : YuvChannel} (h : s.Kept) (hstream : s.streamQ = []) (hpp : s.ppQ = []) :
    s.offlinePpInfoList = [] := by
  obtain ⟨come, waiting, flow⟩ := h.flow
  have hwaiting : waiting = [] := by
    have hforall := flow.stream
    rw [hstream] at hforall
    exact forall₂_nil_left_iff.mp hforall
  have hcome : come = [] := by
    by_contra hne
    obtain ⟨e, left, rfl⟩ := exists_cons_of_ne_nil hne
    have hpp' := flow.pp
    rw [hpp, filter_cons_of_pos (flow.drained e rfl)] at hpp'
    cases hpp'
  rw [flow.list, hcome, hwaiting]
  rfl

end YuvChannel

/-- Allocations succeed, and the frame number survives its conversion. -/
def Op.Sound : Op → Prop
  | .request n offline _ _ => YuvChannel.SoundNumber n offline
  | .streamCb alloc => alloc = true
  | _ => True

def Step (op : Op) (s t : YuvChannel) : Prop := op.Sound ∧ op.exec s = some t

/-- **A sound step keeps what holds at all times.** -/
theorem YuvChannel.Kept.step {op : Op} {s t : YuvChannel} (h : s.Kept) (hstep : Step op s t) :
    t.Kept := by
  obtain ⟨sound, hexec⟩ := hstep
  cases op with
  | request n offline output slot =>
    obtain ⟨⟨hn, hlast, hslot, hout⟩, hreq⟩ := Option.ite_none_right_eq_some.mp hexec
    exact h.request hn hlast hslot hout sound hreq
  | streamCb alloc =>
    obtain ⟨⟨hidle, hne⟩, ⟨⟩⟩ := Option.ite_none_right_eq_some.mp hexec
    obtain rfl : alloc = true := sound
    exact (h.streamCb hidle hne).1
  | deliverStream =>
    obtain ⟨hth, ⟨⟩⟩ := Option.ite_none_right_eq_some.mp hexec
    cases hcase : s.streamTh with
    | deliver i => exact h.deliverStream hcase
    | idle | next => exact absurd (by rw [hcase]; rfl) hth
  | nextStream =>
    obtain ⟨hth, ⟨⟩⟩ := Option.ite_none_right_eq_some.mp hexec
    exact h.nextStream hth
  | reprocessCb =>
    obtain ⟨⟨hth, hne⟩, ⟨⟩⟩ := Option.ite_none_right_eq_some.mp hexec
    exact (h.reprocessCb hth hne).1
  | deliverReprocess =>
    obtain ⟨hth, ⟨⟩⟩ := Option.ite_none_right_eq_some.mp hexec
    exact h.deliverReprocess

theorem kept_created (maxHeapBuffers : ℕ) : (created maxHeapBuffers).Kept where
  flow := ⟨[], [], ⟨rfl, .nil, nofun, nofun, rfl, nofun⟩⟩
  numbers := ⟨.nil, nofun, nofun, .nil, nofun⟩
  room := Nat.zero_le _
  pool := .empty
  hand := nofun
  ledger _ := rfl
  errors := rfl

theorem YuvChannel.Kept.of_run {maxHeapBuffers : ℕ} {ops : List Op} {t : YuvChannel}
    (run : Run Step ops (created maxHeapBuffers) t) : t.Kept :=
  run.invariant (fun _ _ _ hstep h => h.step hstep) (kept_created maxHeapBuffers)

/-- **The channel loses and duplicates nothing**, in every run of sound steps, however the threads
interleave: each request is listed, in the hands of a thread that has taken it off the list, or
returned; when no handler is running it is listed or returned; and when all frames have come and
come out of the post-processor, everything has been returned. -/
theorem yuv_conserved (maxHeapBuffers : ℕ) (ops : List Op) (t : YuvChannel)
    (run : Run Step ops (created maxHeapBuffers) t) :
    t.Conserved ∧
      (t.streamTh.indices = [] → t.reprocTh = [] →
        ∀ r ∈ t.requested, t.delivered.count r + t.listed.count r = 1) ∧
      (t.streamTh.indices = [] → t.reprocTh = [] → t.streamQ = [] → t.ppQ = [] →
        ∀ r ∈ t.requested, t.delivered.count r = 1) := by
  have kept := YuvChannel.Kept.of_run run
  have hidle (hs : t.streamTh.indices = []) (hr : t.reprocTh = []) : t.inHand = [] := by
    rw [YuvChannel.inHand, hs, hr]
    rfl
  refine ⟨kept.conserved, fun hs hr r hreq => ?_, fun hs hr hstream hpp r hreq => ?_⟩
  · have honce := kept.conserved.once r hreq
    rwa [hidle hs hr, count_nil, Nat.add_zero] at honce
  · have honce := kept.conserved.once r hreq
    rwa [hidle hs hr, count_nil, Nat.add_zero, listed, kept.settled hstream hpp,
      map_nil, count_nil, Nat.add_zero] at honce

/-- An offline request and two plain ones, of which the first comes before the post-processor is
done. -/
def threeRequests : List Op :=
  [.request 0 true 100 9, .request 1 false 101 10, .streamCb true, .streamCb true,
    .request 2 false 102 11, .reprocessCb, .deliverReprocess, .deliverReprocess, .streamCb true,
    .deliverStream, .nextStream]

theorem yuv_conserved_three : ∃ t, Run Step threeRequests (created 2) t ∧ t.Conserved ∧
    t.delivered = [(0, 100), (1, 101), (2, 102)] := by
  obtain ⟨t, hrun, hdelivered⟩ : ∃ t, Run Step threeRequests (created 2) t ∧
      t.delivered = [(0, 100), (1, 101), (2, 102)] := by
    refine ⟨_, .cons ⟨?_, rfl⟩ (.cons ⟨?_, rfl⟩ (.cons ⟨rfl, rfl⟩ (.cons ⟨rfl, rfl⟩
      (.cons ⟨?_, rfl⟩ (.cons ⟨trivial, rfl⟩ (.cons ⟨trivial, rfl⟩ (.cons ⟨trivial, rfl⟩
      (.cons ⟨rfl, rfl⟩ (.cons ⟨trivial, rfl⟩ (.cons ⟨trivial, rfl⟩ (.nil _))))))))))), ?_⟩
    · show (0 : ℕ) ≠ 2 ^ 32 - 1
      omega
    · show (1 : ℕ) < 2 ^ 31
      omega
    · show (2 : ℕ) < 2 ^ 31
      omega
    · rfl
  exact ⟨t, hrun, (yuv_conserved 2 _ t hrun).1, hdelivered⟩

/-- **A frame number of 2³¹ is never returned**: the mark of its buffer is taken for an error. -/
theorem yuv_frame_number :
    ¬ ∀ (maxHeapBuffers : ℕ) (ops : List Op) (t : YuvChannel),
      Run (fun op s t => (∀ alloc, op = .streamCb alloc → alloc = true) ∧ op.exec s = some t) ops
          (created maxHeapBuffers) t →
        t.streamTh.indices = [] → t.reprocTh = [] → t.streamQ = [] → t.ppQ = [] →
          ∀ r ∈ t.requested, t.delivered.count r = 1 := by
  intro h
  have hrun : Run (fun (op : Op) (s t : YuvChannel) =>
      (∀ alloc, op = .streamCb alloc → alloc = true) ∧ op.exec s = some t)
      [.request (2 ^ 31) false 100 9, .streamCb true, .deliverStream, .nextStream] (created 2) _ :=
    .cons ⟨nofun, rfl⟩ (.cons ⟨fun _ heq => by cases heq; rfl, rfl⟩ (.cons ⟨nofun, rfl⟩
      (.cons ⟨nofun, rfl⟩ (.nil _))))
  have hcount := h 2 _ _ hrun rfl rfl rfl rfl (2 ^ 31, 100) mem_cons_self
  exact absurd hcount (by decide)

end YuvBypass
