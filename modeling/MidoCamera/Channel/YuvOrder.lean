import MidoCamera.Channel.YuvConservation

/-!
# The order of the buffers that the bypass mode returns

Both threads take entries off the head of the list under the lock, and return the buffers when they
have dropped it. While one thread has buffers to return, the other may take the next entry and be
first. As long as no thread takes an entry while the other has any to return, the buffers come in
the order of the requests.
-/

namespace YuvBypass

open Loop List

namespace YuvChannel

variable {s t : YuvChannel}

/-- The requests in the order they leave: those returned, those in the hands of a thread, and those
listed. -/
def sequence (s : YuvChannel) : List (ℕ × ℕ) := s.delivered ++ s.inHand ++ s.listed

/-- **The sequence is in order**, and one thread at most has something to return. -/
structure Ordered (s : YuvChannel) : Prop where
  kept : s.Kept
  sorted : (s.sequence.map Prod.fst).Pairwise (· < ·)
  alone : s.streamTh.indices = [] ∨ s.reprocTh = []

end YuvChannel

/-- An entry is taken off the list while the other thread has none to return. -/
def Op.Alone (s : YuvChannel) : Op → Prop
  | .streamCb _ => s.Takes → s.reprocTh = []
  | .reprocessCb => s.streamTh.indices = []
  | _ => True

def AloneStep (op : Op) (s t : YuvChannel) : Prop := op.Alone s ∧ Step op s t

namespace YuvChannel

variable {s t : YuvChannel}

theorem Kept.mem_sequence (h : s.Kept) {r : ℕ × ℕ} (hr : r ∈ s.sequence) : r ∈ s.requested := by
  simp only [sequence, mem_append, or_assoc] at hr
  exact h.conserved.only r hr

/-- With the hands empty, what a thread takes keeps its place. -/
theorem Taken.sequence {l : List (ℕ × ℕ)} (taken : Taken s t l) (hands : t.inHand = s.inHand ++ l) :
    t.sequence = s.sequence := by
  unfold YuvChannel.sequence
  rw [taken.listed, taken.delivered, hands]
  simp only [append_assoc]

theorem Requested.sequence {e : PpInfo} {i : ℕ} (requested : Requested s t e i)
    (hi : i ∉ s.outstanding) : t.sequence = s.sequence ++ [e.key] := by
  obtain ⟨hhands, -⟩ := requested.inHand fun hmem => hi (mem_append_right _ hmem)
  unfold YuvChannel.sequence
  rw [requested.rest.1, hhands, listed, requested.list, map_append]
  simp only [listed, append_assoc, map_singleton]

theorem Ordered.request (h : s.Ordered) {n output slot : ℕ} {offline : Bool} (hn : n < 2 ^ 32)
    (hlast : ∀ m ∈ s.lastFrameNumber, m < n) (hslot : s.maxHeapBuffers ≤ slot)
    (hout : slot ∉ s.outstanding) (kept : t.Kept)
    (hreq : s.request n offline output slot = some t) : t.Ordered := by
  obtain ⟨i, hi, requested, -⟩ := h.kept.requested hn hlast hslot hout hreq
  refine ⟨kept, ?_, ?_⟩
  · rw [requested.sequence hi, map_append, pairwise_append]
    refine ⟨h.sorted, pairwise_singleton .., fun m hm m' hm' => ?_⟩
    obtain ⟨r, hr, rfl⟩ := mem_map.mp hm
    obtain ⟨l, hl, hle⟩ := h.kept.numbers.lastRequest r (h.kept.mem_sequence hr)
    rw [map_singleton, mem_singleton] at hm'
    rw [hm']
    exact hle.trans_lt (hlast l hl)
  · rw [requested.threads.1, requested.threads.2]
    exact h.alone

theorem Ordered.streamCb (h : s.Ordered) (hidle : s.streamTh = .idle) (hne : s.streamQ ≠ [])
    (halone : s.Takes → s.reprocTh = []) : (s.streamCb true).Ordered := by
  obtain ⟨kept, hreproc, ⟨hstream, hhands, taken⟩ | ⟨takes, r, taken⟩⟩ :=
    h.kept.streamCb hidle hne
  · refine ⟨kept, ?_, .inl (by rw [hstream]; rfl)⟩
    rw [taken.sequence (hhands.trans (append_nil _).symm)]
    exact h.sorted
  · have hempty : s.inHand = [] := by
      rw [YuvChannel.inHand, hidle, halone takes]
      rfl
    have hhands := taken.inHand
    rw [hempty, nil_append, perm_singleton] at hhands
    refine ⟨kept, ?_, .inr (hreproc.trans (halone takes))⟩
    rw [taken.sequence (by rw [hhands, hempty, nil_append])]
    exact h.sorted

theorem Ordered.deliverStream (h : s.Ordered) {i : ℕ} (hth : s.streamTh = .deliver i) :
    s.deliverStream.Ordered := by
  have hreproc : s.reprocTh = [] := h.alone.resolve_left (by rw [hth]; exact cons_ne_nil _ _)
  have hmark : 0 ≤ s.frameNumbers i := by
    refine (h.kept.hand i ?_).2
    rw [handIndices, hth]
    exact mem_cons_self
  refine ⟨h.kept.deliverStream hth, ?_, .inr ?_⟩
  · have hseq : s.deliverStream.sequence = s.sequence := by
      have hnext : s.deliverStream =
          { s with delivered := s.delivered ++ [s.frameOf i], streamTh := .next } := by
        unfold YuvChannel.deliverStream
        simp only [hth, returnFrame_eq s hmark]
      have hhands : s.inHand = [s.frameOf i] := by
        rw [inHand, hth, hreproc]
        rfl
      rw [hnext, YuvChannel.sequence, YuvChannel.sequence, hhands, inHand, hreproc]
      simp only [StreamThread.indices, map_nil, append_nil, listed]
    rw [hseq]
    exact h.sorted
  · unfold YuvChannel.deliverStream
    simp only [hth, returnFrame_eq s hmark, hreproc]

theorem Ordered.nextStream (h : s.Ordered) (hth : s.streamTh = .next) : s.nextStream.Ordered := by
  refine ⟨h.kept.nextStream hth, ?_, .inl ?_⟩
  · have hseq : s.nextStream.sequence = s.sequence := by
      rw [h.kept.nextStream_eq, YuvChannel.sequence, YuvChannel.sequence, inHand, inHand, hth]
      rfl
    rw [hseq]
    exact h.sorted
  · rw [h.kept.nextStream_eq]
    rfl

/-- A frame that comes out of the post-processor is taken with those cached behind it, when the
stream thread has none to return. -/
theorem Ordered.reprocessCb (h : s.Ordered) (hth : s.reprocTh = []) (hne : s.ppQ ≠ [])
    (halone : s.streamTh.indices = []) : s.reprocessCb.Ordered := by
  obtain ⟨kept, hstream, l, taken, hhands⟩ := h.kept.reprocessCb hth hne
  refine ⟨kept, ?_, .inl (hstream ▸ halone)⟩
  rw [taken.sequence hhands]
  exact h.sorted

theorem Ordered.deliverReprocess (h : s.Ordered) (hne : s.reprocTh ≠ []) :
    s.deliverReprocess.Ordered := by
  have hstream : s.streamTh.indices = [] := h.alone.resolve_right hne
  obtain ⟨d, rest, hth⟩ := exists_cons_of_ne_nil hne
  have hnext := h.kept.deliverReprocess_eq hth
  refine ⟨h.kept.deliverReprocess, ?_, .inl (by rw [hnext]; exact hstream)⟩
  have hseq : s.deliverReprocess.sequence = s.sequence := by
    have hhands : s.inHand = s.deliveryOf d :: rest.map s.deliveryOf := by
      rw [inHand, hstream, hth]
      rfl
    have hhands' : s.deliverReprocess.inHand = rest.map s.deliveryOf := by
      rw [hnext, inHand, hstream]
      rfl
    rw [YuvChannel.sequence, YuvChannel.sequence, hhands, hhands', hnext]
    simp only [append_assoc, cons_append, nil_append, listed]
  rw [hseq]
  exact h.sorted

/-- **A step at which the threads are alone keeps the order.** -/
theorem Ordered.step {op : Op} (h : s.Ordered) (hstep : AloneStep op s t) : t.Ordered := by
  obtain ⟨halone, sound, hexec⟩ := hstep
  have kept : t.Kept := h.kept.step ⟨sound, hexec⟩
  cases op with
  | request n offline output slot =>
    obtain ⟨⟨hn, hlast, hslot, hout⟩, hreq⟩ := Option.ite_none_right_eq_some.mp hexec
    exact h.request hn hlast hslot hout kept hreq
  | streamCb alloc =>
    obtain ⟨⟨hidle, hne⟩, ⟨⟩⟩ := Option.ite_none_right_eq_some.mp hexec
    obtain rfl : alloc = true := sound
    exact h.streamCb hidle hne halone
  | deliverStream =>
    obtain ⟨hth, ⟨⟩⟩ := Option.ite_none_right_eq_some.mp hexec
    cases hcase : s.streamTh with
    | deliver i => exact h.deliverStream hcase
    | idle | next => exact absurd (by rw [hcase]; rfl) hth
  | nextStream =>
    obtain ⟨hth, ⟨⟩⟩ := Option.ite_none_right_eq_some.mp hexec
    exact h.nextStream hth
  | reprocessCb =>
    obtain ⟨⟨hth, hne⟩, ⟨⟩⟩ := Option.ite_none_right_eq_some.mp hexec
    exact h.reprocessCb hth hne halone
  | deliverReprocess =>
    obtain ⟨hne, ⟨⟩⟩ := Option.ite_none_right_eq_some.mp hexec
    exact h.deliverReprocess hne

end YuvChannel

/-- **The buffers are returned in the order of their frame numbers**, in every run of sound steps at
which an entry is taken off the list only while the other thread has none to return. -/
theorem yuv_in_order (maxHeapBuffers : ℕ) (ops : List Op) (t : YuvChannel)
    (run : Run AloneStep ops (created maxHeapBuffers) t) :
    (t.delivered.map Prod.fst).Pairwise (· < ·) := by
  have hcreated : (created maxHeapBuffers).Ordered :=
    ⟨kept_created maxHeapBuffers, .nil, .inl rfl⟩
  have ordered : t.Ordered := run.invariant (fun _ _ _ hstep h => h.step hstep) hcreated
  have hsorted := ordered.sorted
  rw [YuvChannel.sequence, append_assoc, map_append] at hsorted
  exact (pairwise_append.mp hsorted).1

/-- An offline request and a plain one that is cached behind it: the reprocess thread returns
both. -/
theorem yuv_in_order_cached : ∃ t, Run AloneStep [.request 0 true 100 9, .request 1 false 101 10,
      .streamCb true, .streamCb true, .reprocessCb, .deliverReprocess, .deliverReprocess]
      (created 2) t ∧ (t.delivered.map Prod.fst).Pairwise (· < ·) ∧
    t.delivered = [(0, 100), (1, 101)] := by
  obtain ⟨t, hrun, hdelivered⟩ : ∃ t, Run AloneStep [.request 0 true 100 9, .request 1 false 101 10,
      .streamCb true, .streamCb true, .reprocessCb, .deliverReprocess, .deliverReprocess]
      (created 2) t ∧ t.delivered = [(0, 100), (1, 101)] := by
    refine ⟨_, .cons ⟨trivial, ?_, rfl⟩ (.cons ⟨trivial, ?_, rfl⟩ (.cons ⟨fun _ => rfl, rfl, rfl⟩
      (.cons ⟨fun _ => rfl, rfl, rfl⟩ (.cons ⟨rfl, trivial, rfl⟩ (.cons ⟨trivial, trivial, rfl⟩
      (.cons ⟨trivial, trivial, rfl⟩ (.nil _))))))), ?_⟩
    · show (0 : ℕ) ≠ 2 ^ 32 - 1
      omega
    · show (1 : ℕ) < 2 ^ 31
      omega
    · rfl
  exact ⟨t, hrun, yuv_in_order 2 _ t hrun, hdelivered⟩

/-- **A frame is overtaken**: the reprocess thread has taken the first request off the list and not
returned it yet, when the stream thread takes the second and returns it. -/
theorem yuv_overtaken :
    ¬ ∀ (maxHeapBuffers : ℕ) (ops : List Op) (t : YuvChannel),
      Run Step ops (created maxHeapBuffers) t → (t.delivered.map Prod.fst).Pairwise (· < ·) := by
  intro h
  obtain ⟨t, hrun, hdelivered⟩ : ∃ t, Run Step [.request 0 true 100 9, .streamCb true,
      .request 1 false 101 10, .reprocessCb, .streamCb true, .deliverStream, .deliverReprocess]
      (created 2) t ∧ t.delivered = [(1, 101), (0, 100)] := by
    refine ⟨_, .cons ⟨?_, rfl⟩ (.cons ⟨rfl, rfl⟩ (.cons ⟨?_, rfl⟩ (.cons ⟨trivial, rfl⟩
      (.cons ⟨rfl, rfl⟩ (.cons ⟨trivial, rfl⟩ (.cons ⟨trivial, rfl⟩ (.nil _))))))), ?_⟩
    · show (0 : ℕ) ≠ 2 ^ 32 - 1
      omega
    · show (1 : ℕ) < 2 ^ 31
      omega
    · rfl
  have hsorted := h 2 _ t hrun
  rw [hdelivered] at hsorted
  revert hsorted
  decide

end YuvBypass
