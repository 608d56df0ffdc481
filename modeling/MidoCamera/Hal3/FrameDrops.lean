import MidoCamera.Hal3.Traffic

/-!
# Frame drops

When a metadata buffer says that a stream has dropped its frame, the framework is told that the
buffer has failed, and the drop is put down, so that the buffer is marked when it is returned. The
drop is put down for the request, but a buffer that is kept with the request is looked up with the
frame number of the metadata; where metadata has been missed, the two differ. The output buffer that
completes a reprocess request is not looked up at all. And a drop that is reported twice is put down
twice, but taken out once.
-/

namespace Hal3

open Loop List PendingRequest.Held

/-! ## What is reported and returned -/

/-- The drops that the framework has been told of, each by its frame and the identity of its
stream. -/
def notified (streams : Streams) (cs : List Callback) : List PendingFrameDrop :=
  (bufferErrors cs).map fun p => ⟨p.1, streams.streamId p.2⟩

def returnedBuffers (cs : List Callback) : List (ℕ × StreamBuffer) :=
  (sentResults cs).flatMap fun r => r.outputBuffers.map (r.frameNumber, ·)

def dropOf (streams : Streams) (p : ℕ × StreamBuffer) : PendingFrameDrop :=
  ⟨p.1, streams.streamId p.2.stream⟩

/-- A buffer as it is returned: failed, if its drop is among those. -/
def StreamBuffer.marked (streams : Streams) (frameNumber : ℕ) (drops : List PendingFrameDrop)
    (b : StreamBuffer) : StreamBuffer :=
  if dropOf streams (frameNumber, b) ∈ drops then { b with status := .error } else b

/-- **The drops are accounted for**: a buffer is returned as it came, but failed if its drop was
reported; a buffer that has come in and whose drop was reported has been returned; and a drop is put
down from its report until its buffer is returned. -/
structure Traffic.DropsAccounted (streams : Streams) (s : Traffic) : Prop where
  status : ∀ p ∈ returnedBuffers s.hal.callbacks, ∃ b, (p.1, b) ∈ s.called ∧
    p.2 = b.marked streams p.1 (notified streams s.hal.callbacks)
  errors : ∀ p ∈ s.called, dropOf streams p ∈ notified streams s.hal.callbacks →
    (p.1, { p.2 with status := .error }) ∈ returnedBuffers s.hal.callbacks
  entries : ∀ d, d ∈ s.hal.mPendingFrameDropList ↔ d ∈ notified streams s.hal.callbacks ∧
    d ∉ (returnedBuffers s.hal.callbacks).map (dropOf streams)

@[simp] theorem dropOf_marked (streams : Streams) (frameNumber n : ℕ)
    (drops : List PendingFrameDrop) (b : StreamBuffer) :
    dropOf streams (n, b.marked streams frameNumber drops) = dropOf streams (n, b) := by
  unfold StreamBuffer.marked
  split_ifs
  · rfl
  · rfl

/-- The metadata of a frame in which the stream of identity 1 is dropped. -/
def droppedMetadata (frameNumber : ℕ) : MetadataBuffer :=
  { metadataOf frameNumber with frameDropped := some [1] }

/-- The requests for two preview buffers, of which the first comes in. -/
def firstArrives : List Op :=
  [.request (channelReturns 0) (previewRequest 1), .request (channelReturns 0) (previewRequest 2),
    .buffer 0 (previewBuffer 1) 1]

/-- **A drop is lost**: the metadata of frame 1 is missed, and that of frame 2 says that the stream
was dropped. The framework is told that the buffer of frame 1 has failed, but gets it as it came,
and the drop stays put down. -/
theorem frameDrops_missed :
    ∃ t, Run (Traffic.Step previewStream) (firstArrives ++ [.metadata 0 true (droppedMetadata 2)])
        (.start 0 6) t ∧
      (1, 0) ∈ bufferErrors t.hal.callbacks ∧
      returnedBuffers t.hal.callbacks = [(1, previewBuffer 1)] ∧
      (previewBuffer 1).status = .ok ∧ ⟨1, 1⟩ ∈ t.hal.mPendingFrameDropList ∧
      ¬t.DropsAccounted previewStream := by
  refine ⟨_, .cons (.request ?_ ?_ rfl) (.cons (.request ?_ ?_ rfl) (.cons (.buffer 0 ?_ ?_)
    (.one (.internal trivial rfl)))), ?_, ?_, rfl, ?_, fun h => ?_⟩
  -- the buffer has been returned, so its drop is not to be there
  case refine_10 =>
    exact absurd ((h.entries ⟨1, 1⟩).mp (by decide +kernel)).2 (by decide +kernel)
  all_goals decide +kernel

/-- **The condition on a metadata buffer**, of each stream that it says is dropped: no pending
request before its frame keeps a buffer of the stream, and if one of its own frame does, the stream
is named once. -/
def MetadataDropCond (streams : Streams) (md : MetadataBuffer) (s : HardwareInterface) : Prop :=
  ∀ n ids, md.finalFrame = some n → md.frameDropped = some ids →
    ∀ i ∈ s.mPendingRequestsList, ∀ b ∈ i.cached,
      (i.frameNumber < n → streams.streamId b.stream ∉ ids) ∧
        (i.frameNumber = n → ids.count (streams.streamId b.stream) ≤ 1)

/-- **The condition on a buffer**: its drop has been put down once at most, and not at all if it
completes a reprocess request. -/
def BufferDropCond (streams : Streams) (b : StreamBuffer) (frameNumber : ℕ)
    (s : HardwareInterface) : Prop :=
  s.mPendingFrameDropList.count (dropOf streams (frameNumber, b)) ≤ 1 ∧
    ∀ i ∈ s.mPendingRequestsList, i.frameNumber = frameNumber → i.inputBuffer.isSome = true →
      dropOf streams (frameNumber, b) ∉ s.mPendingFrameDropList

/-- **The condition on a step.** The runs are of metadata and buffers, with the requests in between;
these tell the streams apart by their identities, and do not restart the sensor. -/
def Op.DropCond (streams : Streams) : Op → HardwareInterface → Prop
  | .request env req, s =>
    (req.outputBuffers.map fun b => streams.streamId b.stream).Nodup ∧
      ¬SensorRestarts streams env req s
  | .metadata _ _ md, s => MetadataDropCond streams md s
  | .buffer _ b frameNumber, s => BufferDropCond streams b frameNumber s
  | .inputBuffer .., _ => True
  | _, _ => False

def Traffic.DropStep (streams : Streams) (op : Op) (s t : Traffic) : Prop :=
  op.DropCond streams s.hal ∧ Traffic.Step streams op s t

/-! ## What an event of one frame does -/

section

variable {streams : Streams} {f n : ℕ} {is is' : List PendingRequest} {h h' u : HardwareInterface}
  {s s' : Traffic} {ks : List PendingFrameDrop} {bs : List StreamBuffer}

theorem notified_append (cs cs' : List Callback) :
    notified streams (cs ++ cs') = notified streams cs ++ notified streams cs' := by
  unfold notified
  rw [bufferErrors_append, map_append]

theorem returnedBuffers_append (cs cs' : List Callback) :
    returnedBuffers (cs ++ cs') = returnedBuffers cs ++ returnedBuffers cs' := by
  unfold returnedBuffers
  rw [sentResults_append, flatMap_append]

/-- The account of the drops with the entries `is` and the state `h` of the interface: what is
reported is reported of requests that are finished, or of reprocess requests; what is returned is
not of a pending request; and the drops are accounted for. -/
structure Traffic.Drops (streams : Streams) (s : Traffic) (is : List PendingRequest)
    (h : HardwareInterface) : Prop where
  frames : ∀ d ∈ notified streams h.callbacks, d.frameNumber ∈ s.frames
  before : ∀ d ∈ notified streams h.callbacks, ∀ i ∈ is, i.inputBuffer = none →
    d.frameNumber < i.frameNumber
  done : ∀ p ∈ returnedBuffers h.callbacks, ∀ i ∈ is, i.frameNumber ≠ p.1
  status : ∀ p ∈ returnedBuffers h.callbacks, ∃ b, (p.1, b) ∈ s.called ∧
    p.2 = b.marked streams p.1 (notified streams h.callbacks)
  errors : ∀ p ∈ s.called, dropOf streams p ∈ notified streams h.callbacks →
    (p.1, { p.2 with status := .error }) ∈ returnedBuffers h.callbacks
  entries : ∀ d, d ∈ h.mPendingFrameDropList ↔ d ∈ notified streams h.callbacks ∧
    d ∉ (returnedBuffers h.callbacks).map (dropOf streams)

/-- **An event of one frame**: drops of the frame are reported and put down, and buffers of the
frame are returned, whose drops are taken out. -/
structure FrameEvent (streams : Streams) (f : ℕ) (ks : List PendingFrameDrop)
    (bs : List StreamBuffer) (h h' : HardwareInterface) : Prop where
  frame : ∀ k ∈ ks, k.frameNumber = f
  notified : notified streams h'.callbacks = notified streams h.callbacks ++ ks
  returned : returnedBuffers h'.callbacks = returnedBuffers h.callbacks ++ bs.map (f, ·)
  drops : ∀ d, d ∈ h'.mPendingFrameDropList ↔
    (d ∈ h.mPendingFrameDropList ∨ d ∈ ks) ∧ d ∉ bs.map fun b => dropOf streams (f, b)

/-- **The rule**: an event of one frame keeps the account, where the buffers that it returns are as
they came but for their drops, and of its frame everything that has come in and was reported is
returned. -/
theorem Traffic.Drops.event (hd : s.Drops streams is h) (event : FrameEvent streams f ks bs h h')
    (frames : s'.frames = s.frames)
    (called : ∀ p, p ∈ s'.called → p ∈ s.called ∨ p.1 = f) (grows : s.called ⊆ s'.called)
    (sub : ∀ i ∈ is', ∃ j ∈ is, i.frameNumber = j.frameNumber ∧ i.inputBuffer = j.inputBuffer)
    (asked : ks ≠ [] → f ∈ s.frames)
    (fresh : ks ≠ [] → ∀ p ∈ returnedBuffers h.callbacks, p.1 ≠ f)
    (later : ks ≠ [] → ∀ i ∈ is', i.inputBuffer = none → f < i.frameNumber)
    (gone : bs ≠ [] → ∀ i ∈ is', i.frameNumber ≠ f)
    (status : ∀ c ∈ bs, ∃ b, (f, b) ∈ s'.called ∧
      c = b.marked streams f (Hal3.notified streams h'.callbacks))
    (errors : ∀ b, (f, b) ∈ s'.called →
      dropOf streams (f, b) ∈ Hal3.notified streams h'.callbacks →
        (f, { b with status := .error }) ∈ returnedBuffers h'.callbacks) :
    s'.Drops streams is' h' where
  frames d hmem := by
    rw [event.notified] at hmem
    rw [frames]
    rcases mem_append.mp hmem with hmem | hmem
    · exact hd.frames d hmem
    · rw [event.frame d hmem]
      exact asked (ne_nil_of_mem hmem)
  before d hmem i hi hlive := by
    rw [event.notified] at hmem
    rcases mem_append.mp hmem with hmem | hmem
    · obtain ⟨j, hj, hframe, hinput⟩ := sub i hi
      rw [hframe]
      exact hd.before d hmem j hj (hinput ▸ hlive)
    · rw [event.frame d hmem]
      exact later (ne_nil_of_mem hmem) i hi hlive
  done p hp i hi := by
    rw [event.returned] at hp
    rcases mem_append.mp hp with hp | hp
    · obtain ⟨j, hj, hframe, -⟩ := sub i hi
      rw [hframe]
      exact hd.done p hp j hj
    · obtain ⟨b, hb, rfl⟩ := mem_map.mp hp
      exact gone (ne_nil_of_mem hb) i hi
  status p hp := by
    rw [event.returned] at hp
    rcases mem_append.mp hp with hp | hp
    · -- a buffer that was returned before is of another frame than the new reports
      obtain ⟨b, hb, hmark⟩ := hd.status p hp
      refine ⟨b, grows hb, hmark.trans ?_⟩
      unfold StreamBuffer.marked
      refine if_congr ?_ rfl rfl
      rw [event.notified, mem_append]
      refine ⟨.inl, fun hmem => hmem.resolve_right fun hk => ?_⟩
      exact fresh (ne_nil_of_mem hk) p hp (event.frame _ hk)
    · obtain ⟨c, hc, rfl⟩ := mem_map.mp hp
      exact status c hc
  errors p hp hmem := by
    by_cases hf : p.1 = f
    · subst hf
      exact errors p.2 hp hmem
    · rw [event.notified] at hmem
      rw [event.returned]
      refine mem_append_left _ (hd.errors p ((called p hp).resolve_right hf) ?_)
      exact (mem_append.mp hmem).resolve_right fun hk => hf (event.frame _ hk)
  entries d := by
    rw [event.drops, hd.entries, event.notified, event.returned, map_append, map_map,
      mem_append, mem_append]
    have hfresh : d ∈ ks → d ∉ (returnedBuffers h.callbacks).map (dropOf streams) := by
      intro hk hmem
      obtain ⟨p, hp, rfl⟩ := mem_map.mp hmem
      exact fresh (ne_nil_of_mem hk) p hp (event.frame _ hk)
    show _ ↔ _ ∧ ¬(_ ∨ d ∈ bs.map fun b => dropOf streams (f, b))
    constructor
    · rintro ⟨hold | hk, hbs⟩
      · exact ⟨.inl hold.1, not_or.mpr ⟨hold.2, hbs⟩⟩
      · exact ⟨.inr hk, not_or.mpr ⟨hfresh hk, hbs⟩⟩
    · rintro ⟨hold | hk, hnone⟩
      · exact ⟨.inl ⟨hold, fun hr => hnone (.inl hr)⟩, fun hbs => hnone (.inr hbs)⟩
      · exact ⟨.inr hk, fun hbs => hnone (.inr hbs)⟩

theorem Traffic.Drops.quiet (hd : s.Drops streams is h) (event : FrameEvent streams f [] [] h h')
    (sub : ∀ i ∈ is', ∃ j ∈ is, i.frameNumber = j.frameNumber ∧ i.inputBuffer = j.inputBuffer) :
    s.Drops streams is' h' := by
  refine hd.event event rfl (fun _ => .inl) (List.Subset.refl _) sub (absurd rfl) (absurd rfl)
    (absurd rfl) (absurd rfl) (fun _ => (nomatch ·)) fun b hb hmem => ?_
  rw [event.notified, append_nil] at hmem
  rw [event.returned]
  exact mem_append_left _ (hd.errors _ hb hmem)

/-! ## What the handlers do to the drops -/

theorem mem_erase_once {α : Type*} [DecidableEq α] {l : List α} {a x : α} (once : l.count a ≤ 1) :
    x ∈ l.erase a ↔ x ∈ l ∧ x ≠ a := by
  by_cases hx : x = a
  · subst hx
    have hcount : (l.erase x).count x = 0 := by
      rw [count_erase_self]
      exact Nat.sub_eq_zero_of_le once
    exact iff_of_false (count_eq_zero.mp hcount) fun hne => hne.2 rfl
  · rw [mem_erase_of_ne hx]
    exact ⟨fun hmem => ⟨hmem, hx⟩, And.left⟩

/-- A buffer whose drop is put down once at most is returned as failed if it is, and the drop is
taken out. -/
theorem markDropped_once (b : StreamBuffer)
    (once : h.mPendingFrameDropList.count (dropOf streams (n, b)) ≤ 1) :
    (h.markDropped streams n b).1 = b.marked streams n h.mPendingFrameDropList ∧
      (h.markDropped streams n b).2.mPendingFrameDropList.Sublist h.mPendingFrameDropList ∧
      ∀ d, d ∈ (h.markDropped streams n b).2.mPendingFrameDropList ↔
        d ∈ h.mPendingFrameDropList ∧ d ≠ dropOf streams (n, b) := by
  unfold HardwareInterface.markDropped StreamBuffer.marked
  by_cases hmem : dropOf streams (n, b) ∈ h.mPendingFrameDropList
  · rw [if_pos hmem]
    have hif : (⟨n, streams.streamId b.stream⟩ : PendingFrameDrop) ∈ h.mPendingFrameDropList := hmem
    simp only [if_pos hif]
    exact ⟨trivial, erase_sublist, fun d => mem_erase_once once⟩
  · rw [if_neg hmem]
    have hif : (⟨n, streams.streamId b.stream⟩ : PendingFrameDrop) ∉ h.mPendingFrameDropList := hmem
    simp only [if_neg hif]
    refine ⟨trivial, .refl _, fun d => ⟨fun hd => ⟨hd, ?_⟩, And.left⟩⟩
    rintro rfl
    exact hmem hd

/-- **What becomes of the buffers that are kept with a request**: each is returned as it is marked
by the drops, whose drops are taken out. -/
theorem takeBuffers_drops (js : List RequestedBuffer) (h : HardwareInterface)
    (nodup : ((js.filterMap (·.buffer)).map fun b => streams.streamId b.stream).Nodup)
    (once : ∀ b ∈ js.filterMap (·.buffer),
      h.mPendingFrameDropList.count (dropOf streams (n, b)) ≤ 1) :
    (takeBuffers streams n js h).1 =
        (js.filterMap (·.buffer)).map (StreamBuffer.marked streams n h.mPendingFrameDropList) ∧
      ∀ d, d ∈ (takeBuffers streams n js h).2.mPendingFrameDropList ↔
        d ∈ h.mPendingFrameDropList ∧
          d ∉ (js.filterMap (·.buffer)).map fun b => dropOf streams (n, b) := by
  induction js generalizing h with
  | nil => exact ⟨rfl, fun d => ⟨fun hd => ⟨hd, not_mem_nil⟩, And.left⟩⟩
  | cons j js ih =>
    unfold takeBuffers
    cases hb : j.buffer with
    | none =>
      rw [filterMap_cons_none hb] at nodup once ⊢
      exact ih h nodup once
    | some b =>
      rw [filterMap_cons_some hb] at nodup once ⊢
      obtain ⟨hb', hnodup⟩ := nodup_cons.mp nodup
      obtain ⟨hmark, hsub, hdrops⟩ := markDropped_once b (once b mem_cons_self)
      obtain ⟨hmarks, hrest⟩ := ih { (h.markDropped streams n b).2 with
          mPendingBuffersMap := (h.markDropped streams n b).2.mPendingBuffersMap.removeBuf
            (h.markDropped streams n b).1.buffer } hnodup fun c hc =>
        (hsub.count_le _).trans (once c (mem_cons_of_mem _ hc))
      refine ⟨congrArg₂ cons hmark (hmarks.trans ?_), fun d => ?_⟩
      · -- the drops of the other buffers are still there
        refine map_congr_left fun c hc => if_congr ?_ rfl rfl
        rw [hdrops]
        refine ⟨And.left, fun hmem => ⟨hmem, fun heq => hb' ?_⟩⟩
        exact mem_map.mpr ⟨c, hc, congrArg PendingFrameDrop.streamId heq⟩
      · show d ∈ (takeBuffers streams n js _).2.mPendingFrameDropList ↔ _
        rw [hrest, hdrops, map_cons, mem_cons, not_or, and_assoc]

/-- The drops that are reported of a request. -/
def reports (streams : Streams) (dropped : Option (List ℕ)) (i : PendingRequest) :
    List PendingFrameDrop :=
  dropped.elim [] fun ids =>
    (droppedStreams streams ids i).map fun j => ⟨i.frameNumber, streams.streamId j⟩

section Reports

variable {dropped : Option (List ℕ)} {ids : List ℕ} {i : PendingRequest}

theorem reports_frame : ∀ k ∈ reports streams dropped i, k.frameNumber = i.frameNumber := by
  cases dropped with
  | none => exact fun _ => (nomatch ·)
  | some ids =>
    intro k hk
    obtain ⟨j, -, rfl⟩ := mem_map.mp hk
    rfl

theorem reports_some : reports streams (some ids) i = i.buffers.flatMap fun j =>
    List.replicate (ids.count (streams.streamId j.stream))
      ⟨i.frameNumber, streams.streamId j.stream⟩ := by
  unfold reports droppedStreams
  rw [Option.elim_some, map_flatMap]
  refine flatMap_congr fun j _ => ?_
  rw [map_map, count_eq_length_filter]
  refine (map_const' ..).trans (congrArg (replicate · _) (congrArg length ?_))
  exact filter_congr fun id _ => Bool.beq_comm

theorem mem_reports {d : PendingFrameDrop} (hd : d ∈ reports streams dropped i) :
    ∃ ids, dropped = some ids ∧ d.streamId ∈ ids := by
  cases dropped with
  | none => cases hd
  | some ids =>
    rw [reports_some] at hd
    obtain ⟨j, -, hj⟩ := mem_flatMap.mp hd
    obtain ⟨hcount, rfl⟩ := mem_replicate.mp hj
    exact ⟨ids, rfl, count_pos_iff.mp (Nat.pos_of_ne_zero hcount)⟩

/-- A drop is reported no more often than its stream is named, if the streams of the request are
told apart. -/
theorem count_reports (nodup : (i.buffers.map fun j => streams.streamId j.stream).Nodup)
    (d : PendingFrameDrop) : (reports streams (some ids) i).count d ≤ ids.count d.streamId := by
  rw [reports_some]
  generalize i.buffers = js at nodup
  induction js with
  | nil => exact Nat.zero_le _
  | cons j js ih =>
    obtain ⟨hj, hrest⟩ := nodup_cons.mp nodup
    rw [flatMap_cons, count_append, count_replicate]
    split_ifs with heq
    · -- no other buffer is of this stream
      have hd : (⟨i.frameNumber, streams.streamId j.stream⟩ : PendingFrameDrop) = d := by
        simpa using heq
      subst hd
      refine (congrArg (_ + ·) (count_eq_zero.mpr fun hmem => ?_)).le
      obtain ⟨k, hk, hrep⟩ := mem_flatMap.mp hmem
      refine hj (mem_map.mpr ⟨k, hk, ?_⟩)
      exact (congrArg PendingFrameDrop.streamId (mem_replicate.mp hrep).2).symm
    · rw [Nat.zero_add]
      exact ih hrest

theorem reportDropped_drops (streams : Streams) (dropped : Option (List ℕ)) (i : PendingRequest)
    (h : HardwareInterface) : (h.reportDropped streams dropped i).mPendingFrameDropList =
      h.mPendingFrameDropList ++ reports streams dropped i := by
  cases dropped with
  | none => exact (append_nil _).symm
  | some ids => rfl

theorem reportDropped_event (h : HardwareInterface) :
    FrameEvent streams i.frameNumber (reports streams dropped i) [] h
      (h.reportDropped streams dropped i) := by
  refine ⟨reports_frame, ?_, ?_, fun d => ?_⟩
  · cases dropped with
    | none => exact (append_nil _).symm
    | some ids =>
      refine (notified_append _ _).trans (congrArg (_ ++ ·) ?_)
      unfold notified bufferErrors reports
      rw [filterMap_map, Option.elim_some]
      show (filterMap (fun j => some (i.frameNumber, j)) _).map _ = _
      rw [filterMap_eq_map', map_map]
      rfl
  · cases dropped with
    | none => exact (append_nil _).symm
    | some ids =>
      refine (returnedBuffers_append _ _).trans (congrArg (_ ++ ·) ?_)
      have hnone : sentResults ((droppedStreams streams ids i).map fun j =>
          Callback.error .buffer i.frameNumber (some j)) = [] := by
        unfold sentResults
        rw [filterMap_map]
        exact filterMap_eq_nil_iff.mpr fun _ _ => rfl
      unfold returnedBuffers
      rw [hnone]
      rfl
  · rw [reportDropped_drops, mem_append]
    exact ⟨fun hd => ⟨hd, not_mem_nil⟩, And.left⟩

end Reports

theorem FrameEvent.trans (hk : FrameEvent streams f ks [] h u)
    (hb : FrameEvent streams f [] bs u h') : FrameEvent streams f ks bs h h' where
  frame := hk.frame
  notified := by rw [hb.notified, hk.notified, append_nil]
  returned := by rw [hb.returned, hk.returned, map_nil, append_nil]
  drops d := by
    rw [hb.drops, hk.drops]
    simp

theorem Announces.event {c : Callback} (hc : Announces f c) (streams : Streams)
    (r : CaptureResult) :
    notified streams [c, .captureResult r] = [] ∧
      returnedBuffers [c, .captureResult r] = r.outputBuffers.map (r.frameNumber, ·) := by
  cases hc with
  | shutter timestamp | errorResult => exact ⟨rfl, append_nil _⟩

/-- **The final result of a request** is an event of its frame, where the metadata is of this frame
and no drop is put down twice, or no drop is put down that can be taken for that of a buffer. -/
theorem sendResult_event {i : PendingRequest} (τ : ℤ) (first : Bool)
    (nodup : (i.cached.map fun b => streams.streamId b.stream).Nodup)
    (key : i.frameNumber = n ∧ (∀ b ∈ i.cached,
        h.mPendingFrameDropList.count (dropOf streams (n, b)) ≤ 1) ∨
      ∀ b ∈ i.cached, dropOf streams (n, b) ∉ h.mPendingFrameDropList ∧
        dropOf streams (i.frameNumber, b) ∉ h.mPendingFrameDropList) :
    FrameEvent streams i.frameNumber []
      (i.cached.map (StreamBuffer.marked streams i.frameNumber h.mPendingFrameDropList)) h
      (h.sendResult streams n τ first i) := by
  have once : ∀ b ∈ i.cached, h.mPendingFrameDropList.count (dropOf streams (n, b)) ≤ 1 := by
    intro b hb
    rcases key with ⟨-, hcount⟩ | hnone
    · exact hcount b hb
    · rw [count_eq_zero.mpr (hnone b hb).1]
      exact Nat.zero_le _
  have hmarked : i.cached.map (StreamBuffer.marked streams n h.mPendingFrameDropList) =
      i.cached.map (StreamBuffer.marked streams i.frameNumber h.mPendingFrameDropList) := by
    refine map_congr_left fun b hb => if_congr ?_ rfl rfl
    rcases key with ⟨hframe, -⟩ | hnone
    · rw [hframe]
    · exact iff_of_false (hnone b hb).1 (hnone b hb).2
  obtain ⟨c, result, hc, -, htakes⟩ := sendResult_takes streams n τ first i h
  -- the state in which the buffers are taken, whose drops are those of `h`
  obtain ⟨u, hu⟩ : ∃ u : HardwareInterface, u = { h with
      mPendingLiveRequest := MmCamera.decU32 h.mPendingLiveRequest
      callbacks := h.callbacks ++ [c] } := ⟨_, rfl⟩
  have hdrops : u.mPendingFrameDropList = h.mPendingFrameDropList := hu ▸ rfl
  have hcallbacks : u.callbacks = h.callbacks ++ [c] := hu ▸ rfl
  have hsend := htakes u hu
  obtain ⟨hbufs, htaken⟩ := takeBuffers_drops (n := n) i.buffers u nodup (by rwa [hdrops])
  rw [hdrops] at hbufs htaken
  obtain ⟨-, d, hd⟩ := takeBuffers_spec streams n i.buffers u
  have hcall : (h.sendResult streams n τ first i).callbacks = h.callbacks ++ [c, .captureResult
      { frameNumber := i.frameNumber
        result := result
        partialResult := i.partialResultCnt
        inputBuffer := i.inputBuffer
        outputBuffers := (takeBuffers streams n i.buffers u).1 }] := by
    rw [hsend]
    show (takeBuffers streams n i.buffers u).2.callbacks ++ _ = _
    rw [hd]
    show u.callbacks ++ _ = _
    rw [hcallbacks, append_assoc]
    rfl
  refine ⟨fun _ => (nomatch ·), ?_, ?_, fun x => ?_⟩
  · rw [hcall, notified_append, (hc.event streams _).1]
  · rw [hcall, returnedBuffers_append, (hc.event streams _).2, hbufs]
    exact congrArg (fun bs => _ ++ map _ bs) hmarked
  · rw [hsend]
    show x ∈ (takeBuffers streams n i.buffers u).2.mPendingFrameDropList ↔ _
    have hkeys : (i.cached.map (StreamBuffer.marked streams i.frameNumber
        h.mPendingFrameDropList)).map (fun b => dropOf streams (i.frameNumber, b)) =
          i.cached.map fun b => dropOf streams (i.frameNumber, b) := by
      rw [map_map]
      exact map_congr_left fun b _ => dropOf_marked ..
    rw [htaken, hkeys, or_iff_left not_mem_nil]
    refine and_congr_right fun hx => not_congr ?_
    rcases key with ⟨hframe, -⟩ | hnone
    · rw [hframe]
      exact Iff.rfl
    · refine iff_of_false (fun hmem => ?_) fun hmem => ?_
      · obtain ⟨b, hb, rfl⟩ := mem_map.mp hmem
        exact (hnone b hb).1 hx
      · obtain ⟨b, hb, rfl⟩ := mem_map.mp hmem
        exact (hnone b hb).2 hx

/-! ## The requests that a metadata buffer finishes -/

/-- The streams of a request are told apart by their identities. -/
def Traffic.Apart (streams : Streams) (s : Traffic) : Prop :=
  ∀ a ∈ s.issued, ∀ a' ∈ s.issued, a.frameNumber = a'.frameNumber →
    streams.streamId a.stream = streams.streamId a'.stream → a.stream = a'.stream

section Entries

variable {i : PendingRequest} {dropped : Option (List ℕ)}

theorem Traffic.Tracks.ids (he : s.Tracks i.core.held) (apart : s.Apart streams) :
    (i.buffers.map fun j => streams.streamId j.stream).Nodup := by
  have hslots : i.buffers.map (fun j => streams.streamId j.stream) =
      (i.core.held.slots.map Prod.fst).map streams.streamId := by
    unfold PendingRequest.Core.held
    rw [map_map, map_map]
    rfl
  rw [hslots]
  refine Nodup.map_on (fun j hj k hk heq => ?_) he.streams
  obtain ⟨a, ha, hframe, rfl⟩ := he.asked j hj
  obtain ⟨a', ha', hframe', rfl⟩ := he.asked k hk
  exact apart a ha a' ha' (hframe.trans hframe'.symm) heq

theorem Traffic.Tracks.cachedIds (he : s.Tracks i.core.held) (apart : s.Apart streams) :
    (i.cached.map fun b => streams.streamId b.stream).Nodup := by
  refine (he.ids apart).sublist ?_
  have hown : ∀ j ∈ i.buffers, ∀ b, j.buffer = some b → b.stream = j.stream := fun j hj b hb =>
    (he.cached j.stream b (mem_map.mpr ⟨j, hj, congrArg (Prod.mk _) hb⟩)).1
  unfold PendingRequest.cached
  generalize i.buffers = js at hown
  induction js with
  | nil => exact .slnil
  | cons j js ih =>
    have hrest := ih fun k hk => hown k (mem_cons_of_mem _ hk)
    cases hb : j.buffer with
    | none =>
      rw [filterMap_cons_none hb]
      exact hrest.cons _
    | some b =>
      rw [filterMap_cons_some hb, map_cons, map_cons, hown j mem_cons_self b hb]
      exact hrest.cons_cons _

theorem Traffic.Tracks.not_called (he : s.Tracks i.core.held) (heeded : s.unheeded = [])
    (input : i.inputBuffer.isSome = true) (b : StreamBuffer) : (i.frameNumber, b) ∉ s.called := by
  intro hb
  have hnone : i.inputBuffer = none := (he.kept b hb (heeded ▸ not_mem_nil)).1
  rw [hnone] at input
  cases input

theorem Traffic.Tracks.cached_nil (he : s.Tracks i.core.held)
    (input : i.inputBuffer.isSome = true) : i.cached = [] := by
  refine eq_nil_iff_forall_not_mem.mpr fun b hb => ?_
  obtain ⟨j, hj⟩ := mem_cached.mp hb
  exact nomatch he.reprocess input _ hj

/-- **A reprocess request is passed over**: its drops are reported, and it stays pending. -/
theorem Traffic.Drops.report (hd : s.Drops streams is h) (dropped : Option (List ℕ)) (mem : i ∈ is)
    (he : s.Tracks i.core.held) (heeded : s.unheeded = []) (input : i.inputBuffer.isSome = true)
    (later : ∀ x ∈ is, x.inputBuffer = none → i.frameNumber < x.frameNumber) :
    s.Drops streams is (h.reportDropped streams dropped i) :=
  hd.event (reportDropped_event h) rfl (fun _ => .inl) (List.Subset.refl _)
    (fun x hx => ⟨x, hx, rfl, rfl⟩) (fun _ => he.frame)
    (fun _ p hp hf => hd.done p hp i mem hf.symm) (fun _ => later) (absurd rfl) (fun _ => (nomatch ·))
    fun b hb => absurd hb (he.not_called heeded input b)

theorem Traffic.Drops.put_down_iff (hd : s.Drops streams is h) (mem : i ∈ is) (b : StreamBuffer) :
    dropOf streams (i.frameNumber, b) ∈ h.mPendingFrameDropList ↔
      dropOf streams (i.frameNumber, b) ∈ notified streams h.callbacks := by
  rw [hd.entries]
  refine and_iff_left fun hmem => ?_
  obtain ⟨p, hp, heq⟩ := mem_map.mp hmem
  exact hd.done p hp i mem (congrArg PendingFrameDrop.frameNumber heq).symm

/-- **A request is finished**: its drops are reported, and the buffers that are kept with it are
returned. -/
theorem Traffic.Drops.finish {rest : List PendingRequest} (τ : ℤ) (first : Bool)
    (hd : s.Drops streams is h) (mem : i ∈ is) (sub : rest ⊆ is) (he : s.Tracks i.core.held)
    (heeded : s.unheeded = []) (apart : s.Apart streams)
    (later : ∀ x ∈ rest, x.inputBuffer = none → i.frameNumber < x.frameNumber)
    (gone : ∀ x ∈ rest, x.frameNumber ≠ i.frameNumber)
    (le : i.frameNumber ≤ n)
    (cond : ∀ ids, dropped = some ids → ∀ b ∈ i.cached,
      (i.frameNumber < n → streams.streamId b.stream ∉ ids) ∧
        (i.frameNumber = n → ids.count (streams.streamId b.stream) ≤ 1)) :
    s.Drops streams rest ((h.reportDropped streams dropped i).sendResult streams n τ first i) := by
  -- no drop of this frame or a later one has been put down before, if a buffer is kept
  have hnone : ∀ b ∈ i.cached, ∀ m, i.frameNumber ≤ m →
      dropOf streams (m, b) ∉ h.mPendingFrameDropList := by
    intro b hb m hm hmem
    have hlive : i.inputBuffer = none := by
      by_contra hin
      rw [he.cached_nil (Option.isSome_iff_ne_none.mpr hin)] at hb
      cases hb
    have hlt : m < i.frameNumber := hd.before _ ((hd.entries _).mp hmem).1 i mem hlive
    exact absurd hlt (not_lt.mpr hm)
  have hdrops := reportDropped_drops streams dropped i h
  have key : i.frameNumber = n ∧ (∀ b ∈ i.cached,
        (h.reportDropped streams dropped i).mPendingFrameDropList.count
          (dropOf streams (n, b)) ≤ 1) ∨
      ∀ b ∈ i.cached,
        dropOf streams (n, b) ∉ (h.reportDropped streams dropped i).mPendingFrameDropList ∧
        dropOf streams (i.frameNumber, b) ∉
          (h.reportDropped streams dropped i).mPendingFrameDropList := by
    rw [hdrops]
    rcases le.lt_or_eq with hlt | heq
    · refine .inr fun b hb => ⟨fun hmem => ?_, fun hmem => ?_⟩
      · rcases mem_append.mp hmem with hmem | hmem
        · exact hnone b hb n le hmem
        · exact hlt.ne (reports_frame _ hmem).symm
      · rcases mem_append.mp hmem with hmem | hmem
        · exact hnone b hb _ le_rfl hmem
        · obtain ⟨ids, hids, hσ⟩ := mem_reports hmem
          exact (cond ids hids b hb).1 hlt hσ
    · refine .inl ⟨heq, fun b hb => ?_⟩
      rw [count_append, count_eq_zero.mpr (hnone b hb n le), Nat.zero_add]
      cases dropped with
      | none => exact Nat.zero_le _
      | some ids => exact (count_reports (he.ids apart) _).trans ((cond ids rfl b hb).2 heq)
  have event := (reportDropped_event h).trans (sendResult_event τ first (he.cachedIds apart) key)
  -- a buffer is marked exactly if its drop has been reported by now
  have hmark : ∀ b, dropOf streams (i.frameNumber, b) ∈
      (h.reportDropped streams dropped i).mPendingFrameDropList ↔
        dropOf streams (i.frameNumber, b) ∈ notified streams
          ((h.reportDropped streams dropped i).sendResult streams n τ first i).callbacks := by
    intro b
    rw [reportDropped_drops, event.notified, mem_append, mem_append, hd.put_down_iff mem]
  refine hd.event event rfl (fun _ => .inl) (List.Subset.refl _)
    (fun x hx => ⟨x, sub hx, rfl, rfl⟩) (fun _ => he.frame)
    (fun _ p hp hf => hd.done p hp i mem hf.symm) (fun _ => later) (fun _ => gone) ?_ ?_
  · intro c hc
    obtain ⟨b, hb, rfl⟩ := mem_map.mp hc
    obtain ⟨j, hj⟩ := mem_cached.mp hb
    exact ⟨b, (he.cached j b hj).2, if_congr (hmark b) rfl rfl⟩
  · intro b hb hmem
    have hkept : b ∈ i.cached := mem_cached.mpr ⟨_, (he.kept b hb (heeded ▸ not_mem_nil)).2⟩
    rw [event.returned]
    refine mem_append_right _ (mem_map.mpr ⟨_, mem_map_of_mem hkept, ?_⟩)
    exact congrArg (Prod.mk _) (if_pos ((hmark b).mpr hmem))

end Entries

theorem Traffic.Drops.mono (hd : s.Drops streams is h)
    (sub : ∀ i ∈ is', ∃ j ∈ is, i.frameNumber = j.frameNumber ∧ i.inputBuffer = j.inputBuffer) :
    s.Drops streams is' h where
  frames := hd.frames
  before d hmem i hi hlive := by
    obtain ⟨j, hj, hframe, hinput⟩ := sub i hi
    rw [hframe]
    exact hd.before d hmem j hj (hinput ▸ hlive)
  done p hp i hi := by
    obtain ⟨j, hj, hframe, -⟩ := sub i hi
    rw [hframe]
    exact hd.done p hp j hj
  status := hd.status
  errors := hd.errors
  entries := hd.entries

theorem flushOut_cons (streams : Streams) (dropped : Option (List ℕ)) (τ : ℤ) (first : Bool)
    {i : PendingRequest} (is : List PendingRequest) (h : HardwareInterface) (le : i.frameNumber ≤ n) :
    ∃ i' : PendingRequest, i'.core = i.core ∧
      (i.frameNumber < n ∧ i.inputBuffer.isSome = true →
        flushOut streams n τ dropped first (i :: is) h =
          (i' :: (flushOut streams n τ dropped first is (h.reportDropped streams dropped i')).1,
            (flushOut streams n τ dropped first is (h.reportDropped streams dropped i')).2)) ∧
      (¬(i.frameNumber < n ∧ i.inputBuffer.isSome = true) →
        flushOut streams n τ dropped first (i :: is) h = flushOut streams n τ dropped first is
          ((h.reportDropped streams dropped i').sendResult streams n τ first i')) := by
  refine ⟨{ i with partialResultCnt := MmCamera.incU32 i.partialResultCnt }, rfl, fun hpass => ?_,
    fun hpass => ?_⟩
  · rw [flushOut, if_pos le]
    exact if_pos hpass
  · rw [flushOut, if_pos le]
    exact if_neg hpass

/-- **The loop keeps the account**, where `ps` are the reprocess requests it has passed over. -/
theorem flushOut_drops {dropped : Option (List ℕ)} (τ : ℤ) (first : Bool) (ps : List PendingRequest)
    (hd : s.Drops streams (ps ++ is) h) (heeded : s.unheeded = []) (apart : s.Apart streams)
    (tracks : ∀ i ∈ is, s.Tracks i.core.held)
    (sorted : (is.map PendingRequest.frameNumber).Pairwise (· < ·))
    (passed : ∀ p ∈ ps, p.inputBuffer.isSome = true ∧ ∀ i ∈ is, p.frameNumber ≠ i.frameNumber)
    (cond : ∀ ids, dropped = some ids → ∀ i ∈ is, ∀ b ∈ i.cached,
      (i.frameNumber < n → streams.streamId b.stream ∉ ids) ∧
        (i.frameNumber = n → ids.count (streams.streamId b.stream) ≤ 1)) :
    s.Drops streams (ps ++ (flushOut streams n τ dropped first is h).1)
      (flushOut streams n τ dropped first is h).2 := by
  induction is generalizing ps h with
  | nil => exact hd
  | cons i is ih =>
    by_cases hle : i.frameNumber ≤ n
    · obtain ⟨i', hcore, hpassed, hfinished⟩ :=
        flushOut_cons streams dropped τ first is h hle
      have hframe : i'.frameNumber = i.frameNumber :=
        congrArg PendingRequest.Core.frameNumber hcore
      have hinput : i'.inputBuffer = i.inputBuffer :=
        congrArg PendingRequest.Core.inputBuffer hcore
      have hcached := cached_of_core hcore
      have he : s.Tracks i'.core.held := hcore ▸ tracks i mem_cons_self
      obtain ⟨hlater, hsorted⟩ := pairwise_cons.mp sorted
      have htracks := fun x hx => tracks x (mem_cons_of_mem i hx)
      have hcond := fun ids hids x hx => cond ids hids x (mem_cons_of_mem i hx)
      -- the entries that come after it are of later frames
      have hafter : ∀ x ∈ is, i'.frameNumber < x.frameNumber := fun x hx =>
        hframe ▸ hlater _ (mem_map_of_mem hx)
      have hd' : s.Drops streams (ps ++ i' :: is) h := by
        refine hd.mono fun x hx => ?_
        rcases mem_append.mp hx with hx | hx
        · exact ⟨x, mem_append_left _ hx, rfl, rfl⟩
        · rcases mem_cons.mp hx with rfl | hx
          · exact ⟨i, mem_append_right _ mem_cons_self, hframe, hinput⟩
          · exact ⟨x, mem_append_right _ (mem_cons_of_mem _ hx), rfl, rfl⟩
      have hmem : i' ∈ ps ++ i' :: is := mem_append_right _ mem_cons_self
      -- of the live requests, none before it is left
      have hlive : ∀ x ∈ ps ++ is, x.inputBuffer = none → i'.frameNumber < x.frameNumber := by
        intro x hx hnone
        rcases mem_append.mp hx with hx | hx
        · have hin := (passed x hx).1
          rw [hnone] at hin
          cases hin
        · exact hafter x hx
      by_cases hpass : i.frameNumber < n ∧ i.inputBuffer.isSome = true
      · rw [hpassed hpass]
        rw [← hinput] at hpass
        have hd'' := hd'.report dropped hmem he heeded hpass.2 fun x hx hnone => by
          rcases mem_append.mp hx with hx | hx
          · exact hlive x (mem_append_left _ hx) hnone
          · rcases mem_cons.mp hx with rfl | hx
            · have hin := hpass.2
              rw [hnone] at hin
              cases hin
            · exact hlive x (mem_append_right _ hx) hnone
        rw [append_cons] at hd'' ⊢
        refine ih (ps ++ [i']) hd'' htracks hsorted (fun p hp => ?_) hcond
        rcases mem_append.mp hp with hp | hp
        · exact ⟨(passed p hp).1, fun x hx => (passed p hp).2 x (mem_cons_of_mem _ hx)⟩
        · rw [mem_singleton.mp hp]
          exact ⟨hpass.2, fun x hx => (hafter x hx).ne⟩
      · rw [hfinished hpass]
        refine ih ps (hd'.finish τ first hmem ?_ he heeded apart hlive ?_ (hframe ▸ hle) ?_)
          htracks hsorted (fun p hp => ?_) hcond
        · exact append_subset.mpr ⟨subset_append_left .., fun x hx =>
            mem_append_right _ (mem_cons_of_mem _ hx)⟩
        · intro x hx
          rcases mem_append.mp hx with hx | hx
          · rw [hframe]
            exact (passed x hx).2 i mem_cons_self
          · exact (hafter x hx).ne'
        · intro ids hids b hb
          rw [hframe]
          exact cond ids hids i mem_cons_self b (hcached ▸ hb)
        · exact ⟨(passed p hp).1, fun x hx => (passed p hp).2 x (mem_cons_of_mem _ hx)⟩
    · rw [flushOut, if_neg hle]
      exact hd

/-! ## Metadata -/

section Metadata

variable {md : MetadataBuffer}

theorem FrameEvent.of_eq (f : ℕ) (callbacks : h'.callbacks = h.callbacks)
    (drops : h'.mPendingFrameDropList = h.mPendingFrameDropList) :
    FrameEvent streams f [] [] h h' := by
  refine ⟨fun _ => (nomatch ·), ?_, ?_, fun d => ?_⟩
  · rw [callbacks, append_nil]
  · rw [callbacks, map_nil, append_nil]
  · rw [drops]
    simp

theorem sendUrgent_event (f urgent : ℕ) (h : HardwareInterface) :
    FrameEvent streams f [] [] h (h.sendUrgent urgent) := by
  obtain ⟨-, hcall⟩ := urgentResult_spec urgent h.mPendingRequestsList
  have hnil : ∀ c : Option Callback,
      (∀ x ∈ c, ∃ r, x = .captureResult r ∧ r.result = .urgent ∧ r.outputBuffers = []) →
        notified streams c.toList = [] ∧ returnedBuffers c.toList = [] := by
    intro c hc
    cases c with
    | none => exact ⟨rfl, rfl⟩
    | some x =>
      obtain ⟨r, rfl, -, hr⟩ := hc x rfl
      refine ⟨rfl, ?_⟩
      show (r.outputBuffers.map (r.frameNumber, ·)) ++ [] = []
      rw [hr]
      rfl
  obtain ⟨hn, hr⟩ := hnil _ hcall
  refine ⟨fun _ => (nomatch ·), ?_, ?_, fun d => ?_⟩
  · exact (notified_append _ _).trans (congrArg (_ ++ ·) hn)
  · exact (returnedBuffers_append _ _).trans (congrArg (_ ++ ·) hr)
  · show d ∈ h.mPendingFrameDropList ↔ _
    simp

/-- **What a metadata buffer does**, where it is looked at: it may send a partial result, and flushes
out the requests up to its frame number, if it has one. -/
theorem handleMetadata_flushes (streams : Streams) (timeOffset : ℤ) (first : Bool)
    (md : MetadataBuffer) (active : ¬h.ignoresMetadata) :
    ∃ u τ, (u = h ∨ ∃ urgent, u = h.sendUrgent urgent) ∧
      handleMetadataWithLock streams timeOffset first md h = (md.finalFrame.elim u fun n =>
        { (flushOut streams n τ md.frameDropped first u.mPendingRequestsList u).2 with
          mPendingRequestsList :=
            (flushOut streams n τ md.frameDropped first u.mPendingRequestsList u).1
        }).doneMetadata := by
  have hactive : ¬(h.mFlushPerf = true ∨ h.mState = .error ∨ h.mState = .deinit) := active
  unfold handleMetadataWithLock
  rw [if_neg hactive]
  split
  · rename_i valid frameNumber timestamp urgentValid urgent hv hn hts huv hu
    dsimp only
    have hurgent : (if urgentValid ≠ 0 then h.sendUrgent urgent else h) = h ∨
        ∃ urgent', (if urgentValid ≠ 0 then h.sendUrgent urgent else h) = h.sendUrgent urgent' := by
      by_cases h0 : urgentValid ≠ 0
      · exact .inr ⟨urgent, if_pos h0⟩
      · exact .inl (if_neg h0)
    refine ⟨_, timestamp - timeOffset, hurgent, ?_⟩
    unfold MetadataBuffer.finalFrame
    rw [hv, hn, hts, huv, hu]
    dsimp only
    by_cases h0 : valid = 0
    · rw [if_pos h0, if_pos h0]
      rfl
    · rw [if_neg h0, if_neg h0]
      rfl
  · rename_i hmissing
    refine ⟨h, 0, .inl rfl, ?_⟩
    unfold MetadataBuffer.finalFrame
    split
    · rename_i valid frameNumber timestamp urgentValid urgent hv hn hts huv hu
      exact absurd hu (hmissing valid frameNumber timestamp urgentValid urgent hv hn hts huv)
    · rfl

theorem Traffic.Drops.metadata (hd : s.Drops streams s.hal.mPendingRequestsList s.hal)
    (hs : s.Sound) (heeded : s.unheeded = []) (apart : s.Apart streams)
    (active : ¬s.hal.ignoresMetadata) (timeOffset : ℤ) (first : Bool)
    (cond : MetadataDropCond streams md s.hal) :
    s.Drops streams
      (handleMetadataWithLock streams timeOffset first md s.hal).mPendingRequestsList
      (handleMetadataWithLock streams timeOffset first md s.hal) := by
  obtain ⟨u, τ, hu, heq⟩ := handleMetadata_flushes streams timeOffset first md active
  -- the entries, and the account, before the loop
  have hcore : u.mPendingRequestsList.map PendingRequest.core =
      s.hal.mPendingRequestsList.map PendingRequest.core := by
    rcases hu with rfl | ⟨urgent, rfl⟩
    · rfl
    · exact (sendUrgent_refreshed urgent s.hal).list
  have hold : ∀ i ∈ u.mPendingRequestsList, ∃ j ∈ s.hal.mPendingRequestsList, j.core = i.core :=
    fun i hi => mem_map.mp (hcore ▸ mem_map_of_mem hi)
  have hdu : s.Drops streams u.mPendingRequestsList u := by
    have event : FrameEvent streams 0 [] [] s.hal u := by
      rcases hu with rfl | ⟨urgent, rfl⟩
      · exact .of_eq 0 rfl rfl
      · exact sendUrgent_event 0 urgent s.hal
    refine hd.quiet event fun i hi => ?_
    obtain ⟨j, hj, hji⟩ := hold i hi
    exact ⟨j, hj, congrArg PendingRequest.Core.frameNumber hji.symm,
      congrArg PendingRequest.Core.inputBuffer hji.symm⟩
  have hdone : ∀ v : HardwareInterface, s.Drops streams v.mPendingRequestsList v →
      s.Drops streams v.doneMetadata.mPendingRequestsList v.doneMetadata := by
    intro v hv
    refine hv.quiet (.of_eq 0 rfl rfl) fun i hi => ?_
    obtain ⟨j, hj, rfl⟩ := mem_map.mp hi
    exact ⟨j, hj, rfl, rfl⟩
  rw [heq]
  refine hdone _ ?_
  cases hn : md.finalFrame with
  | none => exact hdu
  | some n =>
    have htracks : ∀ i ∈ u.mPendingRequestsList, s.Tracks i.core.held := by
      intro i hi
      obtain ⟨j, hj, hji⟩ := hold i hi
      exact hji ▸ hs.tracked j hj
    have hsorted : (u.mPendingRequestsList.map PendingRequest.frameNumber).Pairwise (· < ·) := by
      have hframes : u.listFrames = s.hal.listFrames := by
        rw [listFrames_core, listFrames_core, hcore]
      have hinc := hs.increasing.list
      rwa [← hframes] at hinc
    have hflush := flushOut_drops (n := n) τ first [] hdu heeded apart htracks hsorted
      (fun _ => (nomatch ·)) fun ids hids i hi b hb => by
        obtain ⟨j, hj, hji⟩ := hold i hi
        have hframe : j.frameNumber = i.frameNumber :=
          congrArg PendingRequest.Core.frameNumber hji
        rw [← hframe]
        exact cond n ids hn hids j hj b (cached_of_core hji ▸ hb)
    exact hflush.quiet (.of_eq 0 rfl rfl) fun i hi => ⟨i, hi, rfl, rfl⟩

end Metadata

/-! ## Buffers -/

section Buffer

variable {b : StreamBuffer}

theorem Traffic.Drops.returned_called (hd : s.Drops streams is h) {p : ℕ × StreamBuffer}
    (hp : p ∈ returnedBuffers h.callbacks) :
    ∃ c, (p.1, c) ∈ s.called ∧ dropOf streams p = dropOf streams (p.1, c) := by
  obtain ⟨c, hc, hmark⟩ := hd.status p hp
  refine ⟨c, hc, ?_⟩
  have hdrop := dropOf_marked streams p.1 p.1 (notified streams h.callbacks) c
  rw [← hmark] at hdrop
  exact hdrop

theorem Traffic.Drops.put_down_new (hd : s.Drops streams is h) (hs : s.Sound)
    (apart : s.Apart streams) (issued : ⟨f, b.stream, b.buffer⟩ ∈ s.issued)
    (once : ∀ p ∈ s.called, (p.1, p.2.stream) ≠ (f, b.stream)) :
    dropOf streams (f, b) ∈ h.mPendingFrameDropList ↔
      dropOf streams (f, b) ∈ notified streams h.callbacks := by
  rw [hd.entries]
  refine and_iff_left fun hmem => ?_
  obtain ⟨p, hp, heq⟩ := mem_map.mp hmem
  obtain ⟨c, hc, hdrop⟩ := hd.returned_called hp
  rw [hdrop] at heq
  -- a buffer of this frame and stream would have come in before
  have hframe : p.1 = f := congrArg PendingFrameDrop.frameNumber heq
  have hstream : c.stream = b.stream :=
    apart _ (hs.called _ hc) _ issued hframe (congrArg PendingFrameDrop.streamId heq)
  exact once _ hc (Prod.ext hframe hstream)

theorem Traffic.Drops.callBack (hd : s.Drops streams s.hal.mPendingRequestsList s.hal)
    (hs : s.Sound) (apart : s.Apart streams) (heeds : s.hal.HeedsBuffers) (now : ℤ)
    (issued : ⟨f, b.stream, b.buffer⟩ ∈ s.issued)
    (once : ∀ p ∈ s.called, (p.1, p.2.stream) ≠ (f, b.stream))
    (cond : BufferDropCond streams b f s.hal) :
    (s.callBack b f (handleBufferWithLock streams now b f s.hal)).Drops streams
      (handleBufferWithLock streams now b f s.hal).mPendingRequestsList
      (handleBufferWithLock streams now b f s.hal) := by
  have hnodup : (s.hal.mPendingRequestsList.map PendingRequest.frameNumber).Nodup :=
    hs.increasing.list.imp ne_of_lt
  have called : ∀ p, p ∈ s.called ++ [(f, b)] → p ∈ s.called ∨ p.1 = f := fun p hp =>
    (mem_append.mp hp).imp_right fun hp => congrArg Prod.fst (mem_singleton.mp hp)
  have grows : s.called ⊆ s.called ++ [(f, b)] := subset_append_left ..
  have hnew : (f, b) ∈ s.called ++ [(f, b)] := mem_append_right _ (mem_singleton_self _)
  have hidle : ¬(s.hal.mState = .error ∨ s.hal.mState = .deinit) := fun h => h.elim heeds.1 heeds.2.1
  have hflush : ¬s.hal.mFlushPerf = true := Bool.not_eq_true _ ▸ heeds.2.2
  unfold handleBufferWithLock
  rw [if_neg hidle, if_neg hflush]
  cases hfind : s.hal.mPendingRequestsList.find? (·.frameNumber == f) with
  | none =>
    -- the request is finished, and the buffer is returned
    obtain ⟨hmark, -, hdrops⟩ := markDropped_once b cond.1
    obtain ⟨-, d, hd'⟩ := markDropped_spec streams f b s.hal
    have hput := hd.put_down_new hs apart issued once
    have event : FrameEvent streams f [] [b.marked streams f s.hal.mPendingFrameDropList] s.hal
        (s.hal.returnBuffer streams b f) := by
      have hcall : (s.hal.returnBuffer streams b f).callbacks =
          s.hal.callbacks ++ [.captureResult ⟨f, .null, 0, none,
            [b.marked streams f s.hal.mPendingFrameDropList]⟩] := by
        rw [← hmark]
        show (s.hal.markDropped streams f b).2.callbacks ++ [.captureResult ⟨f, .null, 0, none,
          [(s.hal.markDropped streams f b).1]⟩] = _
        exact congrArg (·.callbacks ++ _) hd'
      refine ⟨fun _ => (nomatch ·), ?_, ?_, fun x => ?_⟩
      · rw [hcall, notified_append]
        rfl
      · rw [hcall, returnedBuffers_append]
        rfl
      · show x ∈ (s.hal.markDropped streams f b).2.mPendingFrameDropList ↔ _
        rw [hdrops, map_singleton, dropOf_marked, mem_singleton]
        simp
    refine hd.event event rfl called grows (fun i hi => ⟨i, ?_, rfl, rfl⟩) (absurd rfl) (absurd rfl)
      (absurd rfl) (fun _ i hi => ?_) (fun c hc => ?_) fun c hc hmem => ?_
    · exact (returnBuffer_givenBack streams b f s.hal).list ▸ hi
    · rw [(returnBuffer_givenBack streams b f s.hal).list] at hi
      simpa using find?_eq_none.mp hfind i hi
    · refine ⟨b, hnew, (mem_singleton.mp hc).trans (if_congr ?_ rfl rfl)⟩
      rw [event.notified, append_nil, hput]
    · rw [event.notified, append_nil] at hmem
      rw [event.returned]
      rcases mem_append.mp hc with hc | hc
      · exact mem_append_left _ (hd.errors _ hc hmem)
      · obtain ⟨-, rfl⟩ := Prod.mk.inj (mem_singleton.mp hc)
        refine mem_append_right _ (mem_singleton.mpr (congrArg (Prod.mk f) ?_))
        exact (if_pos (hput.mpr hmem)).symm
  | some i =>
    have hi : i ∈ s.hal.mPendingRequestsList := mem_of_find?_eq_some hfind
    have hframe : i.frameNumber = f := by simpa using find?_some hfind
    have hput := hd.put_down_iff hi b
    rw [hframe] at hput
    dsimp only
    by_cases hin : i.inputBuffer.isSome = true
    · -- the buffer completes a reprocess request
      rw [if_pos hin]
      have hnone := cond.2 i hi hframe hin
      have event : FrameEvent streams f [] [b] s.hal (s.hal.reprocessResult b now i) := by
        refine ⟨fun _ => (nomatch ·), ?_, ?_, fun x => ?_⟩
        · exact notified_append _ _
        · rw [← hframe]
          exact returnedBuffers_append _ _
        · show x ∈ s.hal.mPendingFrameDropList ↔ _
          rw [or_iff_left not_mem_nil, map_singleton, mem_singleton]
          refine ⟨fun hx => ⟨hx, ?_⟩, And.left⟩
          rintro rfl
          exact hnone hx
      refine hd.event event rfl called grows (fun x hx => ⟨x, mem_of_mem_eraseP hx, rfl, rfl⟩)
        (absurd rfl) (absurd rfl) (absurd rfl) (fun _ x hx => ?_) (fun c hc => ?_)
        fun c hc hmem => ?_
      · rw [← hframe]
        exact ne_of_mem_eraseP hnodup hx
      · refine ⟨b, hnew, (mem_singleton.mp hc).trans (if_neg ?_).symm⟩
        rw [event.notified, append_nil, ← hput]
        exact hnone
      · rw [event.notified, append_nil] at hmem
        rw [event.returned]
        rcases mem_append.mp hc with hc | hc
        · exact mem_append_left _ (hd.errors _ hc hmem)
        · obtain ⟨-, rfl⟩ := Prod.mk.inj (mem_singleton.mp hc)
          exact absurd (hput.mpr hmem) hnone
    · -- the buffer is kept with its request, of which nothing has been reported yet
      rw [if_neg hin]
      have event : FrameEvent streams f [] [] s.hal { s.hal with
          mPendingRequestsList := cacheBuffer b f s.hal.mPendingRequestsList } := .of_eq f rfl rfl
      refine hd.event event rfl called grows (fun x hx => ?_) (absurd rfl) (absurd rfl)
        (absurd rfl) (absurd rfl) (fun _ => (nomatch ·)) fun c hc hmem => ?_
      · rcases mem_cacheBuffer hnodup hx with ⟨hmem, -⟩ | ⟨j, hj, hheld⟩
        · exact ⟨x, hmem, rfl, rfl⟩
        · exact ⟨j, mem_of_find?_eq_some hj, congrArg frameNumber hheld, congrArg inputBuffer hheld⟩
      · rcases mem_append.mp hc with hc | hc
        · exact hd.errors _ hc hmem
        · obtain ⟨-, rfl⟩ := Prod.mk.inj (mem_singleton.mp hc)
          have hlt : f < i.frameNumber := hd.before _ hmem i hi (by simpa using hin)
          exact absurd hframe hlt.ne'

end Buffer

/-! ## Requests -/

section Request

variable {env : RequestEnv} {req : CaptureRequest}

/-- **A request that does not restart the sensor** leaves the drops and the callbacks alone. -/
theorem steadyRequest (step : (Op.request env req).Step streams h h') (heeds : h.HeedsBuffers)
    (steady : ¬SensorRestarts streams env req h) :
    h'.HeedsBuffers ∧ h'.mPendingFrameDropList = h.mPendingFrameDropList ∧
      h'.callbacks = h.callbacks := by
  cases Op.outcome step with
  | requestError error => exact absurd error heeds.1
  | requestInvalid => exact ⟨heeds, rfl, rfl⟩
  | request call step =>
    have hkeep := prepare_keeps streams env req h
    -- the state in which the request is refused or recorded
    have hheeds : ∀ t, Prepared h t → t.HeedsBuffers := by
      intro t ht
      unfold HardwareInterface.HeedsBuffers
      rw [ht.state, ht.flushPerf]
      exact heeds
    cases step with
    | refused early =>
      rw [early] at hkeep
      exact ⟨hheeds _ hkeep.1, hkeep.1.drops, hkeep.1.callbacks⟩
    | restartFailed prepared due =>
      exact absurd ((prepare_passes prepared).2.mp due) steady
    | @recorded u v w _ _ i prepared restarted recorded issued =>
      rw [prepared] at hkeep
      cases restarted with
      | restarted due => exact absurd ((prepare_passes prepared).2.mp due) steady
      | steady due =>
        have hw : w.HeedsBuffers := by
          obtain ⟨h1, h2, h3⟩ := hheeds u hkeep.1
          exact ⟨recorded.state ▸ h1, recorded.state ▸ h2, recorded.flushPerf ▸ h3⟩
        have hdrops := recorded.drops.trans hkeep.1.drops
        have hcalls := recorded.callbacks.trans hkeep.1.callbacks
        cases issued with
        | flushed => exact ⟨hw, hdrops, hcalls⟩
        | failed _ _ _ issuing _ _ state =>
          refine ⟨?_, issuing.drops.trans hdrops, issuing.callbacks.trans hcalls⟩
          exact ⟨state ▸ hw.1, state ▸ hw.2.1, issuing.flushPerf ▸ hw.2.2⟩
        | accepted _ _ issuing _ _ state =>
          refine ⟨?_, issuing.drops.trans hdrops, issuing.callbacks.trans hcalls⟩
          exact ⟨by simp [state], by simp [state], issuing.flushPerf ▸ hw.2.2⟩

/-- **A request keeps the account**: its frame is later than those of the drops and of what has been
returned. -/
theorem Traffic.Drops.request (hd : s.Drops streams s.hal.mPendingRequestsList s.hal)
    (hs : s.Sound) (next : ∀ g ∈ s.frames, g < req.frameNumber)
    (held : h.held ⊆ s.hal.held ++ [req.held])
    (drops : h.mPendingFrameDropList = s.hal.mPendingFrameDropList)
    (callbacks : h.callbacks = s.hal.callbacks) :
    (Traffic.mk h (s.frames ++ [req.frameNumber])
      (s.issued ++ itemsOf req.frameNumber req.buffers) s.called s.unheeded).Drops streams
        h.mPendingRequestsList h := by
  -- an entry is one that was there, or that of the request
  have hentry : ∀ i ∈ h.mPendingRequestsList,
      (∃ j ∈ s.hal.mPendingRequestsList, j.core.held = i.core.held) ∨ i.core.held = req.held := by
    intro i hi
    refine (mem_append.mp (held (mem_map_of_mem hi))).imp mem_map.mp ?_
    exact mem_singleton.mp
  refine ⟨?_, ?_, ?_, callbacks ▸ hd.status, callbacks ▸ hd.errors, ?_⟩
  · rw [callbacks]
    exact fun d hd' => mem_append_left _ (hd.frames d hd')
  · intro d hmem i hi hlive
    rw [callbacks] at hmem
    rcases hentry i hi with ⟨j, hj, hji⟩ | hreq
    · have hframe : j.frameNumber = i.frameNumber :=
        congrArg frameNumber hji
      have hinput : j.inputBuffer = i.inputBuffer :=
        congrArg inputBuffer hji
      rw [← hframe]
      exact hd.before d hmem j hj (hinput.trans hlive)
    · have hframe : i.frameNumber = req.frameNumber :=
        congrArg frameNumber hreq
      rw [hframe]
      exact next _ (hd.frames d hmem)
  · intro p hp i hi
    rw [callbacks] at hp
    rcases hentry i hi with ⟨j, hj, hji⟩ | hreq
    · have hframe : j.frameNumber = i.frameNumber :=
        congrArg frameNumber hji
      rw [← hframe]
      exact hd.done p hp j hj
    · have hframe : i.frameNumber = req.frameNumber :=
        congrArg frameNumber hreq
      obtain ⟨c, hc, -⟩ := hd.returned_called hp
      rw [hframe]
      exact (next _ (hs.issued _ (hs.called _ hc))).ne'
  · rw [drops, callbacks]
    exact hd.entries

theorem Traffic.Apart.request (apart : s.Apart streams) (hs : s.Sound)
    (next : ∀ g ∈ s.frames, g < req.frameNumber)
    (ids : (req.outputBuffers.map fun b => streams.streamId b.stream).Nodup) :
    (Traffic.mk h (s.frames ++ [req.frameNumber])
      (s.issued ++ itemsOf req.frameNumber req.buffers) s.called s.unheeded).Apart streams := by
  have hnew : ∀ a ∈ s.issued, a.frameNumber ≠ req.frameNumber := fun a ha =>
    (next _ (hs.issued a ha)).ne
  intro a ha a' ha' hframe heq
  rcases mem_append.mp ha with ha | ha
  · rcases mem_append.mp ha' with ha' | ha'
    · exact apart a ha a' ha' hframe heq
    · exact absurd (hframe.trans (mem_itemsOf.mp ha').1) (hnew a ha)
  · rcases mem_append.mp ha' with ha' | ha'
    · exact absurd (hframe.symm.trans (mem_itemsOf.mp ha).1) (hnew a' ha')
    · obtain ⟨b, hb, hbeq⟩ := mem_map.mp (mem_itemsOf.mp ha).2
      obtain ⟨b', hb', hbeq'⟩ := mem_map.mp (mem_itemsOf.mp ha').2
      have hstream : b.stream = a.stream := congrArg Prod.fst hbeq
      have hstream' : b'.stream = a'.stream := congrArg Prod.fst hbeq'
      rw [← hstream, ← hstream'] at heq ⊢
      exact congrArg _ (inj_on_of_nodup_map ids hb hb' heq)

end Request

/-- **The invariant**: the entries agree with the traffic, everything that comes in is looked at, and
the drops are accounted for. -/
structure Traffic.DropInv (streams : Streams) (s : Traffic) : Prop where
  sound : s.Sound
  heeds : s.hal.HeedsBuffers
  heeded : s.unheeded = []
  apart : s.Apart streams
  drops : s.Drops streams s.hal.mPendingRequestsList s.hal

theorem heeds_congr (heeds : h.HeedsBuffers) (state : h'.mState = h.mState)
    (flushPerf : h'.mFlushPerf = h.mFlushPerf) : h'.HeedsBuffers := by
  unfold HardwareInterface.HeedsBuffers
  rw [state, flushPerf]
  exact heeds

theorem FlushSteps.heeds {js : List PendingRequest} (hs : FlushSteps n is h js h')
    (heeds : h.HeedsBuffers) : h'.HeedsBuffers := by
  induction hs with
  | nil | later => exact heeds
  | passed _ _ _ reported _ ih => exact ih (heeds_congr heeds reported.state reported.flushPerf)
  | finished _ _ _ reported finished _ ih =>
    refine ih (heeds_congr heeds ?_ ?_)
    · exact finished.state.trans reported.state
    · exact finished.flushPerf.trans reported.flushPerf

theorem MetadataStep.heeds {md : MetadataBuffer} (hs : MetadataStep md h h')
    (heeds : h.HeedsBuffers) : h'.HeedsBuffers := by
  cases hs with
  | ignored => exact heeds
  | refreshed _ refreshed => exact heeds_congr heeds refreshed.state refreshed.flushPerf
  | flushed _ _ before steps after =>
    have hsteps := steps.heeds (heeds_congr heeds before.state before.flushPerf)
    exact heeds_congr hsteps after.state after.flushPerf

theorem BufferStep.heeds {b : StreamBuffer} (hs : BufferStep b f h h')
    (heeds : h.HeedsBuffers) : h'.HeedsBuffers := by
  cases hs with
  | ignored | counted | reprocessed | cached => exact heeds
  | givenBack _ givenBack => exact heeds_congr heeds givenBack.state givenBack.flushPerf

/-- **The callback of an input buffer** reports nothing and returns no output buffer. -/
theorem handleInputBuffer_event (streams : Streams) (now : ℤ) (h : HardwareInterface) :
    FrameEvent streams f [] [] h (handleInputBufferWithLock now f h) ∧
      (handleInputBufferWithLock now f h).mPendingRequestsList ⊆ h.mPendingRequestsList ∧
      (h.HeedsBuffers → (handleInputBufferWithLock now f h).HeedsBuffers) := by
  unfold handleInputBufferWithLock
  split
  · exact ⟨.of_eq f rfl rfl, List.Subset.refl _, id⟩
  · rename_i i hfind
    by_cases hin : i.inputBuffer.isSome = true
    · rw [if_pos hin]
      refine ⟨⟨fun _ => (nomatch ·), ?_, ?_, fun d => ?_⟩, eraseP_subset, id⟩
      · refine (congrArg (notified streams) (append_assoc ..)).trans ?_
        refine (notified_append _ _).trans (congrArg (_ ++ ·) ?_)
        cases i.shutterNotified <;> rfl
      · refine (congrArg returnedBuffers (append_assoc ..)).trans ?_
        refine (returnedBuffers_append _ _).trans (congrArg (_ ++ ·) ?_)
        cases i.shutterNotified <;> rfl
      · show d ∈ h.mPendingFrameDropList ↔ _
        simp
    · rw [if_neg hin]
      exact ⟨.of_eq f rfl rfl, List.Subset.refl _, id⟩

/-- **Every step that meets the condition keeps the invariant.** -/
theorem Traffic.DropStep.inv {op : Op} {t : Traffic} (step : Traffic.DropStep streams op s t)
    (hi : s.DropInv streams) : t.DropInv streams := by
  obtain ⟨cond, step⟩ := step
  have hsound := step.sound hi.sound
  have hactive : ¬s.hal.ignoresMetadata := fun hig => by
    rcases hig with hf | he | hd
    · rw [hi.heeds.2.2] at hf
      cases hf
    · exact hi.heeds.1 he
    · exact hi.heeds.2.1 hd
  cases step with
  | request next distinct step =>
    obtain ⟨hheeds, hdrops, hcalls⟩ := steadyRequest step hi.heeds cond.2
    exact ⟨hsound, hheeds, hi.heeded, hi.apart.request hi.sound next cond.1,
      hi.drops.request hi.sound next (requestStep_held step) hdrops hcalls⟩
  | buffer now issued once =>
    refine ⟨hsound, (handleBuffer_step streams now _ _ s.hal).heeds hi.heeds, ?_, hi.apart,
      hi.drops.callBack hi.sound hi.apart hi.heeds now issued once cond⟩
    show s.unheeded ++ _ = []
    rw [hi.heeded, if_pos hi.heeds]
    rfl
  | @internal _ _ h internal step =>
    -- what is asked of the traffic is asked of what it was before
    have htransfer : ∀ is, s.Drops streams is h → Traffic.Drops streams { s with hal := h } is h :=
      fun is hd => ⟨hd.frames, hd.before, hd.done, hd.status, hd.errors, hd.entries⟩
    cases op with
    | metadata timeOffset first md =>
      cases step
      exact ⟨hsound, (handleMetadata_step ..).heeds hi.heeds, hi.heeded, hi.apart,
        htransfer _ (hi.drops.metadata hi.sound hi.heeded hi.apart hactive timeOffset first cond)⟩
    | inputBuffer now frameNumber =>
      cases step
      obtain ⟨hevent, hsub, hheeds⟩ := handleInputBuffer_event (f := frameNumber) streams now s.hal
      exact ⟨hsound, hheeds hi.heeds, hi.heeded, hi.apart,
        htransfer _ (hi.drops.quiet hevent fun i hi => ⟨i, hsub hi, rfl, rfl⟩)⟩
    | request | buffer => exact internal.elim
    | flushBegin | flushEnd | flushPerfBegin | flushPerfEnd | daemonDied => exact cond.elim

/-- **The drops are accounted for in every state that a run reaches**, if its steps meet the
condition. -/
theorem frameDrops_accounted {batchSize minInFlight : ℕ} {ops : List Op} {t : Traffic}
    (run : Run (Traffic.DropStep streams) ops (.start batchSize minInFlight) t) :
    t.DropsAccounted streams := by
  have hstart : (Traffic.start batchSize minInFlight).DropInv streams := by
    refine ⟨Traffic.start_sound batchSize minInFlight, ⟨(nomatch ·), (nomatch ·), rfl⟩, rfl,
      fun _ => (nomatch ·), ?_⟩
    refine ⟨fun _ => (nomatch ·), fun _ => (nomatch ·), fun _ => (nomatch ·), fun _ => (nomatch ·),
      fun _ => (nomatch ·), fun d => ?_⟩
    exact iff_of_false not_mem_nil fun h => not_mem_nil h.1
  have hinv := run.invariant (I := Traffic.DropInv streams) (fun _ _ _ step => step.inv) hstart
  exact ⟨hinv.drops.status, hinv.drops.errors, hinv.drops.entries⟩

end

/-- A request whose buffer comes in before the metadata of its frame, in which its stream is
dropped: the buffer is returned as failed. -/
theorem frameDrops_accounted_dropped :
    ∃ t, Run (Traffic.DropStep previewStream)
        [.request (channelReturns 0) (previewRequest 1), .buffer 0 (previewBuffer 1) 1,
          .metadata 0 true (droppedMetadata 1)] (.start 0 6) t ∧
      returnedBuffers t.hal.callbacks = [(1, { previewBuffer 1 with status := .error })] ∧
      t.DropsAccounted previewStream := by
  obtain ⟨t, run, hret⟩ : ∃ t, Run (Traffic.DropStep previewStream)
      [.request (channelReturns 0) (previewRequest 1), .buffer 0 (previewBuffer 1) 1,
        .metadata 0 true (droppedMetadata 1)] (.start 0 6) t ∧
      returnedBuffers t.hal.callbacks = [(1, { previewBuffer 1 with status := .error })] := by
    refine ⟨_, .cons ⟨⟨?_, previewRequest_steady 0 1 rfl⟩, .request ?_ ?_ rfl⟩
      (.cons ⟨⟨?_, ?_⟩, .buffer 0 ?_ ?_⟩ (.one ⟨?_, .internal trivial rfl⟩)), ?_⟩
    case refine_8 =>
      -- the metadata is of the frame of the request, and names its stream once
      intro n ids hn hids i hi b hb
      cases hn
      cases hids
      cases mem_singleton.mp hi
      exact ⟨(absurd · (lt_irrefl _)), fun _ => by
        cases mem_singleton.mp hb
        decide⟩
    all_goals decide
  exact ⟨t, run, hret, frameDrops_accounted run⟩

end Hal3
