import MidoCamera.Channel.BatchStream
import Mathlib.Algebra.Order.Group.Nat

/-!
# A batch stream from one start to the next

A stream is started, gets its buffers and its containers from the channel, stops, and puts them
back; `bufDone` and `queueBatchBuf` may be called at any time between. The current container and the
number of the buffers staged in it are cleared by `queueBatchBuf` only. What is written into the
containers is recorded here, each time with the session whose containers the stream has at the time,
and with the number of the turn in which the container has been current.
-/

namespace BatchStream

open Loop List

/-- An image buffer that is written into a container: the turn of the container, the session of the
stream, the container, and the position in it. -/
structure Write where
  turn : ℕ
  session : ℕ
  into : Addr
  position : ℕ
  deriving DecidableEq, Repr

/-- A stream with its buffers: whether `mBufDefs` and `mBatchBufDefs` are there, and whether the
containers have been got since the stream was started. The last two fields are the record. -/
structure Held where
  stream : Stream
  bufDefs : Bool := false
  batchBufDefs : Bool := false
  got : Bool := false
  taken : ℕ := 0
  written : List Write := []

namespace Held

/-- The end of `aggregateBufToBatch`. -/
def stage (h : Held) (a : Addr) (idx : ℕ) : Held :=
  if h.stream.bufsStaged = (h.stream.mem a).numBuffers then h
  else
    { h with
      stream := h.stream.stage a idx
      written := h.written ++ [⟨h.taken, h.stream.session, a, h.stream.bufsStaged⟩] }

/-- `aggregateBufToBatch`: a container that is taken from the free queue has a new turn. -/
def aggregateBufToBatch (h : Held) (idx : ℕ) : Held :=
  if h.stream.batchSize = 0 then h
  else match h.stream.currentBatchBufDef, h.stream.freeBatchBufQ with
    | some a, _ => h.stage a idx
    | none, a :: free =>
      { h with
        stream := { h.stream with currentBatchBufDef := some a, freeBatchBufQ := free }
        taken := h.taken + 1 }.stage a idx
    | none, [] => h

/-- `bufDone`: without `mBufDefs`, a buffer is refused. -/
def bufDone (h : Held) (idx : ℕ) (mapped : Bool) : Held :=
  if idx ≥ h.stream.numBufs || !h.bufDefs || !mapped then h else h.aggregateBufToBatch idx

/-- `start`: the queues are open. -/
def start (h : Held) : Held := { h with stream := { h.stream with active := true }, got := false }

/-- How far `get_bufs` comes: not to the image buffers, not to the containers, or to its end. -/
inductive Got
  | nothing
  | bufs
  | batchBufs (enq : ℕ → Bool)

/-- `get_bufs`: `getBufs`, and then `getBatchBufs`. -/
def getBufs (h : Held) : Got → Held
  | .nothing => h
  | .bufs => { h with bufDefs := true }
  | .batchBufs enq =>
    { h with stream := h.stream.start enq, bufDefs := true, batchBufDefs := true, got := true }

/-- `put_bufs`: `putBatchBufs`, and then `putBufs`. The kernel has no container any more. -/
def putBufs (h : Held) : Held :=
  { h with stream := { h.stream with kernel := [] }, bufDefs := false, batchBufDefs := false }

/-- `stop`: the stream thread empties the queues and ends. -/
def stop (h : Held) : Held :=
  { h with stream := { h.stream with active := false, dataQ := [], freeBatchBufQ := [] } }

/-- `dataNotifyCB`: the data queue of a stream that is stopped takes nothing. -/
def dataNotifyCB (h : Held) (e : Addr × ℕ) (accept : Bool) : Held :=
  let t := { h with stream := { h.stream with kernel := h.stream.kernel.erase e } }
  if accept && h.stream.active then
    { t with stream := { t.stream with dataQ := h.stream.dataQ ++ [e] } }
  else t.bufDone e.1.2 true

end Held

/-- What is called, and what the stream thread does. -/
inductive Act
  | start
  | getBufs (got : Held.Got)
  | bufDone (idx : ℕ) (mapped : Bool)
  | queueBatchBuf (qbuf : Bool)
  | dataNotifyCB (e : Addr × ℕ) (accept : Bool)
  | handleBatchBuffer (enq : Bool)
  | issue (frame : Bool)
  | stop
  | putBufs

/-- A stream is started without buffers, gets them, once, while it is started, and puts them back
before or after it is stopped. -/
def Act.exec (act : Act) (h : Held) : Option Held :=
  match act with
  | .start => if h.stream.active ∨ h.bufDefs then none else some h.start
  | .getBufs got =>
    if h.stream.active ∧ ¬ h.bufDefs ∧ ¬ h.got then some (h.getBufs got) else none
  | .bufDone idx mapped => some (h.bufDone idx mapped)
  | .queueBatchBuf qbuf => some { h with stream := h.stream.queueBatchBuf qbuf }
  | .dataNotifyCB e accept =>
    if e ∈ h.stream.kernel then some (h.dataNotifyCB e accept) else none
  | .handleBatchBuffer enq =>
    if h.stream.active ∧ h.stream.issuing = [] then
      some { h with stream := h.stream.handleBatchBuffer enq }
    else none
  | .issue frame =>
    if h.stream.active then some { h with stream := h.stream.issue frame } else none
  | .stop => if h.stream.active ∧ h.stream.issuing = [] then some h.stop else none
  | .putBufs => if h.bufDefs then some h.putBufs else none

/-- The containers are put back only when none of them is current. -/
def Act.PutsIdle (act : Act) (h : Held) : Prop :=
  act = .putBufs → h.stream.currentBatchBufDef = none

def Stream.Own (s : Stream) (a : Addr) : Prop := a.1 = s.session ∧ a.2 < s.numBatchBufs

def count (ws : List Write) (turn : ℕ) : ℕ := ws.countP (·.turn = turn)

/-- Each buffer is written behind those that were written in the same turn. -/
def Placed (ws : List Write) : Prop :=
  ∀ k w, ws[k]? = some w → w.position = count (ws.take k) w.turn

/-- The current container is one of those that the stream has, and each buffer has been written into
one of those that it had, behind those already there. -/
structure Held.Sound (h : Held) : Prop where
  current : ∀ a, h.stream.currentBatchBufDef = some a → h.batchBufDefs = true ∧ h.stream.Own a
  written : ∀ w ∈ h.written, w.into.1 = w.session ∧ w.into.2 < h.stream.numBatchBufs
  placed : Placed h.written

/-- The containers: those that are current, free, or to come back are the session's. A stream that is
stopped, or has not got its containers yet, has none in its queues, and without its containers the
kernel has none either. -/
structure Held.Places (h : Held) : Prop where
  has : h.batchBufDefs = (h.got && h.bufDefs)
  current : ∀ a, h.stream.currentBatchBufDef = some a → h.batchBufDefs = true ∧ h.stream.Own a
  free : h.batchBufDefs = true → ∀ a ∈ h.stream.freeBatchBufQ, h.stream.Own a
  kernel : ∀ e ∈ h.stream.kernel, h.batchBufDefs = true ∧ h.stream.Own e.1
  data : h.batchBufDefs = true → ∀ e ∈ h.stream.dataQ, h.stream.Own e.1
  empty : h.stream.active = false ∨ h.got = false →
    h.stream.freeBatchBufQ = [] ∧ h.stream.dataQ = []

/-- The record: as many buffers are staged as have been written in this turn. -/
structure Held.Log (h : Held) : Prop where
  idle : h.stream.currentBatchBufDef = none → h.stream.bufsStaged = 0
  staged : h.stream.currentBatchBufDef ≠ none → h.stream.bufsStaged = count h.written h.taken
  turns : ∀ w ∈ h.written, w.turn ≤ h.taken
  written : ∀ w ∈ h.written, w.into.1 = w.session ∧ w.into.2 < h.stream.numBatchBufs
  placed : Placed h.written

section

variable {h t : Held} {a : Addr} {ws : List Write} {w : Write}

theorem Placed.concat (placed : Placed ws) (hw : w.position = count ws w.turn) :
    Placed (ws ++ [w]) := by
  intro k v hv
  rcases lt_or_ge k ws.length with hlt | hge
  · rw [getElem?_append_left hlt] at hv
    rw [take_append_of_le_length hlt.le]
    exact placed k v hv
  · rw [getElem?_append_right hge, getElem?_singleton] at hv
    split at hv
    · next hk =>
      cases hv
      obtain rfl : k = ws.length := by omega
      rw [take_left]
      exact hw
    · cases hv

theorem count_eq_zero {turn : ℕ} (turns : ∀ w ∈ ws, w.turn ≤ turn) : count ws (turn + 1) = 0 := by
  refine countP_eq_zero.mpr fun w hw => ?_
  have hle := turns w hw
  simp only [decide_eq_true_eq]
  omega

/-! ### Staging -/

theorem Held.Log.stage (log : h.Log) (hcur : h.stream.currentBatchBufDef = some a)
    (own : h.stream.Own a) (idx : ℕ) : (h.stage a idx).Log := by
  have hsome : h.stream.currentBatchBufDef ≠ none := by
    rw [hcur]
    exact Option.some_ne_none a
  have hstaged := log.staged hsome
  unfold Held.stage Stream.stage
  split
  · exact log
  · refine ⟨fun hnone => absurd hnone hsome, fun _ => ?_, ?_, ?_, log.placed.concat hstaged⟩
    · show h.stream.bufsStaged + 1 = count (h.written ++ [_]) h.taken
      rw [count, countP_append, ← count, ← hstaged]
      simp
    · intro w hw
      rcases mem_append.mp hw with hold | hnew
      · exact log.turns w hold
      · exact (congrArg Write.turn (mem_singleton.mp hnew)).le
    · intro w hw
      rcases mem_append.mp hw with hold | hnew
      · exact log.written w hold
      · rw [mem_singleton.mp hnew]
        exact own

theorem Held.Places.stage (places : h.Places) (a : Addr) (idx : ℕ) : (h.stage a idx).Places := by
  unfold Held.stage Stream.stage
  split
  · exact places
  · exact ⟨places.has, places.current, places.free, places.kernel, places.data, places.empty⟩

theorem Held.Log.take (log : h.Log) (hcur : h.stream.currentBatchBufDef = none)
    (free : List Addr) :
    Held.Log { h with
      stream := { h.stream with currentBatchBufDef := some a, freeBatchBufQ := free }
      taken := h.taken + 1 } where
  idle := nofun
  staged _ := (log.idle hcur).trans (count_eq_zero log.turns).symm
  turns w hw := (log.turns w hw).trans (Nat.le_succ _)
  written := log.written
  placed := log.placed

theorem Held.Places.take (places : h.Places) (has : h.batchBufDefs = true) {free : List Addr}
    (hfree : h.stream.freeBatchBufQ = a :: free) :
    Held.Places { h with
      stream := { h.stream with currentBatchBufDef := some a, freeBatchBufQ := free }
      taken := h.taken + 1 } := by
  have hown := places.free has
  rw [hfree] at hown
  refine ⟨places.has, ?_, ?_, places.kernel, places.data, fun hempty => ?_⟩
  · rintro b ⟨⟩
    exact ⟨has, hown a mem_cons_self⟩
  · exact fun _ b hb => hown b (mem_cons_of_mem _ hb)
  · have hnil := (places.empty hempty).1
    rw [hfree] at hnil
    cases hnil

/-- **A buffer is done**: it is written into a container that the stream has. -/
theorem Held.bufDone_keeps (places : h.Places) (log : h.Log) (idx : ℕ) (mapped : Bool) :
    (h.bufDone idx mapped).Places ∧ (h.bufDone idx mapped).Log := by
  unfold Held.bufDone Held.aggregateBufToBatch
  split
  · exact ⟨places, log⟩
  next hdefs =>
  split
  · exact ⟨places, log⟩
  split
  · next a hcur => exact ⟨places.stage a idx, log.stage hcur (places.current a hcur).2 idx⟩
  · next a free hcur hfree =>
    -- a queue that is not empty is that of a stream that has its containers
    have hgot : h.got = true := by
      by_contra hne
      have hnil := (places.empty (.inr (Bool.eq_false_iff.mpr hne))).1
      rw [hfree] at hnil
      cases hnil
    have hhas : h.batchBufDefs = true := by
      rw [places.has, hgot]
      simp only [Bool.or_eq_true, not_or, Bool.not_eq_true'] at hdefs
      simpa using hdefs.1.2
    have htaken := places.take hhas hfree
    exact ⟨htaken.stage a idx, (log.take hcur free).stage rfl (htaken.current a rfl).2 idx⟩
  · exact ⟨places, log⟩

/-! ### The other calls -/

/-- **The current container is queued**, and the stream has no current one. -/
theorem Held.queueBatchBuf_keeps (places : h.Places) (log : h.Log) (qbuf : Bool) :
    Held.Places { h with stream := h.stream.queueBatchBuf qbuf } ∧
      Held.Log { h with stream := h.stream.queueBatchBuf qbuf } := by
  unfold Stream.queueBatchBuf
  split
  · exact ⟨places, log⟩
  next a hcur =>
  cases qbuf with
  | false =>
    exact ⟨⟨places.has, places.current, places.free, places.kernel, places.data, places.empty⟩,
      ⟨log.idle, log.staged, log.turns, log.written, log.placed⟩⟩
  | true =>
    refine ⟨⟨places.has, nofun, places.free, fun e he => ?_, places.data, places.empty⟩,
      ⟨fun _ => rfl, fun hne => absurd rfl hne, log.turns, log.written, log.placed⟩⟩
    rcases mem_append.mp he with hold | hnew
    · exact places.kernel e hold
    · rw [mem_singleton.mp hnew]
      exact places.current a hcur

theorem Held.dataNotifyCB_keeps (places : h.Places) (log : h.Log) {e : Addr × ℕ}
    (he : e ∈ h.stream.kernel) (accept : Bool) :
    (h.dataNotifyCB e accept).Places ∧ (h.dataNotifyCB e accept).Log := by
  have hkernel (e' : Addr × ℕ) (he' : e' ∈ h.stream.kernel.erase e) :=
    places.kernel e' (mem_of_mem_erase he')
  unfold Held.dataNotifyCB
  split
  · next haccept =>
    refine ⟨⟨places.has, places.current, places.free, hkernel, fun has e' he' => ?_, ?_⟩,
      ⟨log.idle, log.staged, log.turns, log.written, log.placed⟩⟩
    · rcases mem_append.mp he' with hold | hnew
      · exact places.data has e' hold
      · rw [mem_singleton.mp hnew]
        exact (places.kernel e he).2
    · -- the stream is started, and has its containers
      have hhas := (places.kernel e he).1
      rw [places.has, Bool.and_eq_true] at hhas
      rintro (hactive | hgot)
      · rw [Bool.and_eq_true] at haccept
        exact absurd (haccept.2.symm.trans hactive) Bool.noConfusion
      · exact absurd (hhas.1.symm.trans hgot) Bool.noConfusion
  · refine Held.bufDone_keeps ?_ ?_ ..
    · exact ⟨places.has, places.current, places.free, hkernel, places.data, places.empty⟩
    · exact ⟨log.idle, log.staged, log.turns, log.written, log.placed⟩

theorem Held.handleBatchBuffer_keeps (places : h.Places) (log : h.Log) (enq : Bool) :
    Held.Places { h with stream := h.stream.handleBatchBuffer enq } ∧
      Held.Log { h with stream := h.stream.handleBatchBuffer enq } := by
  unfold Stream.handleBatchBuffer
  split
  · exact ⟨places, log⟩
  next a q rest hdata =>
  have hown (has : h.batchBufDefs = true) : ∀ e ∈ (a, q) :: rest, h.stream.Own e.1 := by
    rw [← hdata]
    exact places.data has
  have hempty : ¬ (h.stream.active = false ∨ h.got = false) := by
    intro hempty
    have hnil := (places.empty hempty).2
    rw [hdata] at hnil
    cases hnil
  have hrest (has : h.batchBufDefs = true) (e : Addr × ℕ) (he : e ∈ rest) :=
    hown has e (mem_cons_of_mem _ he)
  split
  · refine ⟨⟨places.has, places.current, fun has b hb => ?_, places.kernel, hrest,
      fun h => absurd h hempty⟩, ⟨log.idle, log.staged, log.turns, log.written, log.placed⟩⟩
    rcases mem_append.mp hb with hold | hnew
    · exact places.free has b hold
    · rw [mem_singleton.mp hnew]
      exact hown has _ mem_cons_self
  · exact ⟨⟨places.has, places.current, places.free, places.kernel, hrest,
      fun h => absurd h hempty⟩, ⟨log.idle, log.staged, log.turns, log.written, log.placed⟩⟩

/-- **The containers are got**: those of the session before are in no queue. -/
theorem Held.getBufs_keeps (places : h.Places) (log : h.Log) (fresh : h.got = false) (got : Got) : (h.getBufs got).Places ∧ (h.getBufs got).Log := by
  have hhas : h.batchBufDefs = false := by
    rw [places.has, fresh]
    rfl
  have hcur : h.stream.currentBatchBufDef = none := by
    by_contra hne
    obtain ⟨a, ha⟩ := Option.ne_none_iff_exists'.mp hne
    exact absurd ((places.current a ha).1.symm.trans hhas) Bool.noConfusion
  cases got with
  | nothing => exact ⟨places, log⟩
  | bufs =>
    refine ⟨⟨?_, places.current, places.free, places.kernel, places.data, places.empty⟩,
      ⟨log.idle, log.staged, log.turns, log.written, log.placed⟩⟩
    show h.batchBufDefs = (h.got && true)
    rw [hhas, fresh]
    rfl
  | batchBufs enq =>
    refine ⟨⟨rfl, fun a ha => ?_, fun _ a ha => ?_, fun e he => ?_, fun _ e he => ?_, ?_⟩,
      ⟨log.idle, log.staged, log.turns, log.written, log.placed⟩⟩
    · exact absurd (hcur.symm.trans ha) (by simp)
    · obtain ⟨i, hi, rfl⟩ := mem_map.mp ha
      exact ⟨rfl, mem_range.mp (mem_of_mem_filter hi)⟩
    · exact absurd ((places.kernel e he).1.symm.trans hhas) Bool.noConfusion
    · have hnil : h.stream.dataQ = [] := (places.empty (.inr fresh)).2
      have he' : e ∈ h.stream.dataQ := he
      rw [hnil] at he'
      cases he'
    · rintro (hactive | hgot)
      · cases hactive
      · cases hgot

/-- **A step** keeps the places and the record, if it puts no container that is current. -/
theorem Held.keeps_step {act : Act} (places : h.Places) (log : h.Log) (idle : act.PutsIdle h)
    (step : act.exec h = some t) : t.Places ∧ t.Log := by
  cases act with
  | start =>
    obtain ⟨hoff, ⟨⟩⟩ := Option.ite_none_left_eq_some.mp step
    obtain ⟨hactive, hbufs⟩ := not_or.mp hoff
    have hhas : h.batchBufDefs = false := by
      rw [places.has, Bool.eq_false_iff.mpr hbufs, Bool.and_false]
    have hempty := places.empty (.inl (Bool.eq_false_iff.mpr hactive))
    exact ⟨⟨hhas, places.current, places.free, places.kernel, places.data, fun _ => hempty⟩,
      ⟨log.idle, log.staged, log.turns, log.written, log.placed⟩⟩
  | getBufs got =>
    obtain ⟨⟨-, -, hgot⟩, ⟨⟩⟩ := Option.ite_none_right_eq_some.mp step
    exact Held.getBufs_keeps places log (Bool.eq_false_iff.mpr hgot) got
  | bufDone idx mapped =>
    cases step
    exact Held.bufDone_keeps places log idx mapped
  | queueBatchBuf qbuf =>
    cases step
    exact Held.queueBatchBuf_keeps places log qbuf
  | dataNotifyCB e accept =>
    obtain ⟨he, ⟨⟩⟩ := Option.ite_none_right_eq_some.mp step
    exact Held.dataNotifyCB_keeps places log he accept
  | handleBatchBuffer enq =>
    obtain ⟨-, ⟨⟩⟩ := Option.ite_none_right_eq_some.mp step
    exact Held.handleBatchBuffer_keeps places log enq
  | issue frame =>
    obtain ⟨-, ⟨⟩⟩ := Option.ite_none_right_eq_some.mp step
    unfold Stream.issue
    split
    · exact ⟨places, log⟩
    · split
      · exact ⟨⟨places.has, places.current, places.free, places.kernel, places.data, places.empty⟩,
          ⟨log.idle, log.staged, log.turns, log.written, log.placed⟩⟩
      · exact ⟨⟨places.has, places.current, places.free, places.kernel, places.data, places.empty⟩,
          ⟨log.idle, log.staged, log.turns, log.written, log.placed⟩⟩
  | stop =>
    obtain ⟨-, ⟨⟩⟩ := Option.ite_none_right_eq_some.mp step
    exact ⟨⟨places.has, places.current, nofun, places.kernel, nofun, fun _ => ⟨rfl, rfl⟩⟩,
      ⟨log.idle, log.staged, log.turns, log.written, log.placed⟩⟩
  | putBufs =>
    obtain ⟨-, ⟨⟩⟩ := Option.ite_none_right_eq_some.mp step
    have hcur := idle rfl
    refine ⟨⟨?_, fun a ha => ?_, nofun, nofun, nofun, places.empty⟩,
      ⟨log.idle, log.staged, log.turns, log.written, log.placed⟩⟩
    · exact (Bool.and_false _).symm
    · exact absurd (hcur.symm.trans ha) (by simp)

end

def Held.created (batchSize numBufs : ℕ) : Held := { stream := BatchStream.created batchSize numBufs }

/-- **What is staged goes into the containers that the stream has**, from their start, in every run
in which the containers are put back only when none is current. -/
theorem batch_current (batchSize numBufs : ℕ) (acts : List Act) (t : Held)
    (run : Run (fun act h t => act.PutsIdle h ∧ act.exec h = some t) acts
      (.created batchSize numBufs) t) : t.Sound := by
  have hkept : t.Places ∧ t.Log := by
    refine run.invariant (I := fun h => h.Places ∧ h.Log) ?_ ⟨?_, ?_⟩
    · exact fun act h t hstep hkept => Held.keeps_step hkept.1 hkept.2 hstep.1 hstep.2
    · exact ⟨rfl, nofun, nofun, nofun, nofun, fun _ => ⟨rfl, rfl⟩⟩
    · exact ⟨fun _ => rfl, fun hne => absurd rfl hne, nofun, nofun, nofun⟩
  exact ⟨hkept.1.current, hkept.2.written, hkept.2.placed⟩

/-- Two buffers are staged and queued before the stop, and one after the restart. -/
theorem batch_current_two : ∃ t : Held, t.Sound ∧
    t.written = [⟨1, 1, (1, 0), 0⟩, ⟨1, 1, (1, 0), 1⟩, ⟨2, 2, (2, 0), 0⟩] := by
  have hrun : Run (fun (act : Act) h t => act.PutsIdle h ∧ act.exec h = some t)
      [.start, .getBufs (.batchBufs fun _ => true), .bufDone 0 true, .bufDone 1 true,
        .queueBatchBuf true, .stop, .putBufs, .start, .getBufs (.batchBufs fun _ => true),
        .bufDone 2 true] (.created 2 4) _ :=
    .cons ⟨nofun, rfl⟩ (.cons ⟨nofun, rfl⟩ (.cons ⟨nofun, rfl⟩ (.cons ⟨nofun, rfl⟩
      (.cons ⟨nofun, rfl⟩ (.cons ⟨nofun, rfl⟩ (.cons ⟨fun _ => rfl, rfl⟩ (.cons ⟨nofun, rfl⟩
      (.cons ⟨nofun, rfl⟩ (.cons ⟨nofun, rfl⟩ (.nil _))))))))))
  exact ⟨_, batch_current 2 4 _ _ hrun, by decide⟩

/-- A stream is stopped with one buffer staged; the next buffer goes behind it, into the container
that is gone. -/
theorem batch_stale : ∃ acts t, Run (fun (act : Act) h t => act.exec h = some t) acts
    (.created 2 4) t ∧ t.batchBufDefs = true ∧ ¬ t.Sound ∧
      t.written = [⟨1, 1, (1, 0), 0⟩, ⟨1, 2, (1, 0), 1⟩] := by
  refine ⟨[.start, .getBufs (.batchBufs fun _ => true), .bufDone 0 true, .stop, .putBufs, .start,
    .getBufs (.batchBufs fun _ => true), .bufDone 1 true], _,
    .cons rfl (.cons rfl (.cons rfl (.cons rfl (.cons rfl (.cons rfl (.cons rfl
      (.cons rfl (.nil _)))))))), rfl, fun hsound => ?_, by decide⟩
  have hown := (hsound.current (1, 0) rfl).2.1
  revert hown
  decide

end BatchStream
