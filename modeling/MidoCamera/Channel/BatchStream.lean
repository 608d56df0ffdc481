import MidoCamera.Library.Run
import Mathlib.Data.List.Range
import Mathlib.Data.List.Count
import Mathlib.Data.List.Nodup

/-!
# The batch containers of a stream

A stream in batch mode passes its image buffers to the kernel in containers. `bufDone` stages an
image buffer in the current container, which it takes from the free queue, and `queueBatchBuf`
queues that container. A container that the kernel returns waits in the data queue; the stream
thread copies what it lists, gives it back to the free queue, and calls back for one image buffer
after the other, while the container may already be filled again.
-/

namespace BatchStream

open Loop Function List

/-- What a container says of its image buffers: how many fit, how many it lists, and which. -/
structure UserBuf where
  numBuffers : ℕ := 0
  bufsUsed : ℕ := 0
  bufIdx : ℕ → ℤ := fun _ => 0

/-- The first `n` buffers. -/
def UserBuf.listed (c : UserBuf) (n : ℕ) : List ℤ := (List.range n).map c.bufIdx

/-- A container is known by its address: the session of the stream that allocated it, and its
index. -/
abbrev Addr := ℕ × ℕ

def MAX_INFLIGHT_HFR_REQUESTS : ℕ := 48

/-- A stream in batch mode. A container that the kernel or the data queue has goes with the number
of its queueing, and the last five fields record the session: the buffers `bufDone` has accepted,
the contents of the containers queued, the numbers of those returned, and the callbacks made and
still to be made. -/
structure Stream where
  batchSize : ℕ
  numBufs : ℕ
  active : Bool := false
  session : ℕ := 0
  mem : Addr → UserBuf := fun _ => {}
  freeBatchBufQ : List Addr := []
  currentBatchBufDef : Option Addr := none
  bufsStaged : ℕ := 0
  kernel : List (Addr × ℕ) := []
  dataQ : List (Addr × ℕ) := []
  accepted : List ℤ := []
  queued : List (List ℤ) := []
  returned : List ℕ := []
  calledBack : List ℤ := []
  issuing : List ℤ := []

namespace Stream

def numBatchBufs (s : Stream) : ℕ := MAX_INFLIGHT_HFR_REQUESTS / s.batchSize

/-- `start`, and `getBatchBufs` when the channel starts: fresh containers, each of which `enq` lets
into the free queue. The container that was current stays. -/
def start (s : Stream) (enq : ℕ → Bool) : Stream :=
  { s with
    active := true
    session := s.session + 1
    mem := fun a => if a.1 = s.session + 1 then ⟨s.batchSize, s.batchSize, fun _ => 0⟩ else s.mem a
    freeBatchBufQ := ((List.range s.numBatchBufs).filter enq).map (s.session + 1, ·)
    accepted := []
    queued := []
    returned := []
    calledBack := [] }

/-- The end of `aggregateBufToBatch`: the image buffer is staged in the container `a`, if it is not
full. -/
def stage (s : Stream) (a : Addr) (idx : ℕ) : Stream :=
  if s.bufsStaged = (s.mem a).numBuffers then s
  else
    { s with
      mem := update s.mem a
        { s.mem a with bufIdx := update (s.mem a).bufIdx s.bufsStaged idx }
      bufsStaged := s.bufsStaged + 1
      accepted := s.accepted ++ [(idx : ℤ)] }

/-- `aggregateBufToBatch`: the image buffer is staged in the current container; if there is none, it
is taken from the free queue. -/
def aggregateBufToBatch (s : Stream) (idx : ℕ) : Stream :=
  if s.batchSize = 0 then s
  else match s.currentBatchBufDef, s.freeBatchBufQ with
    | some a, _ => s.stage a idx
    | none, a :: free =>
      { s with currentBatchBufDef := some a, freeBatchBufQ := free }.stage a idx
    | none, [] => s

/-- `bufDone`: whether a buffer that is not mapped yet can be mapped. -/
def bufDone (s : Stream) (idx : ℕ) (mapped : Bool) : Stream :=
  if idx ≥ s.numBufs || !mapped then s else s.aggregateBufToBatch idx

/-- `queueBatchBuf`: the current container is queued, or kept as it is. -/
def queueBatchBuf (s : Stream) (qbuf : Bool) : Stream :=
  match s.currentBatchBufDef with
  | none => s
  | some a =>
    let c := s.mem a
    let c' : UserBuf :=
      { c with
        bufsUsed := s.bufsStaged
        bufIdx := fun i => if s.bufsStaged ≤ i ∧ i < c.numBuffers then -1 else c.bufIdx i }
    let t := { s with mem := update s.mem a c' }
    if qbuf then
      { t with
        kernel := s.kernel ++ [(a, s.queued.length)]
        queued := s.queued ++ [c'.listed s.bufsStaged]
        currentBatchBufDef := none
        bufsStaged := 0 }
    else t

/-- `dataNotifyCB`: a container comes back. Without memory for the frame, or for the node of the
data queue, its index is taken for that of an image buffer. -/
def dataNotifyCB (s : Stream) (e : Addr × ℕ) (accept : Bool) : Stream :=
  let t := { s with kernel := s.kernel.erase e }
  if accept then { t with dataQ := s.dataQ ++ [e] } else t.bufDone e.1.2 true

/-- `handleBatchBuffer`, up to the callbacks: what the container lists is copied, and the container
given back to the free queue, if that has memory for it. -/
def handleBatchBuffer (s : Stream) (enq : Bool) : Stream :=
  match s.dataQ with
  | [] => s
  | (a, q) :: rest =>
    if enq then
      { s with
        dataQ := rest
        freeBatchBufQ := s.freeBatchBufQ ++ [a]
        returned := s.returned ++ [q]
        issuing := (s.mem a).listed (s.mem a).bufsUsed }
    else { s with dataQ := rest }

/-- The next callback of `handleBatchBuffer`; without memory for its frame the rest is dropped. -/
def issue (s : Stream) (frame : Bool) : Stream :=
  match s.issuing with
  | [] => s
  | idx :: rest =>
    if frame then { s with calledBack := s.calledBack ++ [idx], issuing := rest }
    else { s with issuing := [] }

/-- `stop`: the stream thread ends, the queues are emptied, and the containers are released. -/
def stop (s : Stream) : Stream :=
  { s with active := false, dataQ := [], freeBatchBufQ := [], kernel := [] }

end Stream

/-- What happens to the stream: calls, containers that come back, and steps of its thread. -/
inductive Op
  | start (enq : ℕ → Bool)
  | bufDone (idx : ℕ) (mapped : Bool)
  | queueBatchBuf (qbuf : Bool)
  | dataNotifyCB (e : Addr × ℕ) (accept : Bool)
  | handleBatchBuffer (enq : Bool)
  | issue (frame : Bool)
  | stop

/-- The thread handles one container after the other, and ends between two. -/
instance : LawfulBEq (Addr × ℕ) := inferInstance

def Op.exec (op : Op) (s : Stream) : Option Stream :=
  match op with
  | .start enq => if s.active then none else some (s.start enq)
  | .bufDone idx mapped => if s.active then some (s.bufDone idx mapped) else none
  | .queueBatchBuf qbuf => if s.active then some (s.queueBatchBuf qbuf) else none
  | .dataNotifyCB e accept =>
    if s.active ∧ e ∈ s.kernel then some (s.dataNotifyCB e accept) else none
  | .handleBatchBuffer enq =>
    if s.active ∧ s.issuing = [] then some (s.handleBatchBuffer enq) else none
  | .issue frame => if s.active then some (s.issue frame) else none
  | .stop => if s.active ∧ s.issuing = [] then some s.stop else none

/-- Allocations succeed: of the queues' nodes and of the frames. -/
def Op.Allocates : Op → Prop
  | .start enq => ∀ i, enq i = true
  | .dataNotifyCB _ accept => accept = true
  | .handleBatchBuffer enq => enq = true
  | .issue frame => frame = true
  | _ => True

/-- Allocations succeed, and nothing is staged when the stream starts. -/
def Op.Sound (s : Stream) (op : Op) : Prop :=
  op.Allocates ∧ ∀ enq, op = .start enq → s.currentBatchBufDef = none

def Step (op : Op) (s t : Stream) : Prop := op.Sound s ∧ op.exec s = some t

namespace Stream

def places (s : Stream) : List Addr :=
  s.freeBatchBufQ ++ s.currentBatchBufDef.toList ++ s.kernel.map Prod.fst ++ s.dataQ.map Prod.fst

def staging (s : Stream) : List ℤ :=
  match s.currentBatchBufDef with
  | some a => (s.mem a).listed s.bufsStaged
  | none => []

/-- **Containers and image buffers are conserved**, while the stream is started: each container is
in one place and lists no more buffers than fit; the buffers accepted are those of the containers
queued, one after the other, and of the current one; each container queued has come back or is with
the kernel or the data queue, listing what it was queued with; and what is called back is what the
containers that came back list, in order. -/
structure Conserved (s : Stream) : Prop where
  containers : ∀ i < s.numBatchBufs, s.places.count (s.session, i) = 1
  used : ∀ i < s.numBatchBufs, (s.mem (s.session, i)).bufsUsed ≤ s.batchSize
  accepted : s.accepted = s.queued.flatten ++ s.staging
  once : ∀ q < s.queued.length,
    (s.kernel.map Prod.snd).count q + (s.dataQ.map Prod.snd).count q + s.returned.count q = 1
  listed : ∀ e ∈ s.kernel ++ s.dataQ,
    s.queued[e.2]? = some ((s.mem e.1).listed (s.mem e.1).bufsUsed)
  calledBack : s.calledBack ++ s.issuing = s.returned.flatMap fun q => s.queued.getD q []

/-- What holds while the stream is started: the places are those of the session's containers, each
of them once, and the numbers of the queueings are in use once each. -/
structure Live (s : Stream) : Prop where
  own : ∀ a, s.places.count a = if a.1 = s.session ∧ a.2 < s.numBatchBufs then 1 else 0
  shape : ∀ a : Addr, a.1 = s.session →
    (s.mem a).numBuffers = s.batchSize ∧ (s.mem a).bufsUsed ≤ s.batchSize
  room : s.bufsStaged ≤ s.batchSize
  accepted : s.accepted = s.queued.flatten ++ s.staging
  once : ∀ q, (s.kernel.map Prod.snd).count q + (s.dataQ.map Prod.snd).count q +
    s.returned.count q = if q < s.queued.length then 1 else 0
  listed : ∀ e ∈ s.kernel ++ s.dataQ,
    s.queued[e.2]? = some ((s.mem e.1).listed (s.mem e.1).bufsUsed)
  calledBack : s.calledBack ++ s.issuing = s.returned.flatMap fun q => s.queued.getD q []

/-- What holds at all times: nothing is staged without a container, and a stream that is stopped has
no container out. -/
structure Kept (s : Stream) : Prop where
  idle : s.currentBatchBufDef = none → s.bufsStaged = 0
  quiet : s.active = false → s.kernel = [] ∧ s.dataQ = [] ∧ s.issuing = []
  live : s.active = true → s.Live

theorem Live.conserved {s : Stream} (h : s.Live) : s.Conserved where
  containers _ hi := (h.own _).trans (if_pos ⟨rfl, hi⟩)
  used _ _ := (h.shape _ rfl).2
  accepted := h.accepted
  once q hq := (h.once q).trans (if_pos hq)
  listed := h.listed
  calledBack := h.calledBack

/-! ## Lists -/

theorem count_map_erase {α β : Type} [BEq α] [LawfulBEq α] [BEq β] (f : α → β) {l : List α} {e : α}
    (h : e ∈ l) (b : β) :
    (l.map f).count b = ((l.erase e).map f).count b + if f e == b then 1 else 0 := by
  rw [((perm_cons_erase h).map f).count_eq, map_cons, count_cons]

theorem places_count (s : Stream) (a : Addr) :
    s.places.count a = s.freeBatchBufQ.count a + s.currentBatchBufDef.toList.count a +
      (s.kernel.map Prod.fst).count a + (s.dataQ.map Prod.fst).count a := by
  simp only [places, count_append]

end Stream

section Listed

variable {c c' : UserBuf} {n : ℕ}

theorem UserBuf.listed_congr (h : ∀ i < n, c.bufIdx i = c'.bufIdx i) :
    c.listed n = c'.listed n :=
  map_congr_left fun i hi => h i (mem_range.mp hi)

theorem UserBuf.listed_succ (c : UserBuf) (n : ℕ) :
    c.listed (n + 1) = c.listed n ++ [c.bufIdx n] := by
  simp only [listed, range_succ, map_append, map_cons, map_nil]

end Listed

namespace Stream

variable {s : Stream} {a : Addr}

theorem Live.current_own (h : s.Live) (hcur : s.currentBatchBufDef = some a) :
    a.1 = s.session := by
  by_contra hne
  have hcount := h.own a
  rw [places_count, hcur, if_neg fun hown => hne hown.1] at hcount
  simp at hcount

theorem Live.out_ne_current (h : s.Live) (hcur : s.currentBatchBufDef = some a) {e : Addr × ℕ}
    (he : e ∈ s.kernel ++ s.dataQ) : e.1 ≠ a := by
  rintro rfl
  have hcount := h.own e.1
  have hout : 0 < (s.kernel.map Prod.fst).count e.1 + (s.dataQ.map Prod.fst).count e.1 := by
    rw [← count_append, ← map_append]
    exact count_pos_iff.mpr (mem_map_of_mem he)
  rw [places_count, hcur, Option.toList_some, count_singleton_self] at hcount
  split at hcount <;> omega

theorem Live.update_shape (h : s.Live) (ha : a.1 = s.session) {c : UserBuf}
    (size : c.numBuffers = (s.mem a).numBuffers) (used : c.bufsUsed ≤ s.batchSize) (b : Addr)
    (hb : b.1 = s.session) :
    (update s.mem a c b).numBuffers = s.batchSize ∧
      (update s.mem a c b).bufsUsed ≤ s.batchSize := by
  rcases eq_or_ne b a with rfl | hne
  · rw [update_self, size]
    exact ⟨(h.shape b hb).1, used⟩
  · rw [update_of_ne hne]
    exact h.shape b hb

/-- **Staging an image buffer** in the current container. -/
theorem Live.stage (h : s.Live) (hcur : s.currentBatchBufDef = some a) (idx : ℕ) :
    (s.stage a idx).Live := by
  have hown := h.current_own hcur
  unfold Stream.stage
  split
  · exact h
  · rename_i hroom
    have hsize := (h.shape a hown).1
    refine ⟨h.own, h.update_shape hown rfl (h.shape a hown).2, ?_, ?_, h.once, fun e he => ?_,
      h.calledBack⟩
    · have hle := h.room
      show s.bufsStaged + 1 ≤ s.batchSize
      omega
    · -- the buffer is the last that the container lists
      have hstaging : s.staging = (s.mem a).listed s.bufsStaged := by simp only [staging, hcur]
      show s.accepted ++ [(idx : ℤ)] = s.queued.flatten ++ staging _
      simp only [staging, hcur, update_self, UserBuf.listed_succ]
      rw [h.accepted, hstaging, append_assoc]
      congr 2
      refine UserBuf.listed_congr fun i hi => ?_
      exact (update_of_ne hi.ne ..).symm
    · show _ = some ((update s.mem a _ e.1).listed (update s.mem a _ e.1).bufsUsed)
      rw [update_of_ne (h.out_ne_current hcur he)]
      exact h.listed e he

theorem Live.take (h : s.Live) (idle : s.bufsStaged = 0) (hcur : s.currentBatchBufDef = none)
    {free : List Addr} (hfree : s.freeBatchBufQ = a :: free) :
    { s with currentBatchBufDef := some a, freeBatchBufQ := free }.Live := by
  refine ⟨fun b => ?_, h.shape, h.room, ?_, h.once, h.listed, h.calledBack⟩
  · refine Eq.trans ?_ (h.own b)
    rw [places_count, places_count, hcur, hfree]
    simp only [Option.toList_none, Option.toList_some, count_nil, count_cons]
    omega
  · have hempty : s.staging = [] := by simp only [staging, hcur]
    rw [h.accepted, hempty]
    simp only [staging, idle, UserBuf.listed, range_zero, map_nil]

theorem Live.aggregateBufToBatch (h : s.Live)
    (idle : s.currentBatchBufDef = none → s.bufsStaged = 0) (idx : ℕ) :
    (s.aggregateBufToBatch idx).Live := by
  unfold Stream.aggregateBufToBatch
  split
  · exact h
  · split
    · rename_i hcur
      exact h.stage hcur idx
    · rename_i hcur hfree
      exact (h.take (idle hcur) hcur hfree).stage rfl idx
    · exact h

theorem Live.bufDone (h : s.Live) (idle : s.currentBatchBufDef = none → s.bufsStaged = 0)
    (idx : ℕ) (mapped : Bool) : (s.bufDone idx mapped).Live := by
  unfold Stream.bufDone
  split
  · exact h
  · exact h.aggregateBufToBatch idle idx

/-- **Queueing the current container**: if the kernel does not take it, it stays current as it
is. -/
theorem Live.queueBatchBuf (h : s.Live) (qbuf : Bool) : (s.queueBatchBuf qbuf).Live := by
  unfold Stream.queueBatchBuf
  split
  · exact h
  rename_i a hcur
  -- only the entries that are not used are overwritten
  set c' : UserBuf :=
    { s.mem a with
      bufsUsed := s.bufsStaged
      bufIdx := fun i =>
        if s.bufsStaged ≤ i ∧ i < (s.mem a).numBuffers then -1 else (s.mem a).bufIdx i } with hc'
  have hlisted : c'.listed s.bufsStaged = (s.mem a).listed s.bufsStaged :=
    UserBuf.listed_congr fun i hi => if_neg fun hle => absurd hle.1 (by omega)
  have hshape := h.update_shape (c := c') (h.current_own hcur) rfl h.room
  have hout (e : Addr × ℕ) (he : e ∈ s.kernel ++ s.dataQ) :
      s.queued[e.2]? = some ((update s.mem a c' e.1).listed (update s.mem a c' e.1).bufsUsed) := by
    rw [update_of_ne (h.out_ne_current hcur he)]
    exact h.listed e he
  have hstaging : s.staging = (s.mem a).listed s.bufsStaged := by simp only [staging, hcur]
  cases qbuf with
  | false =>
    refine ⟨h.own, hshape, h.room, ?_, h.once, hout, h.calledBack⟩
    rw [h.accepted, hstaging, ← hlisted]
    simp only [staging, hcur, update_self, Bool.false_eq_true, if_false]
    rfl
  | true =>
    refine ⟨fun b => ?_, hshape, Nat.zero_le _, ?_, fun q => ?_, fun e he => ?_, ?_⟩
    · refine Eq.trans ?_ (h.own b)
      rw [places_count, places_count, hcur]
      simp only [if_true, map_append, map_cons, map_nil, count_append,
        Option.toList_some, Option.toList_none, count_nil]
      omega
    · show s.accepted = (s.queued ++ [c'.listed s.bufsStaged]).flatten ++ []
      rw [h.accepted, hstaging, hlisted, flatten_append, append_nil]
      simp
    · have hone := h.once q
      simp only [if_true, map_append, map_cons, map_nil, count_append,
        count_singleton, beq_iff_eq, length_append, length_singleton]
      split at hone <;> split <;> split <;> omega
    · -- the container just queued is the last; the others were queued before
      show (s.queued ++ [c'.listed s.bufsStaged])[e.2]? = _
      have he' : e ∈ s.kernel ++ s.dataQ ∨ e = (a, s.queued.length) := by
        simpa [or_assoc, or_comm, or_left_comm] using he
      rcases he' with hold | rfl
      · have hq := hout e hold
        rw [getElem?_append_left (List.getElem?_eq_some_iff.mp hq).1]
        exact hq
      · rw [getElem?_concat_length]
        show _ = some ((update s.mem a c' a).listed (update s.mem a c' a).bufsUsed)
        rw [update_self]
    · show s.calledBack ++ s.issuing =
        s.returned.flatMap fun q => (s.queued ++ [c'.listed s.bufsStaged]).getD q []
      rw [h.calledBack]
      refine flatMap_congr fun q hq => ?_
      have hlt : q < s.queued.length := by
        by_contra hge
        have hone := h.once q
        have hpos := count_pos_iff.mpr hq
        rw [if_neg hge] at hone
        omega
      rw [getD_eq_getElem?_getD, getD_eq_getElem?_getD, getElem?_append_left hlt]

/-- **A container that comes back** waits in the data queue. -/
theorem Live.dataNotifyCB (h : s.Live) {e : Addr × ℕ} (he : e ∈ s.kernel) :
    (s.dataNotifyCB e true).Live := by
  refine ⟨fun b => ?_, h.shape, h.room, h.accepted, fun q => ?_, fun e' he' => ?_, h.calledBack⟩
  · refine Eq.trans ?_ (h.own b)
    rw [places_count, places_count, count_map_erase Prod.fst he]
    simp only [Stream.dataNotifyCB, if_true, map_append, map_cons, map_nil,
      count_append, count_singleton]
    omega
  · refine Eq.trans ?_ (h.once q)
    rw [count_map_erase Prod.snd he]
    simp only [Stream.dataNotifyCB, if_true, map_append, map_cons, map_nil,
      count_append, count_singleton]
    omega
  · refine h.listed e' ?_
    have hmem : e' ∈ s.kernel.erase e ++ (s.dataQ ++ [e]) := he'
    simp only [mem_append, mem_singleton] at hmem ⊢
    rcases hmem with hmem | hmem | rfl
    · exact .inl (mem_of_mem_erase hmem)
    · exact .inr hmem
    · exact .inl he

/-- **Handling a container**: it is free again, and what it lists is to be called back. -/
theorem Live.handleBatchBuffer (h : s.Live) (hidle : s.issuing = []) :
    (s.handleBatchBuffer true).Live := by
  unfold Stream.handleBatchBuffer
  split
  · exact h
  rename_i a q rest hdata
  rw [if_pos rfl]
  refine ⟨fun b => ?_, h.shape, h.room, h.accepted, fun q' => ?_, fun e he => ?_, ?_⟩
  · refine Eq.trans ?_ (h.own b)
    rw [places_count, places_count, hdata]
    simp only [map_cons, count_append, count_cons, count_nil]
    omega
  · refine Eq.trans ?_ (h.once q')
    rw [hdata]
    simp only [map_cons, count_append, count_cons, count_nil]
    omega
  · refine h.listed e ?_
    rw [hdata]
    simp only [mem_append, mem_cons] at he ⊢
    exact he.imp_right Or.inr
  · have hq : s.queued[q]? = some ((s.mem a).listed (s.mem a).bufsUsed) :=
      h.listed (a, q) (by simp [hdata])
    have hdone := h.calledBack
    rw [hidle, append_nil] at hdone
    show s.calledBack ++ _ = (s.returned ++ [q]).flatMap fun q => s.queued.getD q []
    rw [hdone, flatMap_append]
    simp only [flatMap_cons, flatMap_nil, append_nil, getD_eq_getElem?_getD, hq, Option.getD_some]

theorem Live.issue (h : s.Live) : (s.issue true).Live := by
  unfold Stream.issue
  split
  · exact h
  rename_i idx rest hissuing
  refine ⟨h.own, h.shape, h.room, h.accepted, h.once, h.listed, ?_⟩
  show (s.calledBack ++ [idx]) ++ rest = _
  rw [append_assoc, singleton_append, ← hissuing]
  exact h.calledBack

/-- **A stream starts** with all its containers free, if none was left current. -/
theorem Live.start (hcur : s.currentBatchBufDef = none) (idle : s.bufsStaged = 0)
    (quiet : s.kernel = [] ∧ s.dataQ = [] ∧ s.issuing = []) {enq : ℕ → Bool}
    (henq : ∀ i, enq i = true) : (s.start enq).Live := by
  obtain ⟨hkernel, hdata, hissuing⟩ := quiet
  refine ⟨fun a => ?_, fun a ha => ?_, ?_, ?_, fun q => ?_, fun e he => ?_, ?_⟩
  · have hall : (range s.numBatchBufs).filter enq = range s.numBatchBufs :=
      filter_eq_self.mpr fun i _ => henq i
    have hplaces : (s.start enq).places = (range s.numBatchBufs).map (s.session + 1, ·) := by
      simp [places, Stream.start, hcur, hkernel, hdata, hall]
    have hnodup : ((range s.numBatchBufs).map (s.session + 1, ·)).Nodup :=
      Nodup.map (fun _ _ h => (Prod.mk.inj h).2) nodup_range
    rw [hplaces, hnodup.count]
    refine if_congr ?_ rfl rfl
    obtain ⟨x, y⟩ := a
    simp only [mem_map, mem_range, Prod.mk.injEq, Stream.start]
    constructor
    · rintro ⟨i, hi, rfl, rfl⟩
      exact ⟨rfl, hi⟩
    · rintro ⟨rfl, hy⟩
      exact ⟨y, hy, rfl, rfl⟩
  · have ha' : a.1 = s.session + 1 := ha
    simp only [Stream.start, if_pos ha', le_refl, and_self]
  · show s.bufsStaged ≤ s.batchSize
    rw [idle]
    exact Nat.zero_le _
  · simp [Stream.start, staging, hcur]
  · simp [Stream.start, hkernel, hdata]
  · simp [Stream.start, hkernel, hdata] at he
  · simp [Stream.start, hissuing]

theorem Kept.of_live {t : Stream} (hlive : t.Live) (hactive : t.active = true)
    (idle : t.currentBatchBufDef = none → t.bufsStaged = 0) : t.Kept :=
  ⟨idle, fun h => (by rw [hactive] at h; cases h), fun _ => hlive⟩

theorem stage_frame (s : Stream) (a : Addr) (idx : ℕ) :
    (s.stage a idx).active = s.active ∧
      (s.stage a idx).currentBatchBufDef = s.currentBatchBufDef := by
  unfold stage
  split <;> exact ⟨rfl, rfl⟩

theorem bufDone_frame (idle : s.currentBatchBufDef = none → s.bufsStaged = 0) (idx : ℕ)
    (mapped : Bool) : (s.bufDone idx mapped).active = s.active ∧
      ((s.bufDone idx mapped).currentBatchBufDef = none → (s.bufDone idx mapped).bufsStaged = 0) := by
  unfold bufDone aggregateBufToBatch
  split
  · exact ⟨rfl, idle⟩
  split
  · exact ⟨rfl, idle⟩
  split
  · rename_i a hcur
    obtain ⟨hactive, hsame⟩ := stage_frame s a idx
    exact ⟨hactive, fun h => absurd (hcur.symm.trans (hsame.symm.trans h)) (by simp)⟩
  · rename_i a free hcur hfree
    obtain ⟨hactive, hsame⟩ :=
      stage_frame { s with currentBatchBufDef := some a, freeBatchBufQ := free } a idx
    exact ⟨hactive, fun h => absurd (hsame.symm.trans h) (by simp)⟩
  · exact ⟨rfl, idle⟩

/-- **A sound step keeps what holds at all times.** -/
theorem Kept.step {op : Op} {t : Stream} (h : s.Kept) (hstep : Step op s t) : t.Kept := by
  obtain ⟨⟨alloc, fresh⟩, hexec⟩ := hstep
  cases op with
  | start enq =>
    obtain ⟨hactive, ⟨⟩⟩ := Option.ite_none_left_eq_some.mp hexec
    have hcur := fresh enq rfl
    have hquiet := h.quiet (Bool.eq_false_iff.mpr hactive)
    exact .of_live (.start hcur (h.idle hcur) hquiet alloc) rfl h.idle
  | bufDone idx mapped =>
    obtain ⟨hactive, ⟨⟩⟩ := Option.ite_none_right_eq_some.mp hexec
    have hframe := bufDone_frame h.idle idx mapped
    exact .of_live ((h.live hactive).bufDone h.idle idx mapped) (hframe.1.trans hactive) hframe.2
  | queueBatchBuf qbuf =>
    obtain ⟨hactive, ⟨⟩⟩ := Option.ite_none_right_eq_some.mp hexec
    refine .of_live ((h.live hactive).queueBatchBuf qbuf) ?_ ?_
    · unfold queueBatchBuf
      split
      · exact hactive
      · split <;> exact hactive
    · unfold queueBatchBuf
      split
      · exact h.idle
      · split
        · exact fun _ => rfl
        · exact h.idle
  | dataNotifyCB e accept =>
    obtain ⟨⟨hactive, he⟩, ⟨⟩⟩ := Option.ite_none_right_eq_some.mp hexec
    obtain rfl : accept = true := alloc
    exact .of_live ((h.live hactive).dataNotifyCB he) hactive h.idle
  | handleBatchBuffer enq =>
    obtain ⟨⟨hactive, hissuing⟩, ⟨⟩⟩ := Option.ite_none_right_eq_some.mp hexec
    obtain rfl : enq = true := alloc
    refine .of_live ((h.live hactive).handleBatchBuffer hissuing) ?_ ?_
    · unfold handleBatchBuffer
      split
      · exact hactive
      · exact hactive
    · unfold handleBatchBuffer
      split
      · exact h.idle
      · exact h.idle
  | issue frame =>
    obtain ⟨hactive, ⟨⟩⟩ := Option.ite_none_right_eq_some.mp hexec
    obtain rfl : frame = true := alloc
    refine .of_live (h.live hactive).issue ?_ ?_
    · unfold issue
      split
      · exact hactive
      · exact hactive
    · unfold issue
      split
      · exact h.idle
      · exact h.idle
  | stop =>
    obtain ⟨⟨hactive, hissuing⟩, ⟨⟩⟩ := Option.ite_none_right_eq_some.mp hexec
    exact ⟨h.idle, fun _ => ⟨rfl, rfl, hissuing⟩, fun hon => absurd hon Bool.false_ne_true⟩

end Stream

def created (batchSize numBufs : ℕ) : Stream := { batchSize, numBufs }

theorem kept_created (batchSize numBufs : ℕ) : (created batchSize numBufs).Kept where
  idle _ := rfl
  quiet _ := ⟨rfl, rfl, rfl⟩
  live h := absurd h Bool.false_ne_true

/-- **Containers and image buffers are conserved** while the stream is started, in every run in
which allocations succeed and the stream starts with nothing staged. -/
theorem batch_conserved (batchSize numBufs : ℕ) (ops : List Op) (t : Stream)
    (run : Run Step ops (created batchSize numBufs) t) (active : t.active = true) :
    t.Conserved := by
  have hkept : t.Kept :=
    run.invariant (fun _ _ _ hstep h => h.step hstep) (kept_created batchSize numBufs)
  exact (hkept.live active).conserved

/-- Two batches of two, queued at the second attempt and returned the other way round, while a
buffer is staged between the callbacks. -/
def twoBatches : List Op :=
  [.start fun _ => true, .bufDone 0 true, .bufDone 1 true, .queueBatchBuf false, .queueBatchBuf true,
    .bufDone 2 true, .queueBatchBuf true, .dataNotifyCB ((1, 1), 1) true,
    .dataNotifyCB ((1, 0), 0) true, .handleBatchBuffer true, .issue true, .handleBatchBuffer true,
    .issue true, .bufDone 2 true, .issue true]

theorem batch_conserved_two : ∃ t, Run Step twoBatches (created 2 4) t ∧ t.Conserved ∧
    t.calledBack = [2, 0, 1] := by
  obtain ⟨t, hrun, hactive, hcalled⟩ : ∃ t, Run Step twoBatches (created 2 4) t ∧
      t.active = true ∧ t.calledBack = [2, 0, 1] := by
    refine ⟨_, .cons ⟨⟨fun _ => rfl, fun _ _ => rfl⟩, rfl⟩ (.cons ⟨⟨trivial, nofun⟩, rfl⟩
      (.cons ⟨⟨trivial, nofun⟩, rfl⟩ (.cons ⟨⟨trivial, nofun⟩, rfl⟩ (.cons ⟨⟨trivial, nofun⟩, rfl⟩
      (.cons ⟨⟨trivial, nofun⟩, rfl⟩ (.cons ⟨⟨trivial, nofun⟩, rfl⟩ (.cons ⟨⟨rfl, nofun⟩, rfl⟩
      (.cons ⟨⟨rfl, nofun⟩, rfl⟩ (.cons ⟨⟨rfl, nofun⟩, rfl⟩ (.cons ⟨⟨rfl, nofun⟩, rfl⟩
      (.cons ⟨⟨rfl, nofun⟩, rfl⟩ (.cons ⟨⟨rfl, nofun⟩, rfl⟩ (.cons ⟨⟨trivial, nofun⟩, rfl⟩
      (.cons ⟨⟨rfl, nofun⟩, rfl⟩ (.nil _))))))))))))))), rfl, ?_⟩
    decide
  exact ⟨t, hrun, batch_conserved 2 4 _ t hrun hactive, hcalled⟩

/-- **A stream that is stopped with a container half filled starts with a container that is gone**:
the buffer staged before the stop is still counted, in the container of the session before. -/
theorem batch_restarted :
    ¬ ∀ (batchSize numBufs : ℕ) (ops : List Op) (t : Stream),
      Run (fun op s t => op.Allocates ∧ op.exec s = some t) ops (created batchSize numBufs) t →
        t.active = true → t.Conserved := by
  intro h
  have hrun : Run (fun (op : Op) (s t : Stream) => op.Allocates ∧ op.exec s = some t)
      [.start fun _ => true, .bufDone 0 true, .stop, .start fun _ => true] (created 2 4) _ :=
    .cons ⟨fun _ => rfl, rfl⟩ (.cons ⟨trivial, rfl⟩ (.cons ⟨trivial, rfl⟩
      (.cons ⟨fun _ => rfl, rfl⟩ (.nil _))))
  have haccepted := (h 2 4 _ _ hrun rfl).accepted
  revert haccepted
  decide

end BatchStream
