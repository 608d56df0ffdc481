import MidoCamera.Library.Run
import MidoCamera.Stack.Types
import Mathlib.Order.Nat

/-!
# The reference counts of a stream's buffers

A buffer that the data thread dequeues goes to the channel of its bundle, to a channel that is
linked to the stream, and to the thread that serves the callbacks; each returns it by
`mm_stream_buf_done`, and the last one queues it to the kernel again. The reference for the linked
channel is taken only after the bundle has the buffer: if all who have it return it before, it is
queued and handed on at once.

Streams in batch mode are left out. Memory may run out whenever a command is made.
-/

namespace MmCamera

open Loop Function

/-! ## The stream -/

/-- `mm_stream_buf_status_t`, with whether the kernel has the buffer queued, and how many have it:
those that have it and have not called `mm_stream_buf_done`, those in that function between the test
of the count and its decrement, the commands of the callback thread, and the calls that are about to
queue it and to set `in_kernel`. -/
structure RefBuf where
  bufRefcnt : ℕ
  inKernel : Bool
  kernel : Bool
  held : ℕ
  checked : ℕ
  appQueue : ℕ
  queueing : ℕ
  marking : ℕ
  deriving DecidableEq, Repr

/-- Where the data thread is: at its poll; in `mm_stream_data_notify`, at the loop over the
callbacks and at the references; in `mm_stream_handle_rcvd_buf`, at the bundle, at the link and at
the callbacks. -/
inductive DataPc
  | poll
  | scan (i : ℕ)
  | refs (i : ℕ) (hasCb : Bool)
  | bundle (i : ℕ) (hasCb : Bool)
  | link (i : ℕ) (hasCb : Bool)
  | app (i : ℕ) (hasCb : Bool)
  deriving DecidableEq, Repr

/-- Where the thread is that serves the callbacks: at its queue, or in
`mm_stream_dispatch_app_data` at a callback. -/
inductive AppPc
  | idle
  | dispatch (i k : ℕ)
  deriving DecidableEq, Repr

abbrev streamBufCbMax : ℕ := 4

/-- A stream that is active, with its threads. -/
structure RefStream where
  isBundled : Bool
  isLinked : Bool
  data : DataPc
  app : AppPc
  bufs : ℕ → RefBuf
  queuedTwice : Bool

def RefStream.modify (s : RefStream) (i : ℕ) (f : RefBuf → RefBuf) : RefStream :=
  { s with bufs := update s.bufs i (f (s.bufs i)) }

/-- The stream as `mm_stream_reg_buf` leaves it: each buffer is queued, or its owner has it. -/
def RefStream.registered (isBundled isLinked : Bool) (initialRegFlag : ℕ → Bool) : RefStream where
  isBundled := isBundled
  isLinked := isLinked
  data := .poll
  app := .idle
  bufs i :=
    if initialRegFlag i then ⟨0, true, true, 0, 0, 0, 0, 0⟩ else ⟨1, false, false, 1, 0, 0, 0, 0⟩
  queuedTwice := false

/-- A step of the data thread, of a channel that starts or stops, of the callback thread, or of
someone who returns a buffer. Where it can fail, `ok` says whether it does not. -/
inductive BufEvent
  | dequeue (i : ℕ) (ok : Bool)
  | scan (hasCb : Bool)
  | refs
  | bundle (ok : Bool)
  | link (ok : Bool)
  | app (ok : Bool)
  | setLinked (isLinked : Bool)
  | take (i : ℕ)
  | callback (called : Bool)
  | dispatched
  | check (i : ℕ)
  | drop (i : ℕ)
  | qbuf (i : ℕ) (ok : Bool)
  | mark (i : ℕ)
  deriving DecidableEq, Repr

def RefBuf.hand (b : RefBuf) : RefBuf := { b with held := b.held + 1 }

/-- What a step does, if it can be taken. -/
def BufEvent.exec : BufEvent → RefStream → Option RefStream
  -- `mm_stream_read_msm_frame`, which can fail after the buffer is dequeued
  | .dequeue i ok, s =>
    if s.data = .poll ∧ (s.bufs i).kernel then
      some { s.modify i fun b => { b with kernel := false } with
        data := if ok then .scan i else .poll }
    else none
  | .scan hasCb, s =>
    match s.data with
    | .scan i => some { s with data := .refs i hasCb }
    | _ => none
  -- the first part under `buf_lock`, in `mm_stream_data_notify`
  | .refs, s =>
    match s.data with
    | .refs i hasCb =>
      some { s.modify i fun b =>
          { b with
            inKernel := false
            bufRefcnt := ((if s.isBundled then incU8 b.bufRefcnt else b.bufRefcnt) +
              hasCb.toNat) % 2 ^ 8 } with
        data := .bundle i hasCb }
    | _ => none
  | .bundle ok, s =>
    match s.data with
    | .bundle i hasCb =>
      some { (if s.isBundled ∧ ok then s.modify i RefBuf.hand else s) with data := .link i hasCb }
    | _ => none
  -- the second part under `buf_lock`, in `mm_stream_handle_rcvd_buf`
  | .link ok, s =>
    match s.data with
    | .link i hasCb =>
      let s' := if s.isLinked then
          s.modify i fun b =>
            { (if ok then b.hand else b) with bufRefcnt := incU8 b.bufRefcnt }
        else s
      some { s' with data := .app i hasCb }
    | _ => none
  | .app ok, s =>
    match s.data with
    | .app i hasCb =>
      some { (if hasCb ∧ ok then s.modify i fun b => { b with appQueue := b.appQueue + 1 }
        else s) with data := .poll }
    | _ => none
  | .setLinked isLinked, s => some { s with isLinked := isLinked }
  | .take i, s =>
    if s.app = .idle ∧ 0 < (s.bufs i).appQueue then
      some { s.modify i fun b => { b with appQueue := b.appQueue - 1 } with app := .dispatch i 0 }
    else none
  -- a callback is called with a reference of its own, or is not set
  | .callback called, s =>
    match s.app with
    | .dispatch i k =>
      if k < streamBufCbMax then
        some { (if called then
            s.modify i fun b => { b.hand with bufRefcnt := incU8 b.bufRefcnt }
          else s) with app := .dispatch i (k + 1) }
      else none
    | .idle => none
  -- the thread returns the buffer itself
  | .dispatched, s =>
    match s.app with
    | .dispatch i k =>
      if k = streamBufCbMax then some { s.modify i RefBuf.hand with app := .idle } else none
    | .idle => none
  -- `mm_stream_buf_done`: the test of the count, its decrement, the ioctl and the flag
  | .check i, s =>
    if 0 < (s.bufs i).held then
      some (s.modify i fun b =>
        if b.bufRefcnt = 0 then { b with held := b.held - 1 }
        else { b with held := b.held - 1, checked := b.checked + 1 })
    else none
  | .drop i, s =>
    if 0 < (s.bufs i).checked then
      some (s.modify i fun b =>
        { b with
          checked := b.checked - 1
          bufRefcnt := decU8 b.bufRefcnt
          queueing := if decU8 b.bufRefcnt = 0 then b.queueing + 1 else b.queueing })
    else none
  -- the kernel refuses a buffer that it has queued
  | .qbuf i ok, s =>
    if 0 < (s.bufs i).queueing then
      if (s.bufs i).kernel then
        some { s.modify i fun b => { b with queueing := b.queueing - 1 } with queuedTwice := true }
      else
        some (s.modify i fun b =>
          { b with
            queueing := b.queueing - 1
            kernel := ok
            marking := if ok then b.marking + 1 else b.marking })
    else none
  | .mark i, s =>
    if 0 < (s.bufs i).marking then
      some (s.modify i fun b => { b with marking := b.marking - 1, inKernel := true })
    else none

def BufStep (e : BufEvent) (s t : RefStream) : Prop := e.exec s = some t

/-! ## What the counts are for -/

/-- Where the data thread is with a buffer, at its poll if it is not with this one. -/
def DataPc.at (j : ℕ) : DataPc → DataPc
  | .poll => .poll
  | .scan i => if i = j then .scan i else .poll
  | .refs i hasCb => if i = j then .refs i hasCb else .poll
  | .bundle i hasCb => if i = j then .bundle i hasCb else .poll
  | .link i hasCb => if i = j then .link i hasCb else .poll
  | .app i hasCb => if i = j then .app i hasCb else .poll

def AppPc.at (j : ℕ) : AppPc → AppPc
  | .idle => .idle
  | .dispatch i k => if i = j then .dispatch i k else .idle

/-- How many the data thread is yet to hand its buffer to: the bundle, and the callback thread. -/
def DataPc.pending (isBundled : Bool) : DataPc → ℕ
  | .bundle _ hasCb => isBundled.toNat + hasCb.toNat
  | .link _ hasCb | .app _ hasCb => hasCb.toNat
  | .poll | .scan _ | .refs _ _ => 0

def AppPc.has : AppPc → ℕ
  | .dispatch _ _ => 1
  | .idle => 0

/-- **Those who have been or will be handed a buffer and have not returned it.** The linked channel
is among them once `is_linked` has been read. -/
def RefStream.consumers (s : RefStream) (j : ℕ) : ℕ :=
  (s.bufs j).held + (s.bufs j).checked + (s.bufs j).appQueue + (s.app.at j).has +
    (s.data.at j).pending s.isBundled

/-- **What the counts are for**: each counts at least those who have the buffer, a buffer that is
queued or about to be is had by no one, and no buffer has been queued twice. -/
structure RefStream.Counted (s : RefStream) : Prop where
  count : ∀ i, s.consumers i ≤ (s.bufs i).bufRefcnt
  exclusive : ∀ i, (s.bufs i).kernel = true ∨ 0 < (s.bufs i).queueing → s.consumers i = 0
  once : s.queuedTwice = false

/-- **The condition**: when the data thread takes the reference for the linked channel, not all of
those it has taken for the bundle and the callbacks have been returned, if it has taken any. -/
def BufEvent.Cond : BufEvent → RefStream → Prop
  | .link _, s =>
    match s.data with
    | .link i hasCb =>
      s.isLinked = true → s.isBundled = true ∨ hasCb = true → (s.bufs i).bufRefcnt ≠ 0
    | _ => True
  | _, _ => True

def BufEvent.CleanStep (e : BufEvent) (s t : RefStream) : Prop := e.Cond s ∧ BufStep e s t

/-- **A buffer is queued while a channel has it, and queued twice**: the bundle returns it before
the data thread has taken the reference for the linked channel. -/
theorem refCount_early :
    ¬∀ (ls : List BufEvent) (s : RefStream),
      Run BufStep ls (.registered true true fun _ => true) s →
        (∀ i, (s.bufs i).kernel = true → s.consumers i = 0) ∧ s.queuedTwice = false := by
  intro hall
  have htwice := (hall [.dequeue 0 true, .scan false, .refs, .bundle true, .check 0, .drop 0,
    .qbuf 0 true, .link true, .check 0, .drop 0, .qbuf 0 true] _
    (.cons rfl (.cons rfl (.cons rfl (.cons rfl (.cons rfl (.cons rfl (.cons rfl (.cons rfl
      (.cons rfl (.cons rfl (.one rfl)))))))))))).2
  cases htwice

/-- The references that the data thread, and through it the callback thread, can still take. -/
def DataPc.budget : DataPc → ℕ
  | .poll => 0
  | .scan _ | .refs _ _ => 3 + streamBufCbMax
  | .bundle _ hasCb | .link _ hasCb => 1 + streamBufCbMax * hasCb.toNat
  | .app _ hasCb => streamBufCbMax * hasCb.toNat

def AppPc.budget : AppPc → ℕ
  | .dispatch _ k => streamBufCbMax - k
  | .idle => 0

/-- The data thread has a buffer that no one else has had since it was dequeued. -/
def DataPc.Fresh (isBundled : Bool) : DataPc → Prop
  | .scan _ | .refs _ _ => True
  | .bundle _ hasCb | .link _ hasCb => isBundled = false ∧ hasCb = false
  | .poll | .app _ _ => False

/-- **The invariant of a buffer**, with where the two threads are with it: the count covers those
who have it, and is far from wrapping; it is zero while the buffer is queued or about to be, which
one call does at a time; and as long as no one else has it, nothing has happened to it. -/
structure RefBuf.Safe (isBundled : Bool) (d : DataPc) (a : AppPc) (b : RefBuf) : Prop where
  count : b.held + b.checked + b.appQueue + a.has + d.pending isBundled ≤ b.bufRefcnt
  small : b.bufRefcnt + d.budget + streamBufCbMax * b.appQueue + a.budget ≤ 3 + streamBufCbMax
  idle : b.kernel = true ∨ 0 < b.queueing → b.bufRefcnt = 0
  once : b.queueing ≤ 1 ∧ (b.kernel = true → b.queueing = 0)
  fresh : d.Fresh isBundled → b.bufRefcnt = 0 ∧ b.kernel = false ∧ b.queueing = 0

/-- **The invariant.** -/
structure RefStream.Safe (s : RefStream) : Prop where
  bufs : ∀ j, (s.bufs j).Safe s.isBundled (s.data.at j) (s.app.at j)
  once : s.queuedTwice = false

section

variable {s t : RefStream} {e : BufEvent} {i j : ℕ} {isBundled : Bool} {d d' : DataPc}
  {a a' : AppPc} {b : RefBuf} {f : RefBuf → RefBuf}

@[simp] theorem modify_self (s : RefStream) (i : ℕ) (f : RefBuf → RefBuf) :
    (s.modify i f).bufs i = f (s.bufs i) := update_self ..

@[simp] theorem modify_ne (s : RefStream) (f : RefBuf → RefBuf) (h : j ≠ i) :
    (s.modify i f).bufs j = s.bufs j := update_of_ne h ..

/-- **A step is about one buffer**: all else is as it was. -/
structure AboutOne (i : ℕ) (s t : RefStream) : Prop where
  isBundled : t.isBundled = s.isBundled
  bufs : ∀ j, j ≠ i → t.bufs j = s.bufs j
  data : ∀ j, j ≠ i → t.data.at j = s.data.at j
  app : ∀ j, j ≠ i → t.app.at j = s.app.at j

theorem RefStream.Safe.step (hs : s.Safe) (about : AboutOne i s t) (once : t.queuedTwice = false)
    (safe : (s.bufs i).Safe s.isBundled (s.data.at i) (s.app.at i) →
      (t.bufs i).Safe s.isBundled (t.data.at i) (t.app.at i)) : t.Safe := by
  refine ⟨fun j => ?_, once⟩
  rw [about.isBundled]
  by_cases hj : j = i
  · subst hj
    exact safe (hs.bufs j)
  · rw [about.bufs j hj, about.data j hj, about.app j hj]
    exact hs.bufs j

theorem aboutOne_modify (s : RefStream) (i : ℕ) (f : RefBuf → RefBuf) :
    AboutOne i s (s.modify i f) :=
  ⟨rfl, fun _ hj => modify_ne s f hj, fun _ _ => rfl, fun _ _ => rfl⟩

namespace RefBuf.Safe

theorem dequeue (h : b.Safe isBundled .poll a) (kernel : b.kernel = true) (i : ℕ) (ok : Bool) :
    ({ b with kernel := false } : RefBuf).Safe isBundled (if ok then .scan i else .poll) a := by
  have hzero : b.bufRefcnt = 0 := h.idle (.inl kernel)
  have hq : b.queueing = 0 := h.once.2 kernel
  have hcount := h.count
  -- no one has it, so the callback thread is not with it
  have ha : a.has = 0 := by omega
  have hbudget : a.budget = 0 := by
    cases a with
    | idle => rfl
    | dispatch => cases ha
  have happ : b.appQueue = 0 := by omega
  constructor
  · cases ok
    · exact hcount
    · exact hcount
  · simp only [hzero, happ, hbudget]
    cases ok
    · exact Nat.zero_le _
    · exact le_refl (3 + streamBufCbMax)
  · exact fun _ => hzero
  · exact ⟨h.once.1, fun _ => hq⟩
  · exact fun _ => ⟨hzero, rfl, hq⟩

theorem scan (h : b.Safe isBundled (.scan i) a) (hasCb : Bool) :
    b.Safe isBundled (.refs i hasCb) a :=
  ⟨h.count, h.small, h.idle, h.once, h.fresh⟩

theorem refs {hasCb : Bool} (h : b.Safe isBundled (.refs i hasCb) a) :
    ({ b with
      inKernel := false
      bufRefcnt := ((if isBundled then incU8 b.bufRefcnt else b.bufRefcnt) + hasCb.toNat) %
        2 ^ 8 } : RefBuf).Safe isBundled (.bundle i hasCb) a := by
  obtain ⟨hzero, hk, hq⟩ := h.fresh trivial
  obtain ⟨hcount, hsmall, -, -, -⟩ := h
  have hrefs : ((if isBundled then incU8 b.bufRefcnt else b.bufRefcnt) + hasCb.toNat) % 2 ^ 8 =
      isBundled.toNat + hasCb.toNat := by
    rw [hzero]
    cases isBundled <;> cases hasCb <;> rfl
  rw [hrefs]
  constructor
  · simp only [DataPc.pending] at hcount ⊢
    omega
  · have hB : isBundled.toNat ≤ 1 := Bool.toNat_le isBundled
    have hC : hasCb.toNat ≤ 1 := Bool.toNat_le hasCb
    simp only [DataPc.budget, streamBufCbMax] at hsmall ⊢
    omega
  · rintro (hk' | hq')
    · exact absurd hk' (by simp [hk])
    · exact absurd hq (by simpa [Nat.pos_iff_ne_zero] using hq')
  · exact ⟨by rw [hq]; exact Nat.zero_le 1, fun _ => hq⟩
  · rintro ⟨hB, hC⟩
    exact ⟨by rw [hB, hC]; rfl, hk, hq⟩

theorem bundle {hasCb : Bool} (h : b.Safe isBundled (.bundle i hasCb) a) (ok : Bool) :
    (if isBundled ∧ ok then b.hand else b).Safe isBundled (.link i hasCb) a := by
  obtain ⟨hcount, hsmall, hidle, honce, hfresh⟩ := h
  simp only [DataPc.pending] at hcount
  by_cases hB : isBundled = true ∧ ok = true
  · rw [if_pos hB]
    refine ⟨?_, hsmall, hidle, honce, fun hf => absurd hf.1 (by simp [hB.1])⟩
    simp only [RefBuf.hand, DataPc.pending]
    rw [hB.1, Bool.toNat_true] at hcount
    omega
  · rw [if_neg hB]
    refine ⟨?_, hsmall, hidle, honce, hfresh⟩
    simp only [DataPc.pending]
    omega

theorem link {hasCb ok : Bool} (h : b.Safe isBundled (.link i hasCb) a)
    (left : isBundled = true ∨ hasCb = true → b.bufRefcnt ≠ 0) :
    ({ (if ok then b.hand else b) with bufRefcnt := incU8 b.bufRefcnt } : RefBuf).Safe isBundled
      (.app i hasCb) a := by
  have hfree : b.kernel = false ∧ b.queueing = 0 := by
    by_cases hf : isBundled = false ∧ hasCb = false
    · exact (h.fresh hf).2
    · have hne : b.bufRefcnt ≠ 0 := left (by simpa [or_iff_not_and_not] using hf)
      have hidle := mt h.idle hne
      constructor
      · simpa using fun hk => hidle (.inl hk)
      · by_contra hq
        exact hidle (.inr (Nat.pos_of_ne_zero hq))
  obtain ⟨hcount, hsmall, -, -, -⟩ := h
  simp only [DataPc.pending, DataPc.budget, streamBufCbMax] at hcount hsmall
  have hinc : incU8 b.bufRefcnt = b.bufRefcnt + 1 := Nat.mod_eq_of_lt (by omega)
  rw [hinc]
  constructor
  · cases ok
    · simp only [DataPc.pending, Bool.false_eq_true, if_false]
      omega
    · simp only [DataPc.pending, RefBuf.hand, if_true]
      omega
  · cases ok
    all_goals
      simp only [DataPc.budget, streamBufCbMax, RefBuf.hand, Bool.false_eq_true, if_false, if_true]
      omega
  · cases ok
    all_goals simp [RefBuf.hand, hfree]
  · cases ok
    all_goals simp [RefBuf.hand, hfree]
  · exact fun hf => hf.elim

theorem unlinked {hasCb : Bool} (h : b.Safe isBundled (.link i hasCb) a) :
    b.Safe isBundled (.app i hasCb) a := by
  refine ⟨h.count, ?_, h.idle, h.once, fun hf => hf.elim⟩
  have hsmall := h.small
  simp only [DataPc.budget, streamBufCbMax] at hsmall ⊢
  omega

theorem app {hasCb : Bool} (h : b.Safe isBundled (.app i hasCb) a) (ok : Bool) :
    (if hasCb ∧ ok then ({ b with appQueue := b.appQueue + 1 } : RefBuf) else b).Safe isBundled
      .poll a := by
  obtain ⟨hcount, hsmall, hidle, honce, -⟩ := h
  simp only [DataPc.pending, DataPc.budget, streamBufCbMax] at hcount hsmall
  by_cases hB : hasCb = true ∧ ok = true
  · rw [hB.1, Bool.toNat_true] at hcount hsmall
    rw [if_pos hB]
    refine ⟨?_, ?_, hidle, honce, fun hf => hf.elim⟩
    · simp only [DataPc.pending]
      omega
    · simp only [DataPc.budget, streamBufCbMax]
      omega
  · rw [if_neg hB]
    refine ⟨?_, ?_, hidle, honce, fun hf => hf.elim⟩
    · simp only [DataPc.pending]
      omega
    · simp only [DataPc.budget, streamBufCbMax]
      omega

theorem take (h : b.Safe isBundled d .idle) (pos : 0 < b.appQueue) (i : ℕ) :
    ({ b with appQueue := b.appQueue - 1 } : RefBuf).Safe isBundled d (.dispatch i 0) := by
  obtain ⟨hcount, hsmall, hidle, honce, hfresh⟩ := h
  simp only [AppPc.has, AppPc.budget, streamBufCbMax] at hcount hsmall
  refine ⟨?_, ?_, hidle, honce, hfresh⟩
  · simp only [AppPc.has]
    omega
  · simp only [AppPc.budget, streamBufCbMax]
    omega

theorem free (h : b.Safe isBundled d a) (pos : b.bufRefcnt ≠ 0) :
    b.kernel = false ∧ b.queueing = 0 := by
  have hidle := mt h.idle pos
  constructor
  · simpa using fun hk => hidle (.inl hk)
  · by_contra hq
    exact hidle (.inr (Nat.pos_of_ne_zero hq))

theorem callback {k : ℕ} (h : b.Safe isBundled d (.dispatch i k)) (lt : k < streamBufCbMax)
    (called : Bool) :
    (if called then ({ b.hand with bufRefcnt := incU8 b.bufRefcnt } : RefBuf) else b).Safe isBundled
      d (.dispatch i (k + 1)) := by
  have hcount := h.count
  have hsmall := h.small
  simp only [AppPc.has, AppPc.budget, streamBufCbMax] at hcount hsmall lt
  cases called with
  | false =>
    refine ⟨hcount, ?_, h.idle, h.once, h.fresh⟩
    simp only [AppPc.budget, streamBufCbMax, Bool.false_eq_true, if_false]
    omega
  | true =>
    -- the callback thread has a reference of its own
    obtain ⟨hk, hq⟩ := h.free (by omega)
    have hinc : incU8 b.bufRefcnt = b.bufRefcnt + 1 := Nat.mod_eq_of_lt (by omega)
    rw [if_pos rfl, hinc]
    refine ⟨?_, ?_, ?_, ?_, fun hf => absurd (h.fresh hf).1 (by omega)⟩
    · simp only [RefBuf.hand, AppPc.has]
      omega
    · simp only [RefBuf.hand, AppPc.budget, streamBufCbMax]
      omega
    · simp [RefBuf.hand, hk, hq]
    · simp [RefBuf.hand, hk, hq]

theorem dispatched {k : ℕ} (h : b.Safe isBundled d (.dispatch i k)) :
    b.hand.Safe isBundled d .idle := by
  obtain ⟨hcount, hsmall, hidle, honce, hfresh⟩ := h
  simp only [AppPc.has, AppPc.budget, streamBufCbMax] at hcount hsmall
  refine ⟨?_, ?_, hidle, honce, hfresh⟩
  · simp only [RefBuf.hand, AppPc.has]
    omega
  · simp only [RefBuf.hand, AppPc.budget, streamBufCbMax]
    omega

theorem check (h : b.Safe isBundled d a) (pos : 0 < b.held) :
    (if b.bufRefcnt = 0 then ({ b with held := b.held - 1 } : RefBuf)
      else { b with held := b.held - 1, checked := b.checked + 1 }).Safe isBundled d a := by
  obtain ⟨hcount, hsmall, hidle, honce, hfresh⟩ := h
  rw [if_neg (by omega)]
  exact ⟨by simp only; omega, hsmall, hidle, honce, hfresh⟩

theorem drop (h : b.Safe isBundled d a) (pos : 0 < b.checked) :
    ({ b with
      checked := b.checked - 1
      bufRefcnt := decU8 b.bufRefcnt
      queueing := if decU8 b.bufRefcnt = 0 then b.queueing + 1 else b.queueing } : RefBuf).Safe
        isBundled d a := by
  have hcount := h.count
  have hsmall := h.small
  obtain ⟨hk, hq⟩ := h.free (by omega)
  have hdec : decU8 b.bufRefcnt = b.bufRefcnt - 1 := by
    unfold decU8
    simp only [streamBufCbMax] at hsmall
    omega
  rw [hdec, hq]
  refine ⟨?_, ?_, ?_, ?_, fun hf => absurd (h.fresh hf).1 (by omega)⟩
  · simp only
    omega
  · simp only [streamBufCbMax] at hsmall ⊢
    omega
  · simp only [hk, Bool.false_eq_true, false_or]
    split_ifs
    · exact fun _ => ‹_›
    · exact fun hlt => absurd hlt (lt_irrefl 0)
  · simp only [hk, Bool.false_eq_true, false_imp_iff, and_true]
    split_ifs <;> omega

theorem qbuf (h : b.Safe isBundled d a) (pos : 0 < b.queueing) (ok : Bool) :
    b.kernel = false ∧ ({ b with
      queueing := b.queueing - 1
      kernel := ok
      marking := if ok then b.marking + 1 else b.marking } : RefBuf).Safe isBundled d a := by
  obtain ⟨hcount, hsmall, hidle, honce, hfresh⟩ := h
  have hk : b.kernel = false := by
    by_contra hk
    exact absurd (honce.2 (by simpa using hk)) pos.ne'
  have hzero := hidle (.inr pos)
  refine ⟨hk, hcount, hsmall, fun _ => hzero, ?_, fun hf => absurd (hfresh hf).2.2 pos.ne'⟩
  simp only
  omega

end RefBuf.Safe

/-- **Every step that meets the condition keeps the invariant.** -/
theorem BufEvent.CleanStep.safe (h : e.CleanStep s t) (hs : s.Safe) : t.Safe := by
  obtain ⟨hc, h⟩ := h
  unfold BufStep at h
  -- a step is about one buffer and the thread that has it in hand: the rest is as before
  cases e with
  | dequeue i ok =>
    simp only [BufEvent.exec] at h
    by_cases hd : s.data = .poll ∧ (s.bufs i).kernel = true
    · rw [if_pos hd] at h
      cases h
      refine hs.step (i := i) ⟨rfl, fun j hj => update_of_ne hj _ _, fun j hj => ?_, fun _ _ => rfl⟩
        hs.once fun hi => ?_
      · cases ok <;> simp [DataPc.at, hd.1, Ne.symm hj]
      · rw [hd.1] at hi
        have hsafe := hi.dequeue hd.2 i ok
        cases ok <;> simpa [DataPc.at, RefStream.modify] using hsafe
    · rw [if_neg hd] at h
      cases h
  | scan hasCb =>
    simp only [BufEvent.exec] at h
    split at h
    · rename_i i hpc
      cases h
      refine hs.step (i := i) ⟨rfl, fun _ _ => rfl, fun j hj => ?_, fun _ _ => rfl⟩ hs.once
        fun hi => ?_
      · simp [DataPc.at, hpc, Ne.symm hj]
      · simp only [DataPc.at, hpc, if_true] at hi ⊢
        exact hi.scan hasCb
    · cases h
  | refs =>
    simp only [BufEvent.exec] at h
    split at h
    · rename_i i hasCb hpc
      cases h
      refine hs.step (i := i) ⟨rfl, fun j hj => update_of_ne hj _ _, fun j hj => ?_, fun _ _ => rfl⟩
        hs.once fun hi => ?_
      · simp [DataPc.at, hpc, Ne.symm hj]
      · simp only [DataPc.at, hpc, if_true, modify_self] at hi ⊢
        exact hi.refs
    · cases h
  | bundle ok =>
    simp only [BufEvent.exec] at h
    split at h
    · rename_i i hasCb hpc
      cases h
      refine hs.step (i := i) ⟨?_, fun j hj => ?_, fun j hj => ?_, fun _ _ => ?_⟩ ?_ fun hi => ?_
      · split_ifs <;> rfl
      · split_ifs
        · exact update_of_ne hj _ _
        · rfl
      · simp [DataPc.at, hpc, Ne.symm hj]
      · split_ifs <;> rfl
      · split_ifs <;> exact hs.once
      · simp only [DataPc.at, hpc, if_true] at hi ⊢
        have hsafe := hi.bundle ok
        split_ifs at hsafe ⊢
        · simpa [RefStream.modify] using hsafe
        · exact hsafe
    · cases h
  | link ok =>
    simp only [BufEvent.exec] at h
    split at h
    · rename_i i hasCb hpc
      by_cases hlinked : s.isLinked = true
      · -- the condition: a count is left for those that come after the linked channel
        have hleft : s.isBundled = true ∨ hasCb = true → (s.bufs i).bufRefcnt ≠ 0 := by
          simp only [BufEvent.Cond, hpc] at hc
          exact hc hlinked
        rw [if_pos hlinked] at h
        cases h
        refine hs.step (i := i) ⟨rfl, fun j hj => update_of_ne hj _ _, fun j hj => ?_,
          fun _ _ => rfl⟩ hs.once fun hi => ?_
        · simp [DataPc.at, hpc, Ne.symm hj]
        · simp only [DataPc.at, hpc, if_true, modify_self] at hi ⊢
          exact hi.link hleft
      · rw [if_neg hlinked] at h
        cases h
        refine hs.step (i := i) ⟨rfl, fun _ _ => rfl, fun j hj => ?_, fun _ _ => rfl⟩ hs.once
          fun hi => ?_
        · simp [DataPc.at, hpc, Ne.symm hj]
        · simp only [DataPc.at, hpc, if_true] at hi ⊢
          exact hi.unlinked
    · cases h
  | app ok =>
    simp only [BufEvent.exec] at h
    split at h
    · rename_i i hasCb hpc
      cases h
      refine hs.step (i := i) ⟨?_, fun j hj => ?_, fun j hj => ?_, fun _ _ => ?_⟩ ?_ fun hi => ?_
      · split_ifs <;> rfl
      · split_ifs
        · exact update_of_ne hj _ _
        · rfl
      · simp [DataPc.at, hpc, Ne.symm hj]
      · split_ifs <;> rfl
      · split_ifs <;> exact hs.once
      · simp only [DataPc.at, hpc, if_true] at hi ⊢
        have hsafe := hi.app ok
        split_ifs at hsafe ⊢
        · simpa [RefStream.modify] using hsafe
        · exact hsafe
    · cases h
  | setLinked isLinked =>
    cases h
    exact ⟨hs.bufs, hs.once⟩
  | take i =>
    simp only [BufEvent.exec] at h
    by_cases hd : s.app = .idle ∧ 0 < (s.bufs i).appQueue
    · rw [if_pos hd] at h
      cases h
      refine hs.step (i := i) ⟨rfl, fun j hj => update_of_ne hj _ _, fun _ _ => rfl, fun j hj => ?_⟩
        hs.once fun hi => ?_
      · simp [AppPc.at, hd.1, Ne.symm hj]
      · simp only [AppPc.at, hd.1, if_true, modify_self] at hi ⊢
        exact hi.take hd.2 i
    · rw [if_neg hd] at h
      cases h
  | callback called =>
    simp only [BufEvent.exec] at h
    split at h
    · rename_i i k hpc
      by_cases hlt : k < streamBufCbMax
      · rw [if_pos hlt] at h
        cases h
        refine hs.step (i := i) ⟨?_, fun j hj => ?_, fun _ _ => ?_, fun j hj => ?_⟩ ?_ fun hi => ?_
        · split_ifs <;> rfl
        · split_ifs
          · exact update_of_ne hj _ _
          · rfl
        · split_ifs <;> rfl
        · simp [AppPc.at, hpc, Ne.symm hj]
        · split_ifs <;> exact hs.once
        · simp only [AppPc.at, hpc, if_true] at hi ⊢
          have hsafe := hi.callback hlt called
          split_ifs at hsafe ⊢
          · simpa [RefStream.modify] using hsafe
          · exact hsafe
      · rw [if_neg hlt] at h
        cases h
    · cases h
  | dispatched =>
    simp only [BufEvent.exec] at h
    split at h
    · rename_i i k hpc
      by_cases hend : k = streamBufCbMax
      · rw [if_pos hend] at h
        cases h
        refine hs.step (i := i) ⟨rfl, fun j hj => update_of_ne hj _ _,
        fun _ _ => rfl, fun j hj => ?_⟩ hs.once fun hi => ?_
        · simp [AppPc.at, hpc, Ne.symm hj]
        · simp only [AppPc.at, hpc, if_true, modify_self] at hi ⊢
          exact hi.dispatched
      · rw [if_neg hend] at h
        cases h
    · cases h
  | check i =>
    simp only [BufEvent.exec] at h
    by_cases hpos : 0 < (s.bufs i).held
    · rw [if_pos hpos] at h
      cases h
      refine hs.step (aboutOne_modify s i _) hs.once fun hi => ?_
      rw [modify_self]
      exact hi.check hpos
    · rw [if_neg hpos] at h
      cases h
  | drop i =>
    simp only [BufEvent.exec] at h
    by_cases hpos : 0 < (s.bufs i).checked
    · rw [if_pos hpos] at h
      cases h
      refine hs.step (aboutOne_modify s i _) hs.once fun hi => ?_
      rw [modify_self]
      exact hi.drop hpos
    · rw [if_neg hpos] at h
      cases h
  | qbuf i ok =>
    simp only [BufEvent.exec] at h
    by_cases hpos : 0 < (s.bufs i).queueing
    · -- the driver has not the buffer, so that it is not queued twice
      obtain ⟨hkernel, hsafe⟩ := (hs.bufs i).qbuf hpos ok
      rw [if_pos hpos, if_neg (by simp [hkernel])] at h
      cases h
      refine hs.step (aboutOne_modify s i _) hs.once fun hi => ?_
      rw [modify_self]
      exact hsafe
    · rw [if_neg hpos] at h
      cases h
  | mark i =>
    simp only [BufEvent.exec] at h
    by_cases hpos : 0 < (s.bufs i).marking
    · rw [if_pos hpos] at h
      cases h
      refine hs.step (aboutOne_modify s i _) hs.once fun hi => ?_
      rw [modify_self]
      exact ⟨hi.count, hi.small, hi.idle, hi.once, hi.fresh⟩
    · rw [if_neg hpos] at h
      cases h

theorem registered_safe (isBundled isLinked : Bool) (initialRegFlag : ℕ → Bool) :
    (RefStream.registered isBundled isLinked initialRegFlag).Safe := by
  refine ⟨fun j => ?_, rfl⟩
  simp only [RefStream.registered, DataPc.at, AppPc.at]
  cases initialRegFlag j
  · refine ⟨le_rfl, by decide, fun h => absurd h (by decide), by decide, fun h => h.elim⟩
  · refine ⟨le_rfl, by decide, fun _ => rfl, by decide, fun h => h.elim⟩

theorem RefStream.Safe.counted (hs : s.Safe) : s.Counted := by
  refine ⟨fun i => (hs.bufs i).count, fun i hi => ?_, hs.once⟩
  have hzero := (hs.bufs i).idle hi
  have hcount : s.consumers i ≤ (s.bufs i).bufRefcnt := (hs.bufs i).count
  omega

/-- **The counts do what they are for** in every state that a run reaches from the registration of
the buffers whose steps meet the condition: each counts at least those who have been or will be
handed the buffer and have not returned it; so a buffer is queued only when no one has it, and not
twice without being dequeued in between. -/
theorem refCount_counted {isBundled isLinked : Bool} {initialRegFlag : ℕ → Bool}
    {es : List BufEvent}
    (run : Run BufEvent.CleanStep es (.registered isBundled isLinked initialRegFlag) s) :
    s.Counted :=
  (run.invariant (fun _ _ _ hstep hs => hstep.safe hs)
    (registered_safe isBundled isLinked initialRegFlag)).counted

end

/-- A buffer that the bundle returns once the linked channel has it too. -/
theorem refCount_counted_both : ∃ s : RefStream,
    (s.bufs 0).held = 1 ∧ (s.bufs 0).bufRefcnt = 1 ∧ s.Counted :=
  ⟨_, rfl, rfl, @refCount_counted _ true true (fun _ => true)
    [.dequeue 0 true, .scan false, .refs, .bundle true, .link true, .check 0, .drop 0]
    (.cons ⟨trivial, rfl⟩ (.cons ⟨trivial, rfl⟩ (.cons ⟨trivial, rfl⟩ (.cons ⟨trivial, rfl⟩
      (.cons ⟨fun _ _ => by decide, rfl⟩ (.cons ⟨trivial, rfl⟩ (.one ⟨trivial, rfl⟩)))))))⟩

end MmCamera
