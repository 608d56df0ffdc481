import MidoCamera.Stack.BufferRefs
import MidoCamera.Stack.StreamFsm

/-!
# The references for the callbacks of a stream

A stream looks at its callbacks four times: when it is started, to launch the command thread if one
is of type ASYNC, and when it is stopped, to release it; when a frame comes, to take a reference for
the callbacks; and when the command thread takes the frame, calls those that are set, and pays the
reference back. A callback that is called as often as it was asked for removes itself, and others
can be added at any time, so the four looks can disagree.

What the kernel has queued is the subject of `BufferRefs`. The loop of `mm_stream_dispatch_app_data`
holds `cb_lock` and is one step.
-/

namespace MmCamera

open Loop List

/-! ## The callbacks -/

inductive StreamCbType
  | async | sync
  deriving DecidableEq, Repr

/-- `mm_stream_data_cb_t`, whose `cb` is not NULL: `cb` stands for the function and its data. -/
structure DataCb where
  cb : ℕ
  cbCount : ℤ
  cbType : StreamCbType
  deriving DecidableEq, Repr

def DataCb.isAsync (c : DataCb) : Bool := c.cbType ≠ .sync

/-- What is left of a callback after its turn: a positive count goes down by one, and the callback
is reset where it reaches 0. -/
def DataCb.used (c : DataCb) : Option DataCb :=
  if 0 < c.cbCount then
    if c.cbCount - 1 = 0 then none else some { c with cbCount := c.cbCount - 1 }
  else some c

/-- `buf_cb`. -/
abbrev CbTable : Type := Fin streamBufCbMax → Option DataCb

namespace CbTable

/-- The loop by which `mm_stream_fsm_reg`, `mm_stream_fsm_active` and `mm_stream_data_notify` look
for a callback of type ASYNC. -/
def hasCb (t : CbTable) : Bool :=
  (List.finRange streamBufCbMax).any fun k => (t k).any DataCb.isAsync

/-- The loop of `mm_stream_data_notify` calls the callbacks of type SYNC. -/
def notify (t : CbTable) : CbTable := fun k =>
  (t k).bind fun c => if c.isAsync then some c else c.used

/-- The callbacks that `mm_stream_dispatch_app_data` calls. -/
def called (t : CbTable) : List DataCb :=
  (List.finRange streamBufCbMax).filterMap fun k =>
    (t k).filter fun c => c.isAsync && c.cbCount != 0

/-- What the loop of `mm_stream_dispatch_app_data` leaves. -/
def dispatch (t : CbTable) : CbTable := fun k =>
  (t k).bind fun c => if c.isAsync then c.used else some c

def regBufCb (t : CbTable) (val : Option DataCb) : ℤ × CbTable :=
  match (List.finRange streamBufCbMax).find? fun k => (t k).isNone with
  | some k => (0, Function.update t k val)
  | none => (-1, t)

end CbTable

/-! ## The stream and its threads -/

/-- Where the thread is that starts and stops the stream: between the events; in START with the
callbacks looked at, before `VIDIOC_STREAMON`, before the module is told, and on the way out of
`mm_stream_streamon`; in STOP at the poll thread, at `VIDIOC_STREAMOFF` and at the callbacks; and at
the release of the command thread, before it is asked to exit and waiting for it. -/
inductive CtlPc
  | idle
  | launch (hasCb : Bool)
  | streamon (hasCb : Bool)
  | shim (hasCb : Bool)
  | failed (hasCb : Bool)
  | stopping
  | off
  | stopScan
  | exiting (hasCb : Bool)
  | joining
  deriving DecidableEq, Repr

/-- A stream whose buffers are registered, with its data thread, the thread that starts and stops
it, and its command thread: `is_active` and `cmd_queue` of `cmd_thread`, how many threads serve it,
and the buffers they have called the callbacks with and not returned yet.

Beside it stands what has happened: whether a callback was found when the stream was last started,
how often the command thread was launched and released since, and of all frames so far those a
reference was taken for, those that were served, with the callbacks called, and those whose
reference was paid back. -/
structure CbStream where
  state : StreamState
  isBundled : Bool
  isLinked : Bool
  bufCb : CbTable
  bufRefcnt : ℕ → ℕ
  polled : Bool
  streaming : Bool
  data : DataPc
  ctl : CtlPc
  isActive : Bool
  cmdQueue : List ℕ
  threads : ℕ
  returning : List ℕ
  withCb : Bool
  launches : ℕ
  releases : ℕ
  added : List ℕ
  delivered : List (ℕ × List DataCb)
  paid : List ℕ

/-- The stream as it is registered. -/
def CbStream.registered (isBundled isLinked : Bool) (bufCb : CbTable) (bufRefcnt : ℕ → ℕ) :
    CbStream where
  state := .reg
  isBundled := isBundled
  isLinked := isLinked
  bufCb := bufCb
  bufRefcnt := bufRefcnt
  polled := true
  streaming := false
  data := .poll
  ctl := .idle
  isActive := false
  cmdQueue := []
  threads := 0
  returning := []
  withCb := false
  launches := 0
  releases := 0
  added := []
  delivered := []
  paid := []

def DataPc.hasCb : DataPc → Bool
  | .refs _ hasCb | .bundle _ hasCb | .link _ hasCb | .app _ hasCb => hasCb
  | .poll | .scan _ => false

/-- The frame for which the data thread has taken a reference and made no command yet. -/
def DataPc.inHand : DataPc → List ℕ
  | .bundle i hasCb | .link i hasCb | .app i hasCb => if hasCb then [i] else []
  | .poll | .scan _ | .refs _ _ => []

/-- A step of the data thread, of the command thread, of the thread that starts and stops the
stream, or of someone who sets a callback, returns a buffer or has the stream polled. Where it can
fail, `ok` says whether it does not. -/
inductive CbEvent
  | regBufCb (val : Option DataCb)
  | bufDone (i : ℕ)
  | repoll
  | dequeue (i : ℕ) (ok : Bool)
  | scan
  | refs
  | bundle
  | link
  | app (ok : Bool)
  | dispatch
  | dispatched
  | startScan
  | launch
  | streamon (ok : Bool)
  | shim (ok : Bool)
  | stop
  | unpoll (synced : Bool)
  | streamoff (ok : Bool)
  | stopScan
  | exit (ok : Bool)
  | joined
  deriving DecidableEq, Repr

def CbStream.count (s : CbStream) (i : ℕ) (f : ℕ → ℕ) : ℕ → ℕ :=
  Function.update s.bufRefcnt i (f (s.bufRefcnt i))

/-- **The steps of a stream and its threads.** -/
inductive CbStep : CbEvent → CbStream → CbStream → Prop
  | regBufCb {s : CbStream} (val : Option DataCb) :
      CbStep (.regBufCb val) s { s with bufCb := (s.bufCb.regBufCb val).2 }
  -- `mm_stream_buf_done`, by whoever has the buffer
  | bufDone {s : CbStream} (i : ℕ) :
      CbStep (.bufDone i) s { s with bufRefcnt := s.count i fun n => n - 1 }
  -- `mm_stream_qbuf` of the first buffer that is queued
  | repoll {s : CbStream} : CbStep .repoll s { s with polled := true }
  | dequeue {s : CbStream} (i : ℕ) (ok : Bool) (data : s.data = .poll) (polled : s.polled = true)
      (state : s.state = .active) (streaming : s.streaming = true) :
      CbStep (.dequeue i ok) s { s with data := if ok then .scan i else .poll }
  | scan {s : CbStream} {i : ℕ} (data : s.data = .scan i) :
      CbStep .scan s { s with bufCb := s.bufCb.notify, data := .refs i s.bufCb.hasCb }
  | refs {s : CbStream} {i : ℕ} {hasCb : Bool} (data : s.data = .refs i hasCb) :
      CbStep .refs s { s with
        bufRefcnt := s.count i fun n =>
          ((if s.isBundled then incU8 n else n) + hasCb.toNat) % 2 ^ 8
        added := s.added ++ if hasCb then [i] else []
        data := .bundle i hasCb }
  -- what the channel of the bundle does with the buffer is not followed
  | bundle {s : CbStream} {i : ℕ} {hasCb : Bool} (data : s.data = .bundle i hasCb) :
      CbStep .bundle s { s with data := .link i hasCb }
  | link {s : CbStream} {i : ℕ} {hasCb : Bool} (data : s.data = .link i hasCb) :
      CbStep .link s { s with
        bufRefcnt := s.count i fun n => if s.isLinked then incU8 n else n
        data := .app i hasCb }
  -- under `cmd_lock`, which the release of the thread holds until the thread is gone
  | app {s : CbStream} {i : ℕ} {hasCb : Bool} (ok : Bool) (data : s.data = .app i hasCb)
      (lock : s.ctl ≠ .joining) :
      CbStep (.app ok) s { s with
        cmdQueue := s.cmdQueue ++ if hasCb && s.isActive && ok then [i] else []
        data := .poll }
  -- a reference of its own is taken for each callback
  | dispatch {s : CbStream} {i : ℕ} {rest : List ℕ} (queue : s.cmdQueue = i :: rest)
      (free : s.returning.length < s.threads) :
      CbStep .dispatch s { s with
        cmdQueue := rest
        bufCb := s.bufCb.dispatch
        bufRefcnt := s.count i fun n => (n + s.bufCb.called.length) % 2 ^ 8
        returning := s.returning ++ [i]
        delivered := s.delivered ++ [(i, s.bufCb.called)] }
  | dispatched {s : CbStream} {i : ℕ} {rest : List ℕ} (returning : s.returning = i :: rest) :
      CbStep .dispatched s { s with
        returning := rest
        bufRefcnt := s.count i fun n => n - 1
        paid := s.paid ++ [i] }
  -- `mm_stream_fsm_reg`, START
  | startScan {s : CbStream} (ctl : s.ctl = .idle) (state : s.state = .reg) :
      CbStep .startScan s { s with
        ctl := .launch s.bufCb.hasCb, withCb := s.bufCb.hasCb, launches := 0, releases := 0 }
  | launch {s : CbStream} (ctl : s.ctl = .launch true) :
      CbStep .launch s { s with
        cmdQueue := [], isActive := true, threads := s.threads + 1, launches := s.launches + 1,
        state := .active, ctl := .streamon true }
  | launchNone {s : CbStream} (ctl : s.ctl = .launch false) :
      CbStep .launch s { s with state := .active, ctl := .streamon false }
  | streamon {s : CbStream} {hasCb : Bool} (ok : Bool) (ctl : s.ctl = .streamon hasCb) :
      CbStep (.streamon ok) s { s with
        streaming := ok, ctl := if ok then .shim hasCb else .failed hasCb }
  | shim {s : CbStream} {hasCb : Bool} (ok : Bool) (ctl : s.ctl = .shim hasCb) :
      CbStep (.shim ok) s { s with streaming := ok, ctl := if ok then .idle else .failed hasCb }
  -- `mm_stream_fsm_active`, STOP
  | stop {s : CbStream} (ctl : s.ctl = .idle) (state : s.state = .active) :
      CbStep .stop s { s with ctl := .stopping }
  -- a synchronised call comes back when the poll thread is at its poll
  | unpollFailed {s : CbStream} {hasCb : Bool} (synced : Bool) (ctl : s.ctl = .failed hasCb)
      (sync : synced = true → s.data = .poll) :
      CbStep (.unpoll synced) s { s with polled := false, ctl := .exiting hasCb }
  | unpollStop {s : CbStream} (synced : Bool) (ctl : s.ctl = .stopping)
      (sync : synced = true → s.data = .poll) :
      CbStep (.unpoll synced) s { s with polled := false, ctl := .off }
  | streamoff {s : CbStream} (ok : Bool) (ctl : s.ctl = .off) :
      CbStep (.streamoff ok) s { s with streaming := s.streaming && !ok, ctl := .stopScan }
  | stopScan {s : CbStream} (ctl : s.ctl = .stopScan) :
      CbStep .stopScan s { s with ctl := .exiting s.bufCb.hasCb }
  -- the release of the thread, if there is a callback and memory for the command to exit
  | exit {s : CbStream} (ctl : s.ctl = .exiting true) :
      CbStep (.exit true) s { s with ctl := .joining }
  | exitNone {s : CbStream} {hasCb : Bool} (ok : Bool) (ctl : s.ctl = .exiting hasCb)
      (none : (hasCb && ok) = false) : CbStep (.exit ok) s { s with state := .reg, ctl := .idle }
  -- a command thread exits when its queue is empty
  | joined {s : CbStream} (ctl : s.ctl = .joining) (queue : s.cmdQueue = [])
      (returning : s.returning = []) :
      CbStep .joined s { s with
        isActive := false, threads := s.threads - 1, releases := s.releases + 1,
        state := .reg, ctl := .idle }

/-! ## What is claimed of the references -/

/-- **Every reference for the callbacks is paid back**: each belongs to a frame that is with the
data thread, or queued, or served, in this order, and those served are paid back unless the command
thread is about to; a served frame was delivered to a callback; while a frame is on its way, one
thread serves the stream. And the thread is launched once when the stream starts and released once
when it stops, if a callback was set at its start, and not at all otherwise; in a stopped stream
nothing is owed. -/
structure CbStream.PaidBack (s : CbStream) : Prop where
  ledger : s.added = s.paid ++ s.returning ++ s.cmdQueue ++ s.data.inHand
  delivered : s.delivered.map Prod.fst = s.paid ++ s.returning
  called : ∀ d ∈ s.delivered, d.2 ≠ []
  served : s.cmdQueue ++ s.data.inHand ≠ [] → s.isActive = true ∧ s.threads = 1
  started : s.state = .active → s.ctl = .idle → s.launches = s.withCb.toNat ∧ s.releases = 0
  stopped : s.state = .reg → s.ctl = .idle →
    s.launches = s.withCb.toNat ∧ s.releases = s.withCb.toNat ∧ s.added = s.paid

/-- **The condition**: a callback is set when a frame comes only if the command thread is running
and not being released; there is memory for a command; when the command thread takes a frame, a
callback is set that it can call; a callback is set when the stream stops if and only if the thread
was launched; and when the thread is to exit, there is memory for the command, and the data thread
has no frame that it has seen a callback for. -/
def CbEvent.Cond : CbEvent → CbStream → Prop
  | .scan, s => s.bufCb.hasCb = true → s.isActive = true ∧ s.ctl ≠ .joining
  | .app ok, s => s.data.hasCb = true → ok = true
  | .dispatch, s => s.bufCb.called ≠ []
  | .stopScan, s => s.bufCb.hasCb = s.isActive
  | .exit ok, s => s.ctl = .exiting true → ok = true ∧ s.data.hasCb = false
  | _, _ => True

def CbEvent.Clean (e : CbEvent) (s t : CbStream) : Prop := e.Cond s ∧ CbStep e s t

/-- **A reference is never paid back**: the stream is started without a callback, and so without a
command thread, and then one is set. -/
theorem callbackRefs_lost :
    ¬∀ (es : List CbEvent) (s : CbStream),
      Run CbStep es (.registered false false (fun _ => none) fun _ => 0) s → s.PaidBack := by
  intro hall
  have hledger := (hall [.startScan, .launch, .streamon true, .shim true,
    .regBufCb (some ⟨0, -1, .async⟩), .dequeue 0 true, .scan, .refs, .bundle, .link, .app true] _
    (.cons (.startScan rfl rfl) (.cons (.launchNone rfl)
      (.cons (.streamon true rfl) (.cons (.shim true rfl)
        (.cons (.regBufCb _) (.cons (.dequeue 0 true rfl rfl rfl rfl) (.cons (.scan rfl)
          (.cons (.refs rfl) (.cons (.bundle rfl) (.cons (.link rfl)
            (.one (.app true rfl (by decide)))))))))))))).ledger
  exact absurd hledger (by decide)

/-- The stream is active, and its command thread runs if a callback was set at the start. -/
def CbStream.Up (s : CbStream) : Prop :=
  s.state = .active ∧ s.isActive = s.withCb ∧ s.launches = s.withCb.toNat ∧ s.releases = 0

/-- The stream is stopped, and its command thread has been released. -/
def CbStream.Over (s : CbStream) : Prop :=
  s.state = .reg ∧ s.isActive = false ∧ s.launches = s.withCb.toNat ∧ s.releases = s.withCb.toNat

/-- What the thread that starts and stops the stream knows where it is. -/
def CbStream.Session (s : CbStream) : Prop :=
  match s.ctl with
  | .idle => s.Up ∨ s.Over
  | .launch hasCb => s.state = .reg ∧ s.isActive = false ∧ s.withCb = hasCb ∧ s.launches = 0 ∧
      s.releases = 0
  | .streamon hasCb | .shim hasCb | .failed hasCb | .exiting hasCb => s.Up ∧ s.withCb = hasCb
  | .stopping | .off | .stopScan => s.Up
  | .joining => s.Up ∧ s.withCb = true

/-- **The invariant.** -/
structure CbStream.Safe (s : CbStream) : Prop where
  ledger : s.added = s.paid ++ s.returning ++ s.cmdQueue ++ s.data.inHand
  delivered : s.delivered.map Prod.fst = s.paid ++ s.returning
  called : ∀ d ∈ s.delivered, d.2 ≠ []
  threads : s.threads = s.isActive.toNat
  inactive : s.isActive = false → s.cmdQueue = [] ∧ s.returning = [] ∧ s.data.hasCb = false
  joining : s.ctl = .joining → s.data.hasCb = false
  session : s.Session

theorem registered_safe_callbacks (isBundled isLinked : Bool) (bufCb : CbTable)
    (bufRefcnt : ℕ → ℕ) : (CbStream.registered isBundled isLinked bufCb bufRefcnt).Safe where
  ledger := rfl
  delivered := rfl
  called := fun _ h => nomatch h
  threads := rfl
  inactive := fun _ => ⟨rfl, rfl, rfl⟩
  joining := (nomatch ·)
  session := .inr ⟨rfl, rfl, rfl, rfl⟩

section

variable {s t : CbStream} {e : CbEvent} {i : ℕ}

theorem DataPc.inHand_eq_nil {d : DataPc} (h : d.hasCb = false) : d.inHand = [] := by
  cases d with
  | poll | scan | refs => rfl
  | bundle _ hasCb | link _ hasCb | app _ hasCb => exact if_neg (by simpa [DataPc.hasCb] using h)

namespace CbStream.Safe

theorem data (hs : s.Safe) (d : DataPc) (inHand : d.inHand = s.data.inHand)
    (hasCb : d.hasCb = true → s.isActive = true ∧ s.ctl ≠ .joining) (bufCb : CbTable)
    (bufRefcnt : ℕ → ℕ) :
    { s with bufCb := bufCb, bufRefcnt := bufRefcnt, data := d }.Safe where
  ledger := by
    show s.added = s.paid ++ s.returning ++ s.cmdQueue ++ d.inHand
    rw [inHand, ← hs.ledger]
  delivered := hs.delivered
  called := hs.called
  threads := hs.threads
  inactive := fun hoff => by
    refine ⟨(hs.inactive hoff).1, (hs.inactive hoff).2.1, ?_⟩
    by_contra hcb
    exact absurd (hasCb (by simpa using hcb)).1 (by simp [show s.isActive = false from hoff])
  joining := fun hjoin => by
    by_contra hcb
    exact (hasCb (by simpa using hcb)).2 hjoin
  session := hs.session

theorem running (hs : s.Safe) (hasCb : s.data.hasCb = true) :
    s.isActive = true ∧ s.ctl ≠ .joining := by
  constructor
  · by_contra hoff
    exact absurd (hs.inactive (by simpa using hoff)).2.2 (by simp [hasCb])
  · exact fun hjoin => absurd (hs.joining hjoin) (by simp [hasCb])

theorem refs (hs : s.Safe) {hasCb : Bool} (data : s.data = .refs i hasCb) (bufRefcnt : ℕ → ℕ) :
    { s with
      bufRefcnt := bufRefcnt
      added := s.added ++ if hasCb then [i] else []
      data := .bundle i hasCb }.Safe where
  ledger := by
    have hledger := hs.ledger
    simp only [data, DataPc.inHand, append_nil] at hledger
    simp only [hledger, DataPc.inHand]
  delivered := hs.delivered
  called := hs.called
  threads := hs.threads
  inactive := fun hoff => ⟨(hs.inactive hoff).1, (hs.inactive hoff).2.1, by
    simpa [data, DataPc.hasCb] using (hs.inactive hoff).2.2⟩
  joining := fun hjoin => by simpa [data, DataPc.hasCb] using hs.joining hjoin
  session := hs.session

theorem app (hs : s.Safe) {hasCb ok : Bool} (data : s.data = .app i hasCb)
    (memory : hasCb = true → ok = true) :
    { s with
      cmdQueue := s.cmdQueue ++ if hasCb && s.isActive && ok then [i] else []
      data := .poll }.Safe where
  ledger := by
    have hledger := hs.ledger
    cases hasCb with
    | false => simpa [data, DataPc.inHand] using hledger
    | true =>
      have hactive : s.isActive = true := (hs.running (by rw [data]; rfl)).1
      simpa [data, DataPc.inHand, hactive, memory rfl] using hledger
  delivered := hs.delivered
  called := hs.called
  threads := hs.threads
  inactive := fun hoff => by
    obtain ⟨hqueue, hreturning, -⟩ := hs.inactive hoff
    exact ⟨by simp [hqueue, show s.isActive = false from hoff], hreturning, rfl⟩
  joining := fun _ => rfl
  session := hs.session

theorem dispatch (hs : s.Safe) {rest : List ℕ} (queue : s.cmdQueue = i :: rest)
    (called : s.bufCb.called ≠ []) (bufCb : CbTable) (bufRefcnt : ℕ → ℕ) :
    { s with
      cmdQueue := rest
      bufCb := bufCb
      bufRefcnt := bufRefcnt
      returning := s.returning ++ [i]
      delivered := s.delivered ++ [(i, s.bufCb.called)] }.Safe where
  ledger := by
    show s.added = s.paid ++ (s.returning ++ [i]) ++ rest ++ s.data.inHand
    rw [hs.ledger, queue]
    simp only [append_assoc, singleton_append]
  delivered := by simp only [map_append, hs.delivered, map_cons, map_nil, append_assoc]
  called := fun d hd => by
    rcases mem_append.mp hd with hd | hd
    · exact hs.called d hd
    · cases mem_singleton.mp hd
      exact called
  threads := hs.threads
  inactive := fun hoff => absurd (hs.inactive hoff).1 (by simp [queue])
  joining := hs.joining
  session := hs.session

theorem dispatched (hs : s.Safe) {rest : List ℕ} (returning : s.returning = i :: rest)
    (bufRefcnt : ℕ → ℕ) :
    { s with returning := rest, bufRefcnt := bufRefcnt, paid := s.paid ++ [i] }.Safe where
  ledger := by
    show s.added = (s.paid ++ [i]) ++ rest ++ s.cmdQueue ++ s.data.inHand
    rw [hs.ledger, returning, append_cons]
  delivered := by
    show s.delivered.map Prod.fst = (s.paid ++ [i]) ++ rest
    rw [hs.delivered, returning, append_cons]
  called := hs.called
  threads := hs.threads
  inactive := fun hoff => absurd (hs.inactive hoff).2.1 (by simp [returning])
  joining := hs.joining
  session := hs.session

theorem control (hs : s.Safe) (c : CtlPc) {state : StreamState} {withCb : Bool}
    {launches releases : ℕ} (joining : c = .joining → s.data.hasCb = false)
    (session : { s with
      ctl := c, state := state, withCb := withCb, launches := launches, releases := releases
      : CbStream }.Session) (polled streaming : Bool) :
    { s with
      ctl := c, state := state, withCb := withCb, launches := launches, releases := releases,
      polled := polled, streaming := streaming }.Safe :=
  ⟨hs.ledger, hs.delivered, hs.called, hs.threads, hs.inactive, joining, session⟩

theorem launched (hs : s.Safe) (isActive : s.isActive = false) (withCb : s.withCb = true)
    (launches : s.launches = 0) (releases : s.releases = 0) :
    { s with
      cmdQueue := [], isActive := true, threads := s.threads + 1, launches := s.launches + 1,
      state := .active, ctl := .streamon true }.Safe where
  ledger := by rw [← (hs.inactive isActive).1]; exact hs.ledger
  delivered := hs.delivered
  called := hs.called
  threads := by
    show s.threads + 1 = 1
    rw [hs.threads, isActive]
    rfl
  inactive := (nomatch ·)
  joining := (nomatch ·)
  session := ⟨⟨rfl, withCb.symm, by rw [launches, withCb]; rfl, releases⟩, withCb⟩

theorem joined (hs : s.Safe) (ctl : s.ctl = .joining) (queue : s.cmdQueue = [])
    (returning : s.returning = []) (up : s.Up) (withCb : s.withCb = true) :
    { s with
      isActive := false, threads := s.threads - 1, releases := s.releases + 1,
      state := .reg, ctl := .idle }.Safe where
  ledger := hs.ledger
  delivered := hs.delivered
  called := hs.called
  threads := by
    show s.threads - 1 = 0
    rw [hs.threads, up.2.1, withCb]
    rfl
  inactive := fun _ => ⟨queue, returning, hs.joining ctl⟩
  joining := (nomatch ·)
  session := .inr ⟨rfl, rfl, up.2.2.1, by rw [up.2.2.2, withCb]; rfl⟩

end CbStream.Safe

/-- **Every step that meets the condition keeps the invariant.** -/
theorem CbEvent.Clean.safe (h : e.Clean s t) (hs : s.Safe) : t.Safe := by
  obtain ⟨hc, h⟩ := h
  have hsession := hs.session
  unfold CbStream.Session at hsession
  cases h with
  | regBufCb val | bufDone i => exact hs.data _ rfl hs.running _ _
  | repoll =>
    exact ⟨hs.ledger, hs.delivered, hs.called, hs.threads, hs.inactive, hs.joining, hs.session⟩
  | dequeue i ok data polled state streaming =>
    refine hs.data _ ?_ (fun hcb => ?_) _ _
    · rw [data]
      cases ok <;> rfl
    · cases ok <;> cases hcb
  | scan data => exact hs.data (.refs _ _) (by rw [data]; rfl) (fun hcb => hc hcb) _ _
  | refs data => exact hs.refs data _
  | bundle data =>
    -- the frame stays in hand
    exact hs.data (.link _ _) (by rw [data]; rfl)
      (fun hcb => hs.running (by rw [data]; exact hcb)) _ _
  | link data =>
    exact hs.data (.app _ _) (by rw [data]; rfl)
      (fun hcb => hs.running (by rw [data]; exact hcb)) _ _
  | app ok data lock => exact hs.app data (by simpa [CbEvent.Cond, data, DataPc.hasCb] using hc)
  | dispatch queue free => exact hs.dispatch queue hc _ _
  | dispatched returning => exact hs.dispatched returning _
  | startScan ctl state =>
    rw [ctl] at hsession
    -- no command thread is left of an earlier start
    have hoff : s.isActive = false := by
      rcases hsession with hup | hover
      · exact absurd (state.symm.trans hup.1) (by decide)
      · exact hover.2.1
    exact hs.control (.launch _) (nomatch ·) ⟨state, hoff, rfl, rfl, rfl⟩ _ _
  | launch ctl =>
    rw [ctl] at hsession
    exact hs.launched hsession.2.1 hsession.2.2.1 hsession.2.2.2.1 hsession.2.2.2.2
  | launchNone ctl =>
    rw [ctl] at hsession
    obtain ⟨-, hoff, hcb, hlaunches, hreleases⟩ := hsession
    exact hs.control (.streamon _) (nomatch ·) ⟨⟨rfl, by rw [hoff, hcb],
      by rw [hlaunches, hcb]; rfl, hreleases⟩, hcb⟩ _ _
  | streamon ok ctl =>
    rw [ctl] at hsession
    cases ok with
    | false => exact hs.control (.failed _) (nomatch ·) hsession _ _
    | true => exact hs.control (.shim _) (nomatch ·) hsession _ _
  | shim ok ctl =>
    rw [ctl] at hsession
    cases ok with
    | false => exact hs.control (.failed _) (nomatch ·) hsession _ _
    | true => exact hs.control .idle (nomatch ·) (.inl hsession.1) _ _
  | stop ctl state =>
    rw [ctl] at hsession
    have hup : s.Up := by
      rcases hsession with hup | hover
      · exact hup
      · exact absurd (state.symm.trans hover.1) (by decide)
    exact hs.control .stopping (nomatch ·) hup _ _
  | unpollFailed synced ctl sync =>
    rw [ctl] at hsession
    exact hs.control (.exiting _) (nomatch ·) hsession _ _
  | unpollStop synced ctl sync =>
    rw [ctl] at hsession
    exact hs.control .off (nomatch ·) hsession _ _
  | streamoff ok ctl =>
    rw [ctl] at hsession
    exact hs.control .stopScan (nomatch ·) hsession _ _
  | stopScan ctl =>
    rw [ctl] at hsession
    -- the condition: what is seen now is what was seen at the start
    have hcb : s.bufCb.hasCb = s.isActive := hc
    exact hs.control (.exiting _) (nomatch ·) ⟨hsession, by rw [hcb, hsession.2.1]⟩ _ _
  | exit ctl =>
    rw [ctl] at hsession
    exact hs.control .joining (fun _ => (hc ctl).2) hsession _ _
  | @exitNone _ hasCb ok ctl none =>
    rw [ctl] at hsession
    obtain ⟨⟨-, hactive, hlaunches, hreleases⟩, hcb⟩ := hsession
    -- the condition: there is memory to ask a thread that was launched
    have hnone : hasCb = false := by
      by_contra hlaunched
      have htrue : hasCb = true := by simpa using hlaunched
      have hok : ok = true := (hc (htrue ▸ ctl)).1
      rw [htrue, hok] at none
      cases none
    rw [hnone] at hcb
    exact hs.control .idle (nomatch ·) (.inr ⟨rfl, by rw [hactive, hcb], hlaunches,
      by rw [hreleases, hcb]; rfl⟩) _ _
  | joined ctl queue returning =>
    rw [ctl] at hsession
    exact hs.joined ctl queue returning hsession.1 hsession.2

theorem CbStream.Safe.paidBack (hs : s.Safe) : s.PaidBack where
  ledger := hs.ledger
  delivered := hs.delivered
  called := hs.called
  served := fun howed => by
    have hactive : s.isActive = true := by
      by_contra hoff
      obtain ⟨hqueue, -, hcb⟩ := hs.inactive (by simpa using hoff)
      exact howed (by rw [hqueue, DataPc.inHand_eq_nil hcb]; rfl)
    exact ⟨hactive, by rw [hs.threads, hactive]; rfl⟩
  started := fun hstate hctl => by
    have hsession := hs.session
    simp only [CbStream.Session, hctl] at hsession
    rcases hsession with hup | hover
    · exact hup.2.2
    · exact absurd (hstate.symm.trans hover.1) (by decide)
  stopped := fun hstate hctl => by
    have hsession := hs.session
    simp only [CbStream.Session, hctl] at hsession
    rcases hsession with hup | ⟨-, hoff, hlaunches, hreleases⟩
    · exact absurd (hstate.symm.trans hup.1) (by decide)
    · obtain ⟨hqueue, hreturning, hcb⟩ := hs.inactive hoff
      refine ⟨hlaunches, hreleases, ?_⟩
      rw [hs.ledger, hqueue, hreturning, DataPc.inHand_eq_nil hcb]
      simp only [append_nil]

/-- **The references for the callbacks are paid back** in every state that a run of a stream reaches
whose steps meet the condition: whatever callbacks were set when it was registered, however often it
is started and stopped, and whenever callbacks are set and frames come. -/
theorem callbackRefs_paidBack {isBundled isLinked : Bool} {bufCb : CbTable} {bufRefcnt : ℕ → ℕ}
    {es : List CbEvent}
    (run : Run CbEvent.Clean es (.registered isBundled isLinked bufCb bufRefcnt) s) : s.PaidBack :=
  (run.invariant (fun _ _ _ hstep hs => hstep.safe hs)
    (registered_safe_callbacks isBundled isLinked bufCb bufRefcnt)).paidBack

end

/-- A stream with one callback that delivers a frame and is stopped. -/
theorem callbackRefs_paidBack_one : ∃ s : CbStream, s.PaidBack ∧ s.paid = [0] ∧ s.releases = 1 :=
  ⟨_, @callbackRefs_paidBack _ true false
    (Function.update (fun _ => none) 0 (some ⟨0, -1, .async⟩)) (fun _ => 0)
    [.startScan, .launch, .streamon true, .shim true, .dequeue 0 true, .scan, .refs, .bundle, .link,
      .app true, .dispatch, .dispatched, .stop, .unpoll true, .streamoff true, .stopScan,
      .exit true, .joined]
    (.cons ⟨trivial, .startScan rfl rfl⟩ (.cons ⟨trivial, .launch rfl⟩
      (.cons ⟨trivial, .streamon true rfl⟩ (.cons ⟨trivial, .shim true rfl⟩
        (.cons ⟨trivial, .dequeue 0 true rfl rfl rfl rfl⟩ (.cons ⟨fun _ => by decide, .scan rfl⟩
          (.cons ⟨trivial, .refs rfl⟩ (.cons ⟨trivial, .bundle rfl⟩ (.cons ⟨trivial, .link rfl⟩
            (.cons ⟨fun _ => rfl, .app true rfl (by decide)⟩
              (.cons ⟨(nomatch ·), .dispatch rfl (by decide)⟩
                (.cons ⟨trivial, .dispatched rfl⟩ (.cons ⟨trivial, .stop rfl rfl⟩
                  (.cons ⟨trivial, .unpollStop true rfl fun _ => rfl⟩
                    (.cons ⟨trivial, .streamoff true rfl⟩
                      (.cons ⟨by unfold CbEvent.Cond; decide, .stopScan rfl⟩
                        (.cons ⟨fun _ => ⟨rfl, rfl⟩, .exit rfl⟩
                          (.one ⟨trivial, .joined rfl rfl rfl⟩)))))))))))))))))), rfl, rfl⟩

end MmCamera
