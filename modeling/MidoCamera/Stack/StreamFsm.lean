import MidoCamera.Stack.Types
import Mathlib.Data.List.TakeWhile

/-!
# The states of a stream

`mm_stream_fsm_fn` hands an event to the handler of the state the stream is in. The six events here
are those by which a channel starts and stops its streams. A state that has no branch for an event
ignores it, and in all states but NOTUSED the return code is then 0.

The kernel's queue of a stream is the list of the buffers queued in it, which `REQBUFS` and
`STREAMOFF` free; a file descriptor is polled while it is in `poll_entries` of the channel. Of the
return codes only whether they are 0 is kept.
-/

namespace MmCamera

open List

def maxNumFrames : ℕ := 64

/-- `mm_stream_state_type_t`. -/
inductive StreamState
  | notUsed | inited | acquired | cfg | buffed | reg | active
  deriving DecidableEq, Repr

/-- The events of `mm_stream_evt_type_t` by which a channel starts and stops its streams. -/
inductive StreamEvt
  | getBuf | putBuf | regBuf | unregBuf | start | stop
  deriving DecidableEq, Repr

/-- `mm_stream_t`: the type and `noFrameExpected` of its `stream_info`, whether `ch_obj` is the
channel whose table it is in, its buffers as `buf_status` has them, with whether each is queued
initially, and what the kernel and the poll thread have of it. `{}` is a zeroed entry. -/
structure Stream where
  state : StreamState := .notUsed
  myHdl : StreamId := 0
  streamType : StreamType := .default
  noFrameExpected : Bool := false
  owned : Bool := false
  bufs : Option (List Bool) := none
  inKernel : List ℕ := []
  polled : Bool := false
  deriving DecidableEq, Repr

/-- What `mm_stream_qbuf` meets with a buffer: all is well, its cache cannot be invalidated, or
`VIDIOC_QBUF` fails. -/
inductive QbufOutcome
  | ok | noInvalidate | failed
  deriving DecidableEq, Repr

/-- What the calls of the handlers answer for a stream: `get_bufs` with the `reg_flags` of its
buffers, `VIDIOC_REQBUFS` for them, `mm_stream_qbuf` for each; whether they are mapped when
`mm_stream_streamon` looks, and `VIDIOC_STREAMON`; `VIDIOC_STREAMOFF`, and `VIDIOC_REQBUFS` for no
buffers. -/
structure StreamEnv where
  getBufs : Option (List Bool) := some []
  requestBufs : Bool := true
  qbuf : ℕ → QbufOutcome := fun _ => .ok
  mapped : Bool := true
  streamOn : Bool := true
  streamOff : Bool := true
  freeBufs : Bool := true

namespace Stream

def bufNum (st : Stream) : ℕ := (st.bufs.getD []).length

/-- `mm_stream_init_bufs`: buffers that are there are put back first. -/
def initBufs (st : Stream) (env : StreamEnv) : ℤ × Stream :=
  match env.getBufs with
  | some flags => (0, { st with bufs := some flags })
  | none => (-1, { st with bufs := none })

def deinitBufs (st : Stream) : Stream := { st with bufs := none }

def requestBuf (st : Stream) (env : StreamEnv) : ℤ × Stream :=
  if maxNumFrames < st.bufNum then (-1, st)
  else if env.requestBufs then (0, { st with inKernel := [] })
  else (-1, st)

/-- `mm_stream_qbuf` of buffer `i`, from `queued_buffer_count` on: the return code, the count, and
the stream. The poll thread has the file descriptor from the first buffer on. -/
def qbuf (st : Stream) (env : StreamEnv) (count i : ℕ) : ℤ × ℕ × Stream :=
  if env.qbuf i = .noInvalidate then (-1, count, st)
  else
    let count := count + 1
    let st := if count = 1 then { st with polled := true } else st
    if env.qbuf i = .failed then
      let count := count - 1
      (-1, count, if count = 0 then { st with polled := false } else st)
    else (0, count, { st with inKernel := st.inKernel ++ [i] })

/-- The loop of `mm_stream_reg_buf`, from buffer `i` on. -/
def regLoop (env : StreamEnv) : List Bool → ℕ → ℕ → Stream → ℤ × Stream
  | [], _, _, st => (0, st)
  | initialRegFlag :: flags, i, count, st =>
    if initialRegFlag then
      let (rc, count, st) := st.qbuf env count i
      if rc ≠ 0 then (rc, st) else regLoop env flags (i + 1) count st
    else regLoop env flags (i + 1) count st

/-- `mm_stream_reg_buf`. -/
def regBuf (st : Stream) (env : StreamEnv) : ℤ × Stream :=
  let (rc, st) := st.requestBuf env
  if rc ≠ 0 then (rc, st) else regLoop env (st.bufs.getD []) 0 0 st

def unregBuf (st : Stream) (env : StreamEnv) : Stream :=
  if env.freeBufs then { st with inKernel := [] } else st

/-- `mm_stream_streamon`. Without buffers, a failure of `VIDIOC_STREAMON` leaves the poll thread
alone. -/
def streamon (st : Stream) (env : StreamEnv) : ℤ × Stream :=
  if st.bufNum ≠ 0 ∧ env.mapped = false then (-1, { st with polled := false })
  else if env.streamOn then (0, st)
  else (-1, if st.bufNum ≠ 0 then { st with polled := false } else st)

def streamoff (st : Stream) (env : StreamEnv) : Stream :=
  let st := { st with polled := false }
  if env.streamOff then { st with inKernel := [] } else st

/-- `mm_stream_fsm_cfg`. -/
def fsmCfg (st : Stream) (env : StreamEnv) : StreamEvt → ℤ × Stream
  | .getBuf =>
    let (rc, st) := st.initBufs env
    (rc, if rc = 0 then { st with state := .buffed } else st)
  | _ => (0, st)

def fsmBuffed (st : Stream) (env : StreamEnv) : StreamEvt → ℤ × Stream
  | .putBuf => (0, { st.deinitBufs with state := .cfg })
  | .regBuf =>
    let (rc, st) := st.regBuf env
    (rc, if rc = 0 then { st with state := .reg } else st)
  | _ => (0, st)

/-- `mm_stream_fsm_reg`. -/
def fsmReg (st : Stream) (env : StreamEnv) : StreamEvt → ℤ × Stream
  | .unregBuf => (0, { st.unregBuf env with state := .buffed })
  | .start =>
    let (rc, st) := { st with state := .active }.streamon env
    (rc, if rc ≠ 0 then { st with state := .reg } else st)
  | _ => (0, st)

def fsmActive (st : Stream) (env : StreamEnv) : StreamEvt → ℤ × Stream
  | .stop => (0, { st.streamoff env with state := .reg })
  | _ => (0, st)

/-- `mm_stream_fsm_fn`; INITED and ACQUIRED have no branch for these events. -/
def fsmFn (st : Stream) (evt : StreamEvt) (env : StreamEnv) : ℤ × Stream :=
  match st.state with
  | .notUsed => (-1, st)
  | .inited | .acquired => (0, st)
  | .cfg => st.fsmCfg env evt
  | .buffed => st.fsmBuffed env evt
  | .reg => st.fsmReg env evt
  | .active => st.fsmActive env evt

end Stream

/-! ## Registration -/

/-- The indices of the buffers that are queued initially, from `i` on. -/
def flagged : List Bool → ℕ → List ℕ
  | [], _ => []
  | initialRegFlag :: flags, i =>
    if initialRegFlag then i :: flagged flags (i + 1) else flagged flags (i + 1)

def StreamEnv.canQueue (env : StreamEnv) (i : ℕ) : Bool := env.qbuf i = .ok

/-- The buffers that are queued of those with the given flags, up to the first that cannot be. -/
def StreamEnv.queued (env : StreamEnv) (flags : List Bool) : List ℕ :=
  (flagged flags 0).takeWhile env.canQueue

namespace Stream

variable {st : Stream} {env : StreamEnv}

theorem qbuf_eq (i : ℕ) (hpolled : st.polled = !st.inKernel.isEmpty) :
    st.qbuf env st.inKernel.length i =
      if env.canQueue i then
        (0, st.inKernel.length + 1, { st with inKernel := st.inKernel ++ [i], polled := true })
      else (-1, st.inKernel.length, st) := by
  unfold qbuf StreamEnv.canQueue
  -- with the first buffer polling starts, and stops again where the buffer cannot be queued
  cases hq : env.qbuf i with
  | noInvalidate => rfl
  | ok =>
    simp only [reduceCtorEq, if_false, decide_true, if_true, Nat.add_eq_right]
    split_ifs with hlen
    · rfl
    · rw [show st.polled = true by rw [hpolled]; simpa using hlen]
  | failed =>
    simp only [reduceCtorEq, if_false, decide_false, Bool.false_eq_true, if_true,
      Nat.add_eq_right, Nat.add_sub_cancel]
    split_ifs with hlen
    · have hoff : st.polled = false := by
        rw [hpolled]
        simpa using hlen
      rw [← hoff]
    · rfl

/-- **The loop of `mm_stream_reg_buf`** queues the buffers up to the first that cannot be queued,
and the stream is polled if one is queued. -/
theorem regLoop_eq (env : StreamEnv) (flags : List Bool) (i : ℕ) (st : Stream)
    (hpolled : st.polled = !st.inKernel.isEmpty) :
    regLoop env flags i st.inKernel.length st =
      (if (flagged flags i).all env.canQueue then 0 else -1, { st with
        inKernel := st.inKernel ++ (flagged flags i).takeWhile env.canQueue
        polled := !(st.inKernel ++ (flagged flags i).takeWhile env.canQueue).isEmpty }) := by
  induction flags generalizing i st with
  | nil =>
    simp only [regLoop, flagged, all_nil, if_true, takeWhile_nil, append_nil, ← hpolled]
  | cons initialRegFlag flags ih =>
    unfold regLoop flagged
    cases initialRegFlag with
    | false => exact ih (i + 1) st hpolled
    | true =>
      simp only [if_true, all_cons, takeWhile_cons, qbuf_eq i hpolled]
      cases hq : env.canQueue i with
      | false =>
        simp only [Bool.false_eq_true, if_false, Bool.false_and, append_nil, ← hpolled]
        rfl
      | true =>
        simp only [if_true, Bool.true_and, ne_eq, not_true, if_false]
        have hlen : st.inKernel.length + 1 = (st.inKernel ++ [i]).length := by
          rw [length_append]
          rfl
        rw [hlen, ih (i + 1) { st with inKernel := st.inKernel ++ [i], polled := true } (by simp)]
        simp only [append_assoc, singleton_append]

theorem regBuf_eq {flags : List Bool} (hbufs : st.bufs = some flags)
    (hpolled : st.polled = false) : st.regBuf env =
      if maxNumFrames < flags.length ∨ env.requestBufs = false then (-1, st)
      else (if (flagged flags 0).all env.canQueue then 0 else -1, { st with
        inKernel := env.queued flags
        polled := !(env.queued flags).isEmpty }) := by
  unfold regBuf requestBuf bufNum
  rw [hbufs]
  dsimp only [Option.getD_some]
  by_cases hlen : maxNumFrames < flags.length
  · simp [hlen]
  cases hreq : env.requestBufs with
  | false => simp [hlen]
  | true =>
    simp only [hlen, if_false, if_true, ne_eq, not_true, false_or, Bool.true_eq_false]
    have h := regLoop_eq env flags 0 { st with inKernel := [] } (by simpa using hpolled)
    simp only [hbufs] at h
    exact h

end Stream

end MmCamera
