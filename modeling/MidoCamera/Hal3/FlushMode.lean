import MidoCamera.Hal3.Atomicity
import MidoCamera.Hal3.Effects
import MidoCamera.Library.Run

/-!
# The flush mode

`flush` and `flushPerf` raise a flag when they are called, and while it is up requests, metadata and
buffers are handled differently. Each is modelled as a whole call: what it does with `mMutex`, what
others do with it meanwhile, and what it does when it has it again. `flush` does not lower its flag
where it returns because a call to the backend has failed, so the mode stays.
-/

namespace Hal3

open Loop

/-! ## Whole calls -/

def HardwareInterface.OutOfFlush (s : HardwareInterface) : Prop :=
  s.mFlush = false ∧ s.mFlushPerf = false

/-- A call of `flush`, with whether the channels are restarted, or of `flushPerf`, with the outcomes
of the flush of the backend and of the wait for buffers. -/
inductive FlushCall
  | flush (env : FlushEnv) (restartChannels : Bool)
  | flushPerf (flush wait : ℤ)

/-- **A whole call**, made in the state `s`, that goes on in the state `u` that others have left, and
returns a code and the state `t`. The others take the steps of a relation. -/
inductive FlushCall.Returns (others : Op → HardwareInterface → HardwareInterface → Prop) :
    FlushCall → HardwareInterface → HardwareInterface → ℤ → HardwareInterface → Prop
  | flush {env : FlushEnv} {restartChannels : Bool} {ops : List Op} {s u t : HardwareInterface}
      {rc : ℤ} (run : Run others ops (flushBegin s) u)
      (returns : flushEnd env restartChannels u = .ok (rc, t)) :
      Returns others (.flush env restartChannels) s u rc t
  -- the two returns of `flushPerf` before it waits
  | failed {flush wait : ℤ} {s : HardwareInterface} (error : flush < 0) :
      Returns others (.flushPerf flush wait) s s noDevice (flushPerfBegin flush s)
  | nonePending {flush wait : ℤ} {s : HardwareInterface} (ok : 0 ≤ flush)
      (none : s.mPendingBuffersMap.numOverallBuffers = 0) :
      Returns others (.flushPerf flush wait) s s flush (flushPerfBegin flush s)
  | waited {flush wait : ℤ} {ops : List Op} {s u t : HardwareInterface} {rc : ℤ} (ok : 0 ≤ flush)
      (some : s.mPendingBuffersMap.numOverallBuffers ≠ 0)
      (run : Run others ops (flushPerfBegin flush s) u)
      (ends : wait ≠ 0 ∨ u.mPendingBuffersMap.numPendingBufsAtFlush = 0)
      (returns : flushPerfEnd wait u = .ok (rc, t)) :
      Returns others (.flushPerf flush wait) s u rc t

/-- **The condition**, on the state in which the call goes on: the flag of the other call is down;
and the calls that a `flush` makes before it lowers its flag succeed, unless another has lowered
it. -/
def FlushCall.Leaves : FlushCall → HardwareInterface → Prop
  | .flush env _, u => (env.GoesOn ∨ u.mFlush = false) ∧ u.mFlushPerf = false
  | .flushPerf _ _, u => u.mFlush = false

/-- **The flush mode stays**: `flush` returns with the error of `setBundleInfo`, and the next request
is not given to its channel, which would refuse it: it is accepted. -/
theorem flush_keeps_mode :
    ∃ s t u, s.OutOfFlush ∧
      FlushCall.Returns (Op.Step previewStream) (.flush ⟨none, -1, 0⟩ true) s (flushBegin s) (-1) t ∧
      ¬t.OutOfFlush ∧
      processCaptureRequest previewStream (channelReturns (-1)) (previewRequest 1) t =
        .ok (noError, u) := by
  refine ⟨{ HardwareInterface.configured 0 6 with mState := .started }, _, _, ⟨rfl, rfl⟩,
    .flush (.nil _) rfl, ?_, rfl⟩
  exact fun h => absurd h.1 (by decide)

section

variable {streams : Streams} {env : RequestEnv} {req : CaptureRequest} {op : Op} {c : FlushCall}
  {others : Op → HardwareInterface → HardwareInterface → Prop} {s t u : HardwareInterface} {rc : ℤ}

theorem flushEnd_left_iff {env : FlushEnv} {restartChannels : Bool}
    (returns : flushEnd env restartChannels u = .ok (rc, t)) :
    t.OutOfFlush ↔ (env.GoesOn ∨ u.mFlush = false) ∧ u.mFlushPerf = false := by
  cases flushEnd_step returns with
  | stopped early => exact and_congr_left fun _ => ⟨.inr, fun h => h.resolve_left early⟩
  | dropped goesOn dropped =>
    have hperf := dropped.flushPerf
    exact and_congr (iff_of_true rfl (.inl goesOn)) (by rw [← hperf])

theorem flushPerfEnd_left_iff {wait : ℤ} (returns : flushPerfEnd wait u = .ok (rc, t)) :
    t.OutOfFlush ↔ u.mFlush = false := by
  rcases flushPerfEnd_step returns with ⟨-, rfl⟩ | ⟨-, v, dropped, rfl⟩
  · exact and_iff_left rfl
  · exact (and_iff_left rfl).trans (by rw [← dropped.flush])

theorem flushPerfBegin_left_iff {flush : ℤ}
    (early : flush < 0 ∨ s.mPendingBuffersMap.numOverallBuffers = 0) :
    (flushPerfBegin flush s).OutOfFlush ↔ s.mFlush = false := by
  unfold flushPerfBegin
  dsimp only
  rw [if_pos early]
  exact and_iff_left rfl

/-- **When the flush mode is left**: exactly under the condition, whatever the others do during the
call. -/
theorem flushMode_left_iff (returns : c.Returns (Op.Step streams) s u rc t) :
    t.OutOfFlush ↔ c.Leaves u := by
  cases returns with
  | flush _ returns => exact flushEnd_left_iff returns
  | failed error => exact flushPerfBegin_left_iff (.inl error)
  | nonePending _ none => exact flushPerfBegin_left_iff (.inr none)
  | waited _ _ _ _ returns => exact flushPerfEnd_left_iff returns

/-- A `flush` of an interface with nothing pending, with no error. -/
theorem flushMode_left_iff_noError :
    ∃ s t, FlushCall.Returns (Op.Step previewStream) (.flush ⟨none, 0, 0⟩ true) s (flushBegin s)
      noError t ∧ t.OutOfFlush := by
  have returns : FlushCall.Returns (Op.Step previewStream) (.flush ⟨none, 0, 0⟩ true)
      (.configured 0 6) _ noError _ := .flush (.nil _) rfl
  exact ⟨_, _, returns, (flushMode_left_iff returns).mpr ⟨.inl (by decide), rfl⟩⟩

end

end Hal3
