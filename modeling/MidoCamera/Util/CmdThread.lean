import MidoCamera.Library.Run

/-!
# Synchronous commands

A thread takes commands from its queue one by one. Who sends a command puts it at the end of the
queue, or with priority at the head, posts `cmd_sem` and, if the call is synchronous, waits on
`sync_sem`. The thread posts `sync_sem` when it is done with a `START_DATA_PROC` or a
`STOP_DATA_PROC`, whoever sent it and however: so a synchronous call is safe while no post is there
and none is made before its own command's.

Each call has a token, which its command carries. What was processed and what has returned is
recorded.
-/

namespace SyncCmd

open Loop List

/-! ## The thread -/

/-- `camera_cmd_type_t`. -/
inductive CameraCmdType
  | none
  | startDataProc
  | stopDataProc
  | doNextJob
  | exit
  deriving DecidableEq, Repr

/-- The routine posts `sync_sem` after the command. -/
def CameraCmdType.posts : CameraCmdType → Bool
  | .startDataProc | .stopDataProc => true
  | _ => false

/-- `camera_cmd_t`, with the token of the call that sends it. -/
structure CameraCmd where
  cmd : CameraCmdType
  token : ℕ
  deriving DecidableEq, Repr

/-- A call of `sendCmd` that is in progress: whether it is synchronous, whether the queue took its
command, and whether it has posted `cmd_sem`. -/
structure Call where
  token : ℕ
  syncCmd : Bool
  enqueued : Bool
  posted : Bool := false
  deriving DecidableEq, Repr

/-- Where the thread is: not launched, between two commands, or with a command. -/
inductive Pc
  | stopped
  | idle
  | serving (node : CameraCmd)
  deriving DecidableEq, Repr

def Pc.token : Pc → Option ℕ
  | .serving node => some node.token
  | _ => none

/-- The thread has a command after which it posts `sync_sem`. -/
def Pc.posts : Pc → Bool
  | .serving node => node.cmd.posts
  | _ => false

/-- The thread, with the calls in progress. `isActive` is the variable of its routine. Of the
record, `returned` has the synchronous calls. -/
structure QCameraCmdThread where
  cmdQueue : List CameraCmd := []
  cmdSem : ℕ := 0
  syncSem : ℕ := 0
  pc : Pc := .stopped
  isActive : Bool := false
  calls : List Call := []
  nextToken : ℕ := 0
  processed : List ℕ := []
  returned : List Call := []
  deriving DecidableEq, Repr

namespace QCameraCmdThread

/-- `sendCmd` up to the enqueuing. There may be no memory for the command, and then the call is
over; and the queue may not take it. -/
def enqueueCmd (s : QCameraCmdThread) (cmd : CameraCmdType) (syncCmd priority malloc enqueued : Bool) :
    QCameraCmdThread :=
  if malloc then
    let node : CameraCmd := ⟨cmd, s.nextToken⟩
    { s with
      cmdQueue :=
        if enqueued then if priority then node :: s.cmdQueue else s.cmdQueue ++ [node]
        else s.cmdQueue
      calls := s.calls ++ [⟨s.nextToken, syncCmd, enqueued, false⟩]
      nextToken := s.nextToken + 1 }
  else s

/-- The rest of `sendCmd` up to the wait: `cmd_sem` is posted. -/
def postCmd (s : QCameraCmdThread) (call : Call) : QCameraCmdThread :=
  { s with
    cmdSem := s.cmdSem + 1
    calls :=
      if call.syncCmd then { call with posted := true } :: s.calls.erase call
      else s.calls.erase call }

/-- The call has waited, and returns. -/
def returnCall (s : QCameraCmdThread) (call : Call) : QCameraCmdThread :=
  { s with
    syncSem := s.syncSem - 1
    calls := s.calls.erase call
    returned := s.returned ++ [call] }

/-- The thread waits for `cmd_sem`, then `getCmd`. With no command in the queue it goes on. -/
def getCmd (s : QCameraCmdThread) : QCameraCmdThread :=
  match s.cmdQueue with
  | [] => { s with cmdSem := s.cmdSem - 1 }
  | node :: rest => { s with cmdSem := s.cmdSem - 1, cmdQueue := rest, pc := .serving node }

/-- `composeMpoRoutine` and `dataProcessRoutine`: the thread serves its command. What it does for
`DO_NEXT_JOB` is left out. -/
def serve (s : QCameraCmdThread) (node : CameraCmd) : QCameraCmdThread :=
  let s := { s with processed := s.processed ++ [node.token], pc := .idle }
  match node.cmd with
  | .startDataProc => { s with isActive := true, syncSem := s.syncSem + 1 }
  | .stopDataProc => { s with isActive := false, syncSem := s.syncSem + 1 }
  | .exit => { s with pc := .stopped }
  | .none | .doNextJob => s

end QCameraCmdThread

/-- What the owners and the thread do. -/
inductive Op
  | launch
  | send (cmd : CameraCmdType) (syncCmd priority malloc enqueued : Bool)
  | post (call : Call)
  | return (call : Call)
  | get
  | serve
  deriving DecidableEq, Repr

/-- What a step does; none where it cannot be taken. The thread is launched while there is none, and
its routine starts with its variable unset. -/
def Op.exec (s : QCameraCmdThread) : Op → Option QCameraCmdThread
  | .launch => if s.pc = .stopped then some { s with pc := .idle, isActive := false } else none
  | .send cmd syncCmd priority malloc enqueued =>
    some (s.enqueueCmd cmd syncCmd priority malloc enqueued)
  | .post call =>
    if call ∈ s.calls ∧ call.posted = false then some (s.postCmd call) else none
  | .return call =>
    if call ∈ s.calls ∧ call.posted ∧ 0 < s.syncSem then some (s.returnCall call) else none
  | .get => if s.pc = .idle ∧ 0 < s.cmdSem then some s.getCmd else none
  | .serve =>
    match s.pc with
    | .serving node => some (s.serve node)
    | _ => none

def Op.Step (op : Op) (s t : QCameraCmdThread) : Prop := op.exec s = some t

/-- **The synchronous calls that have returned had their commands processed**, where the queue took
them. -/
def Complete (s : QCameraCmdThread) : Prop :=
  ∀ call ∈ s.returned, call.enqueued → call.token ∈ s.processed

instance (s : QCameraCmdThread) : Decidable (Complete s) :=
  inferInstanceAs (Decidable (∀ call ∈ s.returned, call.enqueued → call.token ∈ s.processed))

variable {s t : QCameraCmdThread} {op : Op} {ops : List Op}

/-! ## Outcomes -/

/-- What a step does, by its cases. -/
inductive Op.Outcome (s : QCameraCmdThread) : Op → QCameraCmdThread → Prop
  | launch (pc : s.pc = .stopped) :
      Outcome s .launch { s with pc := .idle, isActive := false }
  | noMemory {cmd : CameraCmdType} {syncCmd priority enqueued : Bool} :
      Outcome s (.send cmd syncCmd priority false enqueued) s
  | refused {cmd : CameraCmdType} {syncCmd priority : Bool} :
      Outcome s (.send cmd syncCmd priority true false) { s with
        calls := s.calls ++ [⟨s.nextToken, syncCmd, false, false⟩]
        nextToken := s.nextToken + 1 }
  | queued {cmd : CameraCmdType} {syncCmd : Bool} :
      Outcome s (.send cmd syncCmd false true true) { s with
        cmdQueue := s.cmdQueue ++ [⟨cmd, s.nextToken⟩]
        calls := s.calls ++ [⟨s.nextToken, syncCmd, true, false⟩]
        nextToken := s.nextToken + 1 }
  | queuedFirst {cmd : CameraCmdType} {syncCmd : Bool} :
      Outcome s (.send cmd syncCmd true true true) { s with
        cmdQueue := ⟨cmd, s.nextToken⟩ :: s.cmdQueue
        calls := s.calls ++ [⟨s.nextToken, syncCmd, true, false⟩]
        nextToken := s.nextToken + 1 }
  | post {call : Call} (mem : call ∈ s.calls) : Outcome s (.post call) (s.postCmd call)
  | returned {call : Call} (mem : call ∈ s.calls) (posted : call.posted) (sem : 0 < s.syncSem) :
      Outcome s (.return call) (s.returnCall call)
  | getNone (pc : s.pc = .idle) (queue : s.cmdQueue = []) :
      Outcome s .get { s with cmdSem := s.cmdSem - 1 }
  | get {node : CameraCmd} {rest : List CameraCmd} (pc : s.pc = .idle)
      (queue : s.cmdQueue = node :: rest) :
      Outcome s .get { s with cmdSem := s.cmdSem - 1, cmdQueue := rest, pc := .serving node }
  | serve {node : CameraCmd} (pc : s.pc = .serving node) : Outcome s .serve (s.serve node)

theorem Op.outcome (h : op.Step s t) : Outcome s op t := by
  rcases op with _ | ⟨cmd, syncCmd, priority, malloc, enqueued⟩ | call | call | _ | _
  · obtain ⟨hpc, ht⟩ := Option.ite_none_right_eq_some.mp h
    cases ht
    exact .launch hpc
  · cases h
    rcases malloc with _ | _
    · exact .noMemory
    · rcases enqueued with _ | _
      · exact .refused
      · rcases priority with _ | _
        · exact .queued
        · exact .queuedFirst
  · obtain ⟨⟨hmem, -⟩, ht⟩ := Option.ite_none_right_eq_some.mp h
    cases ht
    exact .post hmem
  · obtain ⟨⟨hmem, hposted, hsem⟩, ht⟩ := Option.ite_none_right_eq_some.mp h
    cases ht
    exact .returned hmem hposted hsem
  · obtain ⟨⟨hpc, -⟩, ht⟩ := Option.ite_none_right_eq_some.mp h
    cases ht
    unfold QCameraCmdThread.getCmd
    rcases hqueue : s.cmdQueue with _ | ⟨node, rest⟩
    · simpa only [hqueue] using Outcome.getNone hpc hqueue
    · exact .get hpc hqueue
  · rcases hpc : s.pc with _ | _ | node <;> simp only [Op.Step, Op.exec, hpc] at h <;> cases h
    exact .serve hpc

/-- A command is in the queue, behind no command that is followed by a post. -/
def QCameraCmdThread.InFront (s : QCameraCmdThread) (token : ℕ) : Prop :=
  ∃ ahead node behind, s.cmdQueue = ahead ++ node :: behind ∧ node.token = token ∧
    ∀ other ∈ ahead, other.cmd.posts = false

/-- The call cannot take a post for another's: its command is done, or no post is there and the next
one is for it. -/
def Safe (s : QCameraCmdThread) (call : Call) : Prop :=
  call.token ∈ s.processed ∨
    s.syncSem = 0 ∧ (s.pc.token = some call.token ∨ s.pc.posts = false ∧ s.InFront call.token)

/-- The invariant: each synchronous call in progress is safe, and each that has returned is
complete. -/
structure Matched (s : QCameraCmdThread) : Prop where
  safe : ∀ call ∈ s.calls, call.syncCmd → call.enqueued → Safe s call
  complete : Complete s
  synchronous : ∀ call ∈ s.calls, call.posted → call.syncCmd

/-- A synchronous command is sent while no post is there, the thread has no command that a post
follows, and none is queued or the command goes before them. A command that a post follows is put
before the queue while no command in it is of a synchronous call. -/
def Op.Alone (s : QCameraCmdThread) : Op → Prop
  | .send cmd syncCmd priority true true =>
    (syncCmd → s.syncSem = 0 ∧ s.pc.posts = false ∧
      (priority ∨ ∀ node ∈ s.cmdQueue, node.cmd.posts = false)) ∧
    (cmd.posts → priority → ∀ call ∈ s.calls, call.syncCmd → call.enqueued →
      ∀ node ∈ s.cmdQueue, node.token ≠ call.token)
  | _ => True

instance : ∀ op : Op, Decidable (op.Alone s)
  | .send _ _ _ true true => inferInstanceAs (Decidable ((_ → _ ∧ _ ∧ (_ ∨ ∀ _ ∈ _, _)) ∧ (_ → _)))
  | .send _ _ _ false _ | .send _ _ _ true false => inferInstanceAs (Decidable True)
  | .launch | .post _ | .return _ | .get | .serve => inferInstanceAs (Decidable True)

def Op.AloneStep (op : Op) (s t : QCameraCmdThread) : Prop := op.Step s t ∧ op.Alone s

theorem QCameraCmdThread.InFront.append {token : ℕ} {node : CameraCmd}
    (h : s.InFront token) (queue : t.cmdQueue = s.cmdQueue ++ [node]) : t.InFront token := by
  obtain ⟨ahead, own, behind, hqueue, hown, hahead⟩ := h
  exact ⟨ahead, own, behind ++ [node], by rw [queue, hqueue]; simp, hown, hahead⟩

theorem QCameraCmdThread.InFront.cons {token : ℕ} {node : CameraCmd} (h : s.InFront token)
    (queue : t.cmdQueue = node :: s.cmdQueue) (quiet : node.cmd.posts = false) : t.InFront token := by
  obtain ⟨ahead, own, behind, hqueue, hown, hahead⟩ := h
  refine ⟨node :: ahead, own, behind, by rw [queue, hqueue]; rfl, hown, fun other hother => ?_⟩
  rcases mem_cons.mp hother with rfl | hother
  · exact quiet
  · exact hahead other hother

theorem QCameraCmdThread.InFront.tail {token : ℕ} {node : CameraCmd} {rest : List CameraCmd}
    (h : s.InFront token) (queue : s.cmdQueue = node :: rest) (queue' : t.cmdQueue = rest) :
    node.token = token ∨ node.cmd.posts = false ∧ t.InFront token := by
  obtain ⟨ahead, own, behind, hqueue, hown, hahead⟩ := h
  rw [queue] at hqueue
  rcases ahead with _ | ⟨first, ahead⟩
  · cases hqueue
    exact .inl hown
  · cases hqueue
    exact .inr ⟨hahead _ mem_cons_self, ahead, own, behind, queue', hown,
      fun other hother => hahead other (mem_cons_of_mem _ hother)⟩

theorem QCameraCmdThread.InFront.mem {token : ℕ} (h : s.InFront token) :
    ∃ node ∈ s.cmdQueue, node.token = token := by
  obtain ⟨ahead, own, behind, hqueue, hown, -⟩ := h
  exact ⟨own, by rw [hqueue]; simp, hown⟩

theorem Safe.congr {call : Call} (h : Safe s call) (queue : t.cmdQueue = s.cmdQueue) (pc : t.pc = s.pc)
    (sem : t.syncSem = s.syncSem) (processed : t.processed = s.processed) : Safe t call := by
  unfold Safe QCameraCmdThread.InFront at *
  rw [queue, pc, sem, processed]
  exact h

theorem QCameraCmdThread.serve_eq (s : QCameraCmdThread) (node : CameraCmd) :
    (s.serve node).cmdQueue = s.cmdQueue ∧ (s.serve node).calls = s.calls ∧
      (s.serve node).returned = s.returned ∧
      (s.serve node).processed = s.processed ++ [node.token] ∧
      (s.serve node).pc.posts = false ∧
      (s.serve node).syncSem = s.syncSem + (if node.cmd.posts then 1 else 0) := by
  unfold QCameraCmdThread.serve
  rcases node.cmd <;> exact ⟨rfl, rfl, rfl, rfl, rfl, rfl⟩

theorem mem_calls_of_postCmd {call other : Call} (h : other ∈ (s.postCmd call).calls) :
    other ∈ s.calls ∨ other = { call with posted := true } ∧ call.syncCmd := by
  unfold QCameraCmdThread.postCmd at h
  dsimp only at h
  split at h
  · rename_i hsync
    rcases mem_cons.mp h with rfl | h
    · exact .inr ⟨rfl, hsync⟩
    · exact .inl (mem_of_mem_erase h)
  · exact .inl (mem_of_mem_erase h)

/-- **What a step of the thread or of a call keeps.** A call's own command is served before a post
is made, so that each synchronous call finds no post or finds its command processed. -/
theorem Matched.step (hs : Matched s) (h : op.Step s t) (halone : op.Alone s) : Matched t := by
  cases Op.outcome h with
  | launch hpc =>
    refine ⟨fun call hcall hsync henq => ?_, hs.complete, hs.synchronous⟩
    rcases hs.safe call hcall hsync henq with hdone | ⟨hsem, hown | ⟨-, hfront⟩⟩
    · exact .inl hdone
    · simp [hpc, Pc.token] at hown
    · exact .inr ⟨hsem, .inr ⟨rfl, hfront⟩⟩
  | noMemory => exact hs
  | refused =>
    refine ⟨fun call hcall hsync henq => ?_, hs.complete, fun call hcall hposted => ?_⟩
    · rcases mem_append.mp hcall with hcall | hcall
      · exact (hs.safe call hcall hsync henq).congr rfl rfl rfl rfl
      · -- a call whose command the queue did not take waits for nobody's
        cases mem_singleton.mp hcall
        cases henq
    · rcases mem_append.mp hcall with hcall | hcall
      · exact hs.synchronous call hcall hposted
      · cases mem_singleton.mp hcall
        cases hposted
  | queued =>
    refine ⟨fun call hcall hsync henq => ?_, hs.complete, fun call hcall hposted => ?_⟩
    · rcases mem_append.mp hcall with hcall | hcall
      · rcases hs.safe call hcall hsync henq with hdone | ⟨hsem, hown | ⟨hquiet, hfront⟩⟩
        · exact .inl hdone
        · exact .inr ⟨hsem, .inl hown⟩
        · exact .inr ⟨hsem, .inr ⟨hquiet, hfront.append rfl⟩⟩
      · cases mem_singleton.mp hcall
        obtain ⟨hsem, hquiet, hpriority | hqueue⟩ := halone.1 hsync
        · cases hpriority
        · exact .inr ⟨hsem, .inr ⟨hquiet, s.cmdQueue, _, [], rfl, rfl, hqueue⟩⟩
    · rcases mem_append.mp hcall with hcall | hcall
      · exact hs.synchronous call hcall hposted
      · cases mem_singleton.mp hcall
        cases hposted
  | queuedFirst =>
    rename_i cmd syncCmd
    refine ⟨fun call hcall hsync henq => ?_, hs.complete, fun call hcall hposted => ?_⟩
    · rcases mem_append.mp hcall with hcall | hcall
      · rcases hs.safe call hcall hsync henq with hdone | ⟨hsem, hown | ⟨hquiet, hfront⟩⟩
        · exact .inl hdone
        · exact .inr ⟨hsem, .inl hown⟩
        · -- the new command comes before this call's, so no post may follow it
          rcases hposts : cmd.posts with _ | _
          · exact .inr ⟨hsem, .inr ⟨hquiet, hfront.cons rfl hposts⟩⟩
          · obtain ⟨node, hmem, htoken⟩ := hfront.mem
            exact absurd htoken (halone.2 hposts rfl call hcall hsync henq node hmem)
      · cases mem_singleton.mp hcall
        obtain ⟨hsem, hquiet, -⟩ := halone.1 hsync
        exact .inr ⟨hsem, .inr ⟨hquiet, [], _, s.cmdQueue, rfl, rfl, fun _ h => by cases h⟩⟩
    · rcases mem_append.mp hcall with hcall | hcall
      · exact hs.synchronous call hcall hposted
      · cases mem_singleton.mp hcall
        cases hposted
  | post hmem =>
    rename_i call
    refine ⟨fun other hother hsync henq => ?_, hs.complete, fun other hother hposted => ?_⟩
    · rcases mem_calls_of_postCmd hother with hother | ⟨rfl, -⟩
      · exact (hs.safe other hother hsync henq).congr rfl rfl rfl rfl
      · exact (hs.safe call hmem hsync henq).congr rfl rfl rfl rfl
    · rcases mem_calls_of_postCmd hother with hother | ⟨rfl, hsync⟩
      · exact hs.synchronous other hother hposted
      · exact hsync
  | returned hmem hposted hsem =>
    rename_i call
    -- a post is there, so the calls whose commands were taken had them processed
    have hdone : ∀ other ∈ s.calls, other.syncCmd → other.enqueued → other.token ∈ s.processed := by
      intro other hother hsync henq
      rcases hs.safe other hother hsync henq with hdone | ⟨hzero, -⟩
      · exact hdone
      · omega
    refine ⟨fun other hother hsync henq => ?_, fun other hother henq => ?_, fun other hother => ?_⟩
    · exact .inl (hdone other (mem_of_mem_erase hother) hsync henq)
    · rcases mem_append.mp hother with hother | hother
      · exact hs.complete other hother henq
      · cases mem_singleton.mp hother
        exact hdone call hmem (hs.synchronous call hmem hposted) henq
    · exact hs.synchronous other (mem_of_mem_erase hother)
  | getNone hpc hqueue => exact ⟨fun call hcall hsync henq =>
      (hs.safe call hcall hsync henq).congr rfl rfl rfl rfl, hs.complete, hs.synchronous⟩
  | get hpc hqueue =>
    rename_i node rest
    refine ⟨fun call hcall hsync henq => ?_, hs.complete, hs.synchronous⟩
    rcases hs.safe call hcall hsync henq with hdone | ⟨hsem, hown | ⟨-, hfront⟩⟩
    · exact .inl hdone
    · simp [hpc, Pc.token] at hown
    · rcases hfront.tail (t := { s with
        cmdSem := s.cmdSem - 1, cmdQueue := rest, pc := .serving node }) hqueue rfl
        with hown | ⟨hquiet, hfront⟩
      · exact .inr ⟨hsem, .inl (congrArg some hown)⟩
      · exact .inr ⟨hsem, .inr ⟨hquiet, hfront⟩⟩
  | serve hpc =>
    rename_i node
    obtain ⟨hqueue, hcalls, hreturned, hprocessed, hquiet, hsem⟩ := s.serve_eq node
    have hkeep : ∀ token ∈ s.processed, token ∈ (s.serve node).processed := fun token htoken => by
      rw [hprocessed]
      exact mem_append_left _ htoken
    refine ⟨fun call hcall hsync henq => ?_, fun call hcall henq => ?_, hcalls ▸ hs.synchronous⟩
    · rcases hs.safe call (hcalls ▸ hcall) hsync henq with hdone | ⟨hzero, hown | ⟨hposts, hfront⟩⟩
      · exact .inl (hkeep _ hdone)
      · -- the command is this call's own
        rw [hpc] at hown
        have hown : node.token = call.token := Option.some.inj hown
        exact .inl (by rw [hprocessed, hown]; simp)
      · rw [hpc] at hposts
        have hposts : node.cmd.posts = false := hposts
        refine .inr ⟨by simp [hsem, hzero, hposts], .inr ⟨hquiet, ?_⟩⟩
        unfold QCameraCmdThread.InFront at *
        rwa [hqueue]
    · exact hkeep _ (hs.complete call (hreturned ▸ hcall) henq)

/-- **A run that sends its commands so completes each synchronous call.** -/
theorem complete_of_alone (h : Run Op.AloneStep ops {} s) : Complete s :=
  have hs : Matched s := h.invariant (fun _ _ _ hstep hs => hs.step hstep.1 hstep.2)
    ⟨fun _ h => absurd h not_mem_nil, fun _ h => absurd h not_mem_nil,
      fun _ h => absurd h not_mem_nil⟩
  hs.complete

def Op.execAlone (s : QCameraCmdThread) (op : Op) : Option QCameraCmdThread :=
  if op.Alone s then op.exec s else none

theorem Op.AloneStep.of_execAlone (h : op.execAlone s = some t) : op.AloneStep s t :=
  (Option.ite_none_right_eq_some.mp h).symm

/-- The data thread is started, gets a job and is stopped: both calls return after their command. -/
theorem complete_of_alone_start_stop : ∃ s : QCameraCmdThread,
    s.returned.map Call.token = [0, 2] ∧ s.processed = [0, 2] ∧ Complete s :=
  have h : Run (fun op s t => Op.execAlone s op = some t) [.launch,
      .send .startDataProc true false true true, .post ⟨0, true, true, false⟩, .get, .serve,
      .return ⟨0, true, true, true⟩, .send .doNextJob false false true true,
      .send .stopDataProc true true true true, .post ⟨2, true, true, false⟩, .get, .serve,
      .return ⟨2, true, true, true⟩] {} _ :=
    Run.of_execAll rfl
  ⟨_, rfl, rfl, complete_of_alone (h.mono fun _ _ _ _ => Op.AloneStep.of_execAlone)⟩

/-- **A synchronous call returns before its command is processed.** The composing thread is started
by an asynchronous call and nobody takes its post, so that the call that stops the thread returns at
once. -/
theorem complete_fails : ∃ s, Run Op.Step
    [.launch, .send .startDataProc false false true true, .post ⟨0, false, true, false⟩, .get, .serve,
      .send .stopDataProc true false true true, .post ⟨1, true, true, false⟩,
      .return ⟨1, true, true, true⟩] {} s ∧
    s.cmdQueue = [⟨.stopDataProc, 1⟩] ∧ ¬ Complete s :=
  ⟨_, Run.of_execAll rfl, rfl, by decide⟩

end SyncCmd
