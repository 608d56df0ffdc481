import MidoCamera.Library.Run

/-!
# The command thread

`mm_camera_cmd_thread` waits on its semaphore and then takes commands off its queue until the queue
is empty. A producer enqueues a command and then posts the semaphore, so one wake-up may take many
commands and the next find none. The command to exit ends the thread when the queue is empty: what
is enqueued behind it until then is still passed to the callback.

The queue is locked for each operation on it, so each is one step. `pthread_cond_wait` fails for an
invalid argument only, and so does not fail here; and every thread is launched with a callback.
-/

namespace MmCamera

open Loop List

/-! ## The thread and its producers -/

/-- `mm_camera_cmdcb_type_t`. -/
inductive CmdType
  | dataCb | evtCb | exit | reqDataCb | superBufDataCb | configNotify | startZsl | stopZsl
  | flushQueue | general | max
  deriving DecidableEq, Repr

/-- The types that are passed to the callback. Every other type ends the thread. -/
def CmdType.isPassed : CmdType → Bool
  | .evtCb | .dataCb | .reqDataCb | .superBufDataCb | .configNotify | .startZsl | .stopZsl
  | .general | .flushQueue => true
  | .exit | .max => false

/-- `mm_camera_cmdcb_t`: its type, and what it is about. -/
structure CmdCb (α : Type*) where
  cmdType : CmdType
  u : α
  deriving DecidableEq, Repr

def CmdCb.isPassed {α : Type*} (c : CmdCb α) : Bool := c.cmdType.isPassed

/-- Where the thread is: at `cam_sem_wait`, at `cam_queue_deq`, or at its end. -/
inductive CmdPc
  | waiting | draining | returned
  deriving DecidableEq, Repr

/-- `mm_camera_cmd_thread_t`, with the thread, the producers that are between `cam_queue_enq` and
`cam_sem_post`, and the commands enqueued, dequeued and passed to the callback so far. -/
structure CmdThread (P α : Type*) where
  cmdQueue : List (CmdCb α)
  cmdSem : ℕ
  pc : CmdPc
  running : Bool
  posting : List P
  enqueued : List (CmdCb α)
  dequeued : List (CmdCb α)
  passed : List (CmdCb α)

variable {P α : Type*}

/-- `mm_camera_cmd_thread_launch`. -/
def CmdThread.launch : CmdThread P α := ⟨[], 0, .waiting, true, [], [], [], []⟩

/-- What the thread does next, unless it is blocked or at its end. -/
def CmdThread.next (s : CmdThread P α) : Option (CmdThread P α) :=
  match s.pc with
  | .waiting =>
    if s.cmdSem = 0 then none else some { s with cmdSem := s.cmdSem - 1, pc := .draining }
  | .draining =>
    match s.cmdQueue with
    | node :: rest =>
      if node.isPassed then
        some { s with
          cmdQueue := rest, dequeued := s.dequeued ++ [node], passed := s.passed ++ [node] }
      else some { s with cmdQueue := rest, dequeued := s.dequeued ++ [node], running := false }
    | [] => some { s with pc := if s.running then .waiting else .returned }
  | .returned => none

/-- Who takes a step. -/
inductive CmdEvent (P α : Type*)
  | enq (p : P) (c : CmdCb α)
  | enqFails (p : P)
  | post (p : P)
  | thread

def CmdEvent.begins : CmdEvent P α → Bool
  | .enq _ _ | .enqFails _ => true
  | .post _ | .thread => false

/-- **The steps of the thread and its producers.** A producer posts after `cam_queue_enq`, whose
return code it does not look at: without memory nothing is enqueued. -/
inductive CmdStep [DecidableEq P] : CmdEvent P α → CmdThread P α → CmdThread P α → Prop
  | enq {s : CmdThread P α} (p : P) (c : CmdCb α) (free : p ∉ s.posting) :
      CmdStep (.enq p c) s { s with
        cmdQueue := s.cmdQueue ++ [c], enqueued := s.enqueued ++ [c], posting := p :: s.posting }
  | enqFails {s : CmdThread P α} (p : P) (free : p ∉ s.posting) :
      CmdStep (.enqFails p) s { s with posting := p :: s.posting }
  | post {s : CmdThread P α} (p : P) (mem : p ∈ s.posting) :
      CmdStep (.post p) s { s with cmdSem := s.cmdSem + 1, posting := s.posting.erase p }
  | thread {s t : CmdThread P α} (next : s.next = some t) : CmdStep .thread s t

/-- **A command is passed that is enqueued after the one to exit**: it is in the queue before the
thread has found the queue empty. -/
theorem cmdThread_passes_late :
    ¬∀ (ls : List (CmdEvent ℕ ℕ)) (s : CmdThread ℕ ℕ) (pre post : List (CmdCb ℕ)) (e : CmdCb ℕ),
      Run CmdStep ls .launch s → s.enqueued = pre ++ e :: post → e.cmdType = .exit →
        s.passed <+: pre := by
  intro hall
  have hprefix := hall
    [.enq 0 ⟨.exit, 0⟩, .enq 1 ⟨.dataCb, 7⟩, .post 0, .thread, .thread, .thread] _ []
    [⟨.dataCb, 7⟩] ⟨.exit, 0⟩
    (.cons (.enq _ _ (by decide)) (.cons (.enq _ _ (by decide)) (.cons (.post _ (by decide))
      (.cons (.thread rfl) (.cons (.thread rfl) (.one (.thread rfl))))))) rfl rfl
  exact absurd hprefix (by decide)

/-- **The invariant of the thread.** What has been dequeued comes first in what has been enqueued,
and what of it is to be passed has been passed; the thread runs until it has dequeued a command that
ends it; and when it waits while there are commands, a wake-up is due. -/
structure CmdThread.Sound (s : CmdThread P α) : Prop where
  fifo : s.dequeued ++ s.cmdQueue = s.enqueued
  passed : s.passed = s.dequeued.filter CmdCb.isPassed
  running : s.running = true ↔ ∀ c ∈ s.dequeued, c.isPassed = true
  waiting : s.pc = .waiting → s.running = true
  returned : s.pc = .returned → s.running = false
  awake : s.pc = .waiting → s.cmdQueue ≠ [] → s.cmdSem ≠ 0 ∨ s.posting ≠ []

theorem CmdThread.sound_launch : (CmdThread.launch : CmdThread P α).Sound :=
  ⟨rfl, rfl, iff_of_true rfl (fun _ h => nomatch h), fun _ => rfl, (nomatch ·),
    fun _ h => absurd rfl h⟩

section

variable {s t : CmdThread P α}

/-- **What the thread does next**: it wakes up, dequeues a command that it passes or that ends it,
or finds the queue empty. -/
inductive CmdThread.Next (s : CmdThread P α) : CmdThread P α → Prop
  | wake (pc : s.pc = .waiting) (sem : s.cmdSem ≠ 0) :
      Next s { s with cmdSem := s.cmdSem - 1, pc := .draining }
  | pass {node : CmdCb α} {rest : List (CmdCb α)} (pc : s.pc = .draining)
      (queue : s.cmdQueue = node :: rest) (passed : node.isPassed = true) :
      Next s { s with
        cmdQueue := rest, dequeued := s.dequeued ++ [node], passed := s.passed ++ [node] }
  | stop {node : CmdCb α} {rest : List (CmdCb α)} (pc : s.pc = .draining)
      (queue : s.cmdQueue = node :: rest) (passed : node.isPassed = false) :
      Next s { s with cmdQueue := rest, dequeued := s.dequeued ++ [node], running := false }
  | drained (pc : s.pc = .draining) (queue : s.cmdQueue = []) :
      Next s { s with pc := if s.running then .waiting else .returned }

theorem CmdThread.next_cases (h : s.next = some t) : s.Next t := by
  unfold CmdThread.next at h
  split at h
  · rename_i hpc
    split_ifs at h with hsem
    cases h
    exact .wake hpc hsem
  · rename_i hpc
    split at h
    · rename_i node rest hqueue
      split_ifs at h with hpassed
      · cases h
        exact .pass hpc hqueue hpassed
      · cases h
        exact .stop hpc hqueue (by simpa using hpassed)
    · rename_i hqueue
      cases h
      exact .drained hpc hqueue
  · cases h

theorem CmdThread.Next.sound (h : s.Next t) (hs : s.Sound) : t.Sound := by
  cases h with
  | wake pc sem =>
    exact ⟨hs.fifo, hs.passed, hs.running, (nomatch ·), (nomatch ·), (nomatch ·)⟩
  | @pass node rest pc queue passed =>
    constructor
    · rw [← hs.fifo, queue, append_assoc]
      rfl
    · show s.passed ++ [node] = _
      rw [hs.passed, filter_append, filter_cons, if_pos passed]
      rfl
    · rw [hs.running]
      simp [or_imp, forall_and, passed]
    · intro h
      rw [pc] at h
      cases h
    · intro h
      rw [pc] at h
      cases h
    · intro h
      rw [pc] at h
      cases h
  | @stop node rest pc queue passed =>
    constructor
    · rw [← hs.fifo, queue, append_assoc]
      rfl
    · show s.passed = _
      rw [hs.passed, filter_append, filter_cons, if_neg (by simp [passed])]
      exact (append_nil _).symm
    · refine iff_of_false Bool.false_ne_true fun hall => ?_
      have hnode := hall node (mem_append_right _ mem_cons_self)
      rw [passed] at hnode
      cases hnode
    · intro h
      rw [pc] at h
      cases h
    · exact fun _ => rfl
    · intro h
      rw [pc] at h
      cases h
  | drained pc queue =>
    refine ⟨hs.fifo, hs.passed, hs.running, fun h => ?_, fun h => ?_, fun _ h => absurd queue h⟩
    · by_contra hrun
      rw [if_neg hrun] at h
      cases h
    · by_contra hrun
      rw [if_pos (by simpa using hrun)] at h
      cases h

theorem CmdThread.Sound.passed_eq (hs : s.Sound) (all : ∀ c ∈ s.dequeued, c.isPassed = true) :
    s.passed = s.dequeued := by
  rw [hs.passed]
  exact filter_eq_self.mpr all

theorem CmdThread.Sound.not_returned (hs : s.Sound) (all : ∀ c ∈ s.dequeued, c.isPassed = true) :
    s.pc ≠ .returned := by
  intro hpc
  have hrun := hs.returned hpc
  rw [hs.running.mpr all] at hrun
  cases hrun

/-- `e` is the first command that ends the thread, with what is enqueued before it and after. -/
structure CmdThread.EndsAt (s : CmdThread P α) (pre : List (CmdCb α)) (e : CmdCb α)
    (post : List (CmdCb α)) : Prop where
  enqueued : s.enqueued = pre ++ e :: post
  ends : e.isPassed = false
  before : ∀ c ∈ pre, c.isPassed = true

theorem CmdThread.Sound.exit (hs : s.Sound) {pre post : List (CmdCb α)} {e : CmdCb α}
    (h : s.EndsAt pre e post) :
    s.pc ≠ .returned ∧ pre ++ e :: post = s.passed ++ s.cmdQueue ∧ s.passed <+: pre ∨
      ∃ k, s.passed = pre ++ (post.take k).filter CmdCb.isPassed ∧ s.cmdQueue = post.drop k := by
  have hfifo := hs.fifo.trans h.enqueued
  rcases append_eq_append_iff.mp hfifo with ⟨rest, hpre, hqueue⟩ | ⟨done, hdone, hpost⟩
  · -- it is in the queue
    left
    have hall : ∀ c ∈ s.dequeued, c.isPassed = true := fun c hc =>
      h.before c (hpre ▸ mem_append_left _ hc)
    have hpassed := hs.passed_eq hall
    refine ⟨hs.not_returned hall, ?_, ?_⟩
    · rw [hpassed, hfifo]
    · rw [hpassed, hpre]
      exact prefix_append ..
  · cases done with
    | nil =>
      -- it is at the head of the queue
      left
      rw [append_nil] at hdone
      have hall : ∀ c ∈ s.dequeued, c.isPassed = true := fun c hc => h.before c (hdone ▸ hc)
      have hpassed := hs.passed_eq hall
      refine ⟨hs.not_returned hall, ?_, ?_⟩
      · rw [hpassed, hfifo]
      · exact ⟨[], by rw [append_nil, hpassed, hdone]⟩
    | cons d done =>
      -- it has been dequeued, and with it a first part of what is behind it
      right
      obtain ⟨rfl, hrest⟩ := cons.inj hpost
      replace hrest : post = done ++ s.cmdQueue := hrest
      refine ⟨done.length, ?_, ?_⟩
      · rw [hs.passed, hdone, filter_append, filter_eq_self.mpr h.before,
          filter_cons, if_neg (by simp [h.ends]), hrest, take_left]
      · rw [hrest, drop_left]

variable [DecidableEq P] {l : CmdEvent P α} {ls : List (CmdEvent P α)}

theorem CmdStep.sound (h : CmdStep l s t) (hs : s.Sound) : t.Sound := by
  cases h with
  | enq p c free =>
    refine ⟨?_, hs.passed, hs.running, hs.waiting, hs.returned, fun _ _ => ?_⟩
    · rw [← hs.fifo, append_assoc]
    · exact .inr (cons_ne_nil _ _)
  | enqFails p free =>
    refine ⟨hs.fifo, hs.passed, hs.running, hs.waiting, hs.returned, fun _ _ => ?_⟩
    exact .inr (cons_ne_nil _ _)
  | post p mem =>
    exact ⟨hs.fifo, hs.passed, hs.running, hs.waiting, hs.returned,
      fun _ _ => .inl (Nat.succ_ne_zero _)⟩
  | thread next => exact (CmdThread.next_cases next).sound hs

theorem CmdThread.run_sound (run : Run CmdStep ls .launch s) : s.Sound :=
  run.invariant (fun _ _ _ hstep hs => hstep.sound hs) CmdThread.sound_launch

/-! ## Delivery -/

/-- The steps that the thread and the producers on their way can still take, at most. -/
def CmdThread.work (s : CmdThread P α) : ℕ :=
  3 * s.posting.length + 2 * s.cmdSem + s.cmdQueue.length + if s.pc = .draining then 1 else 0

/-- **What the thread delivers.** Until the command that ends it is dequeued, a first part of what
is before it has been passed and the rest is in the queue; from then on all before it has been
passed, and of what is behind it a first part. After its end the thread passes nothing; until then
there is a step to take once a command is to end it, and only so many while no producer begins. -/
structure CmdThread.Delivers (s : CmdThread P α) : Prop where
  exit : ∀ pre e post, s.EndsAt pre e post →
    s.pc ≠ .returned ∧ pre ++ e :: post = s.passed ++ s.cmdQueue ∧ s.passed <+: pre ∨
      ∃ k, s.passed = pre ++ (post.take k).filter CmdCb.isPassed ∧ s.cmdQueue = post.drop k
  noExit : (∀ c ∈ s.enqueued, c.isPassed = true) →
    s.pc ≠ .returned ∧ s.enqueued = s.passed ++ s.cmdQueue
  after : s.pc = .returned → ∀ ks t, Run CmdStep ks s t → t.pc = .returned ∧ t.passed = s.passed
  goesOn : (∃ c ∈ s.enqueued, c.isPassed = false) → s.pc ≠ .returned →
    ∃ l t, CmdEvent.begins l = false ∧ CmdStep l s t
  ends : ∀ ks t, Run CmdStep ks s t → (∀ l ∈ ks, CmdEvent.begins l = false) →
    ks.length + t.work ≤ s.work

theorem CmdStep.after (h : CmdStep l s t) (pc : s.pc = .returned) :
    t.pc = .returned ∧ t.passed = s.passed := by
  cases h with
  | enq | enqFails | post => exact ⟨pc, rfl⟩
  | thread next =>
    rw [CmdThread.next, pc] at next
    cases next

theorem CmdThread.run_after (run : Run CmdStep ls s t) (pc : s.pc = .returned) :
    t.pc = .returned ∧ t.passed = s.passed := by
  induction run with
  | nil => exact ⟨pc, rfl⟩
  | cons hstep _ ih =>
    obtain ⟨hpc, hpassed⟩ := hstep.after pc
    obtain ⟨hpc', hpassed'⟩ := ih hpc
    exact ⟨hpc', hpassed'.trans hpassed⟩

theorem CmdStep.work (h : CmdStep l s t) (begins : l.begins = false) : t.work < s.work := by
  cases h with
  | enq | enqFails => cases begins
  | post p mem =>
    have hlen := length_erase_of_mem mem
    have hpos := length_pos_of_mem mem
    simp only [CmdThread.work, hlen]
    omega
  | thread next =>
    cases CmdThread.next_cases next with
    | wake pc sem =>
      simp only [CmdThread.work, pc, if_pos, reduceCtorEq, if_false]
      omega
    | pass pc queue _ | stop pc queue _ =>
      simp only [CmdThread.work, queue, length_cons]
      omega
    | drained pc queue =>
      have hnot : (if s.running = true then CmdPc.waiting else .returned) ≠ .draining := by
        split_ifs <;> exact (nomatch ·)
      simp only [CmdThread.work, pc, if_pos, if_neg hnot]
      omega

theorem CmdThread.run_work (run : Run CmdStep ls s t)
    (begins : ∀ l ∈ ls, CmdEvent.begins l = false) : ls.length + t.work ≤ s.work := by
  induction run with
  | nil => exact Nat.le_of_eq (Nat.zero_add _)
  | cons hstep _ ih =>
    have hfirst := hstep.work (begins _ mem_cons_self)
    have hrest := ih fun l hl => begins l (mem_cons_of_mem _ hl)
    rw [length_cons]
    omega

theorem CmdThread.Sound.goesOn (hs : s.Sound) (exit : ∃ c ∈ s.enqueued, c.isPassed = false)
    (pc : s.pc ≠ .returned) : ∃ l t, CmdEvent.begins l = false ∧ CmdStep l s t := by
  cases hpc : s.pc with
  | returned => exact absurd hpc pc
  | draining =>
    have hnext : ∃ t, s.next = some t := by
      rw [CmdThread.next, hpc]
      dsimp only
      split
      · split_ifs
        · exact ⟨_, rfl⟩
        · exact ⟨_, rfl⟩
      · exact ⟨_, rfl⟩
    obtain ⟨t, hnext⟩ := hnext
    exact ⟨.thread, t, rfl, .thread hnext⟩
  | waiting =>
    -- the command that is to end the thread has not been dequeued
    obtain ⟨c, hc, hexit⟩ := exit
    have hqueue : s.cmdQueue ≠ [] := by
      intro hnil
      rw [← hs.fifo, hnil, append_nil] at hc
      have hpassed := hs.running.mp (hs.waiting hpc) c hc
      rw [hexit] at hpassed
      cases hpassed
    rcases hs.awake hpc hqueue with hsem | hposting
    · have hnext : s.next = some { s with cmdSem := s.cmdSem - 1, pc := .draining } := by
        rw [CmdThread.next, hpc]
        exact if_neg hsem
      exact ⟨.thread, _, rfl, .thread hnext⟩
    · obtain ⟨p, hp⟩ := exists_mem_of_ne_nil _ hposting
      exact ⟨.post p, _, rfl, .post p hp⟩

/-- **The command thread delivers.** In every interleaving of the thread with its producers, every
command before the one that ends it is passed to the callback once and in order; what is behind it
is passed as far as the thread finds it before the queue is empty, and nothing after the thread is
at its end. Once a command is to end it, and no producer begins any more, it gets to its end. -/
theorem cmdThread_delivers (run : Run CmdStep ls .launch s) : s.Delivers := by
  have hs := CmdThread.run_sound run
  constructor
  · exact fun pre e post h => hs.exit h
  · intro hall
    have hdeq : ∀ c ∈ s.dequeued, c.isPassed = true := fun c hc =>
      hall c (hs.fifo ▸ mem_append_left _ hc)
    refine ⟨hs.not_returned hdeq, ?_⟩
    rw [hs.passed_eq hdeq, hs.fifo]
  · exact fun hpc ks t hrun => CmdThread.run_after hrun hpc
  · exact hs.goesOn
  · exact fun ks t hrun hbegins => CmdThread.run_work hrun hbegins

end

/-- A command and the one to exit behind it. -/
theorem cmdThread_delivers_one : ∃ s : CmdThread ℕ ℕ, s.pc = .returned ∧ s.passed = [⟨.dataCb, 7⟩] ∧
    s.Delivers :=
  ⟨_, rfl, rfl, cmdThread_delivers
    (.cons (.enq 0 ⟨.dataCb, 7⟩ (by decide)) (.cons (.enq 1 ⟨.exit, 0⟩ (by decide))
      (.cons (.post 1 (by decide)) (.cons (.thread rfl) (.cons (.thread rfl) (.cons (.thread rfl)
        (.one (.thread rfl))))))))⟩

end MmCamera
