import MidoCamera.Library.Threads
import Mathlib.Data.UInt

/-!
# The performance mode of a reprocess channel

The first priority frame that is passed to reprocessing sets the stream to high performance, and the
last one that is completed sets it back to normal. Whether to do so is decided under the lock of the
list of priority frames; the mode is set, and the flag updated, after the lock has been released. A
frame that is pushed between a decision to go back and the change is left running in normal mode.
-/

namespace PriorityFrames

open Loop List

/-- `cam_perf_mode_t`. -/
inductive PerfMode
  | NORMAL
  | HIGH
  | HIGH_PERFORMANCE
  deriving DecidableEq

/-- What the calls share: the priority frames that are pending, the flag, and the mode that was last
set on the stream, if any. -/
structure Perf where
  frames : List UInt32 := []
  reprocessPerfMode : Bool := false
  mode : Option PerfMode := none
  deriving DecidableEq

/-- Where a thread is: in no call, in `doReprocessOffline` with a frame, or in
`resetToCamPerfNormal`. -/
inductive Call
  | idle
  | setHigh (frame : UInt32)
  | raise (frame : UInt32)
  | doReprocess (frame : UInt32)
  | setNormal
  | clear
  deriving DecidableEq

/-- What a thread does next. -/
inductive Act
  | push (frame : UInt32)
  | setHigh
  | raise
  | doReprocess
  | remove (frame : UInt32)
  | setNormal
  | clear
  deriving DecidableEq

/-- The loop of `resetToCamPerfNormal`: the index goes on after a removal too, so that the element
which takes the place of a removed one is not looked at. -/
def removeFrame (frame : UInt32) : List UInt32 → List UInt32
  | [] => []
  | f :: fs =>
    if f = frame then
      match fs with
      | [] => []
      | g :: gs => g :: removeFrame frame gs
    else f :: removeFrame frame fs

/-- **The steps** of a thread. What is between two of them is not under the lock. -/
def Act.exec (a : Act) (s : Perf) (c : Call) : Option (Perf × Call) :=
  match a, c with
  | .push frame, .idle =>
    some ({ s with frames := s.frames ++ [frame] },
      if s.frames.isEmpty then .setHigh frame else .doReprocess frame)
  | .setHigh, .setHigh frame => some ({ s with mode := some .HIGH_PERFORMANCE }, .raise frame)
  | .raise, .raise frame => some ({ s with reprocessPerfMode := true }, .doReprocess frame)
  | .doReprocess, .doReprocess _ => some (s, .idle)
  | .remove frame, .idle =>
    some ({ s with frames := removeFrame frame s.frames },
      if s.reprocessPerfMode && (removeFrame frame s.frames).isEmpty then .setNormal else .idle)
  | .setNormal, .setNormal => some ({ s with mode := some .NORMAL }, .clear)
  | .clear, .clear => some ({ s with reprocessPerfMode := false }, .idle)
  | _, _ => none

def Perf.Normal (s : Perf) : Prop := s.mode = none ∨ s.mode = some .NORMAL

/-- **The mode and the flag are as the list says.** -/
def Perf.Agrees (s : Perf) : Prop :=
  if s.frames = [] then s.Normal ∧ s.reprocessPerfMode = false
  else s.mode = some .HIGH_PERFORMANCE ∧ s.reprocessPerfMode = true

def Call.frame : Call → Option UInt32
  | .setHigh f | .raise f | .doReprocess f => some f
  | .idle | .setNormal | .clear => none

def Act.Completed (a : Act) (cs : List Call) : Prop :=
  match a with
  | .remove f => ∀ c ∈ cs, c.frame ≠ some f
  | _ => True

/-- **A frame changes the mode** when no reset is about to, and the flag when no reset is under way. -/
def Act.Ordered (a : Act) (cs : List Call) : Prop :=
  match a with
  | .setHigh => .setNormal ∉ cs
  | .raise => .setNormal ∉ cs ∧ .clear ∉ cs
  | _ => True

instance (a : Act) (cs : List Call) : Decidable (a.Completed cs) :=
  match a with
  | .remove f => inferInstanceAs (Decidable (∀ c ∈ cs, c.frame ≠ some f))
  | .push _ | .setHigh | .raise | .doReprocess | .setNormal | .clear => isTrue trivial

instance (a : Act) (cs : List Call) : Decidable (a.Ordered cs) :=
  match a with
  | .setHigh => inferInstanceAs (Decidable (.setNormal ∉ cs))
  | .raise => inferInstanceAs (Decidable (.setNormal ∉ cs ∧ .clear ∉ cs))
  | .push _ | .doReprocess | .remove _ | .setNormal | .clear => isTrue trivial

theorem Act.Completed.perm {a : Act} {cs ds : List Call} (h : a.Completed cs) (hcs : cs.Perm ds) :
    a.Completed ds := by
  cases a with
  | remove f => exact fun c hc => h c (hcs.mem_iff.mpr hc)
  | push | setHigh | raise | doReprocess | setNormal | clear => trivial

theorem Act.Ordered.perm {a : Act} {cs ds : List Call} (h : a.Ordered cs) (hcs : cs.Perm ds) :
    a.Ordered ds := by
  cases a with
  | setHigh => exact mt hcs.mem_iff.mpr h
  | raise => exact ⟨mt hcs.mem_iff.mpr h.1, mt hcs.mem_iff.mpr h.2⟩
  | push | doReprocess | remove | setNormal | clear => trivial

variable {f g : UInt32} {fs : List UInt32}

theorem mem_removeFrame (hne : g ≠ f) (h : g ∈ fs) : g ∈ removeFrame f fs := by
  fun_induction removeFrame f fs with
  | case1 => exact h
  | case2 => exact absurd (mem_singleton.mp h) hne
  | case3 x xs ih =>
    rcases mem_cons.mp h with rfl | h
    · exact absurd rfl hne
    rcases mem_cons.mp h with rfl | h
    · exact mem_cons_self
    · exact mem_cons_of_mem _ (ih h)
  | case4 x xs hx ih =>
    rcases mem_cons.mp h with rfl | h
    · exact mem_cons_self
    · exact mem_cons_of_mem _ (ih h)

/-- **What is kept.** The frames that are being passed are pending. Without pending frames, the mode is
normal unless a reset is about to set it, and the flag is clear unless a reset is under way. With
pending frames, a thread is about to set the mode, or it is high and stays so; and a thread is about
to set the flag, or it is set and stays so. -/
structure Kept (s : Perf) (cs : List Call) : Prop where
  pending : ∀ c ∈ cs, ∀ f, c.frame = some f → f ∈ s.frames
  normal : s.frames = [] → .setNormal ∉ cs → s.Normal
  lowered : s.frames = [] → .setNormal ∉ cs → .clear ∉ cs → s.reprocessPerfMode = false
  high : s.frames ≠ [] → (∃ f, .setHigh f ∈ cs) ∨
    (s.mode = some .HIGH_PERFORMANCE ∧ .setNormal ∉ cs)
  raised : s.frames ≠ [] → (∃ f, .setHigh f ∈ cs ∨ .raise f ∈ cs) ∨
    (s.reprocessPerfMode = true ∧ .setNormal ∉ cs ∧ .clear ∉ cs)

namespace Kept

variable {s t : Perf} {c c' : Call} {cs ds rest : List Call}

theorem perm (h : Kept s cs) (hcs : cs.Perm ds) : Kept s ds where
  pending c hc := h.pending c (hcs.mem_iff.mpr hc)
  normal hf hn := h.normal hf (mt hcs.mem_iff.mp hn)
  lowered hf hn hc := h.lowered hf (mt hcs.mem_iff.mp hn) (mt hcs.mem_iff.mp hc)
  high hf := by simpa only [hcs.mem_iff] using h.high hf
  raised hf := by simpa only [hcs.mem_iff] using h.raised hf

theorem mem_of_ne {x : Call} (h : x ∈ c :: rest) (hne : x ≠ c) (c' : Call) : x ∈ c' :: rest :=
  mem_cons_of_mem _ ((mem_cons.mp h).resolve_left hne)

theorem notMem_of_ne {x : Call} (h : x ∉ c :: rest) (hne : x ≠ c') : x ∉ c' :: rest :=
  not_mem_cons_of_ne_of_not_mem hne (not_mem_of_not_mem_cons h)

/-- **A frame is pushed**: if it is the first one, its thread is about to set the mode. -/
theorem push (h : Kept s (.idle :: rest)) (f : UInt32) :
    Kept { s with frames := s.frames ++ [f] }
      ((if s.frames.isEmpty then .setHigh f else .doReprocess f) :: rest) := by
  have hne : s.frames ++ [f] ≠ [] := concat_ne_nil f s.frames
  refine ⟨fun c hc g hg => ?_, fun hf => absurd hf hne, fun hf => absurd hf hne, fun _ => ?_,
    fun _ => ?_⟩
  · rcases mem_cons.mp hc with rfl | hc
    · obtain rfl : f = g := by
        split at hg <;> exact Option.some.inj hg
      exact mem_append_right _ (mem_singleton_self f)
    · exact mem_append_left _ (h.pending c (mem_cons_of_mem _ hc) g hg)
  · by_cases hf : s.frames = []
    · exact .inl ⟨f, by simp [hf]⟩
    · have hlast : (if s.frames.isEmpty then Call.setHigh f else .doReprocess f) = .doReprocess f :=
        if_neg (by simpa using hf)
      rw [hlast]
      rcases h.high hf with ⟨g, hg⟩ | ⟨hmode, hnot⟩
      · exact .inl ⟨g, mem_of_ne hg nofun _⟩
      · exact .inr ⟨hmode, notMem_of_ne hnot nofun⟩
  · by_cases hf : s.frames = []
    · exact .inl ⟨f, .inl (by simp [hf])⟩
    · have hlast : (if s.frames.isEmpty then Call.setHigh f else .doReprocess f) = .doReprocess f :=
        if_neg (by simpa using hf)
      rw [hlast]
      rcases h.raised hf with ⟨g, hg | hg⟩ | ⟨hflag, hnot, hclear⟩
      · exact .inl ⟨g, .inl (mem_of_ne hg nofun _)⟩
      · exact .inl ⟨g, .inr (mem_of_ne hg nofun _)⟩
      · exact .inr ⟨hflag, notMem_of_ne hnot nofun, notMem_of_ne hclear nofun⟩

theorem pending_of (h : Kept s (c :: rest)) (hc' : ∀ f, c'.frame = some f → c.frame = some f) :
    ∀ d ∈ c' :: rest, ∀ f, d.frame = some f → f ∈ s.frames := by
  intro d hd f hf
  rcases mem_cons.mp hd with rfl | hd
  · exact h.pending c mem_cons_self f (hc' f hf)
  · exact h.pending d (mem_cons_of_mem _ hd) f hf

/-- **The mode is set to high**, with no reset that is about to set it. -/
theorem setHigh {f : UInt32} (h : Kept s (.setHigh f :: rest))
    (ordered : .setNormal ∉ Call.setHigh f :: rest) :
    Kept { s with mode := some .HIGH_PERFORMANCE } (.raise f :: rest) := by
  have hf : f ∈ s.frames := h.pending _ mem_cons_self f rfl
  have hne : s.frames ≠ [] := ne_nil_of_mem hf
  exact ⟨h.pending_of fun g hg => hg, fun hf => absurd hf hne, fun hf => absurd hf hne,
    fun _ => .inr ⟨rfl, notMem_of_ne ordered nofun⟩,
    fun _ => .inl ⟨f, .inr mem_cons_self⟩⟩

/-- **The flag is set**, with no reset that is under way. -/
theorem raise {f : UInt32} (h : Kept s (.raise f :: rest))
    (ordered : .setNormal ∉ Call.raise f :: rest ∧ .clear ∉ Call.raise f :: rest) :
    Kept { s with reprocessPerfMode := true } (.doReprocess f :: rest) := by
  have hf : f ∈ s.frames := h.pending _ mem_cons_self f rfl
  have hne : s.frames ≠ [] := ne_nil_of_mem hf
  refine ⟨h.pending_of fun g hg => hg, fun hf => absurd hf hne, fun hf => absurd hf hne,
    fun _ => ?_, fun _ => .inr ⟨rfl, notMem_of_ne ordered.1 nofun, notMem_of_ne ordered.2 nofun⟩⟩
  rcases h.high hne with ⟨g, hg⟩ | ⟨hmode, hnot⟩
  · exact .inl ⟨g, mem_of_ne hg nofun _⟩
  · exact .inr ⟨hmode, notMem_of_ne hnot nofun⟩

theorem doReprocess {f : UInt32} (h : Kept s (.doReprocess f :: rest)) : Kept s (.idle :: rest) where
  pending := h.pending_of nofun
  normal hf hn := h.normal hf (notMem_of_ne hn nofun)
  lowered hf hn hc := h.lowered hf (notMem_of_ne hn nofun) (notMem_of_ne hc nofun)
  high hf := by
    rcases h.high hf with ⟨g, hg⟩ | ⟨hmode, hnot⟩
    · exact .inl ⟨g, mem_of_ne hg nofun _⟩
    · exact .inr ⟨hmode, notMem_of_ne hnot nofun⟩
  raised hf := by
    rcases h.raised hf with ⟨g, hg | hg⟩ | ⟨hflag, hnot, hclear⟩
    · exact .inl ⟨g, .inl (mem_of_ne hg nofun _)⟩
    · exact .inl ⟨g, .inr (mem_of_ne hg nofun _)⟩
    · exact .inr ⟨hflag, notMem_of_ne hnot nofun, notMem_of_ne hclear nofun⟩

/-- **A frame is removed**: the last one leads to a reset. -/
theorem remove (h : Kept s (.idle :: rest)) {f : UInt32}
    (completed : ∀ c ∈ Call.idle :: rest, c.frame ≠ some f) :
    Kept { s with frames := removeFrame f s.frames }
      ((if s.reprocessPerfMode && (removeFrame f s.frames).isEmpty then .setNormal else .idle) ::
        rest) := by
  have hpending : ∀ c ∈ rest, ∀ g, c.frame = some g → g ∈ removeFrame f s.frames := by
    intro c hc g hg
    have hc := mem_cons_of_mem Call.idle hc
    exact mem_removeFrame (fun heq => completed c hc (heq ▸ hg)) (h.pending c hc g hg)
  have hframes {c' : Call} (hc' : ∀ g, c'.frame ≠ some g) :
      ∀ c ∈ c' :: rest, ∀ g, c.frame = some g → g ∈ removeFrame f s.frames := by
    intro c hc g hg
    rcases mem_cons.mp hc with rfl | hc
    · exact absurd hg (hc' g)
    · exact hpending c hc g hg
  by_cases hempty : removeFrame f s.frames = []
  · -- no thread passes a frame
    have hnone : ∀ c ∈ Call.idle :: rest, ∀ g, c.frame ≠ some g := by
      intro c hc g hg
      rcases mem_cons.mp hc with rfl | hc
      · cases hg
      · have hmem := hpending c hc g hg
        rw [hempty] at hmem
        cases hmem
    cases hflag : s.reprocessPerfMode with
    | true =>
      rw [if_pos (by simp [hempty])]
      exact ⟨hframes nofun, fun _ hn => absurd mem_cons_self hn,
        fun _ hn => absurd mem_cons_self hn, fun hf => absurd hempty hf,
        fun hf => absurd hempty hf⟩
    | false =>
      have hnil : s.frames = [] := by
        by_contra hne
        rcases h.raised hne with ⟨g, hg | hg⟩ | ⟨hset, -⟩
        · exact hnone _ hg g rfl
        · exact hnone _ hg g rfl
        · exact absurd (hset.symm.trans hflag) Bool.noConfusion
      rw [if_neg (by simp)]
      exact ⟨hframes nofun, fun _ => h.normal hnil, fun _ _ _ => rfl, fun hf => absurd hempty hf,
        fun hf => absurd hempty hf⟩
  · have hne : s.frames ≠ [] := fun hnil => hempty (by rw [hnil]; rfl)
    rw [if_neg (by simp [hempty])]
    exact ⟨hframes nofun, fun hf => absurd hf hempty, fun hf => absurd hf hempty,
      fun _ => h.high hne, fun _ => h.raised hne⟩

/-- **The mode is set to normal**: with pending frames, a thread is about to set it to high. -/
theorem setNormal (h : Kept s (.setNormal :: rest)) :
    Kept { s with mode := some .NORMAL } (.clear :: rest) where
  pending := h.pending_of nofun
  normal _ _ := .inr rfl
  lowered _ _ hc := absurd mem_cons_self hc
  high hf := by
    rcases h.high hf with ⟨g, hg⟩ | ⟨-, hnot⟩
    · exact .inl ⟨g, mem_of_ne hg nofun _⟩
    · exact absurd mem_cons_self hnot
  raised hf := by
    rcases h.raised hf with ⟨g, hg | hg⟩ | ⟨-, hnot, -⟩
    · exact .inl ⟨g, .inl (mem_of_ne hg nofun _)⟩
    · exact .inl ⟨g, .inr (mem_of_ne hg nofun _)⟩
    · exact absurd mem_cons_self hnot

/-- **The flag is cleared**: with pending frames, a thread is about to set it. -/
theorem clear (h : Kept s (.clear :: rest)) :
    Kept { s with reprocessPerfMode := false } (.idle :: rest) where
  pending := h.pending_of nofun
  normal hf hn := h.normal hf (notMem_of_ne hn nofun)
  lowered _ _ _ := rfl
  high hf := by
    rcases h.high hf with ⟨g, hg⟩ | ⟨hmode, hnot⟩
    · exact .inl ⟨g, mem_of_ne hg nofun _⟩
    · exact .inr ⟨hmode, notMem_of_ne hnot nofun⟩
  raised hf := by
    rcases h.raised hf with ⟨g, hg | hg⟩ | ⟨-, -, hclear⟩
    · exact .inl ⟨g, .inl (mem_of_ne hg nofun _)⟩
    · exact .inl ⟨g, .inr (mem_of_ne hg nofun _)⟩
    · exact absurd mem_cons_self hclear

/-- **A step of a thread** is kept, if it is ordered. -/
theorem exec {a : Act} (h : Kept s (c :: rest)) (completed : a.Completed (c :: rest))
    (ordered : a.Ordered (c :: rest)) (step : a.exec s c = some (t, c')) : Kept t (c' :: rest) := by
  cases a <;> cases c <;> cases step
  case push.idle f => exact h.push f
  case setHigh.setHigh => exact h.setHigh ordered
  case raise.raise => exact h.raise ordered
  case doReprocess.doReprocess => exact h.doReprocess
  case remove.idle => exact h.remove completed
  case setNormal.setNormal => exact h.setNormal
  case clear.clear => exact h.clear

theorem agrees (h : Kept s cs) (quiet : ∀ c ∈ cs, c = .idle) : s.Agrees := by
  have hnot {c : Call} (hne : c ≠ .idle) : c ∉ cs := fun hc => hne (quiet c hc)
  unfold Perf.Agrees
  split
  · next hf => exact ⟨h.normal hf (hnot nofun), h.lowered hf (hnot nofun) (hnot nofun)⟩
  · next hf =>
    refine ⟨?_, ?_⟩
    · rcases h.high hf with ⟨g, hg⟩ | ⟨hmode, -⟩
      · exact absurd hg (hnot nofun)
      · exact hmode
    · rcases h.raised hf with ⟨g, hg | hg⟩ | ⟨hflag, -⟩
      · exact absurd hg (hnot nofun)
      · exact absurd hg (hnot nofun)
      · exact hflag

end Kept

/-- A step of a thread, of a frame that is completed if it is removed. -/
def Step (l : ℕ × Act) (s t : Threads Perf Call) : Prop :=
  l.2.Completed s.locals ∧ Threads.Step Act.exec (fun _ _ _ => True) l s t

def start (threads : ℕ) : Threads Perf Call := ⟨{}, List.replicate threads .idle⟩

theorem kept_start (threads : ℕ) : Kept (start threads).shared (start threads).locals where
  pending c hc f hf := by
    rw [eq_of_mem_replicate hc] at hf
    cases hf
  normal _ _ := .inl rfl
  lowered _ _ _ := rfl
  high h := absurd rfl h
  raised h := absurd rfl h

/-- **A step** keeps what is kept, if it is ordered. -/
theorem Kept.step {l : ℕ × Act} {s t : Threads Perf Call} (h : Kept s.shared s.locals)
    (ordered : l.2.Ordered s.locals) (step : Step l s t) : Kept t.shared t.locals := by
  obtain ⟨c, c', rest, hs, ht, -, hexec⟩ := step.2.perm
  exact ((h.perm hs).exec (step.1.perm hs) (ordered.perm hs) hexec).perm ht.symm

/-- **The mode and the flag agree with the list** whenever no call is under way, in every run in which
they are changed in order. -/
theorem perf_agrees {threads : ℕ} {ls : List (ℕ × Act)} {s : Threads Perf Call}
    (run : Run (fun l s t => l.2.Ordered s.locals ∧ Step l s t) ls (start threads) s)
    (quiet : ∀ c ∈ s.locals, c = .idle) : s.shared.Agrees := by
  have hkept : Kept s.shared s.locals :=
    run.invariant (I := fun s => Kept s.shared s.locals)
      (fun _ _ _ hstep h => h.step hstep.1 hstep.2) (kept_start threads)
  exact hkept.agrees quiet

/-- A frame is completed, and the reset decided, when the next one is pushed: then the first thread
goes on, and the second one has its turn. -/
def pushedLate (first : List (ℕ × Act)) : List (ℕ × Act) :=
  [(0, .push 1), (0, .setHigh), (0, .raise), (0, .doReprocess), (1, .remove 1), (0, .push 2)] ++ first

/-- The reset comes to its end first. -/
theorem perf_agrees_two : ∃ s : Threads Perf Call, s.shared.Agrees ∧ s.shared.frames = [2] := by
  obtain ⟨s, hs, hquiet, hframes⟩ : ∃ s,
      execAll (fun s l => if l.2.Ordered s.locals ∧ l.2.Completed s.locals then
        Threads.exec Act.exec (fun _ _ _ => true) s l else none)
        (start 2) (pushedLate [(1, .setNormal), (0, .setHigh), (1, .clear), (0, .raise),
          (0, .doReprocess)]) = some s ∧ (∀ c ∈ s.locals, c = .idle) ∧ s.shared.frames = [2] :=
    ⟨_, rfl, by decide, rfl⟩
  refine ⟨s, perf_agrees ((Run.of_execAll hs).mono fun l _ s t hstep => ?_) hquiet, hframes⟩
  obtain ⟨⟨hordered, hcompleted⟩, hexec⟩ := Option.ite_none_right_eq_some.mp hstep
  exact ⟨hordered, hcompleted, Threads.step_of_exec (fun _ _ _ _ => trivial) hexec⟩

/-- The frame sets the mode first: it is left pending in normal mode. -/
theorem perf_normal : ∃ ls s, Run Step ls (start 2) s ∧ (∀ c ∈ s.locals, c = .idle) ∧
    s.shared.frames = [2] ∧ s.shared.mode = some .NORMAL ∧ ¬ s.shared.Agrees := by
  obtain ⟨s, hs, hquiet, hframes, hmode⟩ : ∃ s, execAll (fun s l => if l.2.Completed s.locals then
        Threads.exec Act.exec (fun _ _ _ => true) s l else none)
        (start 2) (pushedLate [(0, .setHigh), (1, .setNormal), (1, .clear), (0, .raise),
          (0, .doReprocess)]) = some s ∧ (∀ c ∈ s.locals, c = .idle) ∧ s.shared.frames = [2] ∧
            s.shared.mode = some .NORMAL := ⟨_, rfl, by decide, rfl, rfl⟩
  refine ⟨_, s, (Run.of_execAll hs).mono fun l _ s t hstep => ?_, hquiet, hframes, hmode,
    fun h => ?_⟩
  · obtain ⟨hcompleted, hexec⟩ := Option.ite_none_right_eq_some.mp hstep
    exact ⟨hcompleted, Threads.step_of_exec (fun _ _ _ _ => trivial) hexec⟩
  · unfold Perf.Agrees at h
    rw [hframes, if_neg (by decide), hmode] at h
    exact absurd h.1 (by decide)

end PriorityFrames
