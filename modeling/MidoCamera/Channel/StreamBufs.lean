import MidoCamera.Channel.StreamMem

/-!
# The buffers of a stream

`getBufs` asks the channel for the memory, maps the slots that are in use, and fills in a definition
for each; where a step fails it undoes part of what it did.
`bufDone` maps a slot that has no definition yet before it is queued, and `bufRelease` unmaps it.
-/

namespace StreamBufs

/-- `QCamera3Stream`: `mStreamBufs` is there or not. The last two fields are what the stream has
mapped, by fd, and whether the channel has given its memory out. -/
structure Stream where
  numBufs : ℕ
  frameLenOffset : FrameLenOffset := ⟨0, fun _ => 0, fun _ => 0⟩
  memOps : Bool := false
  streamBufs : Bool := false
  bufDefs : Option (ℕ → BufDef) := none
  mapped : ℕ → Option ℤ := fun _ => none
  memoryOut : Bool := false

/-- What is called in `getBufs`: the memory that the channel gives, and what succeeds. `getRegFlags`
has a status, too. -/
structure GetBufs where
  streamBufs : Option StreamMem
  mapOps : ℕ → Bool
  unmapOps : ℕ → Bool
  regFlagsMem : Bool
  bufDefsMem : Bool
  regFlags : Bool

namespace Stream

/-- `unmap_ops`. -/
def unmap (s : Stream) (ok : Bool) (index : ℕ) : Stream :=
  if ok then { s with mapped := Function.update s.mapped index none } else s

/-- The first slots are unmapped, as far as they are valid. -/
def unmapBufs (mem : StreamMem) (unmapOps : ℕ → Bool) (s : Stream) : ℕ → Stream
  | 0 => s
  | i + 1 =>
    let t := s.unmapBufs mem unmapOps i
    if mem.valid i then t.unmap (unmapOps i) i else t

/-- The first slots are mapped, as far as they are valid; where one is not, those before it are
unmapped. -/
def mapBufs (mem : StreamMem) (e : GetBufs) (s : Stream) : ℕ → Stream × Bool
  | 0 => (s, true)
  | i + 1 =>
    match s.mapBufs mem e i with
    | (t, false) => (t, false)
    | (t, true) =>
      if mem.valid i then
        match mem.getSize i with
        | some _ =>
          if e.mapOps i then
            ({ t with mapped := Function.update t.mapped i (mem.getFd i) }, true)
          else (t.unmapBufs mem e.unmapOps i, false)
        | none => (t, false)
      else (t, true)

def initialDefs (s : Stream) (mem : StreamMem) (i : ℕ) : BufDef :=
  if i < s.numBufs ∧ mem.valid i then (mem.getBufDef s.frameLenOffset {} i).1 else {}

/-- `getBufs`, after the memory has been given. -/
def getBufsFrom (s : Stream) (mem : StreamMem) (e : GetBufs) : Stream × Status :=
  match s.mapBufs mem e s.numBufs with
  | (t, false) => (t, .INVALID_OPERATION)
  | (t, true) =>
    let undone := t.unmapBufs mem e.unmapOps s.numBufs
    if !e.regFlagsMem then (undone, .NO_MEMORY)
    else if !e.bufDefsMem then ({ undone with bufDefs := none }, .INVALID_OPERATION)
    else if !e.regFlags then ({ undone with bufDefs := none }, .INVALID_OPERATION)
    else ({ t with bufDefs := some (t.initialDefs mem) }, .NO_ERROR)

def getBufs (s : Stream) (offset : FrameLenOffset) (opsTbl : Bool) (e : GetBufs) :
    Stream × Status :=
  if !opsTbl then (s, .INVALID_OPERATION)
  else
    let t := { s with frameLenOffset := offset, memOps := true }
    if s.streamBufs then (t, .INVALID_OPERATION)
    else match e.streamBufs with
      | none => (t, .NO_MEMORY)
      | some mem => { t with streamBufs := true, memoryOut := true }.getBufsFrom mem e

def bufDef (s : Stream) (index : ℕ) : BufDef :=
  match s.bufDefs with
  | some defs => defs index
  | none => {}

def hasDef (s : Stream) (index : ℕ) : Bool := (s.bufDef index).memInfo

/-- The end of `bufDone`. -/
def queue (s : Stream) (qbuf : Bool) : Stream × Status :=
  (s, if qbuf then .NO_ERROR else .FAILED_TRANSACTION)

/-- `bufDone` of a stream without batches. -/
def bufDone (s : Stream) (mem : StreamMem) (index : ℕ) (map unmap qbuf : Bool) : Stream × Status :=
  match s.bufDefs with
  | none => (s, .BAD_INDEX)
  | some defs =>
    if index ≥ s.numBufs then (s, .BAD_INDEX)
    else if !s.streamBufs then (s, .INVALID_OPERATION)
    else if (defs index).memInfo then s.queue qbuf
    else if !s.memOps then (s, .NO_INIT)
    else match mem.getSize index with
      | none => (s, .INVALID_OPERATION)
      | some _ =>
        if !map then (s, .failed)
        else
          let r := mem.getBufDef s.frameLenOffset (defs index) index
          let t :=
            { s with
              mapped := Function.update s.mapped index (mem.getFd index)
              bufDefs := some (Function.update defs index r.1) }
          if r.2 ≠ .NO_ERROR then (t.unmap unmap index, r.2) else t.queue qbuf

def bufRelease (s : Stream) (index : ℕ) (unmap : Bool) : Stream × Status :=
  match s.bufDefs with
  | none => (s, .BAD_INDEX)
  | some defs =>
    if index ≥ s.numBufs then (s, .BAD_INDEX)
    else if !(defs index).memInfo then (s, .BAD_INDEX)
    else if !s.memOps then (s, .NO_INIT)
    else if !unmap then (s, .failed)
    else
      ({ s with
         mapped := Function.update s.mapped index none
         bufDefs := some (Function.update defs index { defs index with memInfo := false }) },
        .NO_ERROR)

end Stream

/-- Everything that `getBufs` calls succeeds. -/
def GetBufs.Succeeds (e : GetBufs) : Prop :=
  e.streamBufs.isSome ∧ (∀ i, e.mapOps i = true) ∧ e.regFlagsMem = true ∧ e.bufDefsMem = true ∧
    e.regFlags = true

namespace Stream

/-- A stream that has no buffers. -/
structure Idle (s : Stream) : Prop where
  unmapped : ∀ i, s.mapped i = none
  streamBufs : s.streamBufs = false
  bufDefs : s.bufDefs = none
  memory : s.memoryOut = false

/-- **Nothing is left** of an acquisition that failed: the stream has no buffers, and its next
`getBufs` succeeds if what it calls does. -/
structure Undone (s : Stream) : Prop extends s.Idle where
  next : ∀ offset e, e.Succeeds → (s.getBufs offset true e).2 = .NO_ERROR

section

variable {s t : Stream} {mem : StreamMem} {e : GetBufs} {unmapOps : ℕ → Bool} {i k : ℕ}

/-! ## The loops -/

theorem valid_iff : mem.valid i = true ↔ ∃ size, mem.getSize i = some size ∧ 0 < size := by
  unfold StreamMem.valid
  split
  · next size hsize => simp [hsize]
  · next hsize => simp [hsize]

theorem unmapBufs_eq (s : Stream) (mem : StreamMem) (unmapOps : ℕ → Bool) (k : ℕ) :
    ∃ mapped, s.unmapBufs mem unmapOps k = { s with mapped := mapped } := by
  induction k with
  | zero => exact ⟨s.mapped, rfl⟩
  | succ k ih =>
    obtain ⟨mapped, heq⟩ := ih
    unfold unmapBufs unmap
    rw [heq]
    split
    · split
      · exact ⟨_, rfl⟩
      · exact ⟨mapped, rfl⟩
    · exact ⟨mapped, rfl⟩

theorem unmapBufs_mapped (hunmap : ∀ i, unmapOps i = true) (k j : ℕ) :
    (s.unmapBufs mem unmapOps k).mapped j =
      if j < k ∧ mem.valid j = true then none else s.mapped j := by
  induction k with
  | zero => simp [unmapBufs]
  | succ k ih =>
    unfold unmapBufs unmap
    simp only [hunmap, if_true]
    split
    · next hvalid =>
      rcases eq_or_ne j k with rfl | hne
      · simp [hvalid]
      · have hlt : j < k + 1 ↔ j < k := by omega
        simp only [Function.update_of_ne hne, ih, hlt]
    · next hvalid =>
      rw [ih]
      rcases eq_or_ne j k with rfl | hne
      · simp [hvalid]
      · have hlt : j < k + 1 ↔ j < k := by omega
        simp only [hlt]

theorem mapBufs_eq {b : Bool} (hmap : s.mapBufs mem e k = (t, b)) :
    ∃ mapped, t = { s with mapped := mapped } := by
  induction k generalizing t b with
  | zero =>
    cases hmap
    exact ⟨s.mapped, rfl⟩
  | succ k ih =>
    unfold mapBufs at hmap
    split at hmap
    · next u hprev =>
      cases hmap
      exact ih hprev
    next u hprev =>
    obtain ⟨mapped, rfl⟩ := ih hprev
    split at hmap
    · split at hmap
      · split at hmap
        · cases hmap
          exact ⟨_, rfl⟩
        · cases hmap
          obtain ⟨undone, hundone⟩ := unmapBufs_eq { s with mapped := mapped } mem e.unmapOps k
          exact ⟨undone, hundone⟩
      · cases hmap
        exact ⟨mapped, rfl⟩
    · cases hmap
      exact ⟨mapped, rfl⟩

/-- **What is mapped**: the valid slots, each for its fd. -/
theorem mapBufs_true (hmap : s.mapBufs mem e k = (t, true)) (j : ℕ) :
    t.mapped j = if j < k ∧ mem.valid j = true then mem.getFd j else s.mapped j := by
  induction k generalizing t with
  | zero =>
    cases hmap
    simp
  | succ k ih =>
    unfold mapBufs at hmap
    split at hmap
    · cases hmap
    next u hprev =>
    have hbefore := ih hprev
    rcases eq_or_ne j k with rfl | hne
    · split at hmap
      · next hvalid =>
        split at hmap
        · split at hmap
          · cases hmap
            simp [hvalid]
          · cases hmap
        · cases hmap
      · next hvalid =>
        cases hmap
        simpa [hvalid] using hbefore
    · have hlt : j < k + 1 ↔ j < k := by omega
      simp only [hlt]
      rw [← hbefore]
      split at hmap
      · split at hmap
        · split at hmap
          · cases hmap
            exact Function.update_of_ne hne ..
          · cases hmap
        · cases hmap
      · cases hmap
        rfl

theorem mapBufs_false (hunmap : ∀ i, e.unmapOps i = true) (hidle : ∀ i, s.mapped i = none)
    (hmap : s.mapBufs mem e k = (t, false)) (j : ℕ) : t.mapped j = none := by
  induction k generalizing t with
  | zero => cases hmap
  | succ k ih =>
    unfold mapBufs at hmap
    split at hmap
    · next u hprev =>
      cases hmap
      exact ih hprev
    next u hprev =>
    split at hmap
    · next hvalid =>
      split at hmap
      · split at hmap
        · cases hmap
        · cases hmap
          rw [unmapBufs_mapped hunmap, mapBufs_true hprev, hidle]
          split <;> rfl
      · -- a slot that is valid has a size
        next hsize =>
        obtain ⟨size, hsome, -⟩ := valid_iff.mp hvalid
        rw [hsize] at hsome
        cases hsome
    · cases hmap

theorem mapBufs_succeeds (hmap : ∀ i, e.mapOps i = true) (s : Stream) (mem : StreamMem) (k : ℕ) :
    (s.mapBufs mem e k).2 = true := by
  induction k with
  | zero => rfl
  | succ k ih =>
    unfold mapBufs
    split
    · next t hprev =>
      rw [hprev] at ih
      cases ih
    · split
      · next hvalid =>
        obtain ⟨size, hsome, -⟩ := valid_iff.mp hvalid
        simp [hsome, hmap]
      · rfl

/-! ## The acquisition -/

theorem getBufsFrom_eq (s : Stream) (mem : StreamMem) (e : GetBufs) : ∃ mapped bufDefs,
    (s.getBufsFrom mem e).1 = { s with mapped := mapped, bufDefs := bufDefs } := by
  unfold getBufsFrom
  split
  · next t hmap =>
    obtain ⟨mapped, rfl⟩ := mapBufs_eq hmap
    exact ⟨mapped, s.bufDefs, rfl⟩
  · next t hmap =>
    obtain ⟨mapped, rfl⟩ := mapBufs_eq hmap
    obtain ⟨undone, hundone⟩ := unmapBufs_eq { s with mapped := mapped } mem e.unmapOps s.numBufs
    simp only [hundone]
    split
    · exact ⟨undone, _, rfl⟩
    · split
      · exact ⟨undone, _, rfl⟩
      · split
        · exact ⟨undone, _, rfl⟩
        · exact ⟨mapped, _, rfl⟩

/-- **An acquisition that succeeds** has mapped the valid slots and defined them. -/
theorem getBufsFrom_mapped (hok : (s.getBufsFrom mem e).2 = .NO_ERROR) :
    (∀ j, (s.getBufsFrom mem e).1.mapped j =
      if j < s.numBufs ∧ mem.valid j = true then mem.getFd j else s.mapped j) ∧
      (s.getBufsFrom mem e).1.bufDefs = some (s.initialDefs mem) := by
  unfold getBufsFrom at hok ⊢
  split at hok
  · cases hok
  next t hmap =>
  obtain ⟨mapped, rfl⟩ := mapBufs_eq hmap
  simp only
  split at hok
  · cases hok
  next hflags =>
  split at hok
  · cases hok
  next hdefs =>
  split at hok
  · cases hok
  next hreg =>
  rw [if_neg hflags, if_neg hdefs, if_neg hreg]
  exact ⟨fun j => mapBufs_true hmap j, rfl⟩

/-- **An acquisition that fails** leaves no slot mapped and none defined, where unmapping succeeds. -/
theorem getBufsFrom_failed (hunmap : ∀ i, e.unmapOps i = true) (hidle : ∀ i, s.mapped i = none)
    (hdefs : s.bufDefs = none) (hfail : (s.getBufsFrom mem e).2 ≠ .NO_ERROR) :
    (∀ j, (s.getBufsFrom mem e).1.mapped j = none) ∧ (s.getBufsFrom mem e).1.bufDefs = none := by
  unfold getBufsFrom at hfail ⊢
  split
  · next t hmap =>
    refine ⟨mapBufs_false hunmap hidle hmap, ?_⟩
    obtain ⟨mapped, rfl⟩ := mapBufs_eq hmap
    exact hdefs
  next t hmap =>
  rw [hmap] at hfail
  have hunmapped (j : ℕ) : (t.unmapBufs mem e.unmapOps s.numBufs).mapped j = none := by
    rw [unmapBufs_mapped hunmap, mapBufs_true hmap, hidle]
    split <;> rfl
  split
  · refine ⟨hunmapped, ?_⟩
    obtain ⟨mapped, rfl⟩ := mapBufs_eq hmap
    obtain ⟨undone, hundone⟩ := unmapBufs_eq { s with mapped := mapped } mem e.unmapOps s.numBufs
    rw [hundone]
    exact hdefs
  next hflags =>
  split
  · exact ⟨hunmapped, rfl⟩
  next hdefsMem =>
  split
  · exact ⟨hunmapped, rfl⟩
  next hreg =>
  simp only [if_neg hflags, if_neg hdefsMem, if_neg hreg] at hfail
  exact absurd rfl hfail

theorem getBufs_succeeds (hstream : s.streamBufs = false) (offset : FrameLenOffset)
    (he : e.Succeeds) : (s.getBufs offset true e).2 = .NO_ERROR := by
  obtain ⟨hmem, hmap, hflags, hdefs, hreg⟩ := he
  obtain ⟨mem, hmem⟩ := Option.isSome_iff_exists.mp hmem
  unfold getBufs
  simp only [Bool.not_true, Bool.false_eq_true, if_false, hstream, hmem]
  unfold getBufsFrom
  split
  · next t hfail =>
    have htrue := congrArg Prod.snd hfail
    rw [mapBufs_succeeds hmap] at htrue
    cases htrue
  · simp [hflags, hdefs, hreg]

end

/-- **A failed acquisition is undone** exactly if it is the channel that gave no memory: after every
other failure, as after a success, `mStreamBufs` is set, and the memory is not put back. -/
theorem getBufs_undone_iff {s : Stream} (idle : s.Idle) (offset : FrameLenOffset) (e : GetBufs) :
    (s.getBufs offset true e).1.Undone ↔ e.streamBufs = none := by
  constructor
  · intro hundone
    by_contra hsome
    obtain ⟨mem, hmem⟩ := Option.ne_none_iff_exists'.mp hsome
    have hleft := hundone.streamBufs
    unfold getBufs at hleft
    simp only [Bool.not_true, Bool.false_eq_true, if_false, idle.streamBufs, hmem] at hleft
    obtain ⟨mapped, bufDefs, heq⟩ := getBufsFrom_eq
      { s with frameLenOffset := offset, memOps := true, streamBufs := true, memoryOut := true } mem e
    rw [heq] at hleft
    cases hleft
  · intro hnone
    have heq : (s.getBufs offset true e).1 =
        { s with frameLenOffset := offset, memOps := true } := by
      unfold getBufs
      simp only [Bool.not_true, Bool.false_eq_true, if_false, idle.streamBufs, hnone]
    rw [heq]
    exact ⟨⟨idle.unmapped, idle.streamBufs, idle.bufDefs, idle.memory⟩,
      fun offset e he => getBufs_succeeds idle.streamBufs offset he⟩

theorem idle_created (numBufs : ℕ) : Idle { numBufs } := ⟨fun _ => rfl, rfl, rfl, rfl⟩

theorem getBufs_undone_iff_two :
    (Stream.getBufs { numBufs := 2 } ⟨1, fun _ => 0, fun _ => 0⟩ true
      ⟨none, fun _ => true, fun _ => true, true, true, true⟩).1.Undone :=
  (getBufs_undone_iff (idle_created 2) _ _).mpr rfl

/-- The second of two slots is not mapped: `getBufs` fails, and so does the next one, with nothing
that it calls. -/
theorem getBufs_kept : ∃ (mem : StreamMem) (offset : FrameLenOffset) (e e' : GetBufs),
    e.streamBufs = some mem ∧ (Stream.getBufs { numBufs := 2 } offset true e).2 ≠ .NO_ERROR ∧
      e'.Succeeds ∧
      ((Stream.getBufs { numBufs := 2 } offset true e).1.getBufs offset true e').2 =
        .INVALID_OPERATION ∧
      ¬ (Stream.getBufs { numBufs := 2 } offset true e).1.Undone := by
  let mem : StreamMem := ⟨2, ⟨2, fun i => ⟨i, 4096, true⟩, fun _ => -1⟩, {}, fun _ => none⟩
  let offset : FrameLenOffset := ⟨1, fun _ => 4096, fun _ => 0⟩
  let e : GetBufs := ⟨some mem, fun i => i == 0, fun _ => true, true, true, true⟩
  let e' : GetBufs := ⟨some mem, fun _ => true, fun _ => true, true, true, true⟩
  refine ⟨mem, offset, e, e', rfl, by decide, ⟨rfl, fun _ => rfl, rfl, rfl, rfl⟩, by decide, ?_⟩
  intro hundone
  exact absurd hundone.streamBufs (by decide)

end Stream

end StreamBufs
