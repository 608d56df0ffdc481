import MidoCamera.Library.Run
import Mathlib.Data.Nat.Bitwise

/-!
# The handles of cameras, channels and streams

Every camera, channel and stream object is named by a handle: the slot of its table in the low
byte, and above it a counter of 16 bits that all tables share and that skips zero when it wraps.
The generations of a run are numbered; the number an object was born with is kept beside its
handle and is read by no function of the code.
-/

namespace MmCamera

open Loop

/-! ## Handles -/

/-- `g_handler_history_count` after the next generation: 16 bits, and never zero. -/
def nextHistoryCount (count : ℕ) : ℕ :=
  let count := (count + 1) % 2 ^ 16
  if count = 0 then (count + 1) % 2 ^ 16 else count

/-- `mm_camera_util_generate_handler`, of the counter it leaves. -/
def handlerOf (count index : ℕ) : ℕ := (count <<< 8) ||| index

/-- `mm_camera_util_generate_handler`: the handle, and the counter it leaves. -/
def generateHandler (index count : ℕ) : ℕ × ℕ :=
  let count := nextHistoryCount count
  (handlerOf count index, count)

def getIndexByHandler (handler : ℕ) : ℕ := handler &&& 0xff

def channelMax : ℕ := 16

def maxStreamNumInBundle : ℕ := 8

/-- The tables of objects: the cameras, the channels of a camera, the streams of a channel. -/
inductive Table
  | cameras
  | channels (cam : ℕ)
  | streams (cam ch : ℕ)
  deriving DecidableEq, Repr

/-- What is kept of an object in use: its `my_hdl`, and the number of the generation it was born
with. -/
structure Object where
  myHdl : ℕ
  born : ℕ
  deriving DecidableEq, Repr

/-- `g_cam_ctrl` with the objects it leads to, an unused or zeroed entry being `none`; the
reference counts of the cameras, `g_handler_history_count`, and the number of generations. -/
structure CamCtrl where
  maxNumSensors : ℕ
  numCam : ℕ
  slots : Table → ℕ → Option Object
  refCount : ℕ → ℕ
  historyCount : ℕ
  generations : ℕ

/-- No object is in use, and no handle has been generated. -/
def CamCtrl.boot (maxNumSensors numCam : ℕ) : CamCtrl :=
  { maxNumSensors := maxNumSensors
    numCam := numCam
    slots := fun _ _ => none
    refCount := fun _ => 0
    historyCount := 0
    generations := 0 }

namespace CamCtrl

/-- `my_hdl` of an entry, zero when it is unused. -/
def hdlAt (s : CamCtrl) (T : Table) (i : ℕ) : ℕ := (s.slots T i).elim 0 Object.myHdl

def getCameraByHandler (s : CamCtrl) (camHandle : ℕ) : Option ℕ :=
  let camIdx := getIndexByHandler camHandle
  match s.slots .cameras camIdx with
  | some cam => if camIdx < s.maxNumSensors ∧ camHandle = cam.myHdl then some camIdx else none
  | none => none

/-- `mm_camera_util_get_channel_by_handler`: the handle alone is compared. -/
def getChannelByHandler (s : CamCtrl) (cam handler : ℕ) : Option ℕ :=
  (List.range channelMax).find? fun i => handler == s.hdlAt (.channels cam) i

def getStreamByHandler (s : CamCtrl) (cam ch handler : ℕ) : Option ℕ :=
  (List.range maxStreamNumInBundle).find? fun i =>
    (s.slots (.streams cam ch) i).isSome && handler == s.hdlAt (.streams cam ch) i

/-- The slot a handle resolves to in a table. -/
def resolve (s : CamCtrl) : Table → ℕ → Option ℕ
  | .cameras, h => s.getCameraByHandler h
  | .channels cam, h => s.getChannelByHandler cam h
  | .streams cam ch, h => s.getStreamByHandler cam ch h

def generate (s : CamCtrl) : CamCtrl :=
  { s with historyCount := nextHistoryCount s.historyCount, generations := s.generations + 1 }

def newborn (s : CamCtrl) (i : ℕ) : Object :=
  ⟨(generateHandler i s.historyCount).1, s.generations + 1⟩

/-- Zero the entries that `p` selects. -/
def clear (s : CamCtrl) (p : Table → ℕ → Bool) : CamCtrl :=
  { s with slots := fun T i => if p T i then none else s.slots T i }

/-- The object in a slot, and the tables inside it. -/
def inside (T : Table) (i : ℕ) : Table → ℕ → Bool
  | .cameras, j => T == .cameras && i == j
  | .channels cam, j => (T == .channels cam && i == j) || (T == .cameras && i == cam)
  | .streams cam ch, j =>
    (T == .streams cam ch && i == j) || (T == .channels cam && i == ch)
      || (T == .cameras && i == cam)

/-- An object is created in a slot, zeroed with all that is inside it, and given a handle. -/
def create (s : CamCtrl) (T : Table) (i : ℕ) : CamCtrl :=
  let t := (s.clear (inside T i)).generate
  { t with slots := Function.update t.slots T (Function.update (t.slots T) i (s.newborn i)) }

def firstUnused (s : CamCtrl) (T : Table) (n : ℕ) : Option ℕ :=
  (List.range n).find? fun i => (s.slots T i).isNone

end CamCtrl

/-- The operations that create and release objects; a camera is opened by its index, a
`uint8_t`, and the device or the server may refuse an object after its handle was generated. -/
inductive HandleOp
  | openCamera (idx : Fin 256) (opens : Bool)
  | closeCamera (camHandle : ℕ)
  | addChannel (camHandle : ℕ)
  | delChannel (camHandle chId : ℕ)
  | addStream (camHandle chId : ℕ) (acquired : Bool)
  | delStream (camHandle chId streamId : ℕ)

/-- `camera_open`, by itself. -/
def CamCtrl.openCamera (idx : ℕ) (opens : Bool) (s : CamCtrl) : CamCtrl :=
  if s.numCam ≤ idx then s
  else
    match s.slots .cameras idx with
    | some _ => { s with refCount := Function.update s.refCount idx (s.refCount idx + 1) }
    | none =>
      if opens then
        { s.create .cameras idx with refCount := Function.update s.refCount idx 1 }
      else s.generate

/-- `mm_camera_intf_close`. -/
def CamCtrl.closeCamera (camHandle : ℕ) (s : CamCtrl) : CamCtrl :=
  match s.getCameraByHandler camHandle with
  | none => s
  | some cam =>
    let t := { s with refCount := Function.update s.refCount cam (s.refCount cam - 1) }
    if 0 < t.refCount cam then t else t.clear (CamCtrl.inside .cameras cam)

def CamCtrl.addChannel (camHandle : ℕ) (s : CamCtrl) : CamCtrl :=
  match s.getCameraByHandler camHandle with
  | none => s
  | some cam =>
    match s.firstUnused (.channels cam) channelMax with
    | none => s
    | some ch => s.create (.channels cam) ch

def CamCtrl.delChannel (camHandle chId : ℕ) (s : CamCtrl) : CamCtrl :=
  match s.getCameraByHandler camHandle with
  | none => s
  | some cam =>
    match s.getChannelByHandler cam chId with
    | none => s
    | some ch => s.clear (CamCtrl.inside (.channels cam) ch)

/-- The channel the state machine of `mm_channel_fsm_fn` serves: one in use. -/
def CamCtrl.channelInUse (s : CamCtrl) (cam chId : ℕ) : Option ℕ :=
  (s.getChannelByHandler cam chId).filter fun ch => (s.slots (.channels cam) ch).isSome

def CamCtrl.addStream (camHandle chId : ℕ) (acquired : Bool) (s : CamCtrl) : CamCtrl :=
  match s.getCameraByHandler camHandle with
  | none => s
  | some cam =>
    match s.channelInUse cam chId with
    | none => s
    | some ch =>
      match s.firstUnused (.streams cam ch) maxStreamNumInBundle with
      | none => s
      | some i => if acquired then s.create (.streams cam ch) i else s.generate

def CamCtrl.delStream (camHandle chId streamId : ℕ) (s : CamCtrl) : CamCtrl :=
  match s.getCameraByHandler camHandle with
  | none => s
  | some cam =>
    match s.channelInUse cam chId with
    | none => s
    | some ch =>
      match s.getStreamByHandler cam ch streamId with
      | none => s
      | some i => s.clear (CamCtrl.inside (.streams cam ch) i)

/-- What an operation does. -/
def HandleOp.exec : HandleOp → CamCtrl → CamCtrl
  | .openCamera idx opens, s => s.openCamera idx opens
  | .closeCamera camHandle, s => s.closeCamera camHandle
  | .addChannel camHandle, s => s.addChannel camHandle
  | .delChannel camHandle chId, s => s.delChannel camHandle chId
  | .addStream camHandle chId acquired, s => s.addStream camHandle chId acquired
  | .delStream camHandle chId streamId, s => s.delStream camHandle chId streamId

def HandleOp.Step (op : HandleOp) (s t : CamCtrl) : Prop := op.exec s = t

/-! ## The counter -/

def countAfter (n : ℕ) : ℕ := if n = 0 then 0 else (n - 1) % 65535 + 1

theorem nextHistoryCount_countAfter (n : ℕ) :
    nextHistoryCount (countAfter n) = countAfter (n + 1) := by
  have hnext : countAfter (n + 1) = n % 65535 + 1 := rfl
  rw [hnext]
  unfold nextHistoryCount
  dsimp only
  by_cases hn : n = 0
  · subst hn
    rfl
  · -- the counter wraps to zero when it has been through all its other values
    have hcount : countAfter n = (n - 1) % 65535 + 1 := if_neg hn
    rw [hcount]
    split_ifs <;> omega

theorem countAfter_pos {n : ℕ} (h : 0 < n) : 0 < countAfter n := by
  unfold countAfter
  rw [if_neg (Nat.ne_of_gt h)]
  omega

theorem countAfter_eq {m n : ℕ} (hm : 0 < m) (hmn : m < n) (h : countAfter m = countAfter n) :
    m + 65535 ≤ n := by
  unfold countAfter at h
  rw [if_neg (by omega), if_neg (by omega)] at h
  omega

theorem handlerOf_eq (count : ℕ) {index : ℕ} (h : index < 256) :
    handlerOf count index = count * 256 + index := by
  unfold handlerOf
  rw [← Nat.shiftLeft_add_eq_or_of_lt h, Nat.shiftLeft_eq]

theorem getIndexByHandler_handlerOf (count : ℕ) {index : ℕ} (h : index < 256) :
    getIndexByHandler (handlerOf count index) = index := by
  rw [handlerOf_eq count h]
  unfold getIndexByHandler
  rw [show (0xff : ℕ) = 2 ^ 8 - 1 from rfl, Nat.and_two_pow_sub_one_eq_mod]
  omega

/-! ## What a step does -/

section Step

variable {s t : CamCtrl}

/-- What a step may do to the tables and the counter: no handle is generated, or one; the objects
of the tables stay, go, or are the one born with that handle. -/
structure CamCtrl.Follows (s t : CamCtrl) : Prop where
  counter : (t.historyCount = s.historyCount ∧ t.generations = s.generations) ∨
    t.historyCount = nextHistoryCount s.historyCount ∧ t.generations = s.generations + 1
  objects : ∀ T i o, t.slots T i = some o → s.slots T i = some o ∨
    o = s.newborn i ∧ i < 256 ∧ t.generations = s.generations + 1

theorem CamCtrl.Follows.rfl (s : CamCtrl) : s.Follows s :=
  ⟨.inl ⟨Eq.refl _, Eq.refl _⟩, fun _ _ _ h => .inl h⟩

theorem CamCtrl.Follows.refCount (h : s.Follows t) (counts : ℕ → ℕ) :
    s.Follows { t with refCount := counts } := ⟨h.counter, h.objects⟩

theorem generate_follows (s : CamCtrl) : s.Follows s.generate :=
  ⟨.inr ⟨rfl, rfl⟩, fun _ _ _ h => .inl h⟩

theorem clear_objects {p : Table → ℕ → Bool} {T : Table} {i : ℕ} {o : Object}
    (h : (s.clear p).slots T i = some o) : s.slots T i = some o := by
  unfold CamCtrl.clear at h
  dsimp only at h
  split_ifs at h
  exact h

theorem clear_follows (s : CamCtrl) (p : Table → ℕ → Bool) : s.Follows (s.clear p) :=
  ⟨.inl ⟨rfl, rfl⟩, fun _ _ _ h => .inl (clear_objects h)⟩

theorem create_follows (s : CamCtrl) (T : Table) {i : ℕ} (hi : i < 256) :
    s.Follows (s.create T i) := by
  refine ⟨.inr ⟨rfl, rfl⟩, ?_⟩
  intro T' j o h
  unfold CamCtrl.create at h
  dsimp only at h
  by_cases hT : T' = T
  · subst hT
    rw [Function.update_self] at h
    by_cases hj : j = i
    · subst hj
      rw [Function.update_self] at h
      exact .inr ⟨(Option.some.inj h).symm, hi, rfl⟩
    · rw [Function.update_of_ne hj] at h
      exact .inl (clear_objects h)
  · rw [Function.update_of_ne hT] at h
    exact .inl (clear_objects h)

theorem firstUnused_lt {T : Table} {n i : ℕ} (h : s.firstUnused T n = some i) : i < n :=
  List.mem_range.mp (List.mem_of_find?_eq_some h)

theorem HandleOp.Step.follows {op : HandleOp} (h : op.Step s t) : s.Follows t := by
  cases h
  cases op with
  | openCamera idx opens =>
    change s.Follows (s.openCamera idx opens)
    unfold CamCtrl.openCamera
    split
    · exact .rfl s
    · split
      · exact (CamCtrl.Follows.rfl s).refCount _
      · split
        · exact (create_follows s .cameras idx.isLt).refCount _
        · exact generate_follows s
  | closeCamera camHandle =>
    change s.Follows (s.closeCamera camHandle)
    unfold CamCtrl.closeCamera
    split
    · exact .rfl s
    · dsimp only
      split
      · exact (CamCtrl.Follows.rfl s).refCount _
      · exact (clear_follows s _).refCount _
  | addChannel camHandle =>
    change s.Follows (s.addChannel camHandle)
    unfold CamCtrl.addChannel
    split
    · exact .rfl s
    · split
      · exact .rfl s
      · next ch hch =>
        have hlt := firstUnused_lt hch
        exact create_follows s _ (Nat.lt_trans hlt (by decide))
  | delChannel camHandle chId =>
    change s.Follows (s.delChannel camHandle chId)
    unfold CamCtrl.delChannel
    split
    · exact .rfl s
    · split
      · exact .rfl s
      · exact clear_follows s _
  | addStream camHandle chId acquired =>
    change s.Follows (s.addStream camHandle chId acquired)
    unfold CamCtrl.addStream
    split
    · exact .rfl s
    · split
      · exact .rfl s
      · split
        · exact .rfl s
        · next i hi =>
          have hlt := firstUnused_lt hi
          split
          · exact create_follows s _ (Nat.lt_trans hlt (by decide))
          · exact generate_follows s
  | delStream camHandle chId streamId =>
    change s.Follows (s.delStream camHandle chId streamId)
    unfold CamCtrl.delStream
    split
    · exact .rfl s
    · split
      · exact .rfl s
      · split
        · exact .rfl s
        · exact clear_follows s _

end Step

/-- The counter is that of the number of generations, and every object has the handle of the
generation it was born with. -/
structure CamCtrl.Numbered (s : CamCtrl) : Prop where
  counter : s.historyCount = countAfter s.generations
  objects : ∀ T i o, s.slots T i = some o →
    i < 256 ∧ 0 < o.born ∧ o.born ≤ s.generations ∧ o.myHdl = handlerOf (countAfter o.born) i

section Runs

variable {s t : CamCtrl} {ops : List HandleOp}

theorem boot_numbered (maxNumSensors numCam : ℕ) :
    (CamCtrl.boot maxNumSensors numCam).Numbered :=
  ⟨rfl, fun _ _ _ h => by cases h⟩

theorem CamCtrl.Numbered.follows (hs : s.Numbered) (h : s.Follows t) : t.Numbered := by
  obtain ⟨hcount, hobj⟩ := hs
  obtain ⟨hcounter, hnew⟩ := h
  have hle : s.generations ≤ t.generations := by
    rcases hcounter with ⟨-, h⟩ | ⟨-, h⟩ <;> omega
  constructor
  · rcases hcounter with ⟨hc, hg⟩ | ⟨hc, hg⟩
    · rw [hc, hg, hcount]
    · rw [hc, hg, hcount, nextHistoryCount_countAfter]
  · intro T i o ho
    rcases hnew T i o ho with hold | ⟨rfl, hi, hg⟩
    · obtain ⟨hi, hpos, hborn, hhdl⟩ := hobj T i o hold
      exact ⟨hi, hpos, Nat.le_trans hborn hle, hhdl⟩
    · refine ⟨hi, Nat.succ_pos _, ?_, ?_⟩
      · rw [hg]
        exact Nat.le_refl _
      · change handlerOf (nextHistoryCount s.historyCount) i = _
        rw [hcount, nextHistoryCount_countAfter]
        rfl

theorem numbered_run (h : Run HandleOp.Step ops s t) (hs : s.Numbered) : t.Numbered :=
  h.invariant (fun _ _ _ hstep hi => hi.follows hstep.follows) hs

theorem resolve_myHdl {T : Table} {h i : ℕ} {o : Object} (hr : s.resolve T h = some i)
    (ho : s.slots T i = some o) : o.myHdl = h := by
  cases T with
  | cameras =>
    change s.getCameraByHandler h = some i at hr
    unfold CamCtrl.getCameraByHandler at hr
    dsimp only at hr
    split at hr
    · next cam hcam =>
      split_ifs at hr with hc
      cases hr
      rw [ho] at hcam
      cases hcam
      exact hc.2.symm
    · cases hr
  | channels cam =>
    have hfind := List.find?_some hr
    simp only [CamCtrl.hdlAt, ho, Option.elim_some, beq_iff_eq] at hfind
    exact hfind.symm
  | streams cam ch =>
    have hfind := List.find?_some hr
    simp only [CamCtrl.hdlAt, ho, Option.elim_some, Option.isSome_some, Bool.true_and,
      beq_iff_eq] at hfind
    exact hfind.symm

theorem handlerOf_inj {m n i j : ℕ} (hi : i < 256) (hj : j < 256)
    (h : handlerOf m i = handlerOf n j) : m = n ∧ i = j := by
  rw [handlerOf_eq m hi, handlerOf_eq n hj] at h
  omega

/-- **Handles are fresh**, over every run from the start in which cameras, channels and streams
are created and released, in any order:

* the next handle for any index is nonzero, and the index is recovered from it;
* the objects in the slots of one table have different handles;
* a handle that named an object at some time of the run resolves, at any later time and in any
  table, to a newer object only in a slot of the same number, and only when at least 65535
  generations have followed the one the handle comes from. -/
theorem handles_fresh {ops' : List HandleOp} {maxNumSensors numCam : ℕ}
    (h : Run HandleOp.Step ops (.boot maxNumSensors numCam) s) (h' : Run HandleOp.Step ops' s t) :
    (∀ index < 256, (generateHandler index t.historyCount).1 ≠ 0 ∧
      getIndexByHandler (generateHandler index t.historyCount).1 = index) ∧
    (∀ T i j a b, t.slots T i = some a → t.slots T j = some b → i ≠ j → a.myHdl ≠ b.myHdl) ∧
    (∀ T i a T' j b, s.slots T i = some a → t.resolve T' a.myHdl = some j →
      t.slots T' j = some b → a.born < b.born →
      j = i ∧ a.born + 65535 ≤ b.born ∧ b.born ≤ t.generations) := by
  have hs := numbered_run h (boot_numbered maxNumSensors numCam)
  have ht := numbered_run h' hs
  refine ⟨?_, ?_, ?_⟩
  · intro index hindex
    change handlerOf (nextHistoryCount t.historyCount) index ≠ 0 ∧ _
    constructor
    · -- the counter has skipped zero
      have hpos : 0 < countAfter (t.generations + 1) := countAfter_pos (Nat.succ_pos _)
      rw [handlerOf_eq _ hindex, ht.counter, nextHistoryCount_countAfter]
      omega
    · exact getIndexByHandler_handlerOf _ hindex
  · intro T i j a b ha hb hij hhdl
    obtain ⟨hi, -, -, hahdl⟩ := ht.objects T i a ha
    obtain ⟨hj, -, -, hbhdl⟩ := ht.objects T j b hb
    rw [hahdl, hbhdl] at hhdl
    exact hij (handlerOf_inj hi hj hhdl).2
  · intro T i a T' j b ha hr hb hborn
    obtain ⟨hi, hpos, -, hahdl⟩ := hs.objects T i a ha
    obtain ⟨hj, -, hle, hbhdl⟩ := ht.objects T' j b hb
    have hhdl := resolve_myHdl hr hb
    rw [hahdl, hbhdl] at hhdl
    obtain ⟨hcount, hslot⟩ := handlerOf_inj hj hi hhdl
    exact ⟨hslot, countAfter_eq hpos hborn hcount.symm, hle⟩

/-- A camera is opened, closed, and opened again: the handle of the first time is stale. -/
theorem handles_fresh_reopened :
    ∃ s t, Run HandleOp.Step [.openCamera 0 true] (.boot 5 2) s ∧
      Run HandleOp.Step [.closeCamera 256, .openCamera 0 true] s t ∧
      s.slots .cameras 0 = some ⟨256, 1⟩ ∧ t.slots .cameras 0 = some ⟨512, 2⟩ ∧
      t.resolve .cameras 256 = none ∧ (generateHandler 7 t.historyCount).1 = 775 ∧
      getIndexByHandler (generateHandler 7 t.historyCount).1 = 7 := by
  obtain ⟨s, t, hs, ht, hold, hnew, hstale, hnext⟩ : ∃ s t,
      Run HandleOp.Step [.openCamera 0 true] (.boot 5 2) s ∧
      Run HandleOp.Step [.closeCamera 256, .openCamera 0 true] s t ∧
      s.slots .cameras 0 = some ⟨256, 1⟩ ∧ t.slots .cameras 0 = some ⟨512, 2⟩ ∧
      t.resolve .cameras 256 = none ∧ (generateHandler 7 t.historyCount).1 = 775 :=
    ⟨_, _, .one rfl, .cons rfl (.one rfl), rfl, rfl, rfl, rfl⟩
  exact ⟨s, t, hs, ht, hold, hnew, hstale, hnext, ((handles_fresh hs ht).1 7 (by decide)).2⟩

end Runs

end MmCamera
