import MidoCamera.Stack.Types

/-!
# The frame-sync table

The file-scope record `fs` of `mm_camera_channel.c`: the channels that are synced and a small ring
of frames, each with the cameras that have matched it. Every function here runs under `fs_lock`.
The statuses the functions return are dropped by all their callers and are left out.
-/

namespace MmCamera

open List

abbrev maxNumCameraPerBundle : ℕ := 2

abbrev frameSyncNodes : ℕ := 4

/-- A slot of `fs.ch_obj`. -/
abbrev CamIdx := Fin maxNumCameraPerBundle

/-- A position of the ring `fs.node`. -/
abbrev SyncIdx := Fin frameSyncNodes

/-- `mm_channel_sync_node_t`. -/
structure SyncNode where
  frameIdx : ℕ
  frameValid : CamIdx → Bool
  matched : Bool
  deriving DecidableEq

def SyncNode.zero : SyncNode := ⟨0, fun _ => false, false⟩

/-- `mm_channel_frame_sync_info_t`. -/
structure FrameSync where
  numCam : ℕ
  pos : ℕ
  node : SyncIdx → SyncNode
  chObj : CamIdx → Option ChannelId
  deriving DecidableEq

def frameSyncReset : FrameSync := ⟨0, 0, fun _ => .zero, fun _ => none⟩

def frameSyncRegisterChannel (c : ChannelId) (fs : FrameSync) : FrameSync :=
  if maxNumCameraPerBundle ≤ fs.numCam then fs
  else
    let fs := if fs.numCam = 0 then frameSyncReset else fs
    match (List.finRange maxNumCameraPerBundle).find? fun j => (fs.chObj j).isNone with
    | some j => { fs with chObj := Function.update fs.chObj j (some c), numCam := fs.numCam + 1 }
    | none => fs

def FrameSync.chIdx (fs : FrameSync) (c : ChannelId) : Option CamIdx :=
  (List.finRange maxNumCameraPerBundle).find? fun j => fs.chObj j = some c

def frameSyncUnregisterChannel (c : ChannelId) (fs : FrameSync) : FrameSync :=
  if fs.numCam = 0 then fs
  else
    let fs := match fs.chIdx c with
      | some j => { fs with chObj := Function.update fs.chObj j none, numCam := fs.numCam - 1 }
      | none => fs
    if fs.numCam = 0 then frameSyncReset else fs

def frameSyncFindFrameIndex (frameId : ℕ) (fs : FrameSync) : Option SyncIdx :=
  (List.finRange frameSyncNodes).find? fun i => (fs.node i).frameIdx = frameId

/-- `memset`/assignment of one entry. -/
def FrameSync.setNode (fs : FrameSync) (i : SyncIdx) (n : SyncNode) : FrameSync :=
  { fs with node := Function.update fs.node i n }

/-- The entry the next new frame takes: `fs.pos`, wrapped to the start of the ring. -/
def FrameSync.nextPos (fs : FrameSync) : SyncIdx :=
  if h : fs.pos < frameSyncNodes then ⟨fs.pos, h⟩ else 0

/-- `frames_valid`: how many cameras have the frame. -/
def SyncNode.framesValid (n : SyncNode) : ℕ :=
  (List.finRange maxNumCameraPerBundle).countP n.frameValid

/-- The last step of `mm_frame_sync_add`: an entry all cameras have is matched. -/
def SyncNode.complete (numCam : ℕ) (n : SyncNode) : SyncNode :=
  if n.matched then n
  else if n.framesValid = numCam then { n with matched := true }
  else n

/-- The camera in slot `j` has the frame of an entry. -/
def SyncNode.setValid (n : SyncNode) (j : CamIdx) : SyncNode :=
  { n with frameValid := Function.update n.frameValid j true }

def frameSyncAdd (frameId : ℕ) (c : ChannelId) (fs : FrameSync) : FrameSync :=
  if frameId = 0 then fs
  else
    match fs.chIdx c with
    | none => fs
    | some j =>
      match frameSyncFindFrameIndex frameId fs with
      | some i => fs.setNode i (((fs.node i).setValid j).complete fs.numCam)
      | none =>
        let i := fs.nextPos
        -- a lone camera's frame is matched as soon as it is entered
        let n : SyncNode := { SyncNode.zero with frameIdx := frameId, matched := fs.numCam = 1 }
        { fs with pos := i + 1 }.setNode i ((n.setValid j).complete fs.numCam)

def frameSyncRemove (frameId : ℕ) (fs : FrameSync) : FrameSync :=
  if frameId = 0 then fs
  else
    match frameSyncFindFrameIndex frameId fs with
    | some i => fs.setNode i .zero
    | none => fs

/-- The scan of `mm_frame_sync_find_matched`, with `frame_idx` found so far. -/
def findMatchedFrom (oldest : Bool) (fs : FrameSync) : List SyncIdx → ℕ → ℕ
  | [], frameIdx => frameIdx
  | i :: is, frameIdx =>
    if (fs.node i).matched then
      let currFrameIdx := (fs.node i).frameIdx
      let frameIdx := if frameIdx = 0 then currFrameIdx else frameIdx
      if oldest then
        findMatchedFrom oldest fs is (if currFrameIdx < frameIdx then currFrameIdx else frameIdx)
      else frameIdx
    else findMatchedFrom oldest fs is frameIdx

/-- `mm_frame_sync_find_matched`: zero when no entry is matched. -/
def frameSyncFindMatched (oldest : Bool) (fs : FrameSync) : ℕ :=
  findMatchedFrom oldest fs (List.finRange frameSyncNodes) 0

/-! ## What the operations do -/

section Lemmas

variable {fs : FrameSync} {c : ChannelId} {f : ℕ} {i : SyncIdx} {j : CamIdx}

@[simp] theorem setNode_node (fs : FrameSync) (i : SyncIdx) (n : SyncNode) :
    (fs.setNode i n).node = Function.update fs.node i n := rfl

@[simp] theorem setNode_chObj (fs : FrameSync) (i : SyncIdx) (n : SyncNode) :
    (fs.setNode i n).chObj = fs.chObj := rfl

@[simp] theorem setNode_numCam (fs : FrameSync) (i : SyncIdx) (n : SyncNode) :
    (fs.setNode i n).numCam = fs.numCam := rfl

@[simp] theorem setValid_frameIdx (n : SyncNode) (j : CamIdx) :
    (n.setValid j).frameIdx = n.frameIdx := rfl

@[simp] theorem complete_frameIdx (k : ℕ) (n : SyncNode) :
    (n.complete k).frameIdx = n.frameIdx := by
  unfold SyncNode.complete
  split_ifs <;> rfl

@[simp] theorem complete_frameValid (k : ℕ) (n : SyncNode) :
    (n.complete k).frameValid = n.frameValid := by
  unfold SyncNode.complete
  split_ifs <;> rfl

theorem complete_matched {k : ℕ} {n : SyncNode} (h : (n.complete k).matched = true) :
    n.matched = true ∨ n.framesValid = k := by
  unfold SyncNode.complete at h
  split_ifs at h with hm hk
  · exact .inl hm
  · exact .inr hk
  · exact absurd h hm

theorem chIdx_some (h : fs.chIdx c = some j) : fs.chObj j = some c := by
  simpa using find?_some h

theorem chIdx_none (h : fs.chIdx c = none) (j : CamIdx) : fs.chObj j ≠ some c := by
  have := find?_eq_none.mp h j (mem_finRange j)
  simpa using this

theorem findFrameIndex_some (h : frameSyncFindFrameIndex f fs = some i) :
    (fs.node i).frameIdx = f := by
  simpa using find?_some h

theorem findFrameIndex_none (h : frameSyncFindFrameIndex f fs = none) (i : SyncIdx) :
    (fs.node i).frameIdx ≠ f := by
  have := find?_eq_none.mp h i (mem_finRange i)
  simpa using this

/-- **Removal** either zeroes one entry that held the frame, or no entry held it. -/
theorem frameSyncRemove_node (hf : f ≠ 0) (fs : FrameSync) :
    (∃ i, (fs.node i).frameIdx = f ∧ frameSyncRemove f fs = fs.setNode i .zero) ∨
      (∀ i, (fs.node i).frameIdx ≠ f) ∧ frameSyncRemove f fs = fs := by
  unfold frameSyncRemove
  rw [if_neg hf]
  cases h : frameSyncFindFrameIndex f fs with
  | some i => exact .inl ⟨i, findFrameIndex_some h, rfl⟩
  | none => exact .inr ⟨findFrameIndex_none h, rfl⟩

@[simp] theorem frameSyncRemove_chObj (f : ℕ) (fs : FrameSync) :
    (frameSyncRemove f fs).chObj = fs.chObj := by
  unfold frameSyncRemove
  split_ifs
  · rfl
  · cases frameSyncFindFrameIndex f fs <;> rfl

/-- **Entering a frame** either changes nothing, for a channel that is not registered, or sets
the camera's bit in the entry of the frame, which is a new one when no entry held the frame. -/
theorem frameSyncAdd_node (hf : f ≠ 0) (c : ChannelId) (fs : FrameSync) :
    ((∀ j, fs.chObj j ≠ some c) ∧ frameSyncAdd f c fs = fs) ∨
      (∃ j i, fs.chObj j = some c ∧ (fs.node i).frameIdx = f ∧
        frameSyncAdd f c fs = fs.setNode i (((fs.node i).setValid j).complete fs.numCam)) ∨
      ∃ j i p, fs.chObj j = some c ∧ (∀ i, (fs.node i).frameIdx ≠ f) ∧
        frameSyncAdd f c fs = { fs with pos := p }.setNode i
          ((SyncNode.setValid ⟨f, fun _ => false, fs.numCam = 1⟩ j).complete fs.numCam) := by
  unfold frameSyncAdd
  rw [if_neg hf]
  cases hc : fs.chIdx c with
  | none => exact .inl ⟨chIdx_none hc, rfl⟩
  | some j =>
    refine .inr ?_
    cases hi : frameSyncFindFrameIndex f fs with
    | some i => exact .inl ⟨j, i, chIdx_some hc, findFrameIndex_some hi, rfl⟩
    | none => exact .inr ⟨j, fs.nextPos, _, chIdx_some hc, findFrameIndex_none hi, rfl⟩

@[simp] theorem frameSyncAdd_chObj (f : ℕ) (c : ChannelId) (fs : FrameSync) :
    (frameSyncAdd f c fs).chObj = fs.chObj := by
  unfold frameSyncAdd
  split_ifs
  · rfl
  · cases fs.chIdx c with
    | none => rfl
    | some j => cases frameSyncFindFrameIndex f fs <;> simp

theorem findMatchedFrom_eq (oldest : Bool) (fs : FrameSync) (is : List SyncIdx) (f : ℕ) :
    findMatchedFrom oldest fs is f = f ∨
      ∃ i ∈ is, (fs.node i).matched = true ∧
        findMatchedFrom oldest fs is f = (fs.node i).frameIdx := by
  induction is generalizing f with
  | nil => exact .inl rfl
  | cons i is ih =>
    -- what is found in the rest is what the scan had before it, or the frame of a later entry
    have hrest : ∀ g, g = f ∨ (fs.node i).matched = true ∧ g = (fs.node i).frameIdx →
        findMatchedFrom oldest fs is g = f ∨ ∃ k ∈ i :: is, (fs.node k).matched = true ∧
          findMatchedFrom oldest fs is g = (fs.node k).frameIdx := by
      rintro g hg
      rcases ih g with h | ⟨k, hk, hmk, h⟩
      · rcases hg with rfl | ⟨hm, rfl⟩
        · exact .inl h
        · exact .inr ⟨i, by simp, hm, h⟩
      · exact .inr ⟨k, by simp [hk], hmk, h⟩
    unfold findMatchedFrom
    cases hm : (fs.node i).matched with
    | false => exact hrest f (.inl rfl)
    | true =>
      have hstart : (if f = 0 then (fs.node i).frameIdx else f) = f ∨ (fs.node i).matched = true ∧
            (if f = 0 then (fs.node i).frameIdx else f) = (fs.node i).frameIdx := by
        split_ifs
        · exact .inr ⟨hm, rfl⟩
        · exact .inl rfl
      cases oldest with
      | true =>
        simp only [if_true]
        refine hrest _ ?_
        split_ifs with h0 hlt hlt
        · exact .inr ⟨hm, rfl⟩
        · exact .inr ⟨hm, rfl⟩
        · exact .inr ⟨hm, rfl⟩
        · exact .inl rfl
      | false =>
        simp only [if_true, Bool.false_eq_true, if_false]
        rcases hstart with h | ⟨-, h⟩
        · exact .inl h
        · exact .inr ⟨i, by simp, hm, h⟩

/-- The matched frame that is found is the frame of a matched entry. -/
theorem exists_of_findMatched {oldest : Bool} (h : frameSyncFindMatched oldest fs ≠ 0) :
    ∃ i, (fs.node i).matched = true ∧ (fs.node i).frameIdx = frameSyncFindMatched oldest fs := by
  rcases findMatchedFrom_eq oldest fs (finRange frameSyncNodes) 0 with h0 | ⟨i, -, hm, he⟩
  · exact absurd h0 h
  · exact ⟨i, hm, he.symm⟩

end Lemmas

end MmCamera
