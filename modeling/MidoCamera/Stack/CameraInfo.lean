import MidoCamera.Library.Buckets
import Mathlib.Tactic.Ring

/-!
# The order of the cameras

`sort_camera_info` puts the cameras that have been discovered in the order in which they are
exposed: the main back cameras, the main front ones, and the auxiliary ones of either side. Each is
a pass over parallel arrays, which saves what it finds at a running index. An auxiliary camera with
a YUV sensor is passed over by all of them, unless a property says that it is to be exposed.

An array is a function of the index: no pass writes past the cameras there are.
-/

namespace MmCamera

open Loop List

/-! ## The cameras -/

abbrev cameraFacingBack : ℤ := 0

abbrev cameraFacingFront : ℤ := 1

/-- `struct camera_info`, as far as `get_sensor_info` sets it. -/
structure CameraInfo where
  facing : ℤ
  orientation : ℤ
  deriving DecidableEq, Repr

/-- `cam_sync_type_t`. -/
inductive CamSyncType
  | standalone | main | aux
  deriving DecidableEq, Repr

/-- `cam_sync_mode_t`, which is zero in a cleared array. -/
abbrev CamSyncMode := ℕ

/-- `mm_camera_ctrl_t`, as far as it is sorted: the number of cameras and the parallel arrays. -/
structure CamCtrlArrays where
  numCam : ℕ
  videoDevName : ℕ → String
  info : ℕ → CameraInfo
  camType : ℕ → CamSyncType
  camMode : ℕ → CamSyncMode
  isYuv : ℕ → ℕ

/-- A camera: what the arrays hold at one index. -/
structure Camera where
  devName : String
  info : CameraInfo
  type : CamSyncType
  mode : CamSyncMode
  isYuv : ℕ
  deriving DecidableEq, Repr

def CamCtrlArrays.camera (s : CamCtrlArrays) (i : ℕ) : Camera :=
  ⟨s.videoDevName i, s.info i, s.camType i, s.camMode i, s.isYuv i⟩

/-- The arrays `sort_camera_info` saves to, and its index `idx`. -/
structure SortTemp where
  idx : ℕ
  devName : ℕ → String
  info : ℕ → CameraInfo
  type : ℕ → CamSyncType
  mode : ℕ → CamSyncMode
  isYuv : ℕ → ℕ

/-- The arrays after `memset`. -/
def SortTemp.zero : SortTemp :=
  { idx := 0
    devName := fun _ => ""
    info := fun _ => ⟨0, 0⟩
    type := fun _ => .standalone
    mode := fun _ => 0
    isYuv := fun _ => 0 }

/-! ## The passes -/

/-- A camera is saved at the index. -/
def saveCamera (s : CamCtrlArrays) (t : SortTemp) (i : ℕ) : SortTemp :=
  { idx := t.idx + 1
    devName := Function.update t.devName t.idx (s.videoDevName i)
    info := Function.update t.info t.idx (s.info i)
    type := Function.update t.type t.idx (s.camType i)
    mode := Function.update t.mode t.idx (s.camMode i)
    isYuv := Function.update t.isYuv t.idx (s.isYuv i) }

/-- A pass: the cameras that satisfy a condition are saved. -/
def savePass (s : CamCtrlArrays) (cond : Camera → Bool) (t : SortTemp) : SortTemp :=
  (List.range s.numCam).foldl (fun t i => if cond (s.camera i) then saveCamera s t i else t) t

def Camera.isMain (facing : ℤ) (e : Camera) : Bool := e.info.facing == facing && e.type != .aux

/-- The condition for an auxiliary camera of a side that is exposed. -/
def Camera.isAux (yuvExposed : Bool) (facing : ℤ) (e : Camera) : Bool :=
  e.info.facing == facing && e.type == .aux && (yuvExposed || e.isYuv == 0)

/-- `is_yuv_aux_cam_exposed`, an `int8_t`, which gets the value of the property. -/
def yuvAuxExposed (prop : ℤ) : Bool := prop % 2 ^ 8 != 0

/-- `sort_camera_info`, where `prop` is the value of `persist.camera.aux.yuv`. -/
def sortCameraInfo (prop : ℤ) (s : CamCtrlArrays) : CamCtrlArrays :=
  let t := savePass s (Camera.isMain cameraFacingBack) .zero
  let t := savePass s (Camera.isMain cameraFacingFront) t
  let t := savePass s (Camera.isAux (yuvAuxExposed prop) cameraFacingBack) t
  let t := savePass s (Camera.isAux (yuvAuxExposed prop) cameraFacingFront) t
  if t.idx ≤ s.numCam then
    { numCam := t.idx
      videoDevName := t.devName
      info := t.info
      camType := t.type
      camMode := t.mode
      isYuv := t.isYuv }
  else s

def CamCtrlArrays.cameras (s : CamCtrlArrays) : List Camera := (List.range s.numCam).map s.camera

/-- A camera faces one of the sides that `get_sensor_info` tells apart. -/
def Camera.Sided (e : Camera) : Prop :=
  e.info.facing = cameraFacingBack ∨ e.info.facing = cameraFacingFront

instance (e : Camera) : Decidable e.Sided := inferInstanceAs (Decidable (_ ∨ _))

/-- Whether a camera is exposed: all are but the auxiliary ones with a YUV sensor, and these with the
property. -/
def Camera.exposed (prop : ℤ) (e : Camera) : Bool :=
  e.type != .aux || yuvAuxExposed prop || e.isYuv == 0

/-- The rank of a camera: back main, front main, back auxiliary, front auxiliary. -/
def Camera.rank (e : Camera) : ℕ :=
  (if e.type = .aux then 2 else 0) + if e.info.facing = cameraFacingFront then 1 else 0

/-- **The cameras of `t` are those of `s` that are exposed**, none lost and none doubled, in the order
of their ranks, and within a rank in the order in which they were. -/
structure CamCtrlArrays.SortedFrom (exposed : Camera → Bool) (s t : CamCtrlArrays) : Prop where
  perm : t.cameras.Perm (s.cameras.filter exposed)
  ordered : t.cameras.Pairwise fun d e => d.rank ≤ e.rank
  stable : ∀ c, t.cameras.filter (·.rank = c) = (s.cameras.filter exposed).filter (·.rank = c)

/-- A back camera, and an auxiliary one with a YUV sensor. -/
def oneYuvAux : CamCtrlArrays :=
  { numCam := 2
    videoDevName := fun i => if i = 0 then "video0" else "video1"
    info := fun _ => ⟨0, 90⟩
    camType := fun i => if i = 0 then .main else .aux
    camMode := fun _ => 0
    isYuv := fun i => if i = 0 then 0 else 1 }

/-- **A camera is left out**: with the property not set, the auxiliary camera is not exposed. -/
theorem sortCameraInfo_hides :
    ¬∀ (prop : ℤ) (s : CamCtrlArrays), (∀ e ∈ s.cameras, e.Sided) →
      (sortCameraInfo prop s).cameras.Perm s.cameras := by
  intro hall
  have hlen := (hall 0 oneYuvAux (by decide)).length_eq
  revert hlen
  decide

def SortTemp.camera (t : SortTemp) (i : ℕ) : Camera :=
  ⟨t.devName i, t.info i, t.type i, t.mode i, t.isYuv i⟩

def SortTemp.cameras (t : SortTemp) : List Camera := (List.range t.idx).map t.camera

section

variable {prop : ℤ} {s : CamCtrlArrays} {t : SortTemp} {e : Camera}

theorem saveCamera_cameras (s : CamCtrlArrays) (t : SortTemp) (i : ℕ) :
    (saveCamera s t i).cameras = t.cameras ++ [s.camera i] := by
  have hlast : (saveCamera s t i).camera t.idx = s.camera i := by
    simp [SortTemp.camera, saveCamera, CamCtrlArrays.camera]
  have hrest : ∀ k ∈ range t.idx, (saveCamera s t i).camera k = t.camera k := by
    intro k hk
    have hne : k ≠ t.idx := (mem_range.mp hk).ne
    simp [SortTemp.camera, saveCamera, hne]
  show (range (t.idx + 1)).map _ = _
  rw [range_succ, map_append, map_singleton, hlast, map_congr_left hrest]
  rfl

/-- **A pass** saves the cameras that satisfy its condition, in their order. -/
theorem savePass_cameras (s : CamCtrlArrays) (cond : Camera → Bool) (t : SortTemp) :
    (savePass s cond t).cameras = t.cameras ++ s.cameras.filter cond := by
  unfold savePass CamCtrlArrays.cameras
  generalize range s.numCam = is
  induction is generalizing t with
  | nil => exact (append_nil _).symm
  | cons i is ih =>
    rw [foldl_cons, ih, map_cons]
    by_cases hi : cond (s.camera i) = true
    · rw [if_pos hi, saveCamera_cameras, filter_cons_of_pos hi, append_assoc]
      rfl
    · rw [if_neg hi, filter_cons_of_neg hi]

theorem sortCameraInfo_saved (prop : ℤ) (s : CamCtrlArrays) : ∃ t : SortTemp,
    t.cameras = s.cameras.filter (Camera.isMain cameraFacingBack) ++
        s.cameras.filter (Camera.isMain cameraFacingFront) ++
        s.cameras.filter (Camera.isAux (yuvAuxExposed prop) cameraFacingBack) ++
        s.cameras.filter (Camera.isAux (yuvAuxExposed prop) cameraFacingFront) ∧
      sortCameraInfo prop s = if t.idx ≤ s.numCam then
        { numCam := t.idx
          videoDevName := t.devName
          info := t.info
          camType := t.type
          camMode := t.mode
          isYuv := t.isYuv }
      else s := by
  refine ⟨_, ?_, rfl⟩
  rw [savePass_cameras, savePass_cameras, savePass_cameras, savePass_cameras]
  rfl

theorem filter_pass {cond : Camera → Bool} {c : ℕ} (sided : ∀ e ∈ s.cameras, e.Sided)
    (pass : ∀ e : Camera, e.Sided → (cond e = true ↔ e.rank = c ∧ e.exposed prop = true)) :
    s.cameras.filter cond = (s.cameras.filter (Camera.exposed prop)).filter (·.rank = c) := by
  rw [filter_filter]
  refine filter_congr fun e he => ?_
  rw [Bool.eq_iff_iff, pass e (sided e he), Bool.and_eq_true, decide_eq_true_eq]

def sideRank (facing : ℤ) : ℕ := if facing = cameraFacingFront then 1 else 0

theorem facing_eq_iff {facing : ℤ} (side : facing = cameraFacingBack ∨ facing = cameraFacingFront)
    (sided : e.Sided) : e.info.facing = facing ↔ sideRank e.info.facing = sideRank facing := by
  unfold sideRank
  rcases sided with he | he
  · rcases side with rfl | rfl
    · simp [he]
    · simp [he]
  · rw [he]
    rcases side with rfl | rfl
    · decide
    · simp

theorem sideRank_lt (facing : ℤ) : sideRank facing < 2 := by
  unfold sideRank
  split_ifs
  · exact Nat.one_lt_two
  · exact Nat.two_pos

theorem isMain_iff {facing : ℤ} (side : facing = cameraFacingBack ∨ facing = cameraFacingFront)
    (sided : e.Sided) :
    e.isMain facing = true ↔ e.rank = sideRank facing ∧ e.exposed prop = true := by
  have hside := facing_eq_iff side sided
  have hrank : e.rank = (if e.type = .aux then 2 else 0) + sideRank e.info.facing := rfl
  unfold Camera.isMain Camera.exposed
  rw [hrank]
  by_cases haux : e.type = .aux
  · -- the rank of an auxiliary camera is that of no main one
    have hlt := sideRank_lt facing
    simp only [haux, bne_self_eq_false, Bool.and_false, Bool.false_eq_true, false_iff, if_true,
      not_and]
    omega
  · simp [haux, hside]

theorem isAux_iff {facing : ℤ} (side : facing = cameraFacingBack ∨ facing = cameraFacingFront)
    (sided : e.Sided) : e.isAux (yuvAuxExposed prop) facing = true ↔
      e.rank = 2 + sideRank facing ∧ e.exposed prop = true := by
  have hside := facing_eq_iff side sided
  have hrank : e.rank = (if e.type = .aux then 2 else 0) + sideRank e.info.facing := rfl
  unfold Camera.isAux Camera.exposed
  rw [hrank]
  by_cases haux : e.type = .aux
  · simp [haux, hside]
  · have hlt := sideRank_lt e.info.facing
    simp only [haux, beq_eq_false_iff_ne.mpr haux, Bool.and_false, Bool.false_and,
      Bool.false_eq_true, false_iff, if_false, not_and]
    omega

theorem filter_rank (prop : ℤ) (sided : ∀ e ∈ s.cameras, e.Sided) :
    s.cameras.filter (Camera.isMain cameraFacingBack) ++
        s.cameras.filter (Camera.isMain cameraFacingFront) ++
        s.cameras.filter (Camera.isAux (yuvAuxExposed prop) cameraFacingBack) ++
        s.cameras.filter (Camera.isAux (yuvAuxExposed prop) cameraFacingFront) =
      buckets Camera.rank 4 (s.cameras.filter (Camera.exposed prop)) := by
  simp only [buckets_succ, buckets_zero, nil_append]
  rw [filter_pass sided fun e => isMain_iff (.inl rfl),
    filter_pass sided fun e => isMain_iff (.inr rfl),
    filter_pass sided fun e => isAux_iff (.inl rfl),
    filter_pass sided fun e => isAux_iff (.inr rfl)]
  rfl

theorem Camera.rank_lt (e : Camera) : e.rank < 4 := by
  have hlt := sideRank_lt e.info.facing
  have hrank : e.rank = (if e.type = .aux then 2 else 0) + sideRank e.info.facing := rfl
  rw [hrank]
  split_ifs
  · omega
  · omega

/-- The passes save no more cameras than there are, so that none writes past the arrays, and what
they save is kept. -/
theorem sortCameraInfo_eq (prop : ℤ) (sided : ∀ e ∈ s.cameras, e.Sided) :
    (sortCameraInfo prop s).cameras =
      buckets Camera.rank 4 (s.cameras.filter (Camera.exposed prop)) := by
  obtain ⟨t, hsaved, heq⟩ := sortCameraInfo_saved prop s
  rw [filter_rank prop sided] at hsaved
  have hle : t.idx ≤ s.numCam := by
    have hlen := congrArg length hsaved
    rw [buckets_perm.length_eq] at hlen
    calc t.idx = t.cameras.length := by simp [SortTemp.cameras]
      _ ≤ s.cameras.length := by
        rw [hlen]
        exact (length_filter_le ..).trans (length_filter_le ..)
      _ = s.numCam := by simp [CamCtrlArrays.cameras]
  rw [heq, if_pos hle]
  exact hsaved

/-- **The cameras that are exposed are sorted**, and none is lost where all are exposed. -/
theorem sortCameraInfo_sorted (prop : ℤ) (s : CamCtrlArrays) (sided : ∀ e ∈ s.cameras, e.Sided) :
    s.SortedFrom (Camera.exposed prop) (sortCameraInfo prop s) ∧
      ((∀ e ∈ s.cameras, e.exposed prop = true) →
        (sortCameraInfo prop s).cameras.Perm s.cameras) := by
  have heq := sortCameraInfo_eq prop sided
  have hperm : (sortCameraInfo prop s).cameras.Perm (s.cameras.filter (Camera.exposed prop)) := by
    rw [heq]
    refine buckets_perm.trans ?_
    rw [filter_eq_self.mpr fun e _ => decide_eq_true e.rank_lt]
  refine ⟨⟨hperm, ?_, fun c => ?_⟩, fun all => ?_⟩
  · rw [heq]
    exact pairwise_buckets
  · rw [heq]
    by_cases hc : c < 4
    · exact filter_buckets hc
    · -- no camera has such a rank
      have hnone : ∀ es : List Camera, es.filter (·.rank = c) = [] := fun es =>
        filter_eq_nil_iff.mpr fun e _ => by
          have hlt := e.rank_lt
          simp only [decide_eq_true_eq]
          omega
      rw [hnone, hnone]
  · rwa [filter_eq_self.mpr all] at hperm

theorem sortCameraInfo_sorted_oneYuvAux :
    oneYuvAux.SortedFrom (Camera.exposed 1) (sortCameraInfo 1 oneYuvAux) ∧
      (sortCameraInfo 1 oneYuvAux).cameras.Perm oneYuvAux.cameras := by
  obtain ⟨hsorted, hperm⟩ := sortCameraInfo_sorted 1 oneYuvAux (by decide)
  exact ⟨hsorted, hperm (by decide)⟩

end

end MmCamera
