import MidoCamera.Library.Planes
import MidoCamera.Stack.Padding
import MidoCamera.Stack.Types

/-!
# The layout of a frame

A frame is made of planes, one after the other. `mm_camera_stream.c` calculates what the planes of
each format are like, from the dimensions of the image and the paddings, and `getBufDef` where they
start. Numbers are exact: a layout is one whose calculation does not overflow.
-/

namespace MmCamera

open Loop

/-! ## Formats -/

/-- The order of the samples of a packed YUV format. -/
inductive YuvOrder
  | yuyv | yvyu | uyvy | vyuy
  deriving DecidableEq, Repr

/-- The colours of the first pixels of a Bayer format. -/
inductive BayerOrder
  | gbrg | grbg | rggb | bggr
  deriving DecidableEq, Repr

/-- What the pixels of a raw format are. -/
inductive RawPixels
  | bayer (order : BayerOrder)
  | grey
  deriving DecidableEq, Repr

/-- The bits of a pixel. -/
inductive RawDepth
  | bpp8 | bpp10 | bpp12 | bpp14
  deriving DecidableEq, Repr

/-- `cam_format_t`. -/
inductive CamFormat
  | jpeg
  | yuv420Nv12
  | yuv420Nv21
  | yuv420Nv21Adreno
  | yuv420Yv12
  | yuv422Nv16
  | yuv422Nv61
  | yuv420Nv12Venus
  | yuvRaw8bit (order : YuvOrder)
  | bayerQcomRaw (depth : RawDepth) (pixels : RawPixels)
  | bayerMipiRaw (depth : RawDepth) (pixels : RawPixels)
  | bayerIdealRawQcom (depth : RawDepth) (pixels : RawPixels)
  | bayerIdealRawMipi (depth : RawDepth) (pixels : RawPixels)
  | bayerIdealRawPlain8 (order : BayerOrder)
  | bayerIdealRawPlain16 (depth : RawDepth) (order : BayerOrder)
  | jpegRaw8bit
  | metaRaw8bit
  | metaRaw10bit
  | yuv444Nv24
  | yuv444Nv42
  | yOnly
  | yuv420Nv12Ubwc
  | yuv420Nv21Venus
  | argb8888
  | yOnly10Bpp
  | yOnly12Bpp
  | yOnly14Bpp
  deriving DecidableEq, Repr

/-! ## Planes -/

/-- `cam_mp_len_offset_t`, without the fields for a compressed plane. -/
structure MpLenOffset where
  len : ℕ
  offset : ℕ
  offsetX : ℕ
  offsetY : ℕ
  stride : ℕ
  strideInBytes : ℕ
  scanline : ℕ
  width : ℕ
  height : ℕ
  deriving DecidableEq, Repr

/-- `cam_frame_len_offset_t`, with the planes by their index. -/
structure FrameLenOffset where
  numPlanes : ℕ
  mp : ℕ → MpLenOffset
  frameLen : ℕ

namespace FrameLenOffset

def cleared : FrameLenOffset := ⟨0, fun _ => ⟨0, 0, 0, 0, 0, 0, 0, 0, 0⟩, 0⟩

/-- Where a plane starts, as `getBufDef` calculates it for `reserved[0]`. -/
def planeStart (b : FrameLenOffset) : ℕ → ℕ := startOf fun i => (b.mp i).len

/-- The planes of a format are set, and the frame is as long as they are, padded to
`CAM_PAD_TO_4K`. What a plane has of other fields stays. -/
def setPlanes (b : FrameLenOffset) (planes : List (MpLenOffset → MpLenOffset)) : FrameLenOffset :=
  let mp i := (planes[i]?.getD id) (b.mp i)
  { numPlanes := planes.length
    mp := mp
    frameLen := padToSize (startOf (fun i => (mp i).len) planes.length) 4096 }

end FrameLenOffset

/-- The result of a calculation: the code and what has been calculated. -/
abbrev Calculated := ℤ × FrameLenOffset

/-! ## The images in the planes -/

namespace Dimension

def halfHeight (d : Dimension) : Dimension := ⟨d.width, d.height / 2⟩

def half (d : Dimension) : Dimension := ⟨d.width / 2, d.height / 2⟩

/-- The image has pixels, and the samples that are shared by pairs of them come out even. -/
structure PositiveEven (d : Dimension) : Prop where
  width_pos : 0 < d.width
  width_even : Even d.width
  height_pos : 0 < d.height
  height_even : Even d.height

end Dimension

/-- **The size of the image in a plane**, in samples. The chroma samples are shared by the pixels of
two rows and two columns (4:2:0) or two columns (4:2:2); where both are in one plane, a row of it is
as wide as one of the luma plane. -/
def CamFormat.planeDim (fmt : CamFormat) (dim : Dimension) (i : ℕ) : Dimension :=
  if i = 0 then dim
  else match fmt with
    | .yuv420Yv12 => dim.half
    | .yuv422Nv16 | .yuv422Nv61 => dim
    | _ => dim.halfHeight

/-- The image in a plane is of a size, and the plane has rows for it and room for the rows. -/
structure MpLenOffset.Holds (p : MpLenOffset) (dim : Dimension) : Prop where
  width : p.width = dim.width
  height : p.height = dim.height
  stride : dim.width ≤ p.stride
  scanline : dim.height ≤ p.scanline
  len : p.stride * p.scanline ≤ p.len

/-- **The plane is sound**: it holds the image, and does where the image is offset in it. -/
structure MpLenOffset.Sound (p : MpLenOffset) (dim : Dimension) : Prop extends p.Holds dim where
  columns : p.offsetX + dim.width ≤ p.stride
  rows : p.offsetY + dim.height ≤ p.scanline

theorem MpLenOffset.Sound.pixel_lt {p : MpLenOffset} {dim : Dimension} {r c : ℕ}
    (h : p.Sound dim) (hc : c < dim.width) (hr : r < dim.height) :
    (p.offsetY + r) * p.stride + (p.offsetX + c) < p.len :=
  (pos_lt h.columns h.rows hc hr).trans_le h.len

/-- **The layout is sound.** -/
structure LayoutSound (fmt : CamFormat) (dim : Dimension) (b : FrameLenOffset) : Prop where
  planes : 0 < b.numPlanes
  plane : ∀ i < b.numPlanes, (b.mp i).Sound (fmt.planeDim dim i)
  pixel : ∀ i < b.numPlanes, ∀ r < (fmt.planeDim dim i).height, ∀ c < (fmt.planeDim dim i).width,
    ((b.mp i).offsetY + r) * (b.mp i).stride + ((b.mp i).offsetX + c) < (b.mp i).len
  consecutive : ∀ i < b.numPlanes, b.planeStart (i + 1) = b.planeStart i + (b.mp i).len
  disjoint : ∀ i j, i < j → j < b.numPlanes →
    b.planeStart i + (b.mp i).len ≤ b.planeStart j
  inside : ∀ i < b.numPlanes, b.planeStart i + (b.mp i).len ≤ b.frameLen
  sum : ((List.range b.numPlanes).map fun i => (b.mp i).len).sum ≤ b.frameLen
  aligned : 4096 ∣ b.frameLen

/-! ## Setting the planes -/

section SetPlanes

variable {b : FrameLenOffset} {planes : List (MpLenOffset → MpLenOffset)} {fmt : CamFormat}
  {dim : Dimension}

theorem startOf_eq_sum (len : ℕ → ℕ) (n : ℕ) : startOf len n = ((List.range n).map len).sum := by
  induction n with
  | zero => rfl
  | succ n ih =>
    rw [List.range_succ, List.map_append, List.sum_append, ← ih]
    rfl

theorem start_le_frameLen : (b.setPlanes planes).planeStart planes.length ≤
    (b.setPlanes planes).frameLen :=
  le_padToSize _ (show 0 < 4096 by decide)

theorem setPlanes_sum : ((List.range (b.setPlanes planes).numPlanes).map fun i =>
    ((b.setPlanes planes).mp i).len).sum ≤ (b.setPlanes planes).frameLen := by
  rw [← startOf_eq_sum]
  exact start_le_frameLen

theorem setPlanes_mp {i : ℕ} (hi : i < planes.length) :
    (b.setPlanes planes).mp i = planes[i] (b.mp i) := by
  simp [FrameLenOffset.setPlanes, hi]

theorem layoutSound_setPlanes (hne : planes ≠ [])
    (h : ∀ i (hi : i < planes.length), (planes[i] (b.mp i)).Sound (fmt.planeDim dim i)) :
    LayoutSound fmt dim (b.setPlanes planes) := by
  have hplane : ∀ i < planes.length, ((b.setPlanes planes).mp i).Sound (fmt.planeDim dim i) :=
    fun i hi => setPlanes_mp hi ▸ h i hi
  constructor
  case planes => exact List.length_pos_of_ne_nil hne
  case plane => exact hplane
  case pixel => exact fun i hi r hr c hc => (hplane i hi).pixel_lt hc hr
  case consecutive => exact fun i _ => rfl
  case disjoint => exact fun i j hij _ => startOf_disjoint hij
  case inside => exact fun i hi => (startOf_add_le hi).trans start_le_frameLen
  case sum => exact setPlanes_sum
  case aligned => exact dvd_padToSize _ 12

variable {s₀ s₁ s₂ : MpLenOffset → MpLenOffset}

theorem layoutSound_one (h₀ : ∀ p, (s₀ p).Sound dim) : LayoutSound fmt dim (b.setPlanes [s₀]) := by
  refine layoutSound_setPlanes (by simp) fun i hi => ?_
  match i, hi with
  | 0, _ => exact h₀ _

theorem layoutSound_two (h₀ : ∀ p, (s₀ p).Sound dim) (h₁ : ∀ p, (s₁ p).Sound (fmt.planeDim dim 1)) :
    LayoutSound fmt dim (b.setPlanes [s₀, s₁]) := by
  refine layoutSound_setPlanes (by simp) fun i hi => ?_
  match i, hi with
  | 0, _ => exact h₀ _
  | 1, _ => exact h₁ _

theorem layoutSound_three (h₀ : ∀ p, (s₀ p).Sound dim)
    (h₁ : ∀ p, (s₁ p).Sound (fmt.planeDim dim 1)) (h₂ : ∀ p, (s₂ p).Sound (fmt.planeDim dim 2)) :
    LayoutSound fmt dim (b.setPlanes [s₀, s₁, s₂]) := by
  refine layoutSound_setPlanes (by simp) fun i hi => ?_
  match i, hi with
  | 0, _ => exact h₀ _
  | 1, _ => exact h₁ _
  | 2, _ => exact h₂ _

end SetPlanes

end MmCamera
