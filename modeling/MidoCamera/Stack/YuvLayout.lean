import MidoCamera.Stack.FrameLayout

/-!
# The layouts of the image streams

What `mm_camera_stream.c` calculates for the frames of the preview, the snapshot, the video and the
analysis streams. Each function rounds the strides and the scanlines of each format in its own way.
What the formats for Venus and UBWC get is worked out with macros of the platform, and is a
parameter.
-/

namespace MmCamera

/-! ## The formats of the platform -/

def CamFormat.IsPlatform : CamFormat → Prop
  | .yuv420Nv12Venus | .yuv420Nv21Venus | .yuv420Nv12Ubwc => True
  | _ => False

instance (fmt : CamFormat) : Decidable fmt.IsPlatform := by
  unfold CamFormat.IsPlatform
  split <;> infer_instance

abbrev PlatformLayout := CamFormat → FrameLenOffset → Calculated

def invalidFormat (b : FrameLenOffset) : Calculated := (-1, b)

/-! ## Planes that start with the image -/

/-- A plane with the image in its first corner. -/
def cornerPlane (len stride scanline : ℕ) (dim : Dimension) (p : MpLenOffset) : MpLenOffset :=
  { p with
    len := len
    offset := 0
    offsetX := 0
    offsetY := 0
    stride := stride
    scanline := scanline
    width := dim.width
    height := dim.height }

/-- The padding of the format, or the configured one for what is processed offline. -/
def formatPadding (streamType : StreamType) (format configured : ℕ) : ℕ :=
  if streamType ≠ .offlineProc then format else configured

def calcOffsetPreview (platform : PlatformLayout) (streamType : StreamType) (fmt : CamFormat)
    (dim : Dimension) (padding : PaddingInfo) (b : FrameLenOffset) : Calculated :=
  let widthPadding := padding.widthPadding.toNat
  let heightPadding := padding.heightPadding.toNat
  match fmt with
  | .yuv420Nv12 | .yuv420Nv21 | .yOnly | .yOnly10Bpp | .yOnly12Bpp | .yOnly14Bpp =>
    let heightPadding := formatPadding streamType 2 heightPadding
    let stride := padToSize dim.width widthPadding
    let scanline := padToSize dim.height heightPadding
    let scanline' := padToSize (dim.height / 2) heightPadding
    (0, b.setPlanes
      [cornerPlane (stride * scanline) stride scanline dim,
        cornerPlane (stride * scanline') stride scanline' dim.halfHeight])
  | .yuv420Nv21Adreno =>
    let stride := padToSize dim.width (formatPadding streamType 32 widthPadding)
    let scanline := padToSize dim.height (formatPadding streamType 32 heightPadding)
    -- the chroma plane has the padding of the format in any case
    let stride' := padToSize (dim.width / 2) 32 * 2
    let scanline' := padToSize (dim.height / 2) 32
    (0, b.setPlanes
      [cornerPlane (padToSize (stride * scanline) 4096) stride scanline dim,
        cornerPlane (padToSize (stride' * scanline') 4096) stride' scanline' dim.halfHeight])
  | .yuv420Yv12 =>
    let stride := padToSize dim.width (formatPadding streamType 16 widthPadding)
    let scanline := padToSize dim.height (formatPadding streamType 2 heightPadding)
    let stride' := padToSize (stride / 2) 16
    let scanline' := scanline / 2
    (0, b.setPlanes
      [cornerPlane (stride * scanline) stride scanline dim,
        cornerPlane (stride' * scanline') stride' scanline' dim.half,
        cornerPlane (stride' * scanline') stride' scanline' dim.half])
  | .yuv422Nv16 | .yuv422Nv61 =>
    let stride := padToSize dim.width (formatPadding streamType 16 widthPadding)
    let scanline :=
      if streamType ≠ .offlineProc then dim.height else padToSize dim.height heightPadding
    (0, b.setPlanes
      [cornerPlane (stride * scanline) stride scanline dim,
        cornerPlane (stride * scanline) stride scanline dim])
  | .yuv420Nv12Venus | .yuv420Nv21Venus | .yuv420Nv12Ubwc => platform fmt b
  | _ => invalidFormat b

def calcOffsetVideo (platform : PlatformLayout) (fmt : CamFormat) (dim : Dimension)
    (b : FrameLenOffset) : Calculated :=
  match fmt with
  | .yuv420Nv12 | .yOnly | .yOnly10Bpp | .yOnly12Bpp | .yOnly14Bpp =>
    let stride := dim.width
    let scanline := dim.height
    let scanline' := dim.height / 2
    (0, b.setPlanes
      [cornerPlane (padToSize (stride * scanline) 2048) stride scanline dim,
        cornerPlane (padToSize (stride * scanline') 2048) stride scanline' dim.halfHeight])
  | .yuv420Nv12Venus | .yuv420Nv21Venus | .yuv420Nv12Ubwc => platform fmt b
  | _ => invalidFormat b

/-! ## Planes with the image at an offset -/

/-- Where the image is in its plane. -/
structure ImageOffset where
  x : ℕ
  y : ℕ
  deriving DecidableEq, Repr

/-- A plane with the image at an offset. -/
def offsetPlane (planePadding : ℕ) (offset : ImageOffset) (stride scanline : ℕ) (dim : Dimension)
    (p : MpLenOffset) : MpLenOffset :=
  { p with
    len := padToSize (stride * scanline) planePadding
    offset := padToSize (offset.x + stride * offset.y) planePadding
    offsetX := offset.x
    offsetY := offset.y
    stride := stride
    scanline := scanline
    width := dim.width
    height := dim.height }

section Cases

variable (planePadding : ℕ) (offset : ImageOffset) (stride scanline : ℕ) (dim : Dimension)

/-- The planes of NV12 and NV21. -/
def nv12Planes : List (MpLenOffset → MpLenOffset) :=
  [offsetPlane planePadding offset stride scanline dim,
    offsetPlane planePadding offset stride (scanline / 2) dim.halfHeight]

/-- The planes of YV12. -/
def yv12Planes : List (MpLenOffset → MpLenOffset) :=
  let stride' := padToSize (stride / 2) 16
  let scanline' := scanline / 2
  [offsetPlane planePadding offset stride scanline dim,
    offsetPlane planePadding offset stride' scanline' dim.half,
    offsetPlane planePadding offset stride' scanline' dim.half]

/-- The planes of NV16 and NV61. -/
def nv16Planes : List (MpLenOffset → MpLenOffset) :=
  [offsetPlane planePadding offset stride scanline dim,
    offsetPlane planePadding offset stride scanline dim]

end Cases

/-- The offset, the stride and the scanline of a snapshot. -/
def snapshotPlane (isAFamily : Bool) (dim : Dimension) (padding : PaddingInfo) :
    ImageOffset × ℕ × ℕ :=
  if isAFamily then
    -- the padding of the height is there twice, before and after the image
    let scanline := padToSize dim.height 16
    let offsetY := scanline - dim.height
    (⟨0, offsetY⟩, dim.width, scanline + offsetY)
  else
    let offsetX := padToSize padding.offsetInfo.offsetX.toNat padding.planePadding.toNat
    let offsetY := padToSize padding.offsetInfo.offsetY.toNat padding.planePadding.toNat
    (⟨offsetX, offsetY⟩, padToSize (dim.width + 2 * offsetX) padding.widthPadding.toNat,
      padToSize (dim.height + 2 * offsetY) padding.heightPadding.toNat)

def calcOffsetSnapshot (platform : PlatformLayout) (isAFamily : Bool) (fmt : CamFormat)
    (dim : Dimension) (padding : PaddingInfo) (b : FrameLenOffset) : Calculated :=
  let planePadding := padding.planePadding.toNat
  let (offset, stride, scanline) := snapshotPlane isAFamily dim padding
  match fmt with
  | .yuv420Nv12 | .yuv420Nv21 | .yOnly | .yOnly10Bpp | .yOnly12Bpp | .yOnly14Bpp =>
    (0, b.setPlanes (nv12Planes planePadding offset stride scanline dim))
  | .yuv420Yv12 => (0, b.setPlanes (yv12Planes planePadding offset stride scanline dim))
  | .yuv422Nv16 | .yuv422Nv61 =>
    (0, b.setPlanes (nv16Planes planePadding offset stride scanline dim))
  | .yuv420Nv12Venus | .yuv420Nv21Venus | .yuv420Nv12Ubwc => platform fmt b
  | _ => invalidFormat b

def calcOffsetAnalysis (platform : PlatformLayout) (fmt : CamFormat) (dim : Dimension)
    (padding : PaddingInfo) (b : FrameLenOffset) : Calculated :=
  let planePadding := padding.planePadding.toNat
  let offset : ImageOffset := ⟨0, 0⟩
  let stride := if dim.width < padding.minStride.toNat then padding.minStride.toNat else dim.width
  let scanline :=
    if dim.height < padding.minScanline.toNat then padding.minScanline.toNat else dim.height
  let stride := padToSize stride padding.widthPadding.toNat
  let scanline := padToSize scanline padding.heightPadding.toNat
  match fmt with
  | .yuv420Nv12 | .yuv420Nv21 =>
    (0, b.setPlanes (nv12Planes planePadding offset stride scanline dim))
  | .yuv420Yv12 => (0, b.setPlanes (yv12Planes planePadding offset stride scanline dim))
  | .yuv422Nv16 | .yuv422Nv61 =>
    (0, b.setPlanes (nv16Planes planePadding offset stride scanline dim))
  | .yOnly | .yOnly10Bpp | .yOnly12Bpp | .yOnly14Bpp =>
    (0, b.setPlanes [offsetPlane planePadding offset stride scanline dim])
  | .yuv420Nv12Venus | .yuv420Nv21Venus | .yuv420Nv12Ubwc => platform fmt b
  | _ => invalidFormat b

/-! ## Planes that hold their image -/

section Planes

variable {len planePadding stride scanline : ℕ} {offset : ImageOffset} {dim : Dimension}
  {p : MpLenOffset} {fmt : CamFormat} {b : FrameLenOffset}

theorem cornerPlane_sound (hw : dim.width ≤ stride) (hh : dim.height ≤ scanline)
    (hlen : stride * scanline ≤ len) : (cornerPlane len stride scanline dim p).Sound dim where
  width := rfl
  height := rfl
  stride := hw
  scanline := hh
  len := hlen
  columns := (Nat.zero_add _).trans_le hw
  rows := (Nat.zero_add _).trans_le hh

theorem offsetPlane_sound (hp : 0 < planePadding) (hx : offset.x + dim.width ≤ stride)
    (hy : offset.y + dim.height ≤ scanline) :
    (offsetPlane planePadding offset stride scanline dim p).Sound dim where
  width := rfl
  height := rfl
  stride := (Nat.le_add_left ..).trans hx
  scanline := (Nat.le_add_left ..).trans hy
  len := le_padToSize _ hp
  columns := hx
  rows := hy

/-- The image is offset by the same on either side of the plane. -/
structure Centred (offset : ImageOffset) (stride scanline : ℕ) (dim : Dimension) : Prop where
  columns : 2 * offset.x + dim.width ≤ stride
  rows : 2 * offset.y + dim.height ≤ scanline

theorem Centred.sound (h : Centred offset stride scanline dim) (hp : 0 < planePadding) :
    (offsetPlane planePadding offset stride scanline dim p).Sound dim := by
  have hcolumns := h.columns
  have hrows := h.rows
  exact offsetPlane_sound hp (by omega) (by omega)

theorem Centred.nv12_sound (h : Centred offset stride scanline dim) (hp : 0 < planePadding)
    (hdim : fmt.planeDim dim 1 = dim.halfHeight) :
    LayoutSound fmt dim (b.setPlanes (nv12Planes planePadding offset stride scanline dim)) := by
  have hcolumns := h.columns
  have hrows := h.rows
  have hchroma : ∀ p, (offsetPlane planePadding offset stride (scanline / 2) dim.halfHeight
      p).Sound dim.halfHeight := by
    intro p
    refine offsetPlane_sound hp ?_ ?_
    · simp only [Dimension.halfHeight]
      omega
    · simp only [Dimension.halfHeight]
      omega
  exact layoutSound_two (fun p => h.sound hp) (hdim ▸ hchroma)

theorem Centred.yv12_sound (h : Centred offset stride scanline dim) (hp : 0 < planePadding)
    (hdim : ∀ i ≠ 0, fmt.planeDim dim i = dim.half) :
    LayoutSound fmt dim (b.setPlanes (yv12Planes planePadding offset stride scanline dim)) := by
  have hcolumns := h.columns
  have hrows := h.rows
  have hstride := le_padToSize (stride / 2) (show 0 < 16 by decide)
  -- both chroma planes are the same
  have hchroma : ∀ p, (offsetPlane planePadding offset (padToSize (stride / 2) 16) (scanline / 2)
      dim.half p).Sound dim.half := by
    intro p
    refine offsetPlane_sound hp ?_ ?_
    · simp only [Dimension.half]
      omega
    · simp only [Dimension.half]
      omega
  exact layoutSound_three (fun p => h.sound hp) (hdim 1 one_ne_zero ▸ hchroma)
    (hdim 2 two_ne_zero ▸ hchroma)

theorem Centred.nv16_sound (h : Centred offset stride scanline dim) (hp : 0 < planePadding)
    (hdim : fmt.planeDim dim 1 = dim) :
    LayoutSound fmt dim (b.setPlanes (nv16Planes planePadding offset stride scanline dim)) :=
  layoutSound_two (fun _ => h.sound hp) (hdim.symm ▸ fun _ => h.sound hp)

end Planes

/-! ## The layouts -/

section Layouts

variable {platform : PlatformLayout} {streamType : StreamType} {isAFamily : Bool} {fmt : CamFormat}
  {dim : Dimension} {padding : PaddingInfo} {b : FrameLenOffset}

theorem formatPadding_pos {n m : ℕ} (hn : 0 < n) (hm : 0 < m) :
    0 < formatPadding streamType n m := by
  unfold formatPadding
  split_ifs <;> assumption

theorem le_rows {n : ℕ} (streamType : StreamType) (height : ℕ) (hn : 0 < n) :
    height ≤ if streamType ≠ .offlineProc then height else padToSize height n := by
  split_ifs
  · exact le_rfl
  · exact le_padToSize height hn

theorem calcOffsetPreview_sound (hfmt : ¬fmt.IsPlatform) (hdim : dim.PositiveEven)
    (hpad : padding.PowersOfTwo)
    (h : (calcOffsetPreview platform streamType fmt dim padding b).1 = 0) :
    LayoutSound fmt dim (calcOffsetPreview platform streamType fmt dim padding b).2 := by
  have hwidth := hpad.width_pos
  have hheight := hpad.height_pos
  have heven := hdim.width_even.two_dvd
  have hpos : ∀ {n m : ℕ}, 0 < n → 0 < m → 0 < formatPadding streamType n m := formatPadding_pos
  cases fmt
  case yuv420Nv12 | yuv420Nv21 | yOnly | yOnly10Bpp | yOnly12Bpp | yOnly14Bpp =>
    have hscanline := hpos (n := 2) (by decide) hheight
    exact layoutSound_two
      (fun _ => cornerPlane_sound (le_padToSize _ hwidth) (le_padToSize _ hscanline) le_rfl)
      (fun _ => cornerPlane_sound (le_padToSize _ hwidth) (le_padToSize _ hscanline) le_rfl)
  case yuv420Nv21Adreno =>
    have hstride := hpos (n := 32) (by decide) hwidth
    have hscanline := hpos (n := 32) (by decide) hheight
    have hchroma := le_padToSize (dim.width / 2) (show 0 < 32 by decide)
    refine layoutSound_two (fun _ => cornerPlane_sound (le_padToSize _ hstride)
      (le_padToSize _ hscanline) (le_padToSize _ (by decide)))
      (fun _ => cornerPlane_sound ?_ (le_padToSize _ (by decide)) (le_padToSize _ (by decide)))
    simp only [Dimension.halfHeight]
    omega
  case yuv420Yv12 =>
    have hstride := le_padToSize dim.width (hpos (n := 16) (by decide) hwidth)
    have hscanline := le_padToSize dim.height (hpos (n := 2) (by decide) hheight)
    -- both chroma planes are the same, half the luma plane
    have hchroma : ∀ p, (cornerPlane _ _ _ dim.half p).Sound dim.half := fun _ =>
      cornerPlane_sound ((Nat.div_le_div_right hstride).trans (le_padToSize _
        (show 0 < 16 by decide))) (Nat.div_le_div_right hscanline) le_rfl
    exact layoutSound_three (fun _ => cornerPlane_sound hstride hscanline le_rfl) hchroma hchroma
  case yuv422Nv16 | yuv422Nv61 =>
    have hstride := le_padToSize dim.width (hpos (n := 16) (by decide) hwidth)
    have hplane : ∀ p, (cornerPlane _ _ _ dim p).Sound dim := fun _ =>
      cornerPlane_sound hstride (le_rows streamType dim.height hheight) le_rfl
    exact layoutSound_two hplane hplane
  case yuv420Nv12Venus | yuv420Nv21Venus | yuv420Nv12Ubwc => exact absurd trivial hfmt
  all_goals exact absurd h (show ¬(-1 : ℤ) = 0 by decide)

theorem calcOffsetVideo_sound (hfmt : ¬fmt.IsPlatform)
    (h : (calcOffsetVideo platform fmt dim b).1 = 0) :
    LayoutSound fmt dim (calcOffsetVideo platform fmt dim b).2 := by
  cases fmt
  case yuv420Nv12 | yOnly | yOnly10Bpp | yOnly12Bpp | yOnly14Bpp =>
    -- nothing but the lengths is padded
    exact layoutSound_two (fun _ => cornerPlane_sound le_rfl le_rfl (le_padToSize _ (by decide)))
      (fun _ => cornerPlane_sound le_rfl le_rfl (le_padToSize _ (by decide)))
  case yuv420Nv12Venus | yuv420Nv21Venus | yuv420Nv12Ubwc => exact absurd trivial hfmt
  all_goals exact absurd h (show ¬(-1 : ℤ) = 0 by decide)

theorem snapshotPlane_centred (isAFamily : Bool) (dim : Dimension) (hpad : padding.PowersOfTwo) :
    Centred (snapshotPlane isAFamily dim padding).1 (snapshotPlane isAFamily dim padding).2.1
      (snapshotPlane isAFamily dim padding).2.2 dim := by
  cases isAFamily
  case true =>
    have hscanline := le_padToSize dim.height (show 0 < 16 by decide)
    constructor
    · exact (Nat.zero_add _).le
    · change 2 * (padToSize dim.height 16 - dim.height) + dim.height ≤
        padToSize dim.height 16 + (padToSize dim.height 16 - dim.height)
      omega
  case false =>
    constructor
    · exact (Nat.add_comm ..).trans_le (le_padToSize _ hpad.width_pos)
    · exact (Nat.add_comm ..).trans_le (le_padToSize _ hpad.height_pos)

theorem calcOffsetSnapshot_sound (hfmt : ¬fmt.IsPlatform) (hpad : padding.PowersOfTwo)
    (h : (calcOffsetSnapshot platform isAFamily fmt dim padding b).1 = 0) :
    LayoutSound fmt dim (calcOffsetSnapshot platform isAFamily fmt dim padding b).2 := by
  have hcentred := snapshotPlane_centred isAFamily dim hpad
  have hplane := hpad.plane_pos
  cases fmt
  case yuv420Nv12 | yuv420Nv21 | yOnly | yOnly10Bpp | yOnly12Bpp | yOnly14Bpp =>
    exact hcentred.nv12_sound hplane rfl
  case yuv420Yv12 => exact hcentred.yv12_sound hplane fun _ hi => if_neg hi
  case yuv422Nv16 | yuv422Nv61 => exact hcentred.nv16_sound hplane rfl
  case yuv420Nv12Venus | yuv420Nv21Venus | yuv420Nv12Ubwc => exact absurd trivial hfmt
  all_goals exact absurd h (show ¬(-1 : ℤ) = 0 by decide)

theorem calcOffsetAnalysis_sound (hfmt : ¬fmt.IsPlatform) (hpad : padding.PowersOfTwo)
    (h : (calcOffsetAnalysis platform fmt dim padding b).1 = 0) :
    LayoutSound fmt dim (calcOffsetAnalysis platform fmt dim padding b).2 := by
  -- the minimum is taken where it is the larger one
  have hmin : ∀ n m : ℕ, n ≤ if n < m then m else n := by
    intro n m
    split_ifs <;> omega
  have hcentred : Centred ⟨0, 0⟩ _ _ dim :=
    ⟨(Nat.zero_add _).trans_le ((hmin dim.width padding.minStride.toNat).trans
        (le_padToSize _ hpad.width_pos)),
      (Nat.zero_add _).trans_le ((hmin dim.height padding.minScanline.toNat).trans
        (le_padToSize _ hpad.height_pos))⟩
  have hplane := hpad.plane_pos
  cases fmt
  case yuv420Nv12 | yuv420Nv21 => exact hcentred.nv12_sound hplane rfl
  case yuv420Yv12 => exact hcentred.yv12_sound hplane fun _ hi => if_neg hi
  case yuv422Nv16 | yuv422Nv61 => exact hcentred.nv16_sound hplane rfl
  case yOnly | yOnly10Bpp | yOnly12Bpp | yOnly14Bpp =>
    exact layoutSound_one fun _ => hcentred.sound hplane
  case yuv420Nv12Venus | yuv420Nv21Venus | yuv420Nv12Ubwc => exact absurd trivial hfmt
  all_goals exact absurd h (show ¬(-1 : ℤ) = 0 by decide)

end Layouts

/-- The streams of images, with what their calculation reads besides the image. -/
inductive ImageStream
  | preview (streamType : StreamType)
  | snapshot (isAFamily : Bool)
  | video
  | analysis
  deriving DecidableEq, Repr

/-- The calculation that is made for a stream. -/
def ImageStream.calcOffset (platform : PlatformLayout) (fmt : CamFormat) (dim : Dimension)
    (padding : PaddingInfo) (b : FrameLenOffset) : ImageStream → Calculated
  | preview streamType => calcOffsetPreview platform streamType fmt dim padding b
  | snapshot isAFamily => calcOffsetSnapshot platform isAFamily fmt dim padding b
  | video => calcOffsetVideo platform fmt dim b
  | analysis => calcOffsetAnalysis platform fmt dim padding b

/-- **Every layout is sound** that is calculated for a format that is not one of the platform. -/
theorem calcOffset_sound (platform : PlatformLayout) (stream : ImageStream) (fmt : CamFormat)
    (hfmt : ¬fmt.IsPlatform) (dim : Dimension) (hdim : dim.PositiveEven) (padding : PaddingInfo)
    (hpad : padding.PowersOfTwo) (b : FrameLenOffset)
    (h : (stream.calcOffset platform fmt dim padding b).1 = 0) :
    LayoutSound fmt dim (stream.calcOffset platform fmt dim padding b).2 := by
  cases stream with
  | preview => exact calcOffsetPreview_sound hfmt hdim hpad h
  | snapshot => exact calcOffsetSnapshot_sound hfmt hpad h
  | video => exact calcOffsetVideo_sound hfmt h
  | analysis => exact calcOffsetAnalysis_sound hfmt hpad h

theorem positiveEven_preview : Dimension.PositiveEven ⟨640, 480⟩ :=
  ⟨by decide, by decide, by decide, by decide⟩

theorem powersOfTwo_preview : PaddingInfo.PowersOfTwo ⟨32, 32, 4096, 0, 0, ⟨0, 0⟩⟩ :=
  ⟨⟨5, rfl⟩, ⟨5, rfl⟩, ⟨12, rfl⟩⟩

/-- The layout of a preview. -/
theorem calcOffset_sound_preview :
    LayoutSound .yuv420Nv21 ⟨640, 480⟩
      ((ImageStream.preview .preview).calcOffset (fun _ b => (-1, b)) .yuv420Nv21 ⟨640, 480⟩
        ⟨32, 32, 4096, 0, 0, ⟨0, 0⟩⟩ .cleared).2 :=
  calcOffset_sound _ (.preview .preview) .yuv420Nv21 (by decide) ⟨640, 480⟩ positiveEven_preview _
    powersOfTwo_preview _ rfl

end MmCamera
