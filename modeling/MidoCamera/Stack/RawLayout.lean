import MidoCamera.Stack.FrameLayout

/-!
# The layouts of raw frames

What `mm_stream_calc_offset_raw` calculates. The pixels of a raw format are packed in groups, of as
many pixels as a number of bytes has room for, and each family of formats rounds the width to its
own groups before it is converted to bytes.
-/

namespace MmCamera

open Loop

/-! ## Packings -/

/-- `n` pixels in groups, of so many pixels and bits. -/
def packedBits (pixels bits n : ℕ) : ℕ := (n + (pixels - 1)) / pixels * bits

/-- The packing of Qualcomm has the pixels that there is room for in each word of 64 bits. -/
def qcomBits (width : ℕ) : RawDepth → ℕ
  | .bpp8 => packedBits 8 64 width
  | .bpp10 => packedBits 6 64 width
  | .bpp12 => packedBits 5 64 width
  | .bpp14 => packedBits 4 64 width

/-- The packing of MIPI has the pixels in the least number of bytes that they fill. -/
def mipiBits (width : ℕ) : RawDepth → ℕ
  | .bpp8 => packedBits 1 8 width
  | .bpp10 => packedBits 4 40 width
  | .bpp12 => packedBits 2 24 width
  | .bpp14 => packedBits 4 56 width

/-- **The bits that a row takes** in the packing of a format. -/
def CamFormat.rowBits (width : ℕ) : CamFormat → ℕ
  | .yuvRaw8bit _ => 16 * width
  | .bayerQcomRaw depth _ | .bayerIdealRawQcom depth _ => qcomBits width depth
  | .bayerMipiRaw depth _ | .bayerIdealRawMipi depth _ => mipiBits width depth
  | .metaRaw10bit => mipiBits width .bpp10
  | .bayerIdealRawPlain16 _ _ => 16 * width
  | _ => 8 * width

/-! ## The calculation -/

/-- A plane of raw bytes. -/
def rawPlane (planePadding stride strideInBytes scanline : ℕ) (p : MpLenOffset) : MpLenOffset :=
  { p with
    len := padToSize (strideInBytes * scanline) planePadding
    offset := 0
    offsetX := 0
    offsetY := 0
    stride := stride
    strideInBytes := strideInBytes
    scanline := scanline }

/-- A plane of raw bytes, which is described as one row. -/
def rawRow (planePadding stride strideInBytes scanline : ℕ) (p : MpLenOffset) : MpLenOffset :=
  let p := rawPlane planePadding stride strideInBytes scanline p
  { p with width := p.len, height := 1 }

def calcOffsetRaw (fmt : CamFormat) (dim : Dimension) (padding : PaddingInfo)
    (b : FrameLenOffset) : Calculated :=
  let planePadding := padding.planePadding.toNat
  let scanline := padToSize dim.height padding.heightPadding.toNat
  match fmt with
  | .yuv420Nv21 =>
    -- two planes
    let stride := padToSize dim.width padding.widthPadding.toNat
    let scanline' := scanline / 2
    (0, b.setPlanes
      [fun p => { rawPlane planePadding stride stride scanline p with
          width := dim.width
          height := dim.height },
        fun p => { rawPlane planePadding stride stride scanline' p with
          width := dim.width
          height := dim.height / 2 }])
  | .yuvRaw8bit _ | .jpegRaw8bit =>
    -- 16 pixels in 32 bytes
    let stride := padToSize dim.width 16
    (0, b.setPlanes [rawRow planePadding stride (stride * 2) scanline])
  | .metaRaw8bit =>
    let stride := padToSize dim.width 16
    -- the width and the height stay as they are
    (0, b.setPlanes [rawPlane planePadding stride (stride * 2) scanline])
  | .bayerQcomRaw .bpp8 _ | .bayerMipiRaw .bpp8 _ | .bayerIdealRawQcom .bpp8 _
  | .bayerIdealRawMipi .bpp8 _ | .bayerIdealRawPlain8 _ =>
    -- 16 pixels in 16 bytes
    let stride := padToSize dim.width 16
    (0, b.setPlanes [rawRow planePadding stride stride scanline])
  | .bayerQcomRaw .bpp10 _ | .bayerIdealRawQcom .bpp10 _ =>
    -- 12 pixels in 16 bytes
    let stride := (dim.width + 11) / 12 * 12
    (0, b.setPlanes [rawRow planePadding stride (stride * 8 / 6) scanline])
  | .bayerQcomRaw .bpp12 _ | .bayerIdealRawQcom .bpp12 _ =>
    -- 10 pixels in 16 bytes
    let stride := (dim.width + 9) / 10 * 10
    (0, b.setPlanes [rawRow planePadding stride (stride * 8 / 5) scanline])
  | .bayerMipiRaw .bpp10 _ | .bayerIdealRawMipi .bpp10 _ | .metaRaw10bit =>
    -- 4 pixels in 5 bytes, and the row in words
    let stride := padToSize dim.width 4
    (0, b.setPlanes [rawRow planePadding stride (padToSize (stride * 5 / 4) 8) scanline])
  | .bayerMipiRaw .bpp12 _ | .bayerIdealRawMipi .bpp12 _ =>
    -- 32 pixels in 48 bytes
    let stride := padToSize dim.width 32
    (0, b.setPlanes [rawRow planePadding stride (stride * 3 / 2) scanline])
  | .bayerIdealRawPlain16 _ _ =>
    -- 8 pixels in 16 bytes
    let stride := padToSize dim.width 8
    (0, b.setPlanes [rawRow planePadding stride (stride * 2) scanline])
  | .bayerMipiRaw .bpp14 _ | .bayerIdealRawMipi .bpp14 _ =>
    -- 64 pixels in 112 bytes
    let stride := padToSize dim.width 64
    (0, b.setPlanes [rawRow planePadding stride (stride * 7 / 4) scanline])
  | .bayerQcomRaw .bpp14 _ | .bayerIdealRawQcom .bpp14 _ =>
    -- 16 pixels in 32 bytes
    let stride := padToSize dim.width 16
    (0, b.setPlanes [rawRow planePadding stride (stride * 2) scanline])
  | _ => (-1, b)

/-! ## What a layout is to be -/

/-- The plane has room for rows of so many bits. -/
structure MpLenOffset.HoldsRows (p : MpLenOffset) (rowBits rows : ℕ) : Prop where
  row : rowBits ≤ p.strideInBytes * 8
  len : p.strideInBytes * rows ≤ p.len

/-- **The layout is sound**: each row fits in the stride and all of them in the plane, and the
planes in the frame. -/
structure RawSound (fmt : CamFormat) (dim : Dimension) (b : FrameLenOffset) : Prop where
  planes : 0 < b.numPlanes
  plane : ∀ i < b.numPlanes,
    (b.mp i).HoldsRows (fmt.rowBits dim.width) (fmt.planeDim dim i).height
  sum : ((List.range b.numPlanes).map fun i => (b.mp i).len).sum ≤ b.frameLen

/-- There are paddings. -/
structure PaddingInfo.Positive (p : PaddingInfo) : Prop where
  width : 0 < p.widthPadding.toNat
  height : 0 < p.heightPadding.toNat
  plane : 0 < p.planePadding.toNat

section Raw

variable {fmt : CamFormat} {dim : Dimension} {padding : PaddingInfo} {b : FrameLenOffset}
  {planePadding stride strideInBytes scanline rowBits rows : ℕ}
  {set : MpLenOffset → MpLenOffset}

theorem rawPlane_holdsRows (p : MpLenOffset) (stride : ℕ) (hp : 0 < planePadding)
    (hrow : rowBits ≤ strideInBytes * 8) (hrows : rows ≤ scanline) :
    (rawPlane planePadding stride strideInBytes scanline p).HoldsRows rowBits rows where
  row := hrow
  len := (Nat.mul_le_mul_left strideInBytes hrows).trans (le_padToSize _ hp)

theorem rawSound_one (h : ∀ p, (set p).HoldsRows (fmt.rowBits dim.width) dim.height) :
    RawSound fmt dim (b.setPlanes [set]) where
  planes := Nat.one_pos
  plane i hi := by
    obtain rfl : i = 0 := Nat.lt_one_iff.mp hi
    exact h _
  sum := setPlanes_sum

theorem rawRow_sound (hpad : padding.Positive)
    (hrow : fmt.rowBits dim.width ≤ strideInBytes * 8) :
    RawSound fmt dim (b.setPlanes [rawRow padding.planePadding.toNat stride strideInBytes
      (padToSize dim.height padding.heightPadding.toNat)]) :=
  rawSound_one fun p =>
    have hplane := rawPlane_holdsRows p stride hpad.plane hrow (le_padToSize dim.height hpad.height)
    ⟨hplane.row, hplane.len⟩

theorem padToSize_pow (n k : ℕ) : padToSize n (2 ^ k) = (n + (2 ^ k - 1)) / 2 ^ k * 2 ^ k := by
  rw [padToSize_two_pow, roundUp_two_pow]

theorem mipi10_row (width : ℕ) :
    mipiBits width .bpp10 ≤ padToSize (padToSize width 4 * 5 / 4) 8 * 8 := by
  have hstride := padToSize_pow width 2
  have hbytes := le_padToSize (padToSize width 4 * 5 / 4) (show 0 < 8 by decide)
  simp only [Nat.reducePow, Nat.reduceSub] at hstride
  simp only [mipiBits, packedBits]
  omega

/-- **A frame that is empty**: without a padding of the height there are no scanlines. -/
theorem raw_unpadded :
    (calcOffsetRaw .jpegRaw8bit ⟨16, 2⟩ ⟨1, 0, 1, 0, 0, ⟨0, 0⟩⟩
        .cleared).1 = 0 ∧
      ¬RawSound .jpegRaw8bit ⟨16, 2⟩
        (calcOffsetRaw .jpegRaw8bit ⟨16, 2⟩ ⟨1, 0, 1, 0, 0, ⟨0, 0⟩⟩
          .cleared).2 := by
  refine ⟨rfl, fun h => ?_⟩
  have hplane := h.plane 0 (show 0 < 1 by decide)
  have hlen : padToSize 16 16 * 2 * 2 ≤ padToSize (padToSize 16 16 * 2 * 0) 1 := hplane.len
  have hstride := le_padToSize 16 (show 0 < 16 by decide)
  have hempty := padToSize_pow (padToSize 16 16 * 2 * 0) 0
  simp only [pow_zero] at hempty
  omega

/-- **The layout of each format is sound**, if there are paddings. -/
theorem raw_sound (fmt : CamFormat) (dim : Dimension) (padding : PaddingInfo)
    (hpad : padding.Positive) (b : FrameLenOffset) (h : (calcOffsetRaw fmt dim padding b).1 = 0) :
    RawSound fmt dim (calcOffsetRaw fmt dim padding b).2 := by
  -- the strides that are padded are multiples of a power of two
  have h8 := padToSize_pow dim.width 3
  have h16 := padToSize_pow dim.width 4
  have h32 := padToSize_pow dim.width 5
  have h64 := padToSize_pow dim.width 6
  simp only [Nat.reducePow, Nat.reduceSub] at h8 h16 h32 h64
  cases fmt
  case yuv420Nv21 =>
    have hrow : 8 * dim.width ≤ padToSize dim.width padding.widthPadding.toNat * 8 :=
      (Nat.mul_comm ..).trans_le (Nat.mul_le_mul_right 8 (le_padToSize dim.width hpad.width))
    have hrows := le_padToSize dim.height hpad.height
    -- the chroma plane has half the rows, and half the scanlines
    refine ⟨Nat.two_pos, fun i hi => ?_, setPlanes_sum⟩
    match i, hi with
    | 0, _ =>
      have hplane := rawPlane_holdsRows (b.mp 0) 0 hpad.plane hrow hrows
      exact ⟨hplane.row, hplane.len⟩
    | 1, _ =>
      have hplane := rawPlane_holdsRows (b.mp 1) 0 hpad.plane hrow
        (Nat.div_le_div_right (c := 2) hrows)
      exact ⟨hplane.row, hplane.len⟩
  case metaRaw8bit =>
    refine rawSound_one fun p => rawPlane_holdsRows p _ hpad.plane ?_ (le_padToSize _ hpad.height)
    simp only [CamFormat.rowBits]
    omega
  case metaRaw10bit => exact rawRow_sound hpad (mipi10_row dim.width)
  -- the groups of the calculation are one or two of the packing, which `omega` compares
  case bayerQcomRaw depth _ | bayerIdealRawQcom depth _ =>
    cases depth <;> refine rawRow_sound hpad ?_ <;>
      simp only [CamFormat.rowBits, qcomBits, packedBits] <;> omega
  case bayerMipiRaw depth _ | bayerIdealRawMipi depth _ =>
    cases depth with
    | bpp10 => exact rawRow_sound hpad (mipi10_row dim.width)
    | bpp8 | bpp12 | bpp14 =>
      refine rawRow_sound hpad ?_
      simp only [CamFormat.rowBits, mipiBits, packedBits]
      omega
  case yuvRaw8bit | jpegRaw8bit | bayerIdealRawPlain8 | bayerIdealRawPlain16 =>
    refine rawRow_sound hpad ?_
    simp only [CamFormat.rowBits]
    omega
  all_goals exact absurd h (show ¬(-1 : ℤ) = 0 by decide)

/-- The layout of a packed frame whose width is not one of its groups. -/
theorem raw_sound_mipi :
    RawSound (.bayerMipiRaw .bpp10 (.bayer .gbrg)) ⟨4206, 3120⟩
      (calcOffsetRaw (.bayerMipiRaw .bpp10 (.bayer .gbrg)) ⟨4206, 3120⟩
        ⟨1, 1, 4, 0, 0, ⟨0, 0⟩⟩ .cleared).2 :=
  raw_sound _ ⟨4206, 3120⟩ _ ⟨by decide, by decide, by decide⟩ _ rfl

end Raw

end MmCamera
