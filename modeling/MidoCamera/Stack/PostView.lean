import MidoCamera.Stack.YuvLayout

/-!
# The layout of the postview

`mm_stream_calc_offset_post_view` is a copy of the calculation for the preview, in which the chroma
planes of a planar image are padded like the luma plane. Their scanline is worked out from their
stride, where that of the preview is worked out from the scanline. So they have rows for half the
image only if the image is no higher than about half its width.
-/

namespace MmCamera

open Loop

def calcOffsetPostView (platform : PlatformLayout) (streamType : StreamType) (fmt : CamFormat)
    (dim : Dimension) (padding : PaddingInfo) (b : FrameLenOffset) : Calculated :=
  let configuredWidth := padding.widthPadding.toNat
  let configuredHeight := padding.heightPadding.toNat
  match fmt with
  | .yuv420Nv12 | .yuv420Nv21 | .yOnly | .yOnly10Bpp | .yOnly12Bpp | .yOnly14Bpp =>
    let widthPadding := configuredWidth
    let heightPadding := formatPadding streamType 2 configuredHeight
    let stride := padToSize dim.width widthPadding
    let scanline := padToSize dim.height heightPadding
    let scanline' := padToSize (dim.height / 2) heightPadding
    (0, b.setPlanes
      [cornerPlane (stride * scanline) stride scanline dim,
        cornerPlane (stride * scanline') stride scanline' dim.halfHeight])
  | .yuv420Nv21Adreno =>
    let widthPadding := formatPadding streamType 32 configuredWidth
    let heightPadding := formatPadding streamType 32 configuredHeight
    let stride := padToSize dim.width widthPadding
    let scanline := padToSize dim.height heightPadding
    let stride' := padToSize (dim.width / 2) widthPadding * 2
    let scanline' := padToSize (dim.height / 2) heightPadding
    (0, b.setPlanes
      [cornerPlane (padToSize (stride * scanline) 4096) stride scanline dim,
        cornerPlane (padToSize (stride' * scanline') 4096) stride' scanline' dim.halfHeight])
  | .yuv420Yv12 =>
    let widthPadding := formatPadding streamType 16 configuredWidth
    let heightPadding := formatPadding streamType 2 configuredHeight
    let stride := padToSize dim.width widthPadding
    let scanline := padToSize dim.height heightPadding
    let stride' := padToSize (stride / 2) widthPadding
    -- the source has the stride here, which is that of the chroma planes by then
    let scanline' := padToSize (stride' / 2) heightPadding
    (0, b.setPlanes
      [cornerPlane (stride * scanline) stride scanline dim,
        cornerPlane (stride' * scanline') stride' scanline' dim.half,
        cornerPlane (stride' * scanline') stride' scanline' dim.half])
  | .yuv422Nv16 | .yuv422Nv61 =>
    let stride := padToSize dim.width (formatPadding streamType 16 configuredWidth)
    let scanline :=
      if streamType ≠ .offlineProc then dim.height else padToSize dim.height configuredHeight
    (0, b.setPlanes
      [cornerPlane (stride * scanline) stride scanline dim,
        cornerPlane (stride * scanline) stride scanline dim])
  | .yuv420Nv12Venus | .yuv420Nv21Venus | .yuv420Nv12Ubwc => platform fmt b
  | _ => invalidFormat b

/-! ## What a layout is to be -/

/-- **Each plane holds its image**, and the frame the planes. -/
structure PlanesHold (fmt : CamFormat) (dim : Dimension) (b : FrameLenOffset) : Prop where
  plane : ∀ i < b.numPlanes, (b.mp i).Holds (fmt.planeDim dim i)
  pixel : ∀ i < b.numPlanes, ∀ r < (fmt.planeDim dim i).height, ∀ c < (fmt.planeDim dim i).width,
    r * (b.mp i).stride + c < (b.mp i).stride * (b.mp i).scanline
  sum : ((List.range b.numPlanes).map fun i => (b.mp i).len).sum ≤ b.frameLen

/-- **The condition**: a planar image is no higher than half its width, where the width counts up to
the next multiple of twice the padding, and the half of the height up to one of the padding. -/
def PostViewFits (streamType : StreamType) (fmt : CamFormat) (dim : Dimension)
    (padding : PaddingInfo) : Prop :=
  fmt = .yuv420Yv12 → dim.height / 2 ≤
    roundUp (roundUp dim.width (2 * formatPadding streamType 16 padding.widthPadding.toNat) / 4)
      (formatPadding streamType 2 padding.heightPadding.toNat)

instance (streamType : StreamType) (fmt : CamFormat) (dim : Dimension) (padding : PaddingInfo) :
    Decidable (PostViewFits streamType fmt dim padding) :=
  inferInstanceAs (Decidable (_ → _))

section Postview

variable {platform : PlatformLayout} {streamType : StreamType} {fmt : CamFormat} {dim : Dimension}
  {padding : PaddingInfo} {b : FrameLenOffset} {planes : List (MpLenOffset → MpLenOffset)}
  {p : MpLenOffset} {len stride scanline : ℕ} {s₀ s₁ s₂ : MpLenOffset → MpLenOffset}

/-! ## Planes that hold their image -/

theorem planesHold_setPlanes_iff :
    PlanesHold fmt dim (b.setPlanes planes) ↔
      ∀ i (hi : i < planes.length), (planes[i] (b.mp i)).Holds (fmt.planeDim dim i) := by
  constructor
  · intro h i hi
    exact setPlanes_mp hi ▸ h.plane i hi
  · intro h
    have hplane : ∀ i < planes.length, ((b.setPlanes planes).mp i).Holds (fmt.planeDim dim i) :=
      fun i hi => setPlanes_mp hi ▸ h i hi
    constructor
    case plane => exact hplane
    case pixel =>
      intro i hi r hr c hc
      have hpos := pos_lt (x := 0) (y := 0) ((Nat.zero_add _).trans_le (hplane i hi).stride)
        ((Nat.zero_add _).trans_le (hplane i hi).scanline) hc hr
      rwa [Nat.zero_add, Nat.zero_add] at hpos
    case sum => exact setPlanes_sum

theorem cornerPlane_holds (hw : dim.width ≤ stride) (hh : dim.height ≤ scanline)
    (hlen : stride * scanline ≤ len) : (cornerPlane len stride scanline dim p).Holds dim :=
  (cornerPlane_sound hw hh hlen).toHolds

theorem planesHold_two (h₀ : ∀ p, (s₀ p).Holds dim) (h₁ : ∀ p, (s₁ p).Holds (fmt.planeDim dim 1)) :
    PlanesHold fmt dim (b.setPlanes [s₀, s₁]) := by
  refine planesHold_setPlanes_iff.mpr fun i hi => ?_
  match i, hi with
  | 0, _ => exact h₀ _
  | 1, _ => exact h₁ _

theorem formatPadding_two_pow {n m : ℕ} (hn : ∃ k, n = 2 ^ k) (hm : ∃ k, m = 2 ^ k) :
    ∃ k, formatPadding streamType n m = 2 ^ k := by
  unfold formatPadding
  split_ifs <;> assumption

/-! ## The chroma planes of a planar image -/

theorem chromaStride_eq {widthPadding width : ℕ} (hp : ∃ k, widthPadding = 2 ^ k)
    (hw : Even width) :
    padToSize (padToSize width widthPadding / 2) widthPadding =
      roundUp width (2 * widthPadding) / 2 := by
  obtain ⟨k, rfl⟩ := hp
  rw [padToSize_two_pow, padToSize_two_pow, roundUp_half hw, Nat.pow_succ']

theorem chromaScanline_iff (hdim : dim.PositiveEven) (hpad : padding.PowersOfTwo) :
    dim.height / 2 ≤ padToSize (padToSize (padToSize dim.width
          (formatPadding streamType 16 padding.widthPadding.toNat) / 2)
        (formatPadding streamType 16 padding.widthPadding.toNat) / 2)
      (formatPadding streamType 2 padding.heightPadding.toNat) ↔
    PostViewFits streamType .yuv420Yv12 dim padding := by
  have hwidth : ∃ k, formatPadding streamType 16 padding.widthPadding.toNat = 2 ^ k :=
    formatPadding_two_pow ⟨4, rfl⟩ hpad.width
  rw [chromaStride_eq hwidth hdim.width_even, Nat.div_div_eq_div_mul,
    padToSize_of_pos (formatPadding_pos (by decide) hpad.height_pos)]
  exact ⟨fun h _ => h, fun h => h rfl⟩

theorem fits_of_holds (hdim : dim.PositiveEven) (hpad : padding.PowersOfTwo)
    (h : PlanesHold .yuv420Yv12 dim
      (calcOffsetPostView platform streamType .yuv420Yv12 dim padding b).2) :
    PostViewFits streamType .yuv420Yv12 dim padding :=
  (chromaScanline_iff hdim hpad).mp (h.plane 1 (show 1 < 3 by decide)).scanline

theorem postViewFits_online (hdim : dim.PositiveEven) (ht : streamType ≠ .offlineProc) :
    PostViewFits streamType fmt dim padding ↔
      (fmt = .yuv420Yv12 → dim.height ≤ (dim.width + 31) / 32 * 16) := by
  have hwidth := roundUp_two_pow dim.width 5
  have hheight := roundUp_two_pow (roundUp dim.width 32 / 4) 1
  obtain ⟨m, hm⟩ := hdim.height_even
  unfold PostViewFits formatPadding
  rw [if_pos ht, if_pos ht]
  refine imp_congr_right fun _ => ?_
  simp only [Nat.reducePow, Nat.reduceSub, Nat.reduceMul, pow_one] at hwidth hheight ⊢
  omega

/-- **Chroma planes that are too short**: they have 160 rows for the 240 of half the image. -/
theorem postView_short :
    (calcOffsetPostView (fun _ b => (-1, b)) .postview .yuv420Yv12 ⟨640, 480⟩
        ⟨32, 32, 4096, 0, 0, ⟨0, 0⟩⟩ .cleared).1 = 0 ∧
      ¬PlanesHold .yuv420Yv12 ⟨640, 480⟩
        (calcOffsetPostView (fun _ b => (-1, b)) .postview .yuv420Yv12 ⟨640, 480⟩
          ⟨32, 32, 4096, 0, 0, ⟨0, 0⟩⟩ .cleared).2 := by
  refine ⟨rfl, fun h => ?_⟩
  have hfits := (postViewFits_online positiveEven_preview (by decide)).mp
    (fits_of_holds positiveEven_preview powersOfTwo_preview h)
  exact absurd (hfits rfl) (by decide)

/-- **Each plane holds its image exactly under the condition.** -/
theorem postView_holds_iff (platform : PlatformLayout) (streamType : StreamType) (fmt : CamFormat)
    (hfmt : ¬fmt.IsPlatform) (dim : Dimension) (hdim : dim.PositiveEven) (padding : PaddingInfo)
    (hpad : padding.PowersOfTwo) (b : FrameLenOffset)
    (h : (calcOffsetPostView platform streamType fmt dim padding b).1 = 0) :
    PlanesHold fmt dim (calcOffsetPostView platform streamType fmt dim padding b).2 ↔
      PostViewFits streamType fmt dim padding := by
  have hwidth := hpad.width_pos
  have hheight := hpad.height_pos
  have heven := hdim.width_even.two_dvd
  have hpos : ∀ {n m : ℕ}, 0 < n → 0 < m → 0 < formatPadding streamType n m := formatPadding_pos
  cases fmt
  case yuv420Yv12 =>
    constructor
    · exact fits_of_holds hdim hpad
    · intro hfits
      have hscanline := (chromaScanline_iff hdim hpad).mpr hfits
      have hstride := le_padToSize dim.width (hpos (n := 16) (by decide) hwidth)
      have hrows := le_padToSize dim.height (hpos (n := 2) (by decide) hheight)
      have hchroma : ∀ p, (cornerPlane _ _ _ dim.half p).Holds dim.half := fun _ =>
        cornerPlane_holds ((Nat.div_le_div_right hstride).trans
          (le_padToSize _ (hpos (n := 16) (by decide) hwidth))) hscanline le_rfl
      refine planesHold_setPlanes_iff.mpr fun i hi => ?_
      match i, hi with
      | 0, _ => exact cornerPlane_holds hstride hrows le_rfl
      | 1, _ => exact hchroma _
      | 2, _ => exact hchroma _
  case yuv420Nv12Venus | yuv420Nv21Venus | yuv420Nv12Ubwc => exact absurd trivial hfmt
  -- the condition is only about the planar format
  case yuv420Nv12 | yuv420Nv21 | yOnly | yOnly10Bpp | yOnly12Bpp | yOnly14Bpp =>
    refine iff_of_true ?_ (by rintro ⟨⟩)
    have hscanline := hpos (n := 2) (by decide) hheight
    exact planesHold_two
      (fun _ => cornerPlane_holds (le_padToSize _ hwidth) (le_padToSize _ hscanline) le_rfl)
      (fun _ => cornerPlane_holds (le_padToSize _ hwidth) (le_padToSize _ hscanline) le_rfl)
  case yuv420Nv21Adreno =>
    refine iff_of_true ?_ (by rintro ⟨⟩)
    have hstride := hpos (n := 32) (by decide) hwidth
    have hscanline := hpos (n := 32) (by decide) hheight
    have hchroma := le_padToSize (dim.width / 2) hstride
    refine planesHold_two
      (fun _ => cornerPlane_holds (le_padToSize _ hstride) (le_padToSize _ hscanline)
        (le_padToSize _ (by decide)))
      (fun _ => cornerPlane_holds ?_ (le_padToSize _ hscanline) (le_padToSize _ (by decide)))
    simp only [Dimension.halfHeight]
    omega
  case yuv422Nv16 | yuv422Nv61 =>
    refine iff_of_true ?_ (by rintro ⟨⟩)
    have hstride := hpos (n := 16) (by decide) hwidth
    have hplane : ∀ p, (cornerPlane _ _ _ dim p).Holds dim := fun _ =>
      cornerPlane_holds (le_padToSize _ hstride) (le_rows streamType dim.height hheight) le_rfl
    exact planesHold_two hplane hplane
  all_goals exact absurd h (show ¬(-1 : ℤ) = 0 by decide)

/-- A planar postview that is twice as wide as it is high. -/
theorem postView_holds_wide :
    PlanesHold .yuv420Yv12 ⟨640, 320⟩
      (calcOffsetPostView (fun _ b => (-1, b)) .postview .yuv420Yv12 ⟨640, 320⟩
        ⟨32, 32, 4096, 0, 0, ⟨0, 0⟩⟩ .cleared).2 :=
  (postView_holds_iff _ .postview .yuv420Yv12 (by decide) ⟨640, 320⟩
    ⟨by decide, by decide, by decide, by decide⟩ _ powersOfTwo_preview _ rfl).mpr
    ((postViewFits_online ⟨by decide, by decide, by decide, by decide⟩ (by decide)).mpr (by decide))

end Postview

end MmCamera
