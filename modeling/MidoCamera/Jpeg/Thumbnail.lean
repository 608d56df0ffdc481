import MidoCamera.Library.Span
import MidoCamera.Qomx.Core
import Mathlib.Algebra.Order.Field.Basic
import Mathlib.Data.Rat.Cast.Order

/-!
# The crop of a thumbnail

`mm_jpeg_session_config_thumbnail` hands the crop of the thumbnail to the component. A thumbnail
that is taken from the main image must show no more than it: its crop is moved to the start of the
crop of the main image, and is cut where it is longer. Then it is given the aspect ratio of the
thumbnail, by cutting a side around the middle; the sides and the corner are rounded down to even
numbers. So the corner may leave the crop of the main image again, and the side that is cut may
become nothing.

The integers are exact, as an overflow is undefined, and so are the aspect ratios, which the source
compares as `double`.
-/

namespace MmJpeg

open Loop Qomx

/-! ## The thumbnail -/

/-- `cam_dimension_t`. -/
structure CamDimension where
  width : ℤ
  height : ℤ
  deriving DecidableEq, Repr

/-- `cam_rect_t`. -/
@[ext]
structure CamRect where
  left : ℤ
  top : ℤ
  width : ℤ
  height : ℤ
  deriving DecidableEq, Repr

/-- `mm_jpeg_dim_t`. -/
structure JpegDim where
  srcDim : CamDimension
  dstDim : CamDimension
  crop : CamRect
  deriving DecidableEq, Repr

/-- `cam_frame_len_offset_t`, as far as it is read: the length of the first two planes, and the
offsets of three. -/
structure FrameOffset where
  len0 : ℕ
  len1 : ℕ
  offset0 : ℕ
  offset1 : ℕ
  offset2 : ℕ
  deriving DecidableEq, Repr

/-- What a session has for its thumbnail; `tmbBuf` is the buffer of its job. -/
structure ThumbSession where
  encodeThumbnail : Bool
  thumbFromMain : Bool
  lib2dRotationFlag : Bool
  rotation : ℕ
  thumbRotation : ℕ
  thumbQuality : ℕ
  tmbBuf : FrameOffset
  mainDim : JpegDim
  thumbDim : JpegDim
  deriving DecidableEq, Repr

/-- `OMX_CONFIG_RECTTYPE`. -/
structure OmxRect where
  nLeft : ℤ
  nTop : ℤ
  nWidth : ℕ
  nHeight : ℕ
  deriving DecidableEq, Repr

structure YuvFrameInfo where
  cbcrStartOffset : ℕ × ℕ
  yOffset : ℕ
  cbcrOffset : ℕ × ℕ
  deriving DecidableEq, Repr

structure ThumbnailInfo where
  inputWidth : ℕ
  inputHeight : ℕ
  scalingEnabled : Bool
  quality : ℕ
  cropInfo : OmxRect
  outputWidth : ℕ
  outputHeight : ℕ
  tmbOffset : YuvFrameInfo
  rotation : ℕ
  deriving DecidableEq, Repr

/-- The component: what it returns for the index of its extension, and for a configuration. -/
structure ThumbComponent where
  getExtensionIndex : OmxError
  setConfig : ThumbnailInfo → OmxError

def omxU32 (x : ℤ) : ℕ := (x % 2 ^ 32).toNat

def CamRect.horizontal (r : CamRect) : Span := ⟨r.left, r.width⟩

def CamRect.vertical (r : CamRect) : Span := ⟨r.top, r.height⟩

def aspectTolerance : ℚ := 1 / 1000

def aspectRatio (width height : ℤ) : ℚ := width / height

/-! ## The configuration -/

/-- `mm_jpeg_update_thumbnail_crop`: the width is cut, or the height. -/
def updateThumbnailCrop (d : JpegDim) (cropWidth : Bool) : JpegDim :=
  let croppedWidth :=
    if cropWidth then evenDown ((d.crop.height * d.dstDim.width).tdiv d.dstDim.height)
    else d.crop.width
  let croppedHeight :=
    if cropWidth then d.crop.height
    else evenDown ((d.crop.width * d.dstDim.height).tdiv d.dstDim.width)
  { d with crop :=
      { left := evenDown (d.crop.left + (d.crop.width - croppedWidth).tdiv 2)
        top := evenDown (d.crop.top + (d.crop.height - croppedHeight).tdiv 2)
        width := croppedWidth
        height := croppedHeight } }

/-- The crop is given the aspect ratio of the thumbnail, if it has another. -/
def JpegDim.matchAspect (d : JpegDim) : JpegDim :=
  let thumbcropAspectRatio := aspectRatio d.crop.width d.crop.height
  let thumbdstAspectRatio := aspectRatio d.dstDim.width d.dstDim.height
  if aspectTolerance < thumbdstAspectRatio - thumbcropAspectRatio then updateThumbnailCrop d false
  else if aspectTolerance < thumbcropAspectRatio - thumbdstAspectRatio then
    updateThumbnailCrop d true
  else d

/-- A crop of no size is that of the whole source. -/
def JpegDim.defaultCrop (d : JpegDim) : JpegDim :=
  if d.crop.width = 0 ∨ d.crop.height = 0 then
    { d with crop := { d.crop with width := d.srcDim.width, height := d.srcDim.height } }
  else d

def JpegDim.CropOutside (d : JpegDim) : Prop :=
  d.srcDim.width < d.crop.width + d.crop.left ∨ d.srcDim.height < d.crop.height + d.crop.top

instance (d : JpegDim) : Decidable d.CropOutside := inferInstanceAs (Decidable (_ ∨ _))

/-- The two loops that fit the crop of a thumbnail into that of the main image, each run for at most
`fuel` rounds. -/
def fitCrop (fuel : ℕ) (main thumb : CamRect) : Option CamRect := do
  let left := if thumb.left < main.left then main.left else thumb.left
  let top := if thumb.top < main.top then main.top else thumb.top
  let h ← whileLoop (fun s => decide (main.horizontal.stop < s.stop)) main.horizontal.fitRound fuel
    ⟨left, thumb.width⟩
  let v ← whileLoop (fun s => decide (main.vertical.stop < s.stop)) main.vertical.fitRound fuel
    ⟨top, thumb.height⟩
  pure ⟨h.start, v.start, h.size, v.size⟩

/-- The output that is asked for, and its rotation. -/
def ThumbSession.output (s : ThumbSession) : ℤ × ℤ × ℕ :=
  let src := s.thumbDim.srcDim
  let dst := s.thumbDim.dstDim
  if s.thumbFromMain then
    if s.lib2dRotationFlag then (dst.width, dst.height, 0)
    else if (s.thumbRotation = 90 ∨ s.thumbRotation = 270) ∧
        (s.rotation = 0 ∨ s.rotation = 180) then
      (dst.height, dst.width, s.rotation)
    else (dst.width, dst.height, s.thumbRotation)
  else if src.width < dst.width ∨ src.height < dst.height then
    (src.width, src.height, s.thumbRotation)
  else (dst.width, dst.height, s.thumbRotation)

/-- `thumbnail_info`, once the crop has been worked out. -/
def ThumbSession.thumbnailInfo (s : ThumbSession) : ThumbnailInfo :=
  let d := s.thumbDim
  let (outputWidth, outputHeight, rotation) := s.output
  { inputWidth := omxU32 d.srcDim.width
    inputHeight := omxU32 d.srcDim.height
    scalingEnabled := true
    quality := s.thumbQuality
    cropInfo := ⟨d.crop.left, d.crop.top, omxU32 d.crop.width, omxU32 d.crop.height⟩
    outputWidth := omxU32 outputWidth
    outputHeight := omxU32 outputHeight
    tmbOffset :=
      if s.lib2dRotationFlag && s.thumbFromMain then ⟨(s.tmbBuf.len0, s.tmbBuf.len1), 0, (0, 0)⟩
      else
        ⟨(s.tmbBuf.len0, s.tmbBuf.len1), s.tmbBuf.offset0, (s.tmbBuf.offset1, s.tmbBuf.offset2)⟩
    rotation := rotation }

/-- `mm_jpeg_session_config_thumbnail`: what it returns, the session, and what the component is
configured with. -/
def sessionConfigThumbnail (omx : ThumbComponent) (fuel : ℕ) (s : ThumbSession) :
    Option (OmxError × ThumbSession × Option ThumbnailInfo) :=
  if !s.encodeThumbnail then some (.none, s, none)
  else if s.thumbDim.dstDim.width = 0 ∨ s.thumbDim.dstDim.height = 0 then
    some (.badParameter, s, none)
  else if s.thumbDim.srcDim.width = 0 ∨ s.thumbDim.srcDim.height = 0 then
    some (.badParameter, s, none)
  else
    let s := { s with thumbDim := s.thumbDim.defaultCrop }
    if s.thumbDim.CropOutside then some (.badParameter, s, none)
    else if omx.getExtensionIndex ≠ .none then some (omx.getExtensionIndex, s, none)
    else do
      let crop ←
        if s.thumbFromMain then fitCrop fuel s.mainDim.crop s.thumbDim.crop
        else some s.thumbDim.crop
      let s := { s with thumbDim := { s.thumbDim with crop := crop }.matchAspect }
      pure (omx.setConfig s.thumbnailInfo, s, some s.thumbnailInfo)

/-! ## Inside the main image -/

/-- The crop of the thumbnail is inside that of the main image, and is not empty. -/
structure CamRect.Shows (main thumb : CamRect) : Prop where
  horizontal : thumb.horizontal.Inside main.horizontal
  vertical : thumb.vertical.Inside main.vertical
  width : 0 < thumb.width
  height : 0 < thumb.height

/-- **A thumbnail that is taken from the main image**: it is encoded, the dimensions are positive (a
crop may have none, and is then the whole source), the crop of the main image is inside its source,
and the boundary check accepts that of the thumbnail. -/
structure ThumbSession.Taken (s : ThumbSession) : Prop where
  encode : s.encodeThumbnail = true
  fromMain : s.thumbFromMain = true
  dstWidth : 0 < s.thumbDim.dstDim.width
  dstHeight : 0 < s.thumbDim.dstDim.height
  srcWidth : 0 < s.thumbDim.srcDim.width
  srcHeight : 0 < s.thumbDim.srcDim.height
  cropWidth : 0 ≤ s.thumbDim.crop.width
  cropHeight : 0 ≤ s.thumbDim.crop.height
  mainWidth : 0 < s.mainDim.crop.width
  mainHeight : 0 < s.mainDim.crop.height
  mainHorizontal : s.mainDim.crop.horizontal.Inside ⟨0, s.mainDim.srcDim.width⟩
  mainVertical : s.mainDim.crop.vertical.Inside ⟨0, s.mainDim.srcDim.height⟩
  accepted : ¬s.thumbDim.defaultCrop.CropOutside

/-- The crop from left to right, fitted into that of the main image. -/
def ThumbSession.fitHorizontal (s : ThumbSession) : Span :=
  s.mainDim.crop.horizontal.fit s.thumbDim.defaultCrop.crop.horizontal

/-- The crop from top to bottom, fitted into that of the main image. -/
def ThumbSession.fitVertical (s : ThumbSession) : Span :=
  s.mainDim.crop.vertical.fit s.thumbDim.defaultCrop.crop.vertical

/-- A side is cut for the aspect ratio without harm: the fitted side `kept` gives the other, `cut`,
two or more by the ratio of `p` to `q`, and neither start is rounded out of the main image. -/
structure CutKept (mainKept mainCut kept cut : Span) (p q : ℤ) : Prop where
  size : 2 * p ≤ kept.size * q
  keptStart : ¬mainKept.Undercut kept kept.size
  cutStart : ¬mainCut.Undercut cut (evenDown ((kept.size * q).tdiv p))

/-- **The rounding does no harm**: neither to the height, which is cut if the thumbnail is wider
than the fitted crop, nor to the width, which is cut if it is narrower. -/
def ThumbSession.CropKept (s : ThumbSession) : Prop :=
  let dst := s.thumbDim.dstDim
  let main := s.mainDim.crop
  let h := s.fitHorizontal
  let v := s.fitVertical
  (aspectTolerance < aspectRatio dst.width dst.height - aspectRatio h.size v.size →
    CutKept main.horizontal main.vertical h v dst.width dst.height) ∧
  (aspectTolerance < aspectRatio h.size v.size - aspectRatio dst.width dst.height →
    CutKept main.vertical main.horizontal v h dst.height dst.width)

section Aspect

variable {a b p q : ℤ}

theorem mul_lt_of_aspect (hb : 0 < b) (hq : 0 < q)
    (h : aspectTolerance < aspectRatio p q - aspectRatio a b) : a * q < p * b := by
  have htol : (0 : ℚ) < aspectTolerance := by norm_num [aspectTolerance]
  have hlt : (a : ℚ) / b < (p : ℚ) / q := sub_pos.mp (htol.trans h)
  rw [div_lt_div_iff₀ (by exact_mod_cast hb) (by exact_mod_cast hq)] at hlt
  exact_mod_cast hlt

theorem evenDown_cut (ha : 0 < a) (hp : 0 < p) (hq : 0 < q) (h : a * q < p * b) :
    evenDown ((a * q).tdiv p) ≤ b ∧ (0 < evenDown ((a * q).tdiv p) ↔ 2 * p ≤ a * q) := by
  have hprod : 0 ≤ a * q := (mul_pos ha hq).le
  have hdiv : 0 ≤ a * q / p := Int.ediv_nonneg hprod hp.le
  have hlt : a * q / p < b := Int.ediv_lt_of_lt_mul hp (by rwa [mul_comm b p])
  rw [Int.tdiv_eq_ediv_of_nonneg hprod, evenDown_eq hdiv, ← Int.le_ediv_iff_mul_le hp]
  omega

end Aspect

section Fit

variable {main thumb : CamRect} {s s' : ThumbSession} {d : JpegDim}

/-- **The loops end**, with the crop fitted into that of the main image. -/
theorem fitCrop_eq (main thumb : CamRect) (n : ℕ) :
    fitCrop (n + 2) main thumb = some
      ⟨(main.horizontal.fit thumb.horizontal).start, (main.vertical.fit thumb.vertical).start,
        (main.horizontal.fit thumb.horizontal).size,
        (main.vertical.fit thumb.vertical).size⟩ := by
  have hmax : ∀ x y : ℤ, (if x < y then y else x) = max x y := by
    intro x y
    rw [max_def]
    split_ifs <;> omega
  have hleft := Span.fit_loop main.horizontal thumb.horizontal n
  have htop := Span.fit_loop main.vertical thumb.vertical n
  unfold fitCrop
  dsimp only
  rw [hmax, hmax]
  exact Option.bind_eq_some_iff.mpr ⟨_, hleft, Option.bind_eq_some_iff.mpr ⟨_, htop, rfl⟩⟩

theorem cut_inside_iff {mainKept mainCut kept cut : Span} {p q : ℤ} (hp : 0 < p) (hq : 0 < q)
    (hmain : 0 ≤ mainKept.start) (hmain' : 0 ≤ mainCut.start) (hkept : kept.Inside mainKept)
    (hcut : cut.Inside mainCut) (hsize : 0 < kept.size) (hless : kept.size * q < p * cut.size) :
    (kept.recentre kept.size).Inside mainKept ∧
      (cut.recentre (evenDown ((kept.size * q).tdiv p))).Inside mainCut ∧
      0 < evenDown ((kept.size * q).tdiv p) ↔ CutKept mainKept mainCut kept cut p q := by
  obtain ⟨hle, hpos⟩ := evenDown_cut hsize hp hq hless
  rw [Span.recentre_inside_iff hmain hkept le_rfl, Span.recentre_inside_iff hmain' hcut hle, hpos]
  exact ⟨fun ⟨h, h', h2⟩ => ⟨h2, h, h'⟩, fun ⟨h2, h, h'⟩ => ⟨h, h', h2⟩⟩

/-- **The crop, given the aspect ratio of the thumbnail**, from one that is inside. -/
theorem matchAspect_shows_iff (hw : 0 < d.dstDim.width) (hh : 0 < d.dstDim.height)
    (hleft : 0 ≤ main.left) (htop : 0 ≤ main.top) (h : main.Shows d.crop) :
    main.Shows d.matchAspect.crop ↔
      (aspectTolerance <
          aspectRatio d.dstDim.width d.dstDim.height - aspectRatio d.crop.width d.crop.height →
        CutKept main.horizontal main.vertical d.crop.horizontal d.crop.vertical d.dstDim.width
          d.dstDim.height) ∧
      (aspectTolerance <
          aspectRatio d.crop.width d.crop.height - aspectRatio d.dstDim.width d.dstDim.height →
        CutKept main.vertical main.horizontal d.crop.vertical d.crop.horizontal d.dstDim.height
          d.dstDim.width) := by
  have htol : (0 : ℚ) < aspectTolerance := by norm_num [aspectTolerance]
  have hnot : ∀ {x y : ℚ}, aspectTolerance < x - y → ¬aspectTolerance < y - x := fun hxy hyx =>
    lt_asymm (sub_pos.mp (htol.trans hxy)) (sub_pos.mp (htol.trans hyx))
  unfold JpegDim.matchAspect
  dsimp only
  split_ifs with hwider hnarrower
  · -- the height is cut
    have hcut := cut_inside_iff hw hh hleft htop h.horizontal h.vertical h.width
      (mul_lt_of_aspect h.height hh hwider)
    rw [and_iff_left fun hother => absurd hother (hnot hwider), forall_prop_of_true hwider, ← hcut]
    -- the crop that is cut is the two spans, recentred
    exact ⟨fun hs => ⟨hs.horizontal, hs.vertical, hs.height⟩,
      fun ⟨hi, hi', hpos⟩ => ⟨hi, hi', h.width, hpos⟩⟩
  · -- the width is cut
    have hless := mul_lt_of_aspect hh h.height hnarrower
    rw [mul_comm d.dstDim.width, mul_comm d.crop.width] at hless
    have hcut := cut_inside_iff hh hw htop hleft h.vertical h.horizontal h.height hless
    rw [and_iff_right fun hother => absurd hother hwider, forall_prop_of_true hnarrower, ← hcut]
    exact ⟨fun hs => ⟨hs.vertical, hs.horizontal, hs.width⟩,
      fun ⟨hi, hi', hpos⟩ => ⟨hi', hi, hpos, h.height⟩⟩
  · exact iff_of_true h ⟨fun hother => absurd hother hwider, fun hother => absurd hother hnarrower⟩

theorem defaultCrop_dims (d : JpegDim) :
    d.defaultCrop.srcDim = d.srcDim ∧ d.defaultCrop.dstDim = d.dstDim := by
  unfold JpegDim.defaultCrop
  split_ifs <;> exact ⟨rfl, rfl⟩

theorem ThumbSession.Taken.defaultCrop_pos (h : s.Taken) :
    0 < s.thumbDim.defaultCrop.crop.width ∧ 0 < s.thumbDim.defaultCrop.crop.height := by
  have hw := h.cropWidth
  have hh := h.cropHeight
  unfold JpegDim.defaultCrop
  split_ifs with hzero
  · exact ⟨h.srcWidth, h.srcHeight⟩
  · rw [not_or] at hzero
    exact ⟨by omega, by omega⟩

/-- The thumbnail as the loops leave it. -/
def ThumbSession.fitted (s : ThumbSession) : JpegDim :=
  { s.thumbDim.defaultCrop with crop :=
      ⟨s.fitHorizontal.start, s.fitVertical.start, s.fitHorizontal.size, s.fitVertical.size⟩ }

/-- **The thumbnail is configured** with its fitted crop, given the aspect ratio. -/
theorem sessionConfigThumbnail_eq {omx : ThumbComponent} (hext : omx.getExtensionIndex = .none)
    (h : s.Taken) (n : ℕ) :
    let t := { s with thumbDim := s.fitted.matchAspect }
    sessionConfigThumbnail omx (n + 2) s =
      some (omx.setConfig t.thumbnailInfo, t, some t.thumbnailInfo) := by
  obtain ⟨hsrc, hdst⟩ := defaultCrop_dims s.thumbDim
  have hdst0 : ¬(s.thumbDim.dstDim.width = 0 ∨ s.thumbDim.dstDim.height = 0) :=
    not_or.mpr ⟨h.dstWidth.ne', h.dstHeight.ne'⟩
  have hsrc0 : ¬(s.thumbDim.srcDim.width = 0 ∨ s.thumbDim.srcDim.height = 0) :=
    not_or.mpr ⟨h.srcWidth.ne', h.srcHeight.ne'⟩
  have hfit := fitCrop_eq s.mainDim.crop s.thumbDim.defaultCrop.crop n
  unfold sessionConfigThumbnail
  rw [if_neg (by simp [h.encode]), if_neg hdst0, if_neg hsrc0]
  dsimp only
  rw [if_neg h.accepted, if_neg (not_not.mpr hext), if_pos h.fromMain, hfit]
  rfl

/-- **The crop of a thumbnail that is taken from the main image** is inside the crop of the main
image, and not empty, just if the rounding does no harm; and the loops that fit it end. -/
theorem thumbnail_inside_iff {omx : ThumbComponent} (hext : omx.getExtensionIndex = .none)
    (h : s.Taken) (n : ℕ) :
    ∃ rc t info, sessionConfigThumbnail omx (n + 2) s = some (rc, t, some info) ∧
      t.mainDim = s.mainDim ∧ (s.mainDim.crop.Shows t.thumbDim.crop ↔ s.CropKept) := by
  refine ⟨_, _, _, sessionConfigThumbnail_eq hext h n, rfl, ?_⟩
  obtain ⟨hpos, hpos'⟩ := h.defaultCrop_pos
  have hdst : s.fitted.dstDim = s.thumbDim.dstDim := (defaultCrop_dims s.thumbDim).2
  have hfit : s.mainDim.crop.Shows s.fitted.crop :=
    ⟨Span.fit_inside _ _, Span.fit_inside _ _, Span.fit_size_pos h.mainWidth hpos,
      Span.fit_size_pos h.mainHeight hpos'⟩
  have hiff := matchAspect_shows_iff (hdst ▸ h.dstWidth) (hdst ▸ h.dstHeight)
    h.mainHorizontal.start h.mainVertical.start hfit
  rw [hdst] at hiff
  exact hiff

end Fit

def thumbComponent : ThumbComponent := ⟨.none, fun _ => .none⟩

/-- A thumbnail of a main image of 200 by 200, whose crop is that of the main image. -/
def ThumbSession.ofMain (crop : CamRect) (dst : CamDimension) : ThumbSession where
  encodeThumbnail := true
  thumbFromMain := true
  lib2dRotationFlag := false
  rotation := 0
  thumbRotation := 0
  thumbQuality := 75
  tmbBuf := ⟨40000, 20000, 0, 0, 0⟩
  mainDim := ⟨⟨200, 200⟩, ⟨200, 200⟩, crop⟩
  thumbDim := ⟨⟨200, 200⟩, dst, crop⟩

theorem ThumbSession.ofMain_taken {crop : CamRect} {dst : CamDimension}
    (hdst : 0 < dst.width ∧ 0 < dst.height) (hcrop : 0 < crop.width ∧ 0 < crop.height)
    (hmain : crop.horizontal.Inside ⟨0, 200⟩ ∧ crop.vertical.Inside ⟨0, 200⟩) :
    (ofMain crop dst).Taken := by
  have hdefault : (ofMain crop dst).thumbDim.defaultCrop = (ofMain crop dst).thumbDim :=
    if_neg (not_or.mpr ⟨hcrop.1.ne', hcrop.2.ne'⟩)
  have hin : ¬(ofMain crop dst).thumbDim.CropOutside := by
    have hstop := hmain.1.stop
    have hstop' := hmain.2.stop
    simp only [Span.stop, CamRect.horizontal, CamRect.vertical] at hstop hstop'
    simp only [JpegDim.CropOutside, ofMain]
    omega
  have hsrc : (0 : ℤ) < 200 := by decide
  refine ⟨rfl, rfl, hdst.1, hdst.2, hsrc, hsrc, hcrop.1.le, hcrop.2.le, hcrop.1, hcrop.2,
    hmain.1, hmain.2, ?_⟩
  rw [hdefault]
  exact hin

/-- The crop of the main image starts at the odd number 1, and that of the thumbnail at 0; and a
thumbnail as wide as it is high has no width left of a crop of one row. -/
theorem thumbnail_outside :
    (∃ rc t info, sessionConfigThumbnail thumbComponent 2
        (.ofMain ⟨1, 0, 100, 100⟩ ⟨100, 50⟩) = some (rc, t, some info) ∧
      t.thumbDim.crop = ⟨0, 24, 100, 50⟩ ∧ ¬CamRect.Shows ⟨1, 0, 100, 100⟩ t.thumbDim.crop) ∧
    (∃ rc t info, sessionConfigThumbnail thumbComponent 2
        (.ofMain ⟨0, 0, 10, 1⟩ ⟨100, 100⟩) = some (rc, t, some info) ∧
      t.thumbDim.crop = ⟨4, 0, 0, 1⟩ ∧ ¬CamRect.Shows ⟨0, 0, 10, 1⟩ t.thumbDim.crop) := by
  refine ⟨⟨_, _, _, rfl, by decide +kernel, ?_⟩, ⟨_, _, _, rfl, by decide +kernel, ?_⟩⟩
  · intro h
    exact absurd h.horizontal.start (by decide +kernel)
  · intro h
    exact absurd h.width (by decide +kernel)

/-- A crop from an even corner stays inside, and shows as much as the ratio lets it. -/
theorem thumbnail_inside_even :
    ∃ rc t info, sessionConfigThumbnail thumbComponent 2
        (.ofMain ⟨2, 0, 100, 100⟩ ⟨100, 50⟩) = some (rc, t, some info) ∧
      CamRect.Shows ⟨2, 0, 100, 100⟩ t.thumbDim.crop := by
  have htaken : (ThumbSession.ofMain ⟨2, 0, 100, 100⟩ ⟨100, 50⟩).Taken :=
    ThumbSession.ofMain_taken (by decide) (by decide)
      ⟨⟨by decide, by decide⟩, ⟨by decide, by decide⟩⟩
  have hext : thumbComponent.getExtensionIndex = .none := rfl
  obtain ⟨rc, t, info, hrun, -, hiff⟩ := thumbnail_inside_iff hext htaken 0
  refine ⟨rc, t, info, hrun, hiff.mpr ⟨fun _ => ⟨by decide +kernel, ?_, ?_⟩, fun h => ?_⟩⟩
  · rintro ⟨hodd, -, -⟩
    exact absurd hodd (by decide)
  · rintro ⟨hodd, -, -⟩
    exact absurd hodd (by decide)
  · exact absurd h (by decide +kernel)

end MmJpeg
