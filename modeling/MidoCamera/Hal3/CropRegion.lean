import MidoCamera.Library.Scaling
import MidoCamera.Library.Span

/-!
# Mapping between the sensor and the active array

The crop region mapper scales rectangles and points between the output of the sensor and the active
array. A rectangle is scaled in signed arithmetic, whose overflow is undefined, and then bound to the
other frame: what starts before the frame is moved to its border, and what ends after it is cut
short. What starts after the frame stays there, and is cut to a negative size. A point is scaled in
unsigned arithmetic, which wraps.
-/

namespace Hal3

open Loop Option

/-! ## The mapper -/

/-- `QCamera3CropRegionMapper`; the members are signed, and what `update` stores in them is not. -/
structure CropRegionMapper where
  sensorW : BitVec 32
  sensorH : BitVec 32
  activeArrayW : BitVec 32
  activeArrayH : BitVec 32
  deriving DecidableEq, Repr

/-- A rectangle by its corner and its size. -/
structure Rect where
  left : ℤ
  top : ℤ
  width : ℤ
  height : ℤ
  deriving DecidableEq, Repr

/-- The sizes that `update` takes. -/
structure ValidMode (activeArrayW activeArrayH sensorW sensorH : BitVec 32) : Prop where
  sensorW_ne : sensorW ≠ 0
  sensorH_ne : sensorH ≠ 0
  sensorW_le : sensorW ≤ activeArrayW
  sensorH_le : sensorH ≤ activeArrayH

namespace CropRegionMapper

def new : CropRegionMapper := ⟨0, 0, 0, 0⟩

def update (m : CropRegionMapper) (activeArrayW activeArrayH sensorW sensorH : BitVec 32) :
    CropRegionMapper :=
  if activeArrayW = 0 ∨ activeArrayH = 0 ∨ sensorW = 0 ∨ sensorH = 0 then m
  else if activeArrayW < sensorW ∨ activeArrayH < sensorH then m
  else
    { sensorW := sensorW
      sensorH := sensorH
      activeArrayW := activeArrayW
      activeArrayH := activeArrayH }

def Unset (m : CropRegionMapper) : Prop :=
  m.sensorW = 0 ∨ m.sensorH = 0 ∨ m.activeArrayW = 0 ∨ m.activeArrayH = 0

instance (m : CropRegionMapper) : Decidable m.Unset :=
  inferInstanceAs (Decidable (_ ∨ _ ∨ _ ∨ _))

end CropRegionMapper

/-! ## Rectangles -/

/-- A number that an `int32_t` holds. -/
def Int32 (z : ℤ) : Prop := -2 ^ 31 ≤ z ∧ z < 2 ^ 31

instance (z : ℤ) : Decidable (Int32 z) := inferInstanceAs (Decidable (_ ∧ _))

/-- The result of an operation on `int32_t`, whose overflow is undefined. -/
def int32 (z : ℤ) : Option ℤ := if Int32 z then some z else none

/-- `x * target / source`. -/
def scaleInt (x target source : ℤ) : Option ℤ := do
  let product ← int32 (x * target)
  int32 (product.tdiv source)

/-- The size of what is at `pos`, cut short at the bound. -/
def boundExtent (pos extent bound : ℤ) : Option ℤ := do
  let stop ← int32 (pos + extent)
  if bound < stop then int32 (bound - pos) else some extent

def boundToSize (r : Rect) (boundW boundH : ℤ) : Option Rect := do
  let left := if r.left < 0 then 0 else r.left
  let top := if r.top < 0 then 0 else r.top
  -- a corner that is after the bound stays there, and the size becomes negative
  let width ← boundExtent left r.width boundW
  let height ← boundExtent top r.height boundH
  return ⟨left, top, width, height⟩

/-- A rectangle of a frame of one size, in a frame of another. -/
def mapRect (sourceW sourceH targetW targetH : ℤ) (r : Rect) : Option Rect := do
  let left ← scaleInt r.left targetW sourceW
  let top ← scaleInt r.top targetH sourceH
  let width ← scaleInt r.width targetW sourceW
  let height ← scaleInt r.height targetH sourceH
  boundToSize ⟨left, top, width, height⟩ targetW targetH

namespace CropRegionMapper

variable (m : CropRegionMapper)

/-- `toActiveArray` of a rectangle. -/
def rectToActiveArray (r : Rect) : Option Rect :=
  if m.Unset then some r
  else mapRect m.sensorW.toInt m.sensorH.toInt m.activeArrayW.toInt m.activeArrayH.toInt r

/-- `toSensor` of a rectangle. -/
def rectToSensor (r : Rect) : Option Rect :=
  if m.Unset then some r
  else mapRect m.activeArrayW.toInt m.activeArrayH.toInt m.sensorW.toInt m.sensorH.toInt r

/-! ## Points -/

/-- `toActiveArray` of a point. -/
def pointToActiveArray (x y : BitVec 32) : BitVec 32 × BitVec 32 :=
  if m.Unset then (x, y)
  else if m.sensorW < x ∨ m.sensorH < y then (x, y)
  else (x * m.activeArrayW / m.sensorW, y * m.activeArrayH / m.sensorH)

/-- `toSensor` of a point. -/
def pointToSensor (x y : BitVec 32) : BitVec 32 × BitVec 32 :=
  if m.Unset then (x, y)
  else if m.activeArrayW < x ∨ m.activeArrayH < y then (x, y)
  else (x * m.sensorW / m.activeArrayW, y * m.sensorH / m.activeArrayH)

end CropRegionMapper

/-! ## Rectangles in a frame -/

namespace Rect

def horizontal (r : Rect) : Span := ⟨r.left, r.width⟩

def vertical (r : Rect) : Span := ⟨r.top, r.height⟩

end Rect

/-- The span is one of a frame of a size. -/
structure InFrame (s : Span) (size : ℤ) : Prop where
  size_nonneg : 0 ≤ s.size
  inside : s.Inside ⟨0, size⟩

/-- **The rectangle is mapped into the frame**: the mapping is defined, and what it gives is a
rectangle of the frame. -/
def MapsInto (result : Option Rect) (frameW frameH : ℤ) : Prop :=
  ∃ r, result = some r ∧ InFrame r.horizontal frameW ∧ InFrame r.vertical frameH

/-- What `mapRect` does along one axis. -/
def mapAxis (source target : ℤ) (s : Span) : Option Span := do
  let start ← scaleInt s.start target source
  let size ← scaleInt s.size target source
  let start := if start < 0 then 0 else start
  let size ← boundExtent start size target
  return ⟨start, size⟩

/-- **The condition along one axis**: the products fit, the start is scaled to one that is not after
the frame, and the size to one that is not negative and whose end fits. -/
structure AxisFits (source target : ℤ) (s : Span) : Prop where
  start_product : Int32 (s.start * target)
  size_product : Int32 (s.size * target)
  frame : 0 ≤ target
  start : (s.start * target).tdiv source ≤ target
  size : 0 ≤ (s.size * target).tdiv source
  stop : max 0 ((s.start * target).tdiv source) + (s.size * target).tdiv source < 2 ^ 31

/-- The condition along both axes. -/
structure RectFits (sourceW sourceH targetW targetH : ℤ) (r : Rect) : Prop where
  horizontal : AxisFits sourceW targetW r.horizontal
  vertical : AxisFits sourceH targetH r.vertical

variable {sourceW sourceH targetW targetH source target x y z pos extent : ℤ} {r r' : Rect}
  {s s' : Span}

/-- The condition for sizes that are positive: a start that is not after the frame is one whose
product is below that of the next column. -/
theorem axisFits_iff (hsource : 0 < source) (htarget : 0 ≤ target) (hsize : 0 ≤ s.size) :
    AxisFits source target s ↔ Int32 (s.start * target) ∧ s.size * target < 2 ^ 31 ∧
      s.start * target < (target + 1) * source ∧
      max 0 ((s.start * target).tdiv source) + (s.size * target).tdiv source < 2 ^ 31 := by
  have hproduct : 0 ≤ s.size * target := Int.mul_nonneg hsize htarget
  constructor
  · intro h
    exact ⟨h.start_product, h.size_product.2, (tdiv_le_iff hsource htarget).mp h.start, h.stop⟩
  · rintro ⟨hstart, hextent, hlt, hstop⟩
    exact {
      start_product := hstart
      size_product := ⟨by omega, hextent⟩
      frame := htarget
      start := (tdiv_le_iff hsource htarget).mpr hlt
      size := Int.tdiv_nonneg hproduct hsource.le
      stop := hstop }

/-! ## The mapping along an axis -/

@[simp]
theorem int32_eq_some : int32 x = some y ↔ Int32 x ∧ x = y := by
  simp [int32]

theorem scaleInt_eq_some :
    scaleInt x target source = some y ↔
      Int32 (x * target) ∧ Int32 ((x * target).tdiv source) ∧ (x * target).tdiv source = y := by
  unfold scaleInt
  simp only [bind_eq_bind, bind_eq_some_iff, int32_eq_some]
  constructor
  · rintro ⟨_, ⟨hx, rfl⟩, hq⟩
    exact ⟨hx, hq⟩
  · rintro ⟨hx, hq⟩
    exact ⟨_, ⟨hx, rfl⟩, hq⟩

theorem boundExtent_eq_some {bound : ℤ} :
    boundExtent pos extent bound = some y ↔ Int32 (pos + extent) ∧
      (bound < pos + extent ∧ Int32 (bound - pos) ∧ bound - pos = y ∨
        pos + extent ≤ bound ∧ extent = y) := by
  unfold boundExtent
  simp only [bind_eq_bind, bind_eq_some_iff, int32_eq_some]
  constructor
  · rintro ⟨_, ⟨hstop, rfl⟩, hy⟩
    refine ⟨hstop, ?_⟩
    split_ifs at hy with hlt
    · exact .inl ⟨hlt, int32_eq_some.mp hy⟩
    · exact .inr ⟨not_lt.mp hlt, some_inj.mp hy⟩
  · rintro ⟨hstop, ⟨hlt, hy⟩ | ⟨hle, hy⟩⟩
    · exact ⟨_, ⟨hstop, rfl⟩, by rw [if_pos hlt]; exact int32_eq_some.mpr hy⟩
    · exact ⟨_, ⟨hstop, rfl⟩, by rw [if_neg (not_lt.mpr hle), hy]⟩

theorem clip_eq_max (start : ℤ) : (if start < 0 then 0 else start) = max 0 start := by
  split_ifs <;> omega

theorem mapAxis_eq_some :
    mapAxis source target s = some s' ↔ ∃ start size,
      scaleInt s.start target source = some start ∧ scaleInt s.size target source = some size ∧
        s'.start = max 0 start ∧ boundExtent s'.start size target = some s'.size := by
  unfold mapAxis
  simp only [bind_eq_bind, bind_eq_some_iff, pure_def, some_inj,
    clip_eq_max]
  constructor
  · rintro ⟨start, hstart, size, hsize, extent, hextent, rfl⟩
    exact ⟨start, size, hstart, hsize, rfl, hextent⟩
  · rintro ⟨start, size, hstart, hsize, hbegin, hextent⟩
    exact ⟨start, hstart, size, hsize, s'.size, hbegin ▸ hextent, Span.ext hbegin.symm rfl⟩

theorem mapRect_eq_some :
    mapRect sourceW sourceH targetW targetH r = some r' ↔
      mapAxis sourceW targetW r.horizontal = some r'.horizontal ∧
        mapAxis sourceH targetH r.vertical = some r'.vertical := by
  rw [mapAxis_eq_some, mapAxis_eq_some]
  unfold mapRect boundToSize Rect.horizontal Rect.vertical
  simp only [bind_eq_bind, bind_eq_some_iff, pure_def, some_inj,
    clip_eq_max]
  constructor
  · rintro ⟨left, hleft, top, htop, width, hwidth, height, hheight, w, hw, h, hh, rfl⟩
    exact ⟨⟨left, width, hleft, hwidth, rfl, hw⟩, ⟨top, height, htop, hheight, rfl, hh⟩⟩
  · rintro ⟨⟨left, width, hleft, hwidth, hl, hw⟩, ⟨top, height, htop, hheight, ht, hh⟩⟩
    refine ⟨left, hleft, top, htop, width, hwidth, height, hheight, r'.width, hl ▸ hw, r'.height,
      ht ▸ hh, ?_⟩
    rw [← hl, ← ht]

/-- **The span is mapped into the frame exactly under the condition.** -/
theorem mapAxis_inFrame_iff (htarget : Int32 target) :
    (∃ s', mapAxis source target s = some s' ∧ InFrame s' target) ↔ AxisFits source target s := by
  constructor
  · rintro ⟨s', hmap, hframe⟩
    obtain ⟨start, size, hstart, hsize, hbegin, hextent⟩ := mapAxis_eq_some.mp hmap
    obtain ⟨hstartProduct, -, rfl⟩ := scaleInt_eq_some.mp hstart
    obtain ⟨hsizeProduct, -, rfl⟩ := scaleInt_eq_some.mp hsize
    obtain ⟨hstop, hcut⟩ := boundExtent_eq_some.mp hextent
    have hnonneg := hframe.size_nonneg
    have hend := hframe.inside.stop
    simp only [Span.stop, zero_add] at hend
    rw [hbegin] at hstop hcut hend
    have hstopLt := hstop.2
    -- the start is in the frame, whether the size was cut or not: a size that was cut is what is
    -- left of the frame, and one that was not ends in it
    refine ⟨hstartProduct, hsizeProduct, ?_, ?_, ?_, hstopLt⟩ <;>
      obtain ⟨hlt, -, heq⟩ | ⟨hle, heq⟩ := hcut <;> omega
  · intro h
    have hstartScaled := natAbs_tdiv_le_of_le (d := source) (b := 2 ^ 31)
      (show (s.start * target).natAbs ≤ 2 ^ 31 by obtain ⟨hlow, hhigh⟩ := h.start_product; omega)
    obtain ⟨-, hbound⟩ := htarget
    have hframe := h.frame
    have hstart := h.start
    have hsize := h.size
    have hstop := h.stop
    have hscaledStart : scaleInt s.start target source = some ((s.start * target).tdiv source) :=
      scaleInt_eq_some.mpr ⟨h.start_product, ⟨by omega, by omega⟩, rfl⟩
    have hscaledSize : scaleInt s.size target source = some ((s.size * target).tdiv source) :=
      scaleInt_eq_some.mpr ⟨h.size_product, ⟨by omega, by omega⟩, rfl⟩
    generalize (s.start * target).tdiv source = start at *
    generalize (s.size * target).tdiv source = size at *
    -- the size is cut if the end is after the frame
    have hextent : boundExtent (max 0 start) size target =
        some (min size (target - max 0 start)) := by
      refine boundExtent_eq_some.mpr ⟨⟨by omega, hstop⟩, ?_⟩
      rcases lt_or_ge target (max 0 start + size) with hlt | hle
      · exact .inl ⟨hlt, ⟨by omega, by omega⟩, by omega⟩
      · exact .inr ⟨hle, by omega⟩
    refine ⟨⟨max 0 start, min size (target - max 0 start)⟩,
      mapAxis_eq_some.mpr ⟨start, size, hscaledStart, hscaledSize, rfl, hextent⟩, ?_, ?_, ?_⟩
    · dsimp only
      omega
    · exact le_max_left ..
    · simp only [Span.stop]
      omega

theorem mapRect_inFrame_iff (hW : Int32 targetW) (hH : Int32 targetH) :
    MapsInto (mapRect sourceW sourceH targetW targetH r) targetW targetH ↔
      RectFits sourceW sourceH targetW targetH r := by
  constructor
  · rintro ⟨r', hmap, hhorizontal, hvertical⟩
    obtain ⟨hx, hy⟩ := mapRect_eq_some.mp hmap
    exact ⟨(mapAxis_inFrame_iff hW).mp ⟨_, hx, hhorizontal⟩,
      (mapAxis_inFrame_iff hH).mp ⟨_, hy, hvertical⟩⟩
  · intro h
    obtain ⟨x, hx, hhorizontal⟩ := (mapAxis_inFrame_iff hW).mpr h.horizontal
    obtain ⟨y, hy, hvertical⟩ := (mapAxis_inFrame_iff hH).mpr h.vertical
    exact ⟨⟨x.start, y.start, x.size, y.size⟩, mapRect_eq_some.mpr ⟨hx, hy⟩, hhorizontal, hvertical⟩

theorem int32_toInt (x : BitVec 32) : Int32 x.toInt := ⟨BitVec.le_toInt x, BitVec.toInt_lt⟩

namespace CropRegionMapper

variable {m : CropRegionMapper} {activeArrayW activeArrayH sensorW sensorH : BitVec 32}

theorem update_of_valid (h : ValidMode activeArrayW activeArrayH sensorW sensorH) :
    m.update activeArrayW activeArrayH sensorW sensorH =
      ⟨sensorW, sensorH, activeArrayW, activeArrayH⟩ := by
  have hw := h.sensorW_ne
  have hh := h.sensorH_ne
  have hwle := h.sensorW_le
  have hhle := h.sensorH_le
  unfold update
  rw [if_neg (by bv_omega), if_neg (by bv_omega)]

theorem update_set (h : ValidMode activeArrayW activeArrayH sensorW sensorH) :
    ¬(m.update activeArrayW activeArrayH sensorW sensorH).Unset := by
  have hw := h.sensorW_ne
  have hh := h.sensorH_ne
  have hwle := h.sensorW_le
  have hhle := h.sensorH_le
  rw [update_of_valid h]
  unfold Unset
  bv_omega

theorem validMode_half : ValidMode 4000 3000 2000 1500 :=
  ⟨by decide, by decide, by decide, by decide⟩

/-! ## Rectangles of a sensor mode -/

/-- **A rectangle beyond the frame** is cut to a negative size. -/
theorem rect_beyond :
    ValidMode 4000 3000 2000 1500 ∧
      (new.update 4000 3000 2000 1500).rectToSensor ⟨5000, 0, 100, 100⟩ =
        some ⟨2500, 0, -500, 50⟩ ∧
      ¬MapsInto ((new.update 4000 3000 2000 1500).rectToSensor ⟨5000, 0, 100, 100⟩) 2000 1500 := by
  have hmap : (new.update 4000 3000 2000 1500).rectToSensor ⟨5000, 0, 100, 100⟩ =
      some ⟨2500, 0, -500, 50⟩ := by decide
  refine ⟨validMode_half, hmap, ?_⟩
  rintro ⟨r, hr, hhorizontal, -⟩
  obtain rfl := some_inj.mp (hmap.symm.trans hr)
  exact absurd hhorizontal.size_nonneg (by decide)

/-- **A rectangle is mapped into the frame exactly under the condition**, in either direction. -/
theorem rect_inFrame_iff (m : CropRegionMapper)
    (h : ValidMode activeArrayW activeArrayH sensorW sensorH) (r : Rect) :
    (MapsInto ((m.update activeArrayW activeArrayH sensorW sensorH).rectToActiveArray r)
        activeArrayW.toInt activeArrayH.toInt ↔
      RectFits sensorW.toInt sensorH.toInt activeArrayW.toInt activeArrayH.toInt r) ∧
    (MapsInto ((m.update activeArrayW activeArrayH sensorW sensorH).rectToSensor r)
        sensorW.toInt sensorH.toInt ↔
      RectFits activeArrayW.toInt activeArrayH.toInt sensorW.toInt sensorH.toInt r) := by
  have hset := update_set (m := m) h
  unfold rectToActiveArray rectToSensor
  rw [if_neg hset, if_neg hset, update_of_valid h]
  exact ⟨mapRect_inFrame_iff (int32_toInt _) (int32_toInt _),
    mapRect_inFrame_iff (int32_toInt _) (int32_toInt _)⟩

/-- A rectangle that starts before the active array is mapped into the sensor. -/
theorem rect_inFrame_before :
    MapsInto ((new.update 4000 3000 2000 1500).rectToSensor ⟨-100, 0, 8400, 300⟩)
      (2000 : BitVec 32).toInt (1500 : BitVec 32).toInt :=
  (rect_inFrame_iff new validMode_half _).2.mpr
    { horizontal := (axisFits_iff (by decide) (by decide) (by decide)).mpr (by decide)
      vertical := (axisFits_iff (by decide) (by decide) (by decide)).mpr (by decide) }

/-! ## Points of a sensor mode -/

/-- **Points are mapped as they are to be**: there and back loses at most one in each coordinate,
both ways keep the order and the frame, and no product wraps. -/
structure PointsFaithful (m : CropRegionMapper) : Prop where
  there_and_back : ∀ x y, x ≤ m.sensorW → y ≤ m.sensorH →
    let p := m.pointToActiveArray x y
    let q := m.pointToSensor p.1 p.2
    (q.1 = x ∨ q.1.toNat + 1 = x.toNat) ∧ (q.2 = y ∨ q.2.toNat + 1 = y.toNat)
  toActiveArray_mono : ∀ x y x' y', x ≤ x' → y ≤ y' → x' ≤ m.sensorW → y' ≤ m.sensorH →
    (m.pointToActiveArray x y).1 ≤ (m.pointToActiveArray x' y').1 ∧
      (m.pointToActiveArray x y).2 ≤ (m.pointToActiveArray x' y').2
  toSensor_mono : ∀ x y x' y', x ≤ x' → y ≤ y' → x' ≤ m.activeArrayW → y' ≤ m.activeArrayH →
    (m.pointToSensor x y).1 ≤ (m.pointToSensor x' y').1 ∧
      (m.pointToSensor x y).2 ≤ (m.pointToSensor x' y').2
  toActiveArray_le : ∀ x y, x ≤ m.sensorW → y ≤ m.sensorH →
    (m.pointToActiveArray x y).1 ≤ m.activeArrayW ∧ (m.pointToActiveArray x y).2 ≤ m.activeArrayH
  toSensor_le : ∀ x y, x ≤ m.activeArrayW → y ≤ m.activeArrayH →
    (m.pointToSensor x y).1 ≤ m.sensorW ∧ (m.pointToSensor x y).2 ≤ m.sensorH
  toActiveArray_product : ∀ x y, x ≤ m.sensorW → y ≤ m.sensorH →
    x.toNat * m.activeArrayW.toNat < 2 ^ 32 ∧ y.toNat * m.activeArrayH.toNat < 2 ^ 32
  toSensor_product : ∀ x y, x ≤ m.activeArrayW → y ≤ m.activeArrayH →
    x.toNat * m.sensorW.toNat < 2 ^ 32 ∧ y.toNat * m.sensorH.toNat < 2 ^ 32

/-- **A point that is lost**: the product wraps, and the corner is mapped to the origin. -/
theorem point_wraps :
    ValidMode 65536 65536 65536 65536 ∧
      (new.update 65536 65536 65536 65536).pointToActiveArray 65536 65536 = (0, 0) ∧
      ¬PointsFaithful (new.update 65536 65536 65536 65536) := by
  refine ⟨⟨by decide, by decide, by decide, by decide⟩, by decide, fun h => ?_⟩
  exact absurd (h.there_and_back 65536 65536 (by decide) (by decide)) (by decide)

variable {target source x y : BitVec 32}

theorem product_lt (hx : x ≤ source) (hfit : source.toNat * target.toNat < 2 ^ 32) :
    x.toNat * target.toNat < 2 ^ 32 :=
  (Nat.mul_le_mul_right _ (BitVec.le_def.mp hx)).trans_lt hfit

theorem toNat_scaled (hx : x ≤ source) (hfit : source.toNat * target.toNat < 2 ^ 32) :
    (x * target / source).toNat = scale x.toNat source.toNat target.toNat := by
  rw [BitVec.toNat_udiv, BitVec.toNat_mul, Nat.mod_eq_of_lt (product_lt hx hfit)]
  rfl

theorem scaled_mono (h : x ≤ y) (hy : y ≤ source) (hfit : source.toNat * target.toNat < 2 ^ 32) :
    x * target / source ≤ y * target / source := by
  rw [BitVec.le_def, toNat_scaled (BitVec.le_trans h hy) hfit, toNat_scaled hy hfit]
  exact scale_mono (BitVec.le_def.mp h)

theorem scaled_le (hx : x ≤ source) (hfit : source.toNat * target.toNat < 2 ^ 32) :
    x * target / source ≤ target := by
  rw [BitVec.le_def, toNat_scaled hx hfit]
  exact scale_le (BitVec.le_def.mp hx)

theorem scaled_scaled (hsource : source ≠ 0) (hle : source ≤ target) (hx : x ≤ source)
    (hfit : source.toNat * target.toNat < 2 ^ 32) :
    x * target / source * source / target = x ∨
      (x * target / source * source / target).toNat + 1 = x.toNat := by
  have hthere : (x * target / source).toNat = _ := toNat_scaled hx hfit
  have hback := toNat_scaled (scaled_le hx hfit) (by rwa [Nat.mul_comm])
  have hpos : 0 < source.toNat := by bv_omega
  have hupper := scale_scale_le x.toNat source.toNat target.toNat
  have hlower := le_scale_scale_add_one (x := x.toNat) hpos (BitVec.le_def.mp hle)
  rw [← hthere] at hupper hlower
  rw [← hback] at hupper hlower
  rw [← BitVec.toNat_inj]
  omega

theorem sizes_fit {a b : BitVec 32} (ha : a.toNat < 2 ^ 15) (hb : b.toNat < 2 ^ 15) :
    a.toNat * b.toNat < 2 ^ 32 :=
  (Nat.mul_lt_mul'' ha hb).trans (by decide)

section Mode

variable {m : CropRegionMapper}

theorem pointToActiveArray_of_le (hm : ¬m.Unset) (hx : x ≤ m.sensorW) (hy : y ≤ m.sensorH) :
    m.pointToActiveArray x y =
      (x * m.activeArrayW / m.sensorW, y * m.activeArrayH / m.sensorH) := by
  unfold pointToActiveArray
  rw [if_neg hm, if_neg (by simp [hx, hy])]

theorem pointToSensor_of_le (hm : ¬m.Unset) (hx : x ≤ m.activeArrayW) (hy : y ≤ m.activeArrayH) :
    m.pointToSensor x y =
      (x * m.sensorW / m.activeArrayW, y * m.sensorH / m.activeArrayH) := by
  unfold pointToSensor
  rw [if_neg hm, if_neg (by simp [hx, hy])]

end Mode

/-- **Points are mapped as they are to be**, if the product of the sizes fits along each axis. -/
theorem points_faithful (m : CropRegionMapper)
    (h : ValidMode activeArrayW activeArrayH sensorW sensorH)
    (hW : sensorW.toNat * activeArrayW.toNat < 2 ^ 32)
    (hH : sensorH.toNat * activeArrayH.toNat < 2 ^ 32) :
    PointsFaithful (m.update activeArrayW activeArrayH sensorW sensorH) := by
  have hset := update_set (m := m) h
  rw [update_of_valid h] at hset ⊢
  -- the product of the sizes is the same one in both directions
  have hW' : activeArrayW.toNat * sensorW.toNat < 2 ^ 32 := by rwa [Nat.mul_comm]
  have hH' : activeArrayH.toNat * sensorH.toNat < 2 ^ 32 := by rwa [Nat.mul_comm]
  constructor
  case there_and_back =>
    intro x y hx hy
    rw [pointToActiveArray_of_le hset hx hy]
    dsimp only
    rw [pointToSensor_of_le hset (scaled_le hx hW) (scaled_le hy hH)]
    exact ⟨scaled_scaled h.sensorW_ne h.sensorW_le hx hW,
      scaled_scaled h.sensorH_ne h.sensorH_le hy hH⟩
  case toActiveArray_mono =>
    intro x y x' y' hx hy hx' hy'
    rw [pointToActiveArray_of_le hset (BitVec.le_trans hx hx') (BitVec.le_trans hy hy'),
      pointToActiveArray_of_le hset hx' hy']
    exact ⟨scaled_mono hx hx' hW, scaled_mono hy hy' hH⟩
  case toSensor_mono =>
    intro x y x' y' hx hy hx' hy'
    rw [pointToSensor_of_le hset (BitVec.le_trans hx hx') (BitVec.le_trans hy hy'),
      pointToSensor_of_le hset hx' hy']
    exact ⟨scaled_mono hx hx' hW', scaled_mono hy hy' hH'⟩
  case toActiveArray_le =>
    intro x y hx hy
    rw [pointToActiveArray_of_le hset hx hy]
    exact ⟨scaled_le hx hW, scaled_le hy hH⟩
  case toSensor_le =>
    intro x y hx hy
    rw [pointToSensor_of_le hset hx hy]
    exact ⟨scaled_le hx hW', scaled_le hy hH'⟩
  case toActiveArray_product =>
    exact fun x y hx hy => ⟨product_lt hx hW, product_lt hy hH⟩
  case toSensor_product =>
    exact fun x y hx hy => ⟨product_lt hx hW', product_lt hy hH'⟩

/-- The points of a sensor of half the size. -/
theorem points_faithful_half : PointsFaithful (new.update 4000 3000 2000 1500) :=
  points_faithful new validMode_half
    (sizes_fit (by decide) (by decide)) (sizes_fit (by decide) (by decide))

end CropRegionMapper

end Hal3
