import MidoCamera.Library.Raster
import Mathlib.Data.Int.Bitwise
import Mathlib.Tactic.Linarith

/-!
# RAW16 conversion

A raw frame comes with 10 bits for a pixel and is handed out with 16. It is converted in its own
buffer, from the last pixel to the first, since the rows get longer. There are two packings: six
pixels in a 64-bit word, and four pixels in five bytes, of which the last has the two low bits of
each.

The six of a word are safe. The last of five bytes is read for each of its four pixels, and in the
first group of a row that moves by at most two bytes it is overwritten before. And the two low bits
are looked for one bit further for each pixel, where they are two bits further.
-/

namespace Raw16

open Loop List Nat Option

variable {val : ℕ → ℕ → ℕ}

/-! ## The conversions -/

/-- `cam_dimension_t`. -/
structure CamDimension where
  width : ℤ
  height : ℤ
  deriving DecidableEq, Repr

/-- The buffer of a frame, whose length is a `uint32_t`. -/
structure Frame where
  buffer : List UInt8
  length_lt : buffer.length < 2 ^ 32

/-- A number as a `uint32_t`. -/
def uint32 (z : ℤ) : ℕ := (z % 2 ^ 32).toNat

/-- `raw16_stride`: the four low bits are cleared. -/
def raw16Stride (dim : CamDimension) : ℕ := (uint32 dim.width + 15) % 2 ^ 32 / 16 * 16

/-- `y * raw16_stride + x`. -/
def raw16Index (dim : CamDimension) (y x : ℕ) : ℕ := (y * raw16Stride dim + x) % 2 ^ 32

/-- A pixel of `convertLegacyToRaw16`: `row_start` is of 64-bit words. -/
def readLegacy (strideInBytes : ℤ) (y x : ℕ) (buf : List UInt8) : Option ℕ :=
  let rowStart := y * uint32 strideInBytes % 2 ^ 32 / 8
  (loadElem .little 8 buf (rowStart + x / 6)).map fun word => 0x3FF &&& word >>> (10 * (x % 6))

/-- A pixel of `convertMipiToRaw16`. -/
def readMipi (strideInBytes : ℤ) (y x : ℕ) (buf : List UInt8) : Option ℕ := do
  let rowStart := y * uint32 strideInBytes % 2 ^ 32
  let upper8bit ← buf[rowStart + (5 * (x / 4) + x % 4)]?
  let group ← buf[rowStart + (5 * (x / 4) + 4)]?
  let lower2bit := group.toNat >>> (x % 4) &&& 0x3
  some (upper8bit.toNat <<< 2 ||| lower2bit)

def convertLegacyToRaw16 (dim : CamDimension) (strideInBytes : ℤ) (buf : List UInt8) :
    Option (List UInt8) :=
  rasterBack .little 2 dim.width.toNat dim.height.toNat (raw16Index dim) (readLegacy strideInBytes) buf

def convertMipiToRaw16 (dim : CamDimension) (strideInBytes : ℤ) (buf : List UInt8) :
    Option (List UInt8) :=
  rasterBack .little 2 dim.width.toNat dim.height.toNat (raw16Index dim) (readMipi strideInBytes) buf

def align16 (width : ℕ) : ℕ := (width + 15) / 16 * 16

/-- A row of bytes fits into the stride, a stride into a row of 16-bit words, and these into the
buffer. -/
structure Fits (dim : CamDimension) (rowBytes : ℕ) (strideInBytes : ℤ) (buf : List UInt8) : Prop where
  row : rowBytes ≤ strideInBytes
  stride : strideInBytes ≤ 2 * align16 dim.width.toNat
  room : 2 * align16 dim.width.toNat * dim.height.toNat ≤ buf.length

def byteAt (buf : List UInt8) (p : ℕ) : ℕ := (buf[p]?.getD 0).toNat

/-- The word `x / 6` of a row, of 64 bits. -/
def wordAt (strideInBytes : ℕ) (buf : List UInt8) (y x : ℕ) : ℕ :=
  ofLowBytes ((load buf (y * strideInBytes + 8 * (x / 6)) 8).getD [])

/-- **The pixel that words encode**: bits `10 * (x % 6)` to `10 * (x % 6) + 9` of the word. -/
def legacyPixel (strideInBytes : ℕ) (buf : List UInt8) (y x : ℕ) : ℕ :=
  wordAt strideInBytes buf y x / 2 ^ (10 * (x % 6)) % 2 ^ 10

def mipiHigh (strideInBytes : ℕ) (buf : List UInt8) (y x : ℕ) : ℕ :=
  byteAt buf (y * strideInBytes + (5 * (x / 4) + x % 4))

def mipiFifth (strideInBytes : ℕ) (buf : List UInt8) (y x : ℕ) : ℕ :=
  byteAt buf (y * strideInBytes + (5 * (x / 4) + 4))

/-- **The pixel that a MIPI group encodes**: the fifth byte has the two low bits of its first pixel
lowest. -/
def mipiPixel (strideInBytes : ℕ) (buf : List UInt8) (y x : ℕ) : ℕ :=
  4 * mipiHigh strideInBytes buf y x + mipiFifth strideInBytes buf y x / 2 ^ (2 * (x % 4)) % 4

variable {dim : CamDimension} {rowBytes : ℕ} {strideInBytes : ℤ} {frame : Frame} {buf : List UInt8}
  {y x y' x' : ℕ}

theorem Fits.bounds (h : Fits dim rowBytes strideInBytes frame.buffer) (hy : y < dim.height.toNat)
    (hx : x < dim.width.toNat) :
    uint32 strideInBytes = strideInBytes.toNat ∧ (strideInBytes.toNat : ℤ) = strideInBytes ∧
      raw16Stride dim = align16 dim.width.toNat ∧ dim.width.toNat ≤ align16 dim.width.toNat ∧
      y * strideInBytes.toNat ≤ y * (2 * align16 dim.width.toNat) ∧
      y * (2 * align16 dim.width.toNat) + 2 * align16 dim.width.toNat ≤ frame.buffer.length := by
  have hstride := h.stride
  have hrow := h.row
  have hroom : y * (2 * align16 dim.width.toNat) + 2 * align16 dim.width.toNat ≤
      frame.buffer.length := by
    calc y * (2 * align16 dim.width.toNat) + 2 * align16 dim.width.toNat
        = (2 * align16 dim.width.toNat) * (y + 1) := by ring
      _ ≤ (2 * align16 dim.width.toNat) * dim.height.toNat := Nat.mul_le_mul_left _ hy
      _ ≤ frame.buffer.length := h.room
  have hlt := frame.length_lt
  have hwidth : dim.width.toNat ≤ align16 dim.width.toNat := by
    unfold align16
    omega
  refine ⟨?_, by omega, ?_, hwidth, Nat.mul_le_mul_left y (by omega), hroom⟩
  · unfold uint32
    omega
  · unfold raw16Stride uint32
    unfold align16 at *
    omega

theorem Fits.index (h : Fits dim rowBytes strideInBytes frame.buffer) (hy : y < dim.height.toNat)
    (hx : x < dim.width.toNat) : raw16Index dim y x = y * align16 dim.width.toNat + x := by
  obtain ⟨-, -, hraw, hwidth, -, hroom⟩ := h.bounds hy hx
  have hlt := frame.length_lt
  have hdouble : y * (2 * align16 dim.width.toNat) = 2 * (y * align16 dim.width.toNat) := by ring
  unfold raw16Index
  rw [hraw]
  omega

theorem Fits.rowStart (h : Fits dim rowBytes strideInBytes frame.buffer) (hy : y < dim.height.toNat)
    (hx : x < dim.width.toNat) :
    y * uint32 strideInBytes % 2 ^ 32 = y * strideInBytes.toNat := by
  obtain ⟨huint, -, -, -, hle, hroom⟩ := h.bounds hy hx
  have hlt := frame.length_lt
  rw [huint]
  omega

theorem Fits.index_lt (h : Fits dim rowBytes strideInBytes frame.buffer) (hy : y < dim.height.toNat)
    (hx : x < dim.width.toNat)
    (hafter : Raster.After dim.width.toNat dim.height.toNat y (x + 1) y' x') :
    y * align16 dim.width.toNat + x < raw16Index dim y' x' := by
  obtain ⟨hx', hy', hlater⟩ := hafter
  rw [h.index hy' hx']
  obtain ⟨-, -, -, hwidth, -, -⟩ := h.bounds hy hx
  rcases hlater with hlt | ⟨rfl, hle⟩
  · have hmul : (y + 1) * align16 dim.width.toNat ≤ y' * align16 dim.width.toNat :=
      Nat.mul_le_mul_right _ hlt
    rw [succ_mul] at hmul
    omega
  · omega

/-- **The frame is converted to what its pixels give at their turn.** -/
theorem Fits.convert (h : Fits dim rowBytes strideInBytes frame.buffer)
    {pixel : ℕ → ℕ → List UInt8 → Option ℕ} (small : ∀ y x, val y x < 256 ^ 2)
    (turn : ∀ y x buf, y < dim.height.toNat → x < dim.width.toNat →
      Raster.Converted .little 2 dim.width.toNat dim.height.toNat (raw16Index dim) val frame.buffer
        y (x + 1) buf → pixel y x buf = some (val y x)) :
    ∃ out, rasterBack .little 2 dim.width.toNat dim.height.toNat (raw16Index dim) pixel
        frame.buffer = some out ∧ out.length = frame.buffer.length ∧
      ∀ y x, y < dim.height.toNat → x < dim.width.toNat →
        loadElem .little 2 out (y * align16 dim.width.toNat + x) = some (val y x) := by
  obtain ⟨out, hout, hconv⟩ := Raster.rasterBack_rule (n := 2) (fun y x y' x' hy hx hafter => by
      rw [h.index hy hx]
      exact Nat.ne_of_lt (h.index_lt hy hx hafter))
    (fun y x hy hx => by
      rw [h.index hy hx]
      obtain ⟨-, -, -, hwidth, -, hroom⟩ := h.bounds hy hx
      have hdouble : y * (2 * align16 dim.width.toNat) = 2 * (y * align16 dim.width.toNat) := by ring
      omega)
    (fun y x _ _ => small y x) turn
  refine ⟨out, hout, hconv.length, fun y x hy hx => ?_⟩
  rw [← h.index hy hx]
  exact hconv.elem y x ⟨hx, hy, by omega⟩

theorem Fits.original (h : Fits dim rowBytes strideInBytes frame.buffer) {p : ℕ}
    (hconv : Raster.Converted .little 2 dim.width.toNat dim.height.toNat (raw16Index dim) val
      frame.buffer y (x + 1) buf) (hy : y < dim.height.toNat) (hx : x < dim.width.toNat)
    (hp : p < 2 * (y * align16 dim.width.toNat + x) + 2) : buf[p]? = frame.buffer[p]? :=
  hconv.frame p fun y' x' hafter => by
    have hlt := h.index_lt hy hx hafter
    omega

/-! ## Words -/

theorem div_mod_of_mod_eq {v v' a b m : ℕ} (hm : a + b ≤ m) (hmod : v % 2 ^ m = v' % 2 ^ m) :
    v / 2 ^ a % 2 ^ b = v' / 2 ^ a % 2 ^ b := by
  have hdvd : 2 ^ a * 2 ^ b ∣ 2 ^ m := by
    rw [← pow_add]
    exact pow_dvd_pow 2 hm
  have hlow : v % (2 ^ a * 2 ^ b) = v' % (2 ^ a * 2 ^ b) := by
    rw [← mod_mod_of_dvd v hdvd, hmod, mod_mod_of_dvd v' hdvd]
  rw [← mod_mul_right_div_self, ← mod_mul_right_div_self, hlow]

theorem legacyPixel_lt (k : ℕ) (buf : List UInt8) (y x : ℕ) : legacyPixel k buf y x < 256 ^ 2 :=
  (mod_lt _ (by norm_num)).trans (by norm_num)

/-- At its turn a pixel of a word has the bits of the original word: what is stored until then
leaves the bytes of these. -/
theorem Fits.readLegacy_eq (h : Fits dim rowBytes strideInBytes frame.buffer)
    (hrow : 8 * ((dim.width.toNat + 5) / 6) ≤ rowBytes) (halign : 8 ∣ strideInBytes)
    (hy : y < dim.height.toNat) (hx : x < dim.width.toNat)
    (hconv : Raster.Converted .little 2 dim.width.toNat dim.height.toNat (raw16Index dim) val
      frame.buffer y (x + 1) buf) :
    readLegacy strideInBytes y x buf =
      some (legacyPixel strideInBytes.toNat frame.buffer y x) := by
  obtain ⟨-, hcast, -, hwidth, hle, hroom⟩ := h.bounds hy hx
  have hdouble : y * (2 * align16 dim.width.toNat) = 2 * (y * align16 dim.width.toNat) := by ring
  have hstride := h.stride
  have hfit := h.row
  -- the word is at a multiple of eight bytes
  obtain ⟨m, hm⟩ : ∃ m, y * strideInBytes.toNat = 8 * m := by
    obtain ⟨c, hc⟩ := halign
    exact ⟨y * c.toNat, by rw [show strideInBytes.toNat = 8 * c.toNat by omega]; ring⟩
  have hword : 8 * (y * uint32 strideInBytes % 2 ^ 32 / 8 + x / 6) =
      y * strideInBytes.toNat + 8 * (x / 6) := by
    rw [h.rowStart hy hx]
    omega
  have hend : y * strideInBytes.toNat + 8 * (x / 6) + 8 ≤ frame.buffer.length := by omega
  obtain ⟨bs, hbs, -⟩ := exists_load (hconv.length ▸ hend : _ ≤ buf.length)
  obtain ⟨bs', hbs', -⟩ := exists_load hend
  -- the bytes of the pixel's bits are still the original ones
  have hcount : min 8 (2 * (x % 6) + 2) ≤ 8 := min_le_left _ _
  have hload : load buf (y * strideInBytes.toNat + 8 * (x / 6)) (min 8 (2 * (x % 6) + 2)) =
      load frame.buffer (y * strideInBytes.toNat + 8 * (x / 6)) (min 8 (2 * (x % 6) + 2)) :=
    load_congr fun p _ hp => h.original hconv hy hx (by omega)
  rw [load_take hbs hcount, load_take hbs' hcount, some.injEq] at hload
  have hmod : ofLowBytes bs % 2 ^ (8 * min 8 (2 * (x % 6) + 2)) =
      ofLowBytes bs' % 2 ^ (8 * min 8 (2 * (x % 6) + 2)) := by
    rw [pow_mul]
    exact ((ofLowBytes_mod bs _).trans (congrArg ofLowBytes hload)).trans (ofLowBytes_mod bs' _).symm
  have hbits := div_mod_of_mod_eq (a := 10 * (x % 6)) (b := 10) (by omega) hmod
  unfold readLegacy legacyPixel wordAt loadElem
  simp only [hword, hbs, hbs', map_some, getD_some]
  rw [← hbits, shiftRight_eq_div_pow, Nat.and_comm, show (0x3FF : ℕ) = 2 ^ 10 - 1 from rfl,
    and_two_pow_sub_one_eq_mod]
  rfl

/-- **A frame of words is converted.** -/
theorem convertLegacyToRaw16_pixels
    (h : Fits dim (8 * ((dim.width.toNat + 5) / 6)) strideInBytes frame.buffer)
    (halign : 8 ∣ strideInBytes) :
    ∃ out, convertLegacyToRaw16 dim strideInBytes frame.buffer = some out ∧
      out.length = frame.buffer.length ∧
      ∀ y x, y < dim.height.toNat → x < dim.width.toNat →
        loadElem .little 2 out (y * align16 dim.width.toNat + x) =
          some (legacyPixel strideInBytes.toNat frame.buffer y x) :=
  h.convert (legacyPixel_lt _ _) fun _ _ _ hy hx hconv => h.readLegacy_eq le_rfl halign hy hx hconv

/-- Two rows of seven pixels. -/
theorem convertLegacyToRaw16_pixels_seven :
    ∃ out, convertLegacyToRaw16 ⟨7, 2⟩ 16 (List.replicate 64 0xA5) = some out ∧ out.length = 64 ∧
      ∀ y x, y < 2 → x < 7 → loadElem .little 2 out (y * 16 + x) =
        some (legacyPixel 16 (List.replicate 64 0xA5) y x) :=
  have h : Fits ⟨7, 2⟩ (8 * (((7 : ℤ).toNat + 5) / 6)) 16 (replicate 64 0xA5) :=
    ⟨by decide, by decide, by decide⟩
  @convertLegacyToRaw16_pixels _ _ ⟨replicate 64 0xA5, by decide⟩ h (by decide)

/-! ## MIPI groups -/

section Mipi

def rowShift (dim : CamDimension) (strideInBytes : ℕ) (y : ℕ) : ℕ :=
  y * (2 * align16 dim.width.toNat) - y * strideInBytes

/-- **Where the conversion finds the low bits**: in the fifth byte of the group; but in the first
group of a row the word of the third pixel is stored there before the first two pixels are read, if
the row does not move, and the word of the second pixel before the first, if it moves by one byte or
two. -/
def foundLow (dim : CamDimension) (strideInBytes : ℕ) (buf : List UInt8) (y x : ℕ) : ℕ :=
  if x < 2 ∧ rowShift dim strideInBytes y = 0 ∧ 2 < dim.width.toNat then
    (4 * mipiHigh strideInBytes buf y 2 + mipiFifth strideInBytes buf y 2 / 2 ^ 2 % 4) % 256
  else if x = 0 ∧ rowShift dim strideInBytes y = 1 ∧ 1 < dim.width.toNat then
    (4 * mipiHigh strideInBytes buf y 1 + mipiFifth strideInBytes buf y 1 / 2 ^ 1 % 4) / 256
  else if x = 0 ∧ rowShift dim strideInBytes y = 2 ∧ 1 < dim.width.toNat then
    (4 * mipiHigh strideInBytes buf y 1 + mipiFifth strideInBytes buf y 1 / 2 ^ 1 % 4) % 256
  else mipiFifth strideInBytes buf y x

/-- What the conversion makes of a pixel: it looks one bit further for each pixel of the group. -/
def mipiValue (dim : CamDimension) (strideInBytes : ℕ) (buf : List UInt8) (y x : ℕ) : ℕ :=
  4 * mipiHigh strideInBytes buf y x + foundLow dim strideInBytes buf y x / 2 ^ (x % 4) % 4

/-- The two bits that are found are those of the pixel. -/
def LowRight (dim : CamDimension) (strideInBytes : ℕ) (buf : List UInt8) (y x : ℕ) : Prop :=
  foundLow dim strideInBytes buf y x / 2 ^ (x % 4) % 4 =
    mipiFifth strideInBytes buf y x / 2 ^ (2 * (x % 4)) % 4

variable {k p i v : ℕ} {b : UInt8}

theorem byteAt_lt (buf : List UInt8) (p : ℕ) : byteAt buf p < 256 := (buf[p]?.getD 0).toNat_lt

theorem getElem?_of_byteAt (h : buf[p]? = some b) : byteAt buf p = b.toNat := by
  rw [byteAt, h, getD_some]

theorem mipiValue_lt (dim : CamDimension) (k : ℕ) (buf : List UInt8) (y x : ℕ) :
    mipiValue dim k buf y x < 256 ^ 2 := by
  have hhigh : mipiHigh k buf y x < 256 := byteAt_lt _ _
  unfold mipiValue
  omega

theorem getElem?_of_word (h : loadElem .little 2 buf i = some v) :
    (∃ low, buf[2 * i]? = some low ∧ low.toNat = v % 256) ∧
      ∃ high, buf[2 * i + 1]? = some high ∧ high.toNat = v / 256 := by
  obtain ⟨bs, hbs, hv⟩ := map_eq_some_iff.mp h
  simp only [load, bind_eq_bind, bind_eq_some_iff, some.injEq] at hbs
  obtain ⟨low, hlow, -, ⟨high, hhigh, -, rfl, rfl⟩, rfl⟩ := hbs
  have hlt := low.toNat_lt
  simp only [Endian.decode, ofLowBytes] at hv
  exact ⟨⟨low, hlow, by omega⟩, high, hhigh, by omega⟩

theorem Fits.original_first (h : Fits dim rowBytes strideInBytes frame.buffer)
    (hy : y < dim.height.toNat) (hx : x < dim.width.toNat)
    (hconv : Raster.Converted .little 2 dim.width.toNat dim.height.toNat (raw16Index dim) val
      frame.buffer y (x + 1) buf) (hclear : ∀ x', x < x' → x' < dim.width.toNat →
      rowShift dim strideInBytes.toNat y + 2 * x' ≠ 3 ∧
        rowShift dim strideInBytes.toNat y + 2 * x' ≠ 4) :
    buf[y * strideInBytes.toNat + 4]? = frame.buffer[y * strideInBytes.toNat + 4]? := by
  obtain ⟨-, -, -, hwidth, hle, -⟩ := h.bounds hy hx
  have hdouble : y * (2 * align16 dim.width.toNat) = 2 * (y * align16 dim.width.toNat) := by ring
  have hlarge : 16 ≤ align16 dim.width.toNat := by
    unfold align16
    omega
  refine hconv.frame _ fun y' x' hafter => ?_
  obtain ⟨hx', hy', hlater⟩ := hafter
  rw [h.index hy' hx']
  rcases hlater with hlt | ⟨rfl, hlt⟩
  · -- the words of the next row are behind all of this one
    have hmul : (y + 1) * align16 dim.width.toNat ≤ y' * align16 dim.width.toNat :=
      Nat.mul_le_mul_right _ hlt
    rw [succ_mul] at hmul
    omega
  · obtain ⟨hthree, hfour⟩ := hclear x' hlt hx'
    unfold rowShift at hthree hfour
    omega

theorem foundLow_two (dim : CamDimension) (k : ℕ) (buf : List UInt8) (y : ℕ) :
    foundLow dim k buf y 2 = mipiFifth k buf y 2 := by
  simp [foundLow]

theorem foundLow_one (hshift : rowShift dim k y ≠ 0) :
    foundLow dim k buf y 1 = mipiFifth k buf y 1 := by
  simp [foundLow, hshift]

/-- What is found in the fifth byte of the first group of a row, at the turn of a pixel that a word
may have been stored before. -/
theorem Fits.found_first (h : Fits dim rowBytes strideInBytes frame.buffer)
    (hroom : y * strideInBytes.toNat + 4 < frame.buffer.length) (hy : y < dim.height.toNat)
    (hx : x < dim.width.toNat)
    (hconv : Raster.Converted .little 2 dim.width.toNat dim.height.toNat (raw16Index dim)
      (mipiValue dim strideInBytes.toNat frame.buffer) frame.buffer y (x + 1) buf)
    (hlate : rowShift dim strideInBytes.toNat y + 2 * x ≤ 2) :
    ∃ group, buf[y * strideInBytes.toNat + 4]? = some group ∧
      group.toNat = foundLow dim strideInBytes.toNat frame.buffer y x := by
  obtain ⟨-, -, -, -, hle, -⟩ := h.bounds hy hx
  have hdouble : y * (2 * align16 dim.width.toNat) = 2 * (y * align16 dim.width.toNat) := by ring
  have hbyte : ∀ buf : List UInt8, buf.length = frame.buffer.length →
      buf[y * strideInBytes.toNat + 4]? = frame.buffer[y * strideInBytes.toNat + 4]? →
      ∃ group, buf[y * strideInBytes.toNat + 4]? = some group ∧
        group.toNat = mipiFifth strideInBytes.toNat frame.buffer y x := by
    intro buf hlength hsame
    refine ⟨_, hsame.trans (getElem?_eq_getElem hroom), ?_⟩
    rw [mipiFifth, show x / 4 = 0 by omega]
    exact (getElem?_of_byteAt (getElem?_eq_getElem hroom)).symm
  -- the word of a later pixel of the row, if it has one there
  have hword : ∀ x', x < x' → x' < dim.width.toNat →
      loadElem .little 2 buf (y * align16 dim.width.toNat + x') =
        some (mipiValue dim strideInBytes.toNat frame.buffer y x') := fun x' hlt hx' => by
    rw [← h.index hy hx']
    exact hconv.elem y x' ⟨hx', hy, .inr ⟨rfl, hlt⟩⟩
  rcases hshift : rowShift dim strideInBytes.toNat y with _ | _ | _ | shift
  · by_cases hw : 2 < dim.width.toNat
    · obtain ⟨⟨low, hlow, hv⟩, -⟩ := getElem?_of_word (hword 2 (by omega) hw)
      refine ⟨low, ?_, ?_⟩
      · rw [← hlow]
        congr 1
        unfold rowShift at hshift
        omega
      · rw [hv, mipiValue, foundLow_two, foundLow, if_pos ⟨by omega, hshift, hw⟩]
    · rw [foundLow, if_neg (by omega), if_neg (by omega), if_neg (by omega)]
      exact hbyte buf hconv.length (h.original_first hy hx hconv fun x' hlt hx' => by omega)
  · by_cases hw : 1 < dim.width.toNat
    · obtain ⟨-, high, hhigh, hv⟩ := getElem?_of_word (hword 1 (by omega) hw)
      refine ⟨high, ?_, ?_⟩
      · rw [← hhigh]
        congr 1
        unfold rowShift at hshift
        omega
      · rw [hv, mipiValue, foundLow_one (by omega), foundLow, if_neg (by omega),
          if_pos ⟨by omega, hshift, hw⟩]
    · rw [foundLow, if_neg (by omega), if_neg (by omega), if_neg (by omega)]
      exact hbyte buf hconv.length (h.original_first hy hx hconv fun x' hlt hx' => by omega)
  · by_cases hw : 1 < dim.width.toNat
    · obtain ⟨⟨low, hlow, hv⟩, -⟩ := getElem?_of_word (hword 1 (by omega) hw)
      refine ⟨low, ?_, ?_⟩
      · rw [← hlow]
        congr 1
        unfold rowShift at hshift
        omega
      · rw [hv, mipiValue, foundLow_one (by omega), foundLow, if_neg (by omega), if_neg (by omega),
          if_pos ⟨by omega, hshift, hw⟩]
    · rw [foundLow, if_neg (by omega), if_neg (by omega), if_neg (by omega)]
      exact hbyte buf hconv.length (h.original_first hy hx hconv fun x' hlt hx' => by omega)
  · omega

theorem Fits.readMipi_eq (h : Fits dim rowBytes strideInBytes frame.buffer)
    (hrow : 5 * ((dim.width.toNat + 3) / 4) ≤ rowBytes) (hy : y < dim.height.toNat)
    (hx : x < dim.width.toNat)
    (hconv : Raster.Converted .little 2 dim.width.toNat dim.height.toNat (raw16Index dim)
      (mipiValue dim strideInBytes.toNat frame.buffer) frame.buffer y (x + 1) buf) :
    readMipi strideInBytes y x buf = some (mipiValue dim strideInBytes.toNat frame.buffer y x) := by
  obtain ⟨-, hcast, -, hwidth, hle, hroom⟩ := h.bounds hy hx
  have hdouble : y * (2 * align16 dim.width.toNat) = 2 * (y * align16 dim.width.toNat) := by ring
  have hstride := h.stride
  have hfit := h.row
  have hend : y * strideInBytes.toNat + (5 * (x / 4) + 4) < frame.buffer.length := by omega
  -- the high bits are before the word of the pixel's successor
  obtain ⟨upper, hupper, hhigh⟩ :
      ∃ upper, buf[y * strideInBytes.toNat + (5 * (x / 4) + x % 4)]? = some upper ∧
        upper.toNat = mipiHigh strideInBytes.toNat frame.buffer y x := by
    have hlt : y * strideInBytes.toNat + (5 * (x / 4) + x % 4) < frame.buffer.length := by omega
    refine ⟨_, (h.original hconv hy hx (by omega)).trans (getElem?_eq_getElem hlt), ?_⟩
    exact (getElem?_of_byteAt (getElem?_eq_getElem hlt)).symm
  obtain ⟨group, hgroup, hlow⟩ :
      ∃ group, buf[y * strideInBytes.toNat + (5 * (x / 4) + 4)]? = some group ∧
        group.toNat = foundLow dim strideInBytes.toNat frame.buffer y x := by
    by_cases hlate : rowShift dim strideInBytes.toNat y + 2 * x - 5 * (x / 4) ≤ 2
    · have hfirst : x / 4 = 0 := by omega
      rw [hfirst]
      rw [hfirst] at hend
      exact h.found_first hend hy hx hconv (by omega)
    · refine ⟨_, (h.original hconv hy hx ?_).trans (getElem?_eq_getElem hend), ?_⟩
      · unfold rowShift at hlate
        omega
      · rw [foundLow, if_neg (by omega), if_neg (by omega), if_neg (by omega)]
        exact (getElem?_of_byteAt (getElem?_eq_getElem hend)).symm
  have hsmall : group.toNat >>> (x % 4) &&& 0x3 < 2 ^ 2 :=
    Nat.lt_of_le_of_lt and_le_right (by norm_num)
  unfold readMipi mipiValue
  simp only [h.rowStart hy hx, hupper, hgroup, bind_eq_bind, bind_some]
  rw [← shiftLeft_add_eq_or_of_lt hsmall, shiftLeft_eq, hhigh, hlow,
    shiftRight_eq_div_pow, show (0x3 : ℕ) = 2 ^ 2 - 1 from rfl, and_two_pow_sub_one_eq_mod]
  congr 1
  ring

/-- **When a frame of MIPI groups is converted**: exactly when the two bits that are found are right
for each pixel. -/
theorem convertMipiToRaw16_iff
    (h : Fits dim (5 * ((dim.width.toNat + 3) / 4)) strideInBytes frame.buffer) :
    ∃ out, convertMipiToRaw16 dim strideInBytes frame.buffer = some out ∧
      out.length = frame.buffer.length ∧
      ((∀ y x, y < dim.height.toNat → x < dim.width.toNat →
        loadElem .little 2 out (y * align16 dim.width.toNat + x) =
          some (mipiPixel strideInBytes.toNat frame.buffer y x)) ↔
      ∀ y x, y < dim.height.toNat → x < dim.width.toNat →
        LowRight dim strideInBytes.toNat frame.buffer y x) := by
  obtain ⟨out, hout, hlength, hval⟩ := h.convert (mipiValue_lt dim _ _)
    fun _ _ _ hy hx hconv => h.readMipi_eq le_rfl hy hx hconv
  refine ⟨out, hout, hlength, forall_congr' fun y => forall_congr' fun x => ?_⟩
  refine imp_congr_right fun hy => imp_congr_right fun hx => ?_
  rw [hval y x hy hx, some.injEq, mipiValue, mipiPixel, Nat.add_left_cancel_iff]
  rfl

/-- A row of four pixels of all ones is converted. -/
theorem convertMipiToRaw16_iff_four :
    ∃ out, convertMipiToRaw16 ⟨4, 1⟩ 16 (List.replicate 32 0xFF) = some out ∧ out.length = 32 ∧
      ((∀ y x, y < 1 → x < 4 → loadElem .little 2 out (y * 16 + x) =
        some (mipiPixel 16 (List.replicate 32 0xFF) y x)) ↔
      ∀ y x, y < 1 → x < 4 → LowRight ⟨4, 1⟩ 16 (List.replicate 32 0xFF) y x) :=
  have h : Fits ⟨4, 1⟩ (5 * (((4 : ℤ).toNat + 3) / 4)) 16 (replicate 32 0xFF) :=
    ⟨by decide, by decide, by decide⟩
  @convertMipiToRaw16_iff _ _ ⟨replicate 32 0xFF, by decide⟩ h

/-- **A pixel gets other low bits.** The second pixel of the row is 1, and comes out as 0. -/
theorem convertMipiToRaw16_fails :
    Fits ⟨4, 1⟩ 5 16 ([0, 0, 0, 0, 4] ++ List.replicate 27 0) ∧
      mipiPixel 16 ([0, 0, 0, 0, 4] ++ List.replicate 27 0) 0 1 = 1 ∧
      ∃ out, convertMipiToRaw16 ⟨4, 1⟩ 16 ([0, 0, 0, 0, 4] ++ List.replicate 27 0) = some out ∧
        loadElem .little 2 out 1 = some 0 :=
  ⟨⟨by decide, by decide, by decide⟩, by decide, _, rfl, by decide⟩

end Mipi

end Raw16
