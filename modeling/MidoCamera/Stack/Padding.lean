import MidoCamera.Library.Masks

/-!
# Dimensions and paddings

The records of `cam_types.h` that a buffer layout is calculated from. A dimension is that of an
image, and so not negative.
-/

namespace MmCamera

open Loop

/-- `cam_dimension_t`. -/
structure Dimension where
  width : ℕ
  height : ℕ
  deriving DecidableEq, Repr

/-- `cam_offset_info_t`. -/
structure OffsetInfo where
  offsetX : BitVec 32
  offsetY : BitVec 32
  deriving DecidableEq, Repr

/-- `cam_padding_info_t`. -/
structure PaddingInfo where
  widthPadding : BitVec 32
  heightPadding : BitVec 32
  planePadding : BitVec 32
  minStride : BitVec 32
  minScanline : BitVec 32
  offsetInfo : OffsetInfo
  deriving DecidableEq, Repr

/-- `PAD_TO_SIZE`, if nothing overflows; the mask of no padding has all bits. -/
def padToSize (size padding : ℕ) : ℕ := if padding = 0 then 0 else roundUp size padding

/-- **The paddings there are names for** in `cam_pad_format_t` are powers of two. -/
structure PaddingInfo.PowersOfTwo (p : PaddingInfo) : Prop where
  width : ∃ k, p.widthPadding.toNat = 2 ^ k
  height : ∃ k, p.heightPadding.toNat = 2 ^ k
  plane : ∃ k, p.planePadding.toNat = 2 ^ k

variable {size padding : ℕ}

theorem padToSize_of_pos (h : 0 < padding) : padToSize size padding = roundUp size padding :=
  if_neg h.ne'

theorem le_padToSize (size : ℕ) (h : 0 < padding) : size ≤ padToSize size padding := by
  rw [padToSize_of_pos h]
  exact le_roundUp size padding

theorem padToSize_two_pow (size k : ℕ) : padToSize size (2 ^ k) = roundUp size (2 ^ k) :=
  padToSize_of_pos (Nat.two_pow_pos k)

theorem dvd_padToSize (size k : ℕ) : 2 ^ k ∣ padToSize size (2 ^ k) := by
  rw [padToSize_two_pow]
  exact dvd_roundUp size k

namespace PaddingInfo.PowersOfTwo

variable {p : PaddingInfo}

theorem width_pos (h : p.PowersOfTwo) : 0 < p.widthPadding.toNat := by
  obtain ⟨k, hk⟩ := h.width
  exact hk ▸ Nat.two_pow_pos k

theorem height_pos (h : p.PowersOfTwo) : 0 < p.heightPadding.toNat := by
  obtain ⟨k, hk⟩ := h.height
  exact hk ▸ Nat.two_pow_pos k

theorem plane_pos (h : p.PowersOfTwo) : 0 < p.planePadding.toNat := by
  obtain ⟨k, hk⟩ := h.plane
  exact hk ▸ Nat.two_pow_pos k

end PaddingInfo.PowersOfTwo

end MmCamera
