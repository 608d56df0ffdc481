import MidoCamera.Library.While
import MidoCamera.Stack.Padding

/-!
# The requirements of the analysis stream

`getAnalysisInfo` merges what the face detection asks of the analysis stream with what the PAAF
asks. A padding becomes the least common multiple of the two, which a loop looks for. A minimum
becomes the larger one, which is to be aligned to the merged padding; but `ALIGN` expects the mask of
a power of two, and is given the padding.
-/

namespace QCameraCommon

open Loop Nat
open MmCamera (Dimension PaddingInfo)

/-! ## The entries -/

/-- `cam_analysis_info_t`; a flag is zero if it is not set. -/
structure AnalysisInfo where
  valid : ℕ
  hwAnalysisSupported : ℕ
  analysisMaxRes : Dimension
  analysisPaddingInfo : PaddingInfo
  analysisFormat : ℕ
  analysisRecommendedRes : Dimension
  deriving DecidableEq, Repr

/-- `m_pCapability->analysis_info`. -/
structure Capability where
  fdStill : AnalysisInfo
  fdVideo : AnalysisInfo
  paaf : AnalysisInfo

abbrev noError : ℤ := 0

abbrev badValue : ℤ := -22

/-! ## The arithmetic -/

/-- More rounds than this there are not: a loop over 32 bits that has not ended runs for ever. -/
abbrev lcmRounds : ℕ := 2 ^ 32

/-- The loop of `calculateLCM`: the multiples of `temp` are tried one after the other. -/
def lcmLoop (num1 num2 temp : BitVec 32) : Option (BitVec 32) :=
  whileLoop (fun lcm => !(lcm % num1 == 0 && lcm % num2 == 0)) (fun lcm => lcm + temp) lcmRounds
    temp

/-- `calculateLCM`, if it returns. -/
def calculateLCM (num1 num2 : BitVec 32) : Option (BitVec 32) :=
  if num1.toInt < 1 ∧ num2.toInt < 1 then some 0
  else if num1.toInt < 1 then some num2
  else if num2.toInt < 1 then some num1
  else lcmLoop num1 num2 (if num2.toInt < num1.toInt then num1 else num2)

def align (a b : BitVec 32) : BitVec 32 := (a + b) &&& ~~~b

/-- `MAX`. -/
def maxU32 (a b : BitVec 32) : BitVec 32 := if b < a then a else b

/-! ## The merge -/

/-- The paddings of two entries are merged. -/
def mergePadding (a b : PaddingInfo) : Option PaddingInfo := do
  let heightPadding ← calculateLCM a.heightPadding b.heightPadding
  let widthPadding ← calculateLCM a.widthPadding b.widthPadding
  let planePadding ← calculateLCM a.planePadding b.planePadding
  return { a with
    heightPadding := heightPadding
    widthPadding := widthPadding
    planePadding := planePadding
    minStride := align (maxU32 a.minStride b.minStride) widthPadding
    minScanline := align (maxU32 a.minScanline b.minScanline) heightPadding }

/-- The PAAF entry is merged into another. -/
def mergePaaf (info paaf : AnalysisInfo) : Option AnalysisInfo := do
  let padding ← mergePadding info.analysisPaddingInfo paaf.analysisPaddingInfo
  return { info with
    analysisMaxRes :=
      { width := max info.analysisMaxRes.width paaf.analysisMaxRes.width
        height := max info.analysisMaxRes.height paaf.analysisMaxRes.height }
    analysisPaddingInfo := padding
    hwAnalysisSupported := info.hwAnalysisSupported ||| paaf.hwAnalysisSupported }

/-- The entry for the face detection, if one is valid. -/
def fdInfo (fdVideoEnabled hal3 : Bool) (cap : Capability) (info : AnalysisInfo) : AnalysisInfo :=
  if fdVideoEnabled = true ∧ hal3 = false ∧ cap.fdVideo.hwAnalysisSupported ≠ 0 ∧
      cap.fdVideo.valid ≠ 0 then cap.fdVideo
  else if cap.fdStill.valid ≠ 0 then
    if hal3 then { cap.fdStill with analysisMaxRes := cap.fdStill.analysisRecommendedRes }
    else cap.fdStill
  else info

abbrev featurePaaf : BitVec 64 := 1 <<< 32

/-- `getAnalysisInfo`, with its return code, if it returns; `info` is what `*pAnalysisInfo` holds
before. -/
def getAnalysisInfo (fdVideoEnabled hal3 : Bool) (featureMask : BitVec 64) (cap : Capability)
    (info : AnalysisInfo) : Option (ℤ × AnalysisInfo) := do
  let info := fdInfo fdVideoEnabled hal3 cap { info with valid := 0 }
  let info ← if featureMask &&& featurePaaf ≠ 0 ∧ cap.paaf.valid ≠ 0 then
      if info.valid = 0 then some cap.paaf else mergePaaf info cap.paaf
    else some info
  return (if info.valid ≠ 0 then noError else badValue, info)

/-! ## What the merge is to give -/

/-- **The merged paddings are good for both**: each is the least common multiple of the two, and each
minimum is no less than either and a multiple of its padding. -/
structure Satisfies (a b r : PaddingInfo) : Prop where
  width : r.widthPadding.toNat = a.widthPadding.toNat.lcm b.widthPadding.toNat
  height : r.heightPadding.toNat = a.heightPadding.toNat.lcm b.heightPadding.toNat
  plane : r.planePadding.toNat = a.planePadding.toNat.lcm b.planePadding.toNat
  stride : a.minStride.toNat ≤ r.minStride.toNat ∧ b.minStride.toNat ≤ r.minStride.toNat
  scanline : a.minScanline.toNat ≤ r.minScanline.toNat ∧ b.minScanline.toNat ≤ r.minScanline.toNat
  strideAligned : r.widthPadding.toNat ∣ r.minStride.toNat
  scanlineAligned : r.heightPadding.toNat ∣ r.minScanline.toNat

/-- The paddings are not zero. -/
structure Positive (a : PaddingInfo) : Prop where
  width : 0 < a.widthPadding.toNat
  height : 0 < a.heightPadding.toNat
  plane : 0 < a.planePadding.toNat

/-- The least common multiples are 32-bit numbers. -/
structure Fits (a b : PaddingInfo) : Prop where
  width : a.widthPadding.toNat.lcm b.widthPadding.toNat < 2 ^ 32
  height : a.heightPadding.toNat.lcm b.heightPadding.toNat < 2 ^ 32
  plane : a.planePadding.toNat.lcm b.planePadding.toNat < 2 ^ 32

/-- **The condition** on a minimum and the merged padding: their sum is a 32-bit number, and the bits
that it has in common with the padding make up the remainder of the minimum. -/
def AlignsUp (m p : ℕ) : Prop := m + p < 2 ^ 32 ∧ ((m + p) &&& p) % p = m % p

instance (m p : ℕ) : Decidable (AlignsUp m p) := inferInstanceAs (Decidable (_ ∧ _))

/-- Two paddings that are not negative as an `int32_t`. -/
def Signed (p q : BitVec 32) : Prop := p.toNat < 2 ^ 31 ∧ q.toNat < 2 ^ 31

instance (p q : BitVec 32) : Decidable (Signed p q) := inferInstanceAs (Decidable (_ ∧ _))

/-- **The condition** on two entries. -/
structure Mergeable (a b : PaddingInfo) : Prop where
  width : Signed a.widthPadding b.widthPadding
  height : Signed a.heightPadding b.heightPadding
  plane : Signed a.planePadding b.planePadding
  stride : AlignsUp (max a.minStride.toNat b.minStride.toNat)
    (a.widthPadding.toNat.lcm b.widthPadding.toNat)
  scanline : AlignsUp (max a.minScanline.toNat b.minScanline.toNat)
    (a.heightPadding.toNat.lcm b.heightPadding.toNat)

/-- An entry with all paddings 16 and these minima. -/
def entryOf (minStride minScanline : BitVec 32) : AnalysisInfo :=
  { valid := 1
    hwAnalysisSupported := 1
    analysisMaxRes := ⟨640, 480⟩
    analysisPaddingInfo := ⟨16, 16, 16, minStride, minScanline, ⟨0, 0⟩⟩
    analysisFormat := 0
    analysisRecommendedRes := ⟨640, 480⟩ }

/-- **A minimum is not aligned**: with the padding 16 the stride 100 stays as it is. -/
theorem getAnalysisInfo_unaligned :
    ¬∀ (featureMask : BitVec 64) (cap : Capability) (info : AnalysisInfo),
      featureMask &&& featurePaaf ≠ 0 → cap.paaf.valid ≠ 0 → cap.fdStill.valid ≠ 0 →
        Positive cap.fdStill.analysisPaddingInfo → Positive cap.paaf.analysisPaddingInfo →
          Fits cap.fdStill.analysisPaddingInfo cap.paaf.analysisPaddingInfo →
            ∃ r, getAnalysisInfo false false featureMask cap info = some (noError, r) ∧
              Satisfies cap.fdStill.analysisPaddingInfo cap.paaf.analysisPaddingInfo
                r.analysisPaddingInfo := by
  intro hall
  obtain ⟨r, hr, hgood⟩ := hall featurePaaf ⟨entryOf 100 96, entryOf 100 96, entryOf 100 96⟩
    (entryOf 0 0) (by decide) (by decide) (by decide) ⟨by decide, by decide, by decide⟩
    ⟨by decide, by decide, by decide⟩ ⟨by decide, by decide, by decide⟩
  have hrun : getAnalysisInfo false false featurePaaf
      ⟨entryOf 100 96, entryOf 100 96, entryOf 100 96⟩ (entryOf 0 0) =
        some (noError, entryOf 100 96) := by decide +kernel
  cases hr.symm.trans hrun
  exact absurd hgood.strideAligned (by decide)

section

variable {p q m : BitVec 32}

theorem isCommon_iff (l : BitVec 32) :
    (l % p == 0 && l % q == 0) = true ↔ p.toNat ∣ l.toNat ∧ q.toNat ∣ l.toNat := by
  have hmod : ∀ d : BitVec 32, l % d = 0 ↔ d.toNat ∣ l.toNat := by
    intro d
    rw [← BitVec.toNat_inj, BitVec.toNat_umod, dvd_iff_mod_eq_zero]
    rfl
  rw [Bool.and_eq_true, beq_iff_eq, beq_iff_eq, hmod, hmod]

/-- What the loop keeps: a multiple of the number it starts with, up to the least common multiple. -/
def Tried (p q m l : BitVec 32) : Prop :=
  m.toNat ∣ l.toNat ∧ 0 < l.toNat ∧ l.toNat ≤ p.toNat.lcm q.toNat

theorem tried_step (pos : 0 < m.toNat) (hdvd : m.toNat ∣ p.toNat.lcm q.toNat)
    (fits : p.toNat.lcm q.toNat < 2 ^ 32) (l : BitVec 32)
    (hcond : (!(l % p == 0 && l % q == 0)) = true) (hl : Tried p q m l) :
    Tried p q m (l + m) ∧
      p.toNat.lcm q.toNat - (l + m).toNat < p.toNat.lcm q.toNat - l.toNat := by
  obtain ⟨hml, hpos, hle⟩ := hl
  rw [Bool.not_eq_true', ← Bool.not_eq_true, isCommon_iff] at hcond
  have hlt : l.toNat < p.toNat.lcm q.toNat := by
    refine lt_of_le_of_ne hle fun heq => hcond ?_
    rw [heq]
    exact ⟨Nat.dvd_lcm_left .., Nat.dvd_lcm_right ..⟩
  -- both are multiples of `m`, so that there is room for one more
  have hnext : l.toNat + m.toNat ≤ p.toNat.lcm q.toNat := by
    obtain ⟨a, ha⟩ := hml
    obtain ⟨b, hb⟩ := hdvd
    rw [ha, hb] at hlt ⊢
    have hab : a < b := Nat.lt_of_mul_lt_mul_left hlt
    rw [← mul_succ]
    exact Nat.mul_le_mul_left _ hab
  have hsum : (l + m).toNat = l.toNat + m.toNat := by
    rw [BitVec.toNat_add, mod_eq_of_lt (hnext.trans_lt fits)]
  unfold Tried
  rw [hsum]
  exact ⟨⟨Nat.dvd_add hml dvd_rfl, by omega, hnext⟩, by omega⟩

/-- **The loop ends with the least common multiple**, when it starts with one of the two. -/
theorem lcmLoop_eq (hm : m = p ∨ m = q) (hp : 0 < p.toNat) (hq : 0 < q.toNat)
    (fits : p.toNat.lcm q.toNat < 2 ^ 32) :
    ∃ r, lcmLoop p q m = some r ∧ r.toNat = p.toNat.lcm q.toNat := by
  have hdvd : m.toNat ∣ p.toNat.lcm q.toNat ∧ 0 < m.toNat := by
    rcases hm with rfl | rfl
    · exact ⟨Nat.dvd_lcm_left .., hp⟩
    · exact ⟨Nat.dvd_lcm_right .., hq⟩
  have hstart : Tried p q m m := ⟨dvd_rfl, hdvd.2, le_of_dvd (lcm_pos hp hq) hdvd.1⟩
  have hstep := tried_step hdvd.2 hdvd.1 fits
  obtain ⟨r, hr⟩ := whileLoop_isSome_of_variant
    (fun l => p.toNat.lcm q.toNat - l.toNat) hstep hstart ((sub_le ..).trans fits.le)
  obtain ⟨⟨-, hrpos, hrle⟩, hrcond⟩ :=
    whileLoop_invariant (fun l hc hl => (hstep l hc hl).1) hstart hr
  rw [Bool.not_eq_false', isCommon_iff] at hrcond
  exact ⟨r, hr, le_antisymm hrle (le_of_dvd hrpos (Nat.lcm_dvd hrcond.1 hrcond.2))⟩

theorem toInt_lt_one (hp : 0 < p.toNat) : p.toInt < 1 ↔ 2 ^ 31 ≤ p.toNat := by
  have hlt := p.isLt
  rw [BitVec.toInt_eq_toNat_cond]
  split_ifs
  · omega
  · omega

/-- **`calculateLCM`** returns the least common multiple of two positive numbers exactly if they are
positive as an `int32_t`. -/
theorem calculateLCM_eq_iff (hp : 0 < p.toNat) (hq : 0 < q.toNat)
    (fits : p.toNat.lcm q.toNat < 2 ^ 32) :
    (∃ r, calculateLCM p q = some r ∧ r.toNat = p.toNat.lcm q.toNat) ↔ Signed p q := by
  have hlcm : 0 < p.toNat.lcm q.toNat := lcm_pos hp hq
  have hple := le_of_dvd hlcm (Nat.dvd_lcm_left p.toNat q.toNat)
  have hqle := le_of_dvd hlcm (Nat.dvd_lcm_right p.toNat q.toNat)
  have hpsigned := toInt_lt_one hp
  have hqsigned := toInt_lt_one hq
  unfold calculateLCM Signed
  split_ifs
  · refine iff_of_false ?_ (by omega)
    rintro ⟨r, hr, heq⟩
    cases hr
    rw [← heq] at hlcm
    exact absurd hlcm (by decide)
  · -- one of the two is returned, which is below the other
    refine iff_of_false ?_ (by omega)
    rintro ⟨r, hr, heq⟩
    cases hr
    omega
  · refine iff_of_false ?_ (by omega)
    rintro ⟨r, hr, heq⟩
    cases hr
    omega
  · exact iff_of_true (lcmLoop_eq (Or.inl rfl) hp hq fits) (by omega)
  · exact iff_of_true (lcmLoop_eq (Or.inr rfl) hp hq fits) (by omega)

/-! ## The alignment -/

theorem toNat_maxU32 (a b : BitVec 32) : (maxU32 a b).toNat = max a.toNat b.toNat := by
  unfold maxU32
  split_ifs with h
  · exact (max_eq_left (BitVec.lt_def.mp h).le).symm
  · exact (max_eq_right (not_lt.mp fun hlt => h (BitVec.lt_def.mpr hlt))).symm

theorem toNat_align (a b : BitVec 32) :
    (align a b).toNat = ((a.toNat + b.toNat) % 2 ^ 32).ldiff b.toNat :=
  (toNat_and_not (a + b) b).trans (by rw [BitVec.toNat_add])

/-- **The alignment** of a minimum is no less than it, and a multiple of the padding, exactly under
the condition. -/
theorem align_iff {a b : BitVec 32} :
    a.toNat ≤ (align a b).toNat ∧ b.toNat ∣ (align a b).toNat ↔ AlignsUp a.toNat b.toNat := by
  rw [toNat_align]
  unfold AlignsUp
  by_cases hsum : a.toNat + b.toNat < 2 ^ 32
  · rw [mod_eq_of_lt hsum, dvd_ldiff_iff, add_mod_right]
    exact and_congr_left fun _ => iff_of_true (le_ldiff_add ..) hsum
  · -- the sum is reduced, and then below the minimum
    refine iff_of_false (fun h => ?_) fun h => hsum h.1
    have hle := h.1.trans (ldiff_le ..)
    have ha := a.isLt
    have hb := b.isLt
    omega

/-- A merged minimum is no less than either, and a multiple of the merged padding, exactly under the
condition. -/
theorem minimum_iff (a b w : BitVec 32) {l : ℕ} (hw : w.toNat = l) :
    (a.toNat ≤ (align (maxU32 a b) w).toNat ∧ b.toNat ≤ (align (maxU32 a b) w).toNat) ∧
      w.toNat ∣ (align (maxU32 a b) w).toNat ↔ AlignsUp (max a.toNat b.toNat) l := by
  rw [← hw, ← toNat_maxU32, ← align_iff, toNat_maxU32, max_le_iff]

/-! ## The merge -/

variable {a b : PaddingInfo}

/-- **The merged paddings are good for both** exactly under the condition. -/
theorem mergePadding_iff (ha : Positive a) (hb : Positive b) (fits : Fits a b) :
    (∃ r, mergePadding a b = some r ∧ Satisfies a b r) ↔ Mergeable a b := by
  have hwidth := calculateLCM_eq_iff ha.width hb.width fits.width
  have hheight := calculateLCM_eq_iff ha.height hb.height fits.height
  have hplane := calculateLCM_eq_iff ha.plane hb.plane fits.plane
  unfold mergePadding
  simp only [Option.bind_eq_bind, Option.pure_def, Option.bind_eq_some_iff, Option.some.injEq]
  constructor
  · rintro ⟨r, ⟨h, hh, w, hw, p, hp, rfl⟩, good⟩
    exact ⟨hwidth.mp ⟨w, hw, good.width⟩, hheight.mp ⟨h, hh, good.height⟩,
      hplane.mp ⟨p, hp, good.plane⟩,
      (minimum_iff _ _ w good.width).mp ⟨good.stride, good.strideAligned⟩,
      (minimum_iff _ _ h good.height).mp ⟨good.scanline, good.scanlineAligned⟩⟩
  · intro mergeable
    obtain ⟨w, hw, hweq⟩ := hwidth.mpr mergeable.width
    obtain ⟨h, hh, hheq⟩ := hheight.mpr mergeable.height
    obtain ⟨p, hp, hpeq⟩ := hplane.mpr mergeable.plane
    obtain ⟨hstride, hstrideAligned⟩ := (minimum_iff _ _ w hweq).mpr mergeable.stride
    obtain ⟨hscanline, hscanlineAligned⟩ := (minimum_iff _ _ h hheq).mpr mergeable.scanline
    exact ⟨_, ⟨h, hh, w, hw, p, hp, rfl⟩, hweq, hheq, hpeq, hstride, hscanline, hstrideAligned,
      hscanlineAligned⟩

/-- **The merged entry is good for both** exactly under the condition, when a valid entry for the
face detection and a valid one for the PAAF are merged. -/
theorem getAnalysisInfo_satisfies_iff (fdVideoEnabled hal3 : Bool) (featureMask : BitVec 64)
    (cap : Capability) (info fd : AnalysisInfo)
    (chosen : fdInfo fdVideoEnabled hal3 cap { info with valid := 0 } = fd) (valid : fd.valid ≠ 0)
    (feature : featureMask &&& featurePaaf ≠ 0) (paaf : cap.paaf.valid ≠ 0)
    (fdPositive : Positive fd.analysisPaddingInfo)
    (paafPositive : Positive cap.paaf.analysisPaddingInfo)
    (fits : Fits fd.analysisPaddingInfo cap.paaf.analysisPaddingInfo) :
    (∃ r, getAnalysisInfo fdVideoEnabled hal3 featureMask cap info = some (noError, r) ∧
      Satisfies fd.analysisPaddingInfo cap.paaf.analysisPaddingInfo r.analysisPaddingInfo) ↔
        Mergeable fd.analysisPaddingInfo cap.paaf.analysisPaddingInfo := by
  rw [← mergePadding_iff fdPositive paafPositive fits]
  unfold getAnalysisInfo
  rw [chosen, if_pos ⟨feature, paaf⟩, if_neg valid]
  unfold mergePaaf
  simp only [Option.bind_eq_bind, Option.pure_def, Option.bind_eq_some_iff, Option.some.injEq,
    Prod.mk.injEq]
  constructor
  · rintro ⟨r, ⟨_, ⟨p, hp, rfl⟩, -, rfl⟩, good⟩
    exact ⟨p, hp, good⟩
  · rintro ⟨p, hp, good⟩
    exact ⟨_, ⟨_, ⟨p, hp, rfl⟩, if_pos valid, rfl⟩, good⟩

theorem getAnalysisInfo_satisfies_iff_entryOf :
    (∃ r, getAnalysisInfo false false featurePaaf
        ⟨entryOf 96 96, entryOf 96 96, entryOf 32 64⟩ (entryOf 0 0) = some (noError, r) ∧
      Satisfies (entryOf 96 96).analysisPaddingInfo (entryOf 32 64).analysisPaddingInfo
        r.analysisPaddingInfo) ↔
      Mergeable (entryOf 96 96).analysisPaddingInfo (entryOf 32 64).analysisPaddingInfo :=
  getAnalysisInfo_satisfies_iff false false featurePaaf _ _ (entryOf 96 96) rfl (by decide)
    (by decide) (by decide) ⟨by decide, by decide, by decide⟩ ⟨by decide, by decide, by decide⟩
    ⟨by decide, by decide, by decide⟩

end

end QCameraCommon
