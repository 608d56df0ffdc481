import MidoCamera.Library.Bytes
import Mathlib.Data.Int.Bitwise

/-!
# Composing an MPO image

A primary JPEG and auxiliary ones are put one after the other, and the MP entries of the primary get
their sizes and offsets. The entries are behind the MP Index IFD, which is found by way of the APP2
segment; the offsets are from the MP header on. The header is in either byte order.

The number of tags of the IFD is read with the most significant byte first, whatever the order of
the header: with the other one the entries are looked for in the wrong place. And a primary image
that fills the buffer is refused, although nothing else is to be appended.
-/

namespace MmJpeg

open Loop List Option Nat

variable {addr endianess off v : ℕ}

def mApp2 : UInt8 := 0xe2

def mEoi : UInt8 := 0xd9

def mSoi : UInt8 := 0xd8

def mpoLittleEndian : ℕ := 0x49492A00

def mpApp2FieldLengthBytes : ℕ := 2

def mpFormatIdentifierBytes : ℕ := 4

def mpEndianBytes : ℕ := 4

def mpIndexCountBytes : ℕ := 2

def mpIndexOffsetOfNextIfdBytes : ℕ := 4

def mpIndexEntryValueBytes : ℕ := 16

def mpIndexEntryIndividualImageAttributeBytes : ℕ := 4

def mpIndexEntryIndividualImageSizeBytes : ℕ := 4

/-! ## Reading and writing -/

/-- `READ_LONG`. A read outside the buffer fails. -/
def readLong (b : List UInt8) (o : ℕ) : Option ℕ := do
  let b₀ ← b[o]?
  let b₁ ← b[o + 1]?
  let b₂ ← b[o + 2]?
  let b₃ ← b[o + 3]?
  some ((b₀.toNat <<< 24) + (b₁.toNat <<< 16) + (b₂.toNat <<< 8) + b₃.toNat)

def readLongLittle (b : List UInt8) (o : ℕ) : Option ℕ := do
  let b₃ ← b[o + 3]?
  let b₂ ← b[o + 2]?
  let b₁ ← b[o + 1]?
  let b₀ ← b[o]?
  some ((b₃.toNat <<< 24) + (b₂.toNat <<< 16) + (b₁.toNat <<< 8) + b₀.toNat)

def readShort (b : List UInt8) (o : ℕ) : Option ℕ := do
  let b₀ ← b[o]?
  let b₁ ← b[o + 1]?
  some ((b₀.toNat <<< 8) + b₁.toNat)

def uint32 (n : ℕ) : ℕ := n % 2 ^ 32

/-- A number as an `int`. -/
def toInt (n : ℕ) : ℤ := (n : ℤ).bmod (2 ^ 32)

/-- The byte `(value >> shift) & 0xFF` of an `int`. -/
def byteOf (value : ℤ) (shift : ℕ) : UInt8 := UInt8.ofNat ((value % 2 ^ 32).toNat >>> shift &&& 0xFF)

/-- A byte is written at a 32-bit offset. A write outside the buffer fails. -/
def writeByte (b : List UInt8) (o : ℕ) (byte : UInt8) : Option (List UInt8) :=
  if uint32 o < b.length then some (b.set (uint32 o) byte) else none

/-- `mm_jpeg_mpo_write_long_little_endian`: the buffer, and the overflow flag. -/
def writeLongLittleEndian (buffOffset bufferSize : ℕ) (value : ℤ) (s : List UInt8 × Bool) :
    Option (List UInt8 × Bool) :=
  let overflow := if bufferSize ≤ uint32 (buffOffset + 3) then true else s.2
  if !overflow then do
    let buf ← writeByte s.1 (buffOffset + 3) (byteOf value 24)
    let buf ← writeByte buf (buffOffset + 2) (byteOf value 16)
    let buf ← writeByte buf (buffOffset + 1) (byteOf value 8)
    let buf ← writeByte buf buffOffset (byteOf value 0)
    some (buf, overflow)
  else some (s.1, overflow)

def writeLong (buffOffset bufferSize : ℕ) (value : ℤ) (s : List UInt8 × Bool) :
    Option (List UInt8 × Bool) :=
  let overflow := if bufferSize ≤ uint32 (buffOffset + 3) then true else s.2
  if !overflow then do
    let buf ← writeByte s.1 buffOffset (byteOf value 24)
    let buf ← writeByte buf (buffOffset + 1) (byteOf value 16)
    let buf ← writeByte buf (buffOffset + 2) (byteOf value 8)
    let buf ← writeByte buf (buffOffset + 3) (byteOf value 0)
    some (buf, overflow)
  else some (s.1, overflow)

/-- A value is written in the order that the header says. -/
def writeEntry (endianess buffOffset bufferSize : ℕ) (value : ℤ) (s : List UInt8 × Bool) :
    Option (List UInt8 × Bool) :=
  if endianess = mpoLittleEndian then writeLongLittleEndian buffOffset bufferSize value s
  else writeLong buffOffset bufferSize value s

/-! ## Finding the header -/

/-- The inner loop of `mm_jpeg_mpo_get_app_marker`, from an address on, with the bytes from there:
the byte it ends with, and the address behind it. `last` is `buffer_size - 1`. -/
def skipTo (last : ℤ) : ℕ → List UInt8 → Option (UInt8 × ℕ)
  | _, [] => none
  | addr, byte :: rest =>
    if byte ≠ 0xFF ∧ (addr + 1 : ℕ) < last then skipTo last (addr + 1) rest
    else some (byte, addr + 1)

/-- The size of the segment of a marker at an address; `SOI` has none. -/
def appMarkerSize (buf : List UInt8) (addr : ℕ) (byte : UInt8) : Option ℕ :=
  if byte ≠ mSoi then readShort buf (addr + 1) else some 0

/-- The outer loop of `mm_jpeg_mpo_get_app_marker`. -/
def markerLoop (buf : List UInt8) (last : ℤ) (appMarker : UInt8) : ℕ → ℕ → Option (Option ℕ)
  | 0, _ => none
  | fuel + 1, addr => do
    let (byte, addr) ← skipTo last addr (buf.drop addr)
    if byte ≠ 0xFF then some none
    else
      let byte ← buf[addr]?
      if byte = appMarker then some (some (addr + 1))
      else
        let size ← appMarkerSize buf addr byte
        let addr := addr + size
        if byte ≠ mEoi ∧ (addr : ℤ) < last then markerLoop buf last appMarker fuel addr
        else some none

/-- `mm_jpeg_mpo_get_app_marker`: the offset behind the marker, if there is one. Each round of the
loop goes on by a byte at least. -/
def getAppMarker (buf : List UInt8) (bufferSize : ℤ) (appMarker : UInt8) : Option (Option ℕ) :=
  markerLoop buf (bufferSize - 1) appMarker (buf.length + 1) 0

def getMpHeader (app2StartOffset : ℕ) : ℕ :=
  app2StartOffset + mpApp2FieldLengthBytes + mpFormatIdentifierBytes

/-! ## Composing -/

/-- The loop of `mm_jpeg_mpo_update_header` over the lengths of the auxiliary images: `aux` is where
the next one starts. -/
def auxEntries (endianess bufferSize mpHeader : ℕ) : List ℕ → ℕ → ℕ → List UInt8 × Bool →
    Option (List UInt8 × Bool)
  | [], _, _, s => some s
  | len :: lens, entry, aux, s => do
    let entry := uint32 (entry + mpIndexEntryValueBytes)
    let currentOffset := uint32 (entry + mpIndexEntryIndividualImageAttributeBytes)
    let s ← writeEntry endianess currentOffset bufferSize len s
    let currentOffset := uint32 (currentOffset + mpIndexEntryIndividualImageSizeBytes)
    let s ← writeEntry endianess currentOffset bufferSize ((aux : ℤ) - mpHeader) s
    auxEntries endianess bufferSize mpHeader lens entry (aux + len) s

def readOffset (endianess : ℕ) (b : List UInt8) (o : ℕ) : Option ℕ :=
  if endianess = mpoLittleEndian then readLongLittle b o else readLong b o

/-- The way of `mm_jpeg_mpo_update_header` from the MP header to the MP entries: the byte order, and
the offset of the entries. -/
def mpEntryVal (buf : List UInt8) (mpHeader : ℕ) : Option (ℕ × ℕ) := do
  let currentOffset := uint32 mpHeader
  let endianess ← readLong buf currentOffset
  -- offset to the first IFD
  let currentOffset := uint32 (currentOffset + mpEndianBytes)
  let offsetToNxtIfd ← readOffset endianess buf currentOffset
  let currentOffset := uint32 (mpHeader + offsetToNxtIfd)
  -- the count is read in one order only
  let ifdTagCount ← readShort buf currentOffset
  let currentOffset := uint32 (currentOffset + mpIndexCountBytes)
  let currentOffset := uint32 (currentOffset + ifdTagCount * 12)
  some (endianess, uint32 (currentOffset + mpIndexOffsetOfNextIfdBytes))

/-- `mm_jpeg_mpo_update_header`: the return code, and the buffer. -/
def updateHeader (buf : List UInt8) (primaryLen : ℕ) (auxLens : List ℕ) :
    Option (ℤ × List UInt8) := do
  let bufferSize := uint32 buf.length
  match ← getAppMarker buf (toInt primaryLen) mApp2 with
  | none => some (-1, buf)
  | some app2 =>
    let mpHeader := getMpHeader app2
    let (endianess, mpEntryValOffset) ← mpEntryVal buf mpHeader
    let currentOffset := uint32 (mpEntryValOffset + mpIndexEntryIndividualImageAttributeBytes)
    let s ← writeEntry endianess currentOffset bufferSize primaryLen (buf, false)
    let s ← auxEntries endianess bufferSize mpHeader auxLens mpEntryValOffset primaryLen s
    some (if s.2 then -1 else 0, s.1)

/-- `mm_jpeg_mpo_info_t`: the images with their filled lengths, the memory of the output buffer, and
its filled length. -/
structure MpoInfo where
  primaryImage : List UInt8
  auxImages : List (List UInt8)
  outputBuff : List UInt8
  bufFilledLen : ℕ := 0
  deriving DecidableEq, Repr

namespace MpoInfo

/-- The primary image is copied, unless the buffer has it already: whether it fits. -/
def copyPrimary (info : MpoInfo) : Bool × MpoInfo :=
  if info.bufFilledLen = 0 then
    if info.primaryImage.length < info.outputBuff.length then
      (true, { info with
        outputBuff := store info.outputBuff 0 info.primaryImage
        bufFilledLen := info.primaryImage.length })
    else (false, info)
  else (true, info)

/-- The auxiliary images are appended: whether they fit. -/
def appendAux : List (List UInt8) → MpoInfo → Bool × MpoInfo
  | [], info => (true, info)
  | image :: rest, info =>
    if info.bufFilledLen + image.length ≤ info.outputBuff.length then
      appendAux rest { info with
        outputBuff := store info.outputBuff info.bufFilledLen image
        bufFilledLen := info.bufFilledLen + image.length }
    else (false, info)

/-- `mm_jpeg_mpo_compose`: the return code, and what it leaves. -/
def mpoCompose (info : MpoInfo) : Option (ℤ × MpoInfo) :=
  let (ok, info) := info.copyPrimary
  if !ok then some (-1, info)
  else
    let (ok, info) := appendAux info.auxImages info
    if !ok then some (-1, info)
    else do
      let (rc, buf) ← updateHeader info.outputBuff info.primaryImage.length
        (info.auxImages.map List.length)
      some (rc, { info with outputBuff := buf })

end MpoInfo

/-- Where an MP header is, its byte order, where its MP Index IFD is, and the number of tags there.
-/
structure MpIndex where
  header : ℕ
  endian : Endian
  index : ℕ
  count : ℕ
  deriving DecidableEq, Repr

/-- The MP entries are behind the tags, of 12 bytes each, and the offset of the next IFD. -/
def MpIndex.entries (m : MpIndex) : ℕ := m.index + 2 + 12 * m.count + 4

namespace MpoInfo

def images (info : MpoInfo) : List UInt8 := info.primaryImage ++ info.auxImages.flatten

/-- A byte of a field of the MP entries that is updated: the size of an image, and for an auxiliary
one its offset, which is next to it. -/
def Updated (info : MpoInfo) (entries p : ℕ) : Prop :=
  (entries + 4 ≤ p ∧ p < entries + 8) ∨ ∃ i, 1 ≤ i ∧ i ≤ info.auxImages.length ∧
    entries + 16 * i + 4 ≤ p ∧ p < entries + 16 * i + 12

/-- **A composed image**: the images one after the other, but for the MP entries, which have the
sizes of the images and say where the auxiliary ones start. -/
structure Composed (info : MpoInfo) (m : MpIndex) (out : List UInt8) : Prop where
  length : out.length = info.outputBuff.length
  images : ∀ p < info.images.length, ¬info.Updated m.entries p → out[p]? = info.images[p]?
  primary : (load out (m.entries + 4) 4).map m.endian.decode = some info.primaryImage.length
  aux : ∀ i (h : i < info.auxImages.length),
    (load out (m.entries + 16 * (i + 1) + 4) 4).map m.endian.decode =
      some info.auxImages[i].length ∧
    ∃ off, (load out (m.entries + 16 * (i + 1) + 8) 4).map m.endian.decode = some off ∧
      off + m.header = info.primaryImage.length + (info.auxImages.take i).flatten.length

/-- The images and the MP entries fit into the output buffer. -/
def Fits (info : MpoInfo) (entries : ℕ) : Prop :=
  info.images.length ≤ info.outputBuff.length ∧
    entries + 16 * (info.auxImages.length + 1) ≤ info.outputBuff.length

/-- **What composing does right**: images that fit are composed, and others are refused. -/
def Right (info : MpoInfo) (m : MpIndex) : Prop :=
  ∃ rc out, info.mpoCompose = some (rc, out) ∧
    (info.Fits m.entries → rc = 0 ∧ info.Composed m out.outputBuff) ∧
    (¬info.Fits m.entries → rc = -1)

/-- The output buffer is empty, or it has the primary image already. -/
def Ready (info : MpoInfo) : Prop :=
  info.bufFilledLen = 0 ∨ info.bufFilledLen = info.primaryImage.length ∧
    info.outputBuff.take info.primaryImage.length = info.primaryImage

end MpoInfo

/-! ## Reading and writing -/

section

variable {b l r : List UInt8} {o n : ℕ}

theorem readLong_eq (b : List UInt8) (o : ℕ) : readLong b o = (load b o 4).map Endian.big.decode := by
  simp only [readLong, load, bind_eq_bind]
  rcases b[o]? with _ | b₀
  · rfl
  rcases b[o + 1]? with _ | b₁
  · rfl
  rcases b[o + 2]? with _ | b₂
  · rfl
  rcases b[o + 3]? with _ | b₃
  · rfl
  simp [Endian.decode, ofLowBytes, shiftLeft_eq]
  ring

theorem readLongLittle_eq (b : List UInt8) (o : ℕ) :
    readLongLittle b o = (load b o 4).map Endian.little.decode := by
  simp only [readLongLittle, load, bind_eq_bind]
  rcases b[o]? with _ | b₀ <;> rcases b[o + 1]? with _ | b₁ <;> rcases b[o + 2]? with _ | b₂ <;>
    rcases b[o + 3]? with _ | b₃ <;> simp [Endian.decode, ofLowBytes, shiftLeft_eq]
  ring

theorem readShort_eq (b : List UInt8) (o : ℕ) :
    readShort b o = (load b o 2).map Endian.big.decode := by
  simp only [readShort, load, bind_eq_bind]
  rcases b[o]? with _ | b₀
  · rfl
  rcases b[o + 1]? with _ | b₁
  · rfl
  simp [Endian.decode, ofLowBytes, shiftLeft_eq]
  ring

theorem writeEntry_over {size : ℕ} {v : ℤ} (buf : List UInt8) {overflow : Bool}
    (h : overflow = true ∨ size ≤ uint32 (off + 3)) :
    writeEntry endianess off size v (buf, overflow) = some (buf, true) := by
  have hflag : (if size ≤ uint32 (off + 3) then true else overflow) = true := by
    rcases h with rfl | h
    · split_ifs <;> rfl
    · exact if_pos h
  unfold writeEntry writeLongLittleEndian writeLong
  dsimp only
  rw [hflag, Bool.not_true, if_neg Bool.false_ne_true, if_neg Bool.false_ne_true]
  split_ifs <;> rfl

end

/-! ## Finding the header -/

section

variable {l r : List UInt8} {last : ℤ} {marker : UInt8}

theorem skipTo_append {res : UInt8 × ℕ} (h : skipTo last addr l = some res) :
    skipTo last addr (l ++ r) = some res := by
  induction l generalizing addr with
  | nil => cases h
  | cons byte l ih =>
    rw [cons_append, skipTo]
    rw [skipTo] at h
    split_ifs at h ⊢
    · exact ih h
    · exact h

theorem readShort_append {o n : ℕ} (h : readShort l o = some n) :
    readShort (l ++ r) o = some n := by
  rw [readShort_eq] at h ⊢
  obtain ⟨bs, hbs, rfl⟩ := map_eq_some_iff.mp h
  rw [load_append hbs]
  rfl

theorem appMarkerSize_append {n : ℕ} {byte : UInt8} (h : appMarkerSize l addr byte = some n) :
    appMarkerSize (l ++ r) addr byte = some n := by
  unfold appMarkerSize at h ⊢
  split_ifs at h ⊢
  · exact readShort_append h
  · exact h

/-- **A marker that is found** in an image is found with more bytes behind it, and with more rounds
to go. -/
theorem markerLoop_append {fuel more : ℕ} {res : Option ℕ}
    (h : markerLoop l last marker fuel addr = some res) :
    markerLoop (l ++ r) last marker (fuel + more) addr = some res := by
  induction fuel generalizing addr with
  | zero => cases h
  | succ fuel ih =>
    rw [Nat.add_right_comm, markerLoop]
    rw [markerLoop] at h
    simp only [bind_eq_bind, bind_eq_some_iff] at h ⊢
    obtain ⟨⟨byte, addr'⟩, hskip, h⟩ := h
    refine ⟨(byte, addr'), ?_, ?_⟩
    · rw [drop_append]
      exact skipTo_append hskip
    dsimp only at h ⊢
    split_ifs at h ⊢
    · exact h
    obtain ⟨byte', hbyte, h⟩ := bind_eq_some_iff.mp h
    have hget : (l ++ r)[addr']? = some byte' := by
      rw [getElem?_append_left (List.getElem?_eq_some_iff.mp hbyte).1, hbyte]
    refine bind_eq_some_iff.mpr ⟨byte', hget, ?_⟩
    split_ifs at h ⊢ with hmarker
    · exact h
    obtain ⟨size, hsize, h⟩ := bind_eq_some_iff.mp h
    refine bind_eq_some_iff.mpr ⟨size, appMarkerSize_append hsize, ?_⟩
    split_ifs at h ⊢
    · exact ih h
    · exact h

theorem skipTo_lt {res : UInt8 × ℕ} (h : skipTo last addr l = some res) :
    addr < res.2 := by
  induction l generalizing addr with
  | nil => cases h
  | cons byte l ih =>
    rw [skipTo] at h
    split_ifs at h
    · exact lt_of_succ_lt (ih h)
    · cases h
      exact lt_succ_self addr

/-- **The rounds suffice**: there are no more of them than bytes. -/
theorem markerLoop_rounds {fuel : ℕ} (h : l.length < addr + fuel) :
    markerLoop l last marker (fuel + 1) addr = markerLoop l last marker fuel addr := by
  induction fuel generalizing addr with
  | zero =>
    rw [markerLoop, markerLoop, drop_eq_nil_of_le (by omega)]
    rfl
  | succ fuel ih =>
    rw [markerLoop, markerLoop]
    rcases hskip : skipTo last addr (l.drop addr) with _ | ⟨byte, addr'⟩
    · rfl
    have hlt : addr < addr' := skipTo_lt hskip
    have hrest : ∀ size, markerLoop l last marker (fuel + 1) (addr' + size) =
        markerLoop l last marker fuel (addr' + size) := fun size => ih (by omega)
    simp only [bind_eq_bind, bind_some, hrest]

theorem getAppMarker_append {size : ℤ} {res : Option ℕ} (h : getAppMarker l size marker = some res) :
    getAppMarker (l ++ r) size marker = some res := by
  unfold getAppMarker at h ⊢
  rw [List.length_append, Nat.add_right_comm]
  exact markerLoop_append h

end

/-! ## The entries -/

section

variable {buf : List UInt8} {e : Endian} {endianess : ℕ}

/-- **The entries of the auxiliary images**: what the loop leaves of the buffer `buf` and the flag.
-/
structure Entered (e : Endian) (header : ℕ) (lens : List ℕ) (entry aux : ℕ)
    (buf : List UInt8) (overflow : Bool) (s : List UInt8 × Bool) : Prop where
  length : s.1.length = buf.length
  flag : s.2 = false ↔
    overflow = false ∧ (lens = [] ∨ entry + 16 * lens.length + 12 ≤ buf.length)
  others : ∀ p, (∀ i, 1 ≤ i → i ≤ lens.length →
    ¬(entry + 16 * i + 4 ≤ p ∧ p < entry + 16 * i + 12)) → s.1[p]? = buf[p]?
  fields : s.2 = false → ∀ i (h : i < lens.length),
    (load s.1 (entry + 16 * (i + 1) + 4) 4).map e.decode = some lens[i] ∧
      (load s.1 (entry + 16 * (i + 1) + 8) 4).map e.decode =
        some (aux + (lens.take i).sum - header)

end

/-! ## Composing -/

section

variable {info : MpoInfo} {m : MpIndex}

namespace MpoInfo

end MpoInfo

namespace MpoInfo

end MpoInfo

end

end MmJpeg
