import MidoCamera.Channel.SlotMapping
import Mathlib.Tactic.Ring

/-!
# The planes of a buffer definition

`getBufDef` fills the planes in a loop after the first one, in HAL3 and in HAL1. In both, the loop
takes the fd of a plane from the slot that has the plane's number.
-/

namespace StreamBufs

/-- `cam_stream_buf_type`. -/
inductive BufType
  | MPLANE
  | USERPTR
  deriving DecidableEq

/-- The definition of HAL1, with the type of the buffer. -/
structure QCameraBufDef extends BufDef where
  bufType : BufType := .MPLANE

/-- `QCameraMemory::getBufDef`, which returns no status. -/
def QCameraMemory.getBufDef (m : Memory) (offset : FrameLenOffset) (bufDef : QCameraBufDef)
    (buffer : Option ℕ) (index : ℕ) : QCameraBufDef :=
  if m.bufferCount = 0 then bufDef
  else
    { memInfo := true
      fd := (m.memInfo index).fd
      frameLen := (m.memInfo index).size
      bufType := .MPLANE
      buffer := buffer
      numPlanes := offset.numPlanes
      bufIdx := index
      planes := m.planes offset index }

/-- **The definition describes a buffer** of this fd: every plane leads to it, and has the length and
the offset of the layout, and the lengths of those before it as its start. -/
def BufDef.DescribesPlanes (d : BufDef) (offset : FrameLenOffset) (fd : ℤ) : Prop :=
  ∀ p < offset.numPlanes, (d.planes p).userptr = fd ∧ (d.planes p).length = offset.len p ∧
    (d.planes p).dataOffset = offset.offset p ∧
    (d.planes p).reserved = ((List.range p).map offset.len).sum

/-- The slots that the planes after the first take their fds from have the fd of the buffer. -/
def Memory.PlanesHold (m : Memory) (numPlanes index : ℕ) : Prop :=
  ∀ p, 0 < p → p < numPlanes → (m.memInfo p).fd = (m.memInfo index).fd

section

variable {m : Memory} {offset : FrameLenOffset} {index : ℕ}

/-- **A plane**: all but its fd are as the layout has it. -/
theorem Memory.planes_eq (m : Memory) (index p : ℕ) (hp : p < offset.numPlanes) :
    m.planes offset index p = ⟨offset.len p, (m.memInfo (if p = 0 then index else p)).fd,
      offset.offset p, ((List.range p).map offset.len).sum⟩ := by
  induction p with
  | zero => rfl
  | succ p ih =>
    unfold planes
    rw [if_pos hp, ih (by omega), List.range_succ, List.map_append, List.sum_append]
    simp

theorem Memory.describesPlanes_iff (m : Memory) (index : ℕ) {d : BufDef}
    (planes : d.planes = m.planes offset index) :
    d.DescribesPlanes offset (m.memInfo index).fd ↔ m.PlanesHold offset.numPlanes index := by
  unfold BufDef.DescribesPlanes
  rw [planes]
  constructor
  · intro h p hp hlt
    have hfd := (h p hlt).1
    rw [m.planes_eq index p hlt, if_neg (by omega)] at hfd
    exact hfd
  · intro h p hlt
    rw [m.planes_eq index p hlt]
    refine ⟨?_, rfl, rfl, rfl⟩
    rcases Nat.eq_zero_or_pos p with rfl | hp
    · rfl
    · rw [if_neg (by omega)]
      exact h p hp hlt

/-- **Both definitions describe the buffer** exactly if the slots that have the numbers of the
planes have its fd. -/
theorem getBufDef_planes_iff (counted : m.bufferCount ≠ 0) (offset : FrameLenOffset) (index : ℕ)
    (buffer : Option ℕ) (d : BufDef) (e : QCameraBufDef) :
    ((m.getBufDef offset d buffer index).1.DescribesPlanes offset (m.memInfo index).fd ↔
        m.PlanesHold offset.numPlanes index) ∧
      ((QCameraMemory.getBufDef m offset e buffer index).toBufDef.DescribesPlanes offset
          (m.memInfo index).fd ↔ m.PlanesHold offset.numPlanes index) := by
  constructor
  · refine m.describesPlanes_iff index ?_
    rw [Memory.getBufDef, if_neg counted]
  · refine m.describesPlanes_iff index ?_
    rw [QCameraMemory.getBufDef, if_neg counted]

/-- Two buffers with fds of their own. -/
def twoBuffers : Memory where
  bufferCount := 2
  memInfo i := ⟨10 + i, 4096, true⟩

/-- Frames of two planes. -/
def twoPlanes : FrameLenOffset := ⟨2, fun p => 2048 / (p + 1), fun _ => 0⟩

/-- Slot 1 has the fd that its second plane needs. -/
theorem getBufDef_planes_second :
    (twoBuffers.getBufDef twoPlanes {} none 1).1.DescribesPlanes twoPlanes 11 :=
  (getBufDef_planes_iff (m := twoBuffers) (by decide) twoPlanes 1 none {} {}).1.mpr
    fun p hp hlt => by
      have hlt : p < 2 := hlt
      rw [show p = 1 by omega]

/-- **The second plane of slot 0 leads to slot 1**, in both. -/
theorem getBufDef_planes_crossed : ¬∀ (m : Memory) (offset : FrameLenOffset) (index : ℕ)
    (d : BufDef) (e : QCameraBufDef), m.bufferCount ≠ 0 → (m.memInfo index).handle = true →
      (m.getBufDef offset d none index).1.DescribesPlanes offset (m.memInfo index).fd ∧
        (QCameraMemory.getBufDef m offset e none index).toBufDef.DescribesPlanes offset
          (m.memInfo index).fd := by
  intro h
  have hfd := ((h twoBuffers twoPlanes 0 {} {} (by decide) rfl).1 1 (by decide)).1
  exact absurd hfd (by decide)

end

end StreamBufs
