import MidoCamera.Preview.Display
import Mathlib.Data.List.Perm.Subperm
import Mathlib.Data.List.Nodup

/-!
# The preview buffers are conserved

Each buffer that the camera owns is queued to the driver, or it is in a callback, or `mapNewBuffer`
or `bufDone` has failed for it; each of the others is with the display. A buffer is in a callback as
long as its frame waits, but where the synchronous callback sends frames to the display, only frames
that are skipped are in a callback after it.
-/

namespace Hal1Preview

open Loop Function List PreviewPc

variable {s t : Preview} {b i h left : ℕ} {hand : List ℕ} {err : Bool} {o : Outcome}

namespace Preview

def waiting (s : Preview) : List ℕ := s.sync.frames ++ s.dataQ

def quiet (s : Preview) : Prop := s.pc = .idle ∧ ∀ b, s.sync ≠ .counting b

/-- **Each buffer is with the driver or with the display**, never both and never neither, unless its
frame waits for a callback, or a call for this buffer has failed; and `mEnqueuedBuffers` is what it
was at the start, and what has been enqueued since, less what has been dequeued. -/
structure Conserved (initial : ℕ) (s : Preview) : Prop where
  one : ∀ i < s.mMappableBuffers, i ∉ s.waiting → i ∉ s.failed →
    s.driver.count i = 1 ∧ s.mLocalFlag i = true ∨ s.driver.count i = 0 ∧ s.mLocalFlag i = false
  count : s.mEnqueuedBuffers + s.dequeued = initial + s.enqueued

end Preview

def SyncPc.fresh : SyncPc → List ℕ
  | .entered b => [b]
  | _ => []

def SyncPc.owes : SyncPc → ℕ
  | .counting _ => 1
  | _ => 0

def PreviewPc.owes : PreviewPc → ℕ
  | .counting true => 1
  | _ => 0

@[simp] theorem PreviewPc.loop_owes (left : ℕ) (err : Bool) : (PreviewPc.loop left err).owes = 0 := by
  rw [loop]
  split <;> rfl

namespace Preview

def inCallback (s : Preview) (i : ℕ) : ℕ :=
  if s.isSyncCBEnabled then s.sync.fresh.count i + if s.mBufferStatus i then 1 else 0
  else s.waiting.count i

/-- **A buffer that the camera owns is in one place.** -/
structure Placed (s : Preview) (hand : List ℕ) : Prop where
  own : ∀ i < s.mMappableBuffers,
    s.driver.count i + s.inCallback i + s.failed.count i + hand.count i =
      if s.mLocalFlag i then 1 else 0
  mapped : ∀ i, i ∈ s.driver ∨ i ∈ s.waiting ∨ i ∈ s.failed ∨ i ∈ hand ∨ s.mBufferStatus i = true →
    i < s.mMappableBuffers
  skipped : s.isSyncCBEnabled = true → ∀ i, s.mBufferStatus i = true → i ∈ s.waiting
  mode : s.isSyncCBEnabled = false → s.sync.fresh = [] ∧ ∀ b, s.sync ≠ .counting b

def seen (s : Preview) (h : ℕ) : Bool :=
  (List.range s.mMappableBuffers).any fun i => s.mBufferHandle i == some h

/-- **The display has the buffers that the camera does not own**, and those that have not been seen;
for these there is a place in the table. -/
structure Table (s : Preview) : Prop where
  known : ∀ i < s.mMappableBuffers, ∃ h, s.mBufferHandle i = some h ∧
    (h ∈ s.display ↔ s.mLocalFlag i = false)
  single : ∀ i < s.mMappableBuffers, ∀ j < s.mMappableBuffers,
    s.mBufferHandle i = s.mBufferHandle j → i = j
  nodup : s.display.Nodup
  room : s.mMappableBuffers + (s.display.filter fun h => !s.seen h).length ≤ s.mBufferCount
  bound : s.mBufferCount < 256

/-- How many buffers have been enqueued and are still to be counted. -/
def uncounted (s : Preview) : ℕ := s.sync.owes + s.pc.owes

/-- **`mEnqueuedBuffers` against the display.** -/
structure Counted (initial : ℕ) (s : Preview) : Prop where
  count : s.mEnqueuedBuffers + s.uncounted + s.dequeued = initial + s.enqueued
  shown : s.mEnqueuedBuffers + s.uncounted ≤ s.display.length
  loop : ∀ left err, s.pc = .dequeuing left err → left ≤ s.mEnqueuedBuffers ∧ 0 < left

/-- The invariant. -/
structure Kept (initial : ℕ) (s : Preview) : Prop where
  placed : s.Placed []
  table : s.Table
  counted : s.Counted initial

theorem Kept.conserved {initial : ℕ} (h : s.Kept initial) (quiet : s.quiet) :
    s.Conserved initial := by
  refine ⟨fun i hi hwaiting hfailed => ?_, ?_⟩
  · have hown := h.placed.own i hi
    have hnone : s.inCallback i = 0 := by
      rw [inCallback]
      split
      case isTrue hsync =>
        -- a buffer that is skipped has a frame that waits
        have hskip : s.mBufferStatus i = false := by
          by_contra hskip
          exact hwaiting (h.placed.skipped hsync i (by simpa using hskip))
        have hfresh : i ∉ s.sync.fresh := fun hmem => hwaiting (mem_append_left _ (by
          cases hs : s.sync with
          | entered b => simpa [hs, SyncPc.fresh, SyncPc.frames] using hmem
          | _ => simp [hs, SyncPc.fresh] at hmem))
        rw [count_eq_zero.mpr hfresh, if_neg (by simp [hskip])]
      case isFalse => exact count_eq_zero.mpr hwaiting
    rw [hnone, count_eq_zero.mpr hfailed, count_nil] at hown
    cases hflag : s.mLocalFlag i <;> rw [hflag] at hown <;> simp at hown
    · exact .inr ⟨hown, rfl⟩
    · exact .inl ⟨hown, rfl⟩
  · have hcount := h.counted.count
    have hzero : s.uncounted = 0 := by
      rw [uncounted, quiet.1]
      cases hs : s.sync with
      | counting b => exact absurd hs (quiet.2 b)
      | _ => rfl
    omega

/-- A buffer has been sent to the display. -/
def sent (s : Preview) (b : ℕ) : Preview :=
  { s with
    mLocalFlag := update s.mLocalFlag b false
    display := s.display ++ (s.mBufferHandle b).toList
    enqueued := s.enqueued + 1 }

theorem enqueueBuffer_owned (hflag : s.mLocalFlag b = true) :
    s.enqueueBuffer b true = (true, s.sent b) := by
  rw [enqueueBuffer, hflag]
  rfl

/-- The buffer in the hand is given to the driver, or a call for it fails. -/
theorem Placed.bufDone (h : s.Placed [b]) (ok : Bool) : (s.bufDone b ok).Placed [] := by
  cases ok with
  | true =>
    refine ⟨fun i hi => ?_, fun i hi => h.mapped i ?_, h.skipped, h.mode⟩
    · have hown := h.own i hi
      simp only [Preview.bufDone, if_true, count_append, count_nil]
      simp only [inCallback, waiting] at hown ⊢
      omega
    · simp only [Preview.bufDone, if_true, mem_append] at hi
      rcases hi with (hi | hi) | hi | hi | hi | hi
      · exact .inl hi
      · exact .inr (.inr (.inr (.inl hi)))
      · exact .inr (.inl hi)
      · exact .inr (.inr (.inl hi))
      · cases hi
      · exact .inr (.inr (.inr (.inr hi)))
  | false =>
    refine ⟨fun i hi => ?_, fun i hi => h.mapped i ?_, h.skipped, h.mode⟩
    · have hown := h.own i hi
      simp only [Preview.bufDone, Bool.false_eq_true, if_false, count_append, count_nil]
      simp only [inCallback, waiting] at hown ⊢
      omega
    · simp only [Preview.bufDone, Bool.false_eq_true, if_false, mem_append] at hi
      rcases hi with hi | hi | (hi | hi) | hi | hi
      · exact .inl hi
      · exact .inr (.inl hi)
      · exact .inr (.inr (.inl hi))
      · exact .inr (.inr (.inr (.inl hi)))
      · cases hi
      · exact .inr (.inr (.inr (.inr hi)))

theorem Placed.owned (h : s.Placed [b]) : b < s.mMappableBuffers ∧ s.mLocalFlag b = true := by
  have hb : b < s.mMappableBuffers := h.mapped b (by simp)
  refine ⟨hb, ?_⟩
  have hown := h.own b hb
  by_contra hflag
  rw [if_neg hflag, count_singleton_self] at hown
  omega

theorem Placed.sent (h : s.Placed [b]) : (s.sent b).Placed [] := by
  obtain ⟨_, hflag⟩ := h.owned
  refine ⟨fun i hi => ?_, fun i hi => h.mapped i (hi.imp_right ?_), h.skipped, h.mode⟩
  · have hown := h.own i hi
    show s.driver.count i + s.inCallback i + s.failed.count i + 0 =
      if update s.mLocalFlag b false i then 1 else 0
    rcases eq_or_ne i b with rfl | hne
    · rw [hflag, count_singleton_self] at hown
      simp only [update_self, Bool.false_eq_true, if_false]
      simp only [if_true] at hown
      omega
    · rw [count_eq_zero.mpr (show i ∉ [b] by simpa using hne)] at hown
      simp only [update_of_ne hne]
      exact hown
  · exact Or.imp_right (Or.imp_right fun hi => hi.elim (fun hnil => by cases hnil) .inr)

theorem seen_iff : s.seen h = true ↔ ∃ i < s.mMappableBuffers, s.mBufferHandle i = some h := by
  simp [seen]

theorem Table.sent (ht : s.Table) (hb : b < s.mMappableBuffers) (hflag : s.mLocalFlag b = true) :
    (s.sent b).Table ∧ (s.sent b).display.length = s.display.length + 1 := by
  obtain ⟨h, hh, hshown⟩ := ht.known b hb
  have hnot : h ∉ s.display := fun hmem => by simp [hshown.mp hmem] at hflag
  have hseen : s.seen h = true := seen_iff.mpr ⟨b, hb, hh⟩
  have hdisplay : (s.sent b).display = s.display ++ [h] := by rw [Preview.sent, hh]; rfl
  refine ⟨⟨fun i hi => ?_, ht.single, ?_, ?_, ht.bound⟩, by rw [hdisplay, length_append]; rfl⟩
  · obtain ⟨k, hk, hkshown⟩ := ht.known i hi
    refine ⟨k, hk, ?_⟩
    rw [hdisplay, Preview.sent, mem_append, mem_singleton]
    rcases eq_or_ne i b with rfl | hne
    · rw [hh] at hk
      simp [Option.some.inj hk]
    · have hkh : k ≠ h := fun heq => hne (ht.single i hi b hb (by rw [hk, hh, heq]))
      simp only [update_of_ne hne, or_iff_left hkh]
      exact hkshown
  · rw [hdisplay, nodup_append]
    refine ⟨ht.nodup, nodup_singleton h, fun x hx y hy heq => hnot ?_⟩
    rw [← mem_singleton.mp hy, ← heq]
    exact hx
  · have hroom := ht.room
    rw [hdisplay, filter_append]
    show _ + ((s.display.filter fun h => !s.seen h) ++ ([h].filter fun h => !s.seen h)).length ≤ _
    rw [filter_cons_of_neg (by simp [hseen]), filter_nil, append_nil]
    exact hroom

theorem Table.display_le (ht : s.Table) : s.display.length ≤ s.mBufferCount := by
  have hsplit := length_eq_length_filter_add (l := s.display) s.seen
  -- those that have been seen are in the table
  have hle : ((s.display.filter s.seen).map some).length ≤
      ((range s.mMappableBuffers).map s.mBufferHandle).length := by
    refine Subperm.length_le (subperm_of_subset ?_ fun x hx => ?_)
    · exact Nodup.map (Option.some_injective _) (ht.nodup.filter _)
    · obtain ⟨h, hh, rfl⟩ := mem_map.mp hx
      obtain ⟨i, hi, hhandle⟩ := seen_iff.mp (mem_filter.mp hh).2
      exact mem_map.mpr ⟨i, mem_range.mpr hi, hhandle⟩
  rw [length_map, length_map, length_range] at hle
  have hroom := ht.room
  omega

/-! ## Buffers from the display -/

/-- A buffer that is known has been taken back. -/
def known (s : Preview) (i h : ℕ) : Preview :=
  { s with
    display := s.display.erase h
    dequeued := s.dequeued + 1
    mLocalFlag := update s.mLocalFlag i true }

/-- A buffer that is new has been put into the table. -/
def placedNew (s : Preview) (h : ℕ) : Preview :=
  { s with
    display := s.display.erase h
    dequeued := s.dequeued + 1
    mBufferHandle := update s.mBufferHandle s.mMappableBuffers (some h)
    mLocalFlag := update s.mLocalFlag s.mMappableBuffers true
    mMappableBuffers := s.mMappableBuffers + 1 }

theorem dequeueBuffer_cases (ht : s.Table) (hshown : h ∈ s.display) :
    (∃ i < s.mMappableBuffers, s.mBufferHandle i = some h ∧ s.mLocalFlag i = false ∧
      s.dequeueBuffer (some h) true = (some i, s.known i h)) ∨
    (s.seen h = false ∧ s.mMappableBuffers < s.mBufferCount ∧
      s.dequeueBuffer (some h) true = (some s.mMappableBuffers, s.placedNew h)) := by
  cases hfind : (range s.mMappableBuffers).find? fun i => s.mBufferHandle i == some h with
  | some i =>
    have hi : i < s.mMappableBuffers := mem_range.mp (mem_of_find?_eq_some hfind)
    have hhandle : s.mBufferHandle i = some h := by simpa using find?_some hfind
    obtain ⟨k, hk, hkshown⟩ := ht.known i hi
    rw [hhandle] at hk
    refine .inl ⟨i, hi, hhandle, hkshown.mp (Option.some.inj hk ▸ hshown), ?_⟩
    simp only [dequeueBuffer, hfind, known]
  | none =>
    have hnew : s.seen h = false := by
      rw [Bool.eq_false_iff]
      intro hseen
      obtain ⟨i, hi, hhandle⟩ := seen_iff.mp hseen
      exact find?_eq_none.mp hfind i (mem_range.mpr hi) (by simp [hhandle])
    have hpos : 0 < (s.display.filter fun h => !s.seen h).length :=
      length_pos_of_mem (mem_filter.mpr ⟨hshown, by simp [hnew]⟩)
    have hroom := ht.room
    have hlt : s.mMappableBuffers < s.mBufferCount := by omega
    refine .inr ⟨hnew, hlt, ?_⟩
    simp only [dequeueBuffer, hfind, if_pos hlt, if_true, placedNew]

theorem Placed.takeKnown (hp : s.Placed []) (hi : i < s.mMappableBuffers) (hflag : s.mLocalFlag i = false) :
    (s.known i h).Placed [i] := by
  refine ⟨fun j hj => ?_, fun j hj => ?_, hp.skipped, hp.mode⟩
  · have hown := hp.own j hj
    show s.driver.count j + s.inCallback j + s.failed.count j + [i].count j =
      if update s.mLocalFlag i true j then 1 else 0
    rw [count_nil] at hown
    rcases eq_or_ne j i with rfl | hne
    · rw [hflag] at hown
      simp only [Bool.false_eq_true, if_false] at hown
      simp only [update_self, count_singleton_self, if_true]
      omega
    · rw [count_eq_zero.mpr (show j ∉ [i] by simpa using hne)]
      simp only [update_of_ne hne]
      exact hown
  · rcases hj with hj | hj | hj | hj | hj
    · exact hp.mapped j (.inl hj)
    · exact hp.mapped j (.inr (.inl hj))
    · exact hp.mapped j (.inr (.inr (.inl hj)))
    · rw [mem_singleton.mp hj]
      exact hi
    · exact hp.mapped j (.inr (.inr (.inr (.inr hj))))

theorem Table.takeKnown (ht : s.Table) (hi : i < s.mMappableBuffers)
    (hhandle : s.mBufferHandle i = some h) :
    (s.known i h).Table := by
  refine ⟨fun j hj => ?_, ht.single, ht.nodup.erase h, ?_, ht.bound⟩
  · obtain ⟨k, hk, hkshown⟩ := ht.known j hj
    refine ⟨k, hk, ?_⟩
    simp only [Preview.known, ht.nodup.mem_erase_iff]
    rcases eq_or_ne j i with rfl | hne
    · rw [hhandle] at hk
      simp [Option.some.inj hk]
    · have hkh : k ≠ h := fun heq => hne (ht.single j hj i hi (by rw [hk, hhandle, heq]))
      simp only [update_of_ne hne, and_iff_right hkh]
      exact hkshown
  · have hle := ((erase_sublist (a := h) (l := s.display)).filter fun h => !s.seen h).length_le
    have hroom := ht.room
    exact le_trans (Nat.add_le_add_left hle _) hroom

theorem Placed.takeNew (hp : s.Placed []) :
    (s.placedNew h).Placed [s.mMappableBuffers] := by
  refine ⟨fun j hj => ?_, fun j hj => ?_, hp.skipped, hp.mode⟩
  · show s.driver.count j + s.inCallback j + s.failed.count j + [s.mMappableBuffers].count j =
      if update s.mLocalFlag s.mMappableBuffers true j then 1 else 0
    rcases eq_or_ne j s.mMappableBuffers with rfl | hne
    · -- the new place has held nothing
      have hnone (l : List ℕ) (hl : ∀ i ∈ l, i < s.mMappableBuffers) :
          l.count s.mMappableBuffers = 0 :=
        count_eq_zero.mpr fun hmem => Nat.lt_irrefl _ (hl _ hmem)
      have hstatus : s.mBufferStatus s.mMappableBuffers = false := by
        by_contra hstatus
        exact Nat.lt_irrefl _ (hp.mapped _ (.inr (.inr (.inr (.inr (by simpa using hstatus))))))
      have hwaiting := hnone s.waiting fun i hi => hp.mapped i (.inr (.inl hi))
      have hfresh : s.sync.fresh.count s.mMappableBuffers = 0 := by
        refine hnone _ fun i hi => hp.mapped i (.inr (.inl (mem_append_left _ ?_)))
        cases hs : s.sync with
        | entered b => simpa [hs, SyncPc.fresh, SyncPc.frames] using hi
        | _ => simp [hs, SyncPc.fresh] at hi
      rw [hnone s.driver fun i hi => hp.mapped i (.inl hi),
        hnone s.failed fun i hi => hp.mapped i (.inr (.inr (.inl hi)))]
      simp [inCallback, hfresh, hstatus, hwaiting]
    · have hlt : j < s.mMappableBuffers + 1 := hj
      have hown := hp.own j (by omega)
      rw [count_eq_zero.mpr (show j ∉ [s.mMappableBuffers] by simpa using hne)]
      simp only [update_of_ne hne]
      exact hown
  · refine Nat.lt_succ_of_le ?_
    rcases hj with hj | hj | hj | hj | hj
    · exact (hp.mapped j (.inl hj)).le
    · exact (hp.mapped j (.inr (.inl hj))).le
    · exact (hp.mapped j (.inr (.inr (.inl hj)))).le
    · exact (mem_singleton.mp hj).le
    · exact (hp.mapped j (.inr (.inr (.inr (.inr hj))))).le

theorem Table.takeNew (ht : s.Table) (hshown : h ∈ s.display) (hnew : s.seen h = false) :
    (s.placedNew h).Table := by
  have hfresh : ∀ i < s.mMappableBuffers, s.mBufferHandle i ≠ some h := fun i hi hhandle => by
    rw [seen_iff.mpr ⟨i, hi, hhandle⟩] at hnew
    cases hnew
  have hold {i : ℕ} (hi : i < s.mMappableBuffers + 1) (hne : i ≠ s.mMappableBuffers) :
      i < s.mMappableBuffers := by omega
  refine ⟨fun j hj => ?_, fun i hi j hj heq => ?_, ht.nodup.erase h, ?_, ht.bound⟩
  · rcases eq_or_ne j s.mMappableBuffers with rfl | hne
    · refine ⟨h, update_self .., ?_⟩
      simp only [Preview.placedNew, ht.nodup.mem_erase_iff, update_self]
      simp
    · obtain ⟨k, hk, hkshown⟩ := ht.known j (hold hj hne)
      have hkh : k ≠ h := fun heq => hfresh j (hold hj hne) (heq ▸ hk)
      refine ⟨k, (update_of_ne hne ..).trans hk, ?_⟩
      simp only [Preview.placedNew, ht.nodup.mem_erase_iff, and_iff_right hkh, update_of_ne hne]
      exact hkshown
  · change update s.mBufferHandle s.mMappableBuffers (some h) i =
      update s.mBufferHandle s.mMappableBuffers (some h) j at heq
    rcases eq_or_ne i s.mMappableBuffers with rfl | hne <;>
      rcases eq_or_ne j s.mMappableBuffers with rfl | hne'
    · rfl
    · rw [update_self, update_of_ne hne'] at heq
      exact absurd heq.symm (hfresh j (hold hj hne'))
    · rw [update_self, update_of_ne hne] at heq
      exact absurd heq (hfresh i (hold hi hne))
    · rw [update_of_ne hne, update_of_ne hne'] at heq
      exact ht.single i (hold hi hne) j (hold hj hne') heq
  · -- the display has one new buffer less, and the table one place more
    have hroom := ht.room
    have hmem : h ∈ s.display.filter fun h => !s.seen h :=
      mem_filter.mpr ⟨hshown, by simp [hnew]⟩
    have hpos := length_pos_of_mem hmem
    have hless : ((s.display.erase h).filter fun k => !s.seen k).length =
        (s.display.filter fun k => !s.seen k).length - 1 := by
      rw [← erase_filter, length_erase_of_mem hmem]
    have hsub : ((s.display.erase h).filter fun k => !(s.placedNew h).seen k).length ≤
        ((s.display.erase h).filter fun k => !s.seen k).length := by
      -- what has been seen before is seen still
      refine (monotone_filter_right _ fun k hk => ?_).length_le
      simp only [Bool.not_eq_true', Bool.eq_false_iff] at hk ⊢
      refine fun hseen => hk ?_
      obtain ⟨i, hi, hhandle⟩ := seen_iff.mp hseen
      exact seen_iff.mpr ⟨i, Nat.lt_succ_of_lt hi, (update_of_ne (by omega) ..).trans hhandle⟩
    show s.mMappableBuffers + 1 + ((s.display.erase h).filter fun k => !(s.placedNew h).seen k).length ≤
      s.mBufferCount
    omega

/-! ## Frames -/

variable {rest : List ℕ} {n : ℕ}

theorem Table.congr (ht : s.Table) (count : t.mBufferCount = s.mBufferCount)
    (mapped : t.mMappableBuffers = s.mMappableBuffers) (handle : t.mBufferHandle = s.mBufferHandle)
    (flag : t.mLocalFlag = s.mLocalFlag) (display : t.display = s.display) : t.Table := by
  have hseen : t.seen = s.seen := by
    funext h
    rw [seen, seen, mapped, handle]
  refine ⟨?_, ?_, display ▸ ht.nodup, ?_, count ▸ ht.bound⟩
  · rw [mapped, handle, flag, display]
    exact ht.known
  · rw [mapped, handle]
    exact ht.single
  · rw [mapped, display, count, hseen]
    exact ht.room

theorem Placed.frame (h : s.Placed []) (hb : b ∈ s.driver) (hsync : s.sync = .idle) :
    ({ s with
      driver := s.driver.erase b
      sync := if s.isSyncCBEnabled then .entered b else .notifying b } : Preview).Placed [] := by
  have hpos : 0 < s.driver.count b := count_pos_iff.mpr hb
  have hwaiting : s.waiting = s.dataQ := by rw [waiting, hsync]; rfl
  refine ⟨fun i hi => ?_, fun i hi => h.mapped i ?_, fun hmode i hi => ?_, fun hmode => ?_⟩
  · have hown := h.own i hi
    have herase : (s.driver.erase b).count i + [b].count i = s.driver.count i := by
      rw [count_erase]
      rcases eq_or_ne b i with rfl | hne
      · rw [beq_self_eq_true, if_pos rfl, count_singleton_self]
        omega
      · rw [count_eq_zero.mpr (show i ∉ [b] by simpa using hne.symm)]
        simp [hne]
    show (s.driver.erase b).count i + _ + s.failed.count i + 0 = if s.mLocalFlag i then 1 else 0
    cases hmode : s.isSyncCBEnabled with
    | true =>
      simp only [inCallback, hmode, hsync, SyncPc.fresh, if_true, count_nil] at hown ⊢
      omega
    | false =>
      simp only [inCallback, hmode, hwaiting, Bool.false_eq_true, if_false, count_nil] at hown
      simp only [inCallback, waiting, SyncPc.frames, Bool.false_eq_true, if_false, count_append]
      omega
  · rcases hi with hi | hi | hi | hi | hi
    · exact .inl (mem_of_mem_erase hi)
    · have hframes : i ∈ [b] ++ s.dataQ := by
        cases hmode : s.isSyncCBEnabled <;> simpa [waiting, hmode, SyncPc.frames] using hi
      rcases mem_append.mp hframes with hi | hi
      · exact .inl (mem_singleton.mp hi ▸ hb)
      · exact .inr (.inl (mem_append_right _ hi))
    · exact .inr (.inr (.inl hi))
    · cases hi
    · exact .inr (.inr (.inr (.inr hi)))
  · have hmem := h.skipped hmode i hi
    rw [hwaiting] at hmem
    exact mem_append_right _ hmem
  · change s.isSyncCBEnabled = false at hmode
    simp [hmode, SyncPc.fresh]

theorem Placed.entered {pc : SyncPc} (h : s.Placed []) (hsync : s.sync = .entered b)
    (frames : pc.frames = [b]) (fresh : pc.fresh = []) :
    s.isSyncCBEnabled = true ∧ ({ s with sync := pc } : Preview).Placed [b] := by
  have hmode : s.isSyncCBEnabled = true := by
    by_contra hmode
    have hnone := (h.mode (by simpa using hmode)).1
    rw [hsync] at hnone
    cases hnone
  have hwaiting : ({ s with sync := pc } : Preview).waiting = s.waiting := by
    rw [waiting, waiting, frames, hsync]
    rfl
  refine ⟨hmode, fun i hi => ?_, fun i hi => h.mapped i ?_, fun _ i hi => ?_, fun hno => ?_⟩
  · have hown := h.own i hi
    simp only [inCallback, hmode, hsync, if_true, SyncPc.fresh, count_nil] at hown
    simp only [inCallback, hmode, fresh, if_true, count_nil]
    omega
  · rw [hwaiting] at hi
    rcases hi with hi | hi | hi | hi | hi
    · exact .inl hi
    · exact .inr (.inl hi)
    · exact .inr (.inr (.inl hi))
    · rw [mem_singleton.mp hi]
      exact .inr (.inl (mem_append_left _ (by rw [hsync]; exact mem_singleton_self b)))
    · exact .inr (.inr (.inr (.inr hi)))
  · rw [hwaiting]
    exact h.skipped hmode i hi
  · exact absurd hno (by simp [hmode])

theorem Placed.skip (h : s.Placed [b]) (hmode : s.isSyncCBEnabled = true) (hb : b ∈ s.waiting) :
    ({ s with mBufferStatus := update s.mBufferStatus b true } : Preview).Placed [] := by
  refine ⟨fun i hi => ?_, fun i hi => ?_, fun _ i hi => ?_, h.mode⟩
  · have hown := h.own i hi
    simp only [inCallback, hmode, if_true, count_nil] at hown ⊢
    rcases eq_or_ne i b with rfl | hne
    · rw [count_singleton_self] at hown
      simp only [update_self, if_true]
      split_ifs at hown ⊢ <;> omega
    · rw [count_eq_zero.mpr (show i ∉ [b] by simpa using hne)] at hown
      simp only [update_of_ne hne]
      exact hown
  · rcases eq_or_ne i b with rfl | hne
    · exact h.owned.1
    · rcases hi with hi | hi | hi | hi | hi
      · exact h.mapped i (.inl hi)
      · exact h.mapped i (.inr (.inl hi))
      · exact h.mapped i (.inr (.inr (.inl hi)))
      · cases hi
      · simp only [update_of_ne hne] at hi
        exact h.mapped i (.inr (.inr (.inr (.inr hi))))
  · rcases eq_or_ne i b with rfl | hne
    · exact hb
    · simp only [update_of_ne hne] at hi
      exact h.skipped hmode i hi

theorem Placed.notify {pc : SyncPc} {q : List ℕ} (h : s.Placed [])
    (frames : (pc.frames ++ q).Perm s.waiting) (fresh : pc.fresh = s.sync.fresh)
    (counting : ∀ b, pc ≠ .counting b) :
    ({ s with sync := pc, dataQ := q } : Preview).Placed [] := by
  refine ⟨fun i hi => ?_, fun i hi => h.mapped i ?_, fun hmode i hi => ?_, fun hmode => ?_⟩
  · have hown := h.own i hi
    simp only [inCallback] at hown ⊢
    rw [fresh, show ({ s with sync := pc, dataQ := q } : Preview).waiting.count i = s.waiting.count i
      from frames.count_eq i]
    exact hown
  · exact hi.imp_right (Or.imp_left frames.mem_iff.mp)
  · exact frames.mem_iff.mpr (h.skipped hmode i hi)
  · exact ⟨fresh.trans (h.mode hmode).1, counting⟩

theorem Placed.pop (h : s.Placed []) (hq : s.dataQ = b :: rest) (hmode : s.isSyncCBEnabled = false) :
    ({ s with dataQ := rest } : Preview).Placed [b] := by
  refine ⟨fun i hi => ?_, fun i hi => h.mapped i ?_, fun hno => ?_, h.mode⟩
  · have hown := h.own i hi
    simp only [inCallback, hmode, waiting, hq, Bool.false_eq_true, if_false, count_nil,
      count_append, count_cons] at hown ⊢
    omega
  · rcases hi with hi | hi | hi | hi | hi
    · exact .inl hi
    · refine .inr (.inl ((mem_append.mp hi).elim (mem_append_left _) fun hi => ?_))
      rw [waiting, hq]
      exact mem_append_right _ (mem_cons_of_mem b hi)
    · exact .inr (.inr (.inl hi))
    · rw [waiting, hq, mem_singleton.mp hi]
      exact .inr (.inl (mem_append_right _ mem_cons_self))
    · exact .inr (.inr (.inr (.inr hi)))
  · exact absurd hno (by simp [hmode])

theorem Placed.popSkipped (h : s.Placed []) (hq : s.dataQ = b :: rest)
    (hmode : s.isSyncCBEnabled = true) (hskip : s.mBufferStatus b = true) :
    ({ s with dataQ := rest, mBufferStatus := update s.mBufferStatus b false } :
      Preview).Placed [b] := by
  have hb : b < s.mMappableBuffers := h.mapped b (.inr (.inr (.inr (.inr hskip))))
  have hstatus {i : ℕ} (hi : update s.mBufferStatus b false i = true) :
      i ≠ b ∧ s.mBufferStatus i = true := by
    rcases eq_or_ne i b with rfl | hne
    · simp at hi
    · exact ⟨hne, by rwa [update_of_ne hne] at hi⟩
  refine ⟨fun i hi => ?_, fun i hi => ?_, fun _ i hi => ?_, fun hno => ?_⟩
  · have hown := h.own i hi
    simp only [inCallback, hmode, if_true, count_nil] at hown ⊢
    rcases eq_or_ne i b with rfl | hne
    · rw [hskip] at hown
      simp only [if_true] at hown
      simp only [update_self, Bool.false_eq_true, if_false, count_singleton_self]
      omega
    · rw [count_eq_zero.mpr (show i ∉ [b] by simpa using hne)]
      simp only [update_of_ne hne]
      exact hown
  · rcases hi with hi | hi | hi | hi | hi
    · exact h.mapped i (.inl hi)
    · refine h.mapped i (.inr (.inl ((mem_append.mp hi).elim (mem_append_left _) fun hi => ?_)))
      rw [waiting, hq]
      exact mem_append_right _ (mem_cons_of_mem b hi)
    · exact h.mapped i (.inr (.inr (.inl hi)))
    · rw [mem_singleton.mp hi]
      exact hb
    · exact h.mapped i (.inr (.inr (.inr (.inr (hstatus hi).2))))
  · obtain ⟨hne, hskipped⟩ := hstatus hi
    have hmem := h.skipped hmode i hskipped
    rw [waiting, hq] at hmem
    exact (mem_append.mp hmem).elim (mem_append_left _) fun hmem =>
      mem_append_right _ ((mem_cons.mp hmem).resolve_left hne)
  · exact absurd hno (by simp [hmode])

theorem Placed.popShown (h : s.Placed []) (hq : s.dataQ = b :: rest)
    (hmode : s.isSyncCBEnabled = true) (hskip : s.mBufferStatus b = false) :
    ({ s with dataQ := rest } : Preview).Placed [] := by
  refine ⟨fun i hi => ?_, fun i hi => h.mapped i (hi.imp_right (Or.imp_left fun hi => ?_)),
    fun _ i hi => ?_, h.mode⟩
  · have hown := h.own i hi
    simp only [inCallback, hmode, if_true] at hown ⊢
    exact hown
  · rw [waiting, hq]
    exact (mem_append.mp hi).elim (mem_append_left _) fun hi =>
      mem_append_right _ (mem_cons_of_mem b hi)
  · have hmem := h.skipped hmode i hi
    have hne : i ≠ b := fun heq => by
      change s.mBufferStatus i = true at hi
      rw [heq, hskip] at hi
      cases hi
    rw [waiting, hq] at hmem
    exact (mem_append.mp hmem).elim (mem_append_left _) fun hmem =>
      mem_append_right _ ((mem_cons.mp hmem).resolve_left hne)

theorem loop_eq {l : ℕ} {e : Bool} (h : PreviewPc.loop l e = .dequeuing left err) :
    left = l ∧ 0 < left := by
  rw [loop] at h
  split at h
  · cases h
  · cases h
    exact ⟨rfl, by omega⟩

theorem Kept.frame (h : s.Kept n) (hb : b ∈ s.driver) (hsync : s.sync = .idle) :
    ({ s with
      driver := s.driver.erase b
      sync := if s.isSyncCBEnabled then .entered b else .notifying b } : Preview).Kept n := by
  have howes : (if s.isSyncCBEnabled then SyncPc.entered b else .notifying b).owes = s.sync.owes := by
    rw [hsync]
    split <;> rfl
  refine ⟨h.placed.frame hb hsync, h.table.congr rfl rfl rfl rfl rfl, ?_, ?_, h.counted.loop⟩
  · have hcount := h.counted.count
    simp only [uncounted, howes] at hcount ⊢
    exact hcount
  · have hshown := h.counted.shown
    simp only [uncounted, howes] at hshown ⊢
    exact hshown

theorem Kept.synchronous {needProcess enqueue : Bool} (h : s.Kept n) (hsync : s.sync = .entered b)
    (clean : needProcess → enqueue) : (s.synchronousStreamCb b needProcess enqueue).Kept n := by
  rw [synchronousStreamCb]
  have hcount := h.counted.count
  have hshown := h.counted.shown
  simp only [uncounted, hsync, SyncPc.owes] at hcount hshown
  cases hneed : needProcess with
  | true =>
    obtain ⟨_, hplaced⟩ := @Placed.entered s b (.counting b) h.placed hsync rfl rfl
    obtain ⟨hb, hflag⟩ : b < s.mMappableBuffers ∧ s.mLocalFlag b = true := hplaced.owned
    obtain ⟨htable, hlength⟩ := h.table.sent hb hflag
    rw [clean hneed, enqueueBuffer_owned hflag]
    refine ⟨hplaced.sent, htable.congr rfl rfl rfl rfl rfl, ?_, ?_, h.counted.loop⟩
    · show s.mEnqueuedBuffers + (1 + s.pc.owes) + s.dequeued = n + (s.enqueued + 1)
      omega
    · show s.mEnqueuedBuffers + (1 + s.pc.owes) ≤ (s.sent b).display.length
      omega
  | false =>
    obtain ⟨hmode, hplaced⟩ := @Placed.entered s b (.notifying b) h.placed hsync rfl rfl
    have hb : ¬ s.mBufferCount ≤ b := by
      have hroom := h.table.room
      have hlt : b < s.mMappableBuffers := hplaced.owned.1
      omega
    rw [setBufferStatus, if_neg hb]
    refine ⟨hplaced.skip hmode ?_, h.table.congr rfl rfl rfl rfl rfl, ?_, ?_, h.counted.loop⟩
    · exact mem_append_left _ (mem_singleton_self b)
    · show s.mEnqueuedBuffers + (0 + s.pc.owes) + s.dequeued = n + s.enqueued
      omega
    · show s.mEnqueuedBuffers + (0 + s.pc.owes) ≤ s.display.length
      omega

theorem Kept.countEnqueued_eq (h : s.Kept n) (owes : 0 < s.uncounted) :
    s.countEnqueued = { s with mEnqueuedBuffers := s.mEnqueuedBuffers + 1 } := by
  have hshown := h.counted.shown
  have hle := h.table.display_le
  have hbound := h.table.bound
  rw [countEnqueued, Nat.mod_eq_of_lt (by omega)]

theorem Kept.synchronousCount (h : s.Kept n) (hsync : s.sync = .counting b) :
    ({ s.countEnqueued with sync := .notifying b } : Preview).Kept n := by
  have hcount := h.counted.count
  have hshown := h.counted.shown
  have hwaiting : s.waiting = b :: s.dataQ := by rw [waiting, hsync]; rfl
  rw [h.countEnqueued_eq (by rw [uncounted, hsync, SyncPc.owes]; omega)]
  simp only [uncounted, hsync, SyncPc.owes] at hcount hshown
  have hplaced := @Placed.notify s (.notifying b) s.dataQ h.placed (by rw [hwaiting]; exact .refl _)
    (by rw [hsync]; rfl) nofun
  refine ⟨⟨hplaced.own, hplaced.mapped, hplaced.skipped, hplaced.mode⟩,
    h.table.congr rfl rfl rfl rfl rfl, ?_, ?_, fun left err hpc => ?_⟩
  · show s.mEnqueuedBuffers + 1 + (0 + s.pc.owes) + s.dequeued = n + s.enqueued
    omega
  · show s.mEnqueuedBuffers + 1 + (0 + s.pc.owes) ≤ s.display.length
    omega
  · have hloop := h.counted.loop left err hpc
    exact ⟨Nat.le_succ_of_le hloop.1, hloop.2⟩

theorem Kept.notify (h : s.Kept n) (hsync : s.sync = .notifying b) :
    ({ s with sync := .idle, dataQ := s.dataQ ++ [b] } : Preview).Kept n := by
  have hcount := h.counted.count
  have hshown := h.counted.shown
  simp only [uncounted, hsync, SyncPc.owes] at hcount hshown
  refine ⟨?_, h.table.congr rfl rfl rfl rfl rfl, hcount, hshown, h.counted.loop⟩
  refine h.placed.notify ?_ (by rw [hsync]; rfl) nofun
  rw [waiting, hsync]
  exact perm_append_singleton b s.dataQ

theorem Kept.preview {needProcess enqueue queued : Bool} (h : s.Kept n) (hpc : s.pc = .idle)
    (hq : s.dataQ = b :: rest) (clean : needProcess → ¬ s.isSyncCBEnabled → enqueue) :
    ({ s with dataQ := rest }.previewStreamCb b needProcess enqueue queued).Kept n := by
  have hcount := h.counted.count
  have hshown := h.counted.shown
  simp only [uncounted, hpc, owes] at hcount hshown
  have hdone {u : Preview} (hu : u.Placed [b]) (table : u.Table)
      (same : u.mEnqueuedBuffers = s.mEnqueuedBuffers ∧ u.sync = s.sync ∧ u.dequeued = s.dequeued ∧
        u.enqueued = s.enqueued ∧ u.display = s.display) :
      ({ u.bufDone b queued with pc := .counting false } : Preview).Kept n := by
    obtain ⟨hm, hs, hd, he, hdisplay⟩ := same
    have hput := hu.bufDone queued
    rw [bufDone] at hput ⊢
    refine ⟨⟨hput.own, hput.mapped, hput.skipped, hput.mode⟩, ?_, ?_, ?_, nofun⟩
    · refine table.congr ?_ ?_ ?_ ?_ ?_ <;> split <;> rfl
    · rw [uncounted]
      split <;> simp only [hm, hs, hd, he, owes] <;> exact hcount
    · rw [uncounted]
      split <;> simp only [hm, hs, hdisplay, owes] <;> exact hshown
  rw [previewStreamCb]
  rcases Bool.eq_false_or_eq_true s.isSyncCBEnabled with hmode | hmode
  · rw [if_pos hmode]
    rcases Bool.eq_false_or_eq_true (s.mBufferStatus b) with hskip | hskip
    · have hb : ¬ s.mBufferCount ≤ b := by
        have hroom := h.table.room
        have hlt := h.placed.mapped b (.inr (.inr (.inr (.inr hskip))))
        omega
      rw [if_pos hskip, setBufferStatus, if_neg hb]
      exact hdone (h.placed.popSkipped hq hmode hskip) (h.table.congr rfl rfl rfl rfl rfl)
        ⟨rfl, rfl, rfl, rfl, rfl⟩
    · have hplaced := h.placed.popShown hq hmode hskip
      rw [if_neg (by simp [hskip])]
      exact ⟨⟨hplaced.own, hplaced.mapped, hplaced.skipped, hplaced.mode⟩,
        h.table.congr rfl rfl rfl rfl rfl, hcount, hshown, nofun⟩
  · have hplaced := h.placed.pop hq hmode
    rw [if_neg (by simp [hmode])]
    cases hneed : needProcess with
    | true =>
      obtain ⟨hb, hflag⟩ : b < s.mMappableBuffers ∧ s.mLocalFlag b = true := hplaced.owned
      obtain ⟨htable, hlength⟩ := h.table.sent hb hflag
      have hsent := hplaced.sent
      have henqueue : ({ s with dataQ := rest } : Preview).enqueueBuffer b true =
          (true, ({ s with dataQ := rest } : Preview).sent b) := enqueueBuffer_owned hflag
      rw [clean hneed (by simp [hmode]), henqueue]
      refine ⟨⟨hsent.own, hsent.mapped, hsent.skipped, hsent.mode⟩,
        htable.congr rfl rfl rfl rfl rfl, ?_, ?_, nofun⟩
      · show s.mEnqueuedBuffers + (s.sync.owes + 1) + s.dequeued = n + (s.enqueued + 1)
        omega
      · show s.mEnqueuedBuffers + (s.sync.owes + 1) ≤ (s.sent b).display.length
        omega
    | false =>
      exact hdone hplaced (h.table.congr rfl rfl rfl rfl rfl) ⟨rfl, rfl, rfl, rfl, rfl⟩

theorem Kept.previewCount {more : Bool} (h : s.Kept n) (hpc : s.pc = .counting more) :
    ({ (if more then s.countEnqueued else s) with
      pc := .loop (if more then s.countEnqueued else s).mEnqueuedBuffers false } : Preview).Kept n := by
  have hcount := h.counted.count
  have hshown := h.counted.shown
  have hp := h.placed
  cases more with
  | true =>
    rw [if_pos rfl, h.countEnqueued_eq (by rw [uncounted, hpc, owes]; omega)]
    simp only [uncounted, hpc, owes] at hcount hshown
    refine ⟨⟨hp.own, hp.mapped, hp.skipped, hp.mode⟩, h.table.congr rfl rfl rfl rfl rfl, ?_, ?_,
      fun left err hloop => ?_⟩
    · simp only [uncounted, loop_owes]
      omega
    · simp only [uncounted, loop_owes]
      omega
    · have hloop : loop (s.mEnqueuedBuffers + 1) false = .dequeuing left err := hloop
      obtain ⟨rfl, hpos⟩ := loop_eq hloop
      exact ⟨le_rfl, hpos⟩
  | false =>
    rw [if_neg Bool.false_ne_true]
    simp only [uncounted, hpc, owes] at hcount hshown
    refine ⟨⟨hp.own, hp.mapped, hp.skipped, hp.mode⟩, h.table.congr rfl rfl rfl rfl rfl, ?_, ?_,
      fun left err hloop => ?_⟩
    · simp only [uncounted, loop_owes]
      exact hcount
    · simp only [uncounted, loop_owes]
      exact hshown
    · obtain ⟨rfl, hpos⟩ := loop_eq hloop
      exact ⟨le_rfl, hpos⟩

theorem Kept.taken {u : Preview} (h : s.Kept n) (ok e : Bool) (hpc : s.pc = .dequeuing left err)
    (placed : u.Placed [i]) (table : u.Table) (hshown : b ∈ s.display)
    (same : u.mEnqueuedBuffers = s.mEnqueuedBuffers ∧ u.sync = s.sync ∧
      u.dequeued = s.dequeued + 1 ∧ u.enqueued = s.enqueued ∧ u.display = s.display.erase b) :
    ({ u.countDequeued.bufDone i ok with pc := .loop (left - 1) e } : Preview).Kept n := by
  obtain ⟨hm, hs, hd, he, hdisplay⟩ := same
  obtain ⟨hleft, hpos⟩ := h.counted.loop left err hpc
  have hcount := h.counted.count
  have hless := h.counted.shown
  have hbound := h.table.bound
  have hle := h.table.display_le
  have herase : u.display.length = s.display.length - 1 := by
    rw [hdisplay, length_erase_of_mem hshown]
  simp only [uncounted, hpc, owes] at hcount hless
  -- the counter is positive, and it is a byte
  have hdequeued : u.countDequeued = { u with mEnqueuedBuffers := s.mEnqueuedBuffers - 1 } := by
    rw [countDequeued, hm]
    congr 1
    omega
  have hput := placed.bufDone ok
  rw [hdequeued]
  rw [bufDone] at hput ⊢
  refine ⟨⟨?_, ?_, ?_, ?_⟩, ?_, ?_, ?_, fun l e' hloop => ?_⟩
  · cases ok <;> exact hput.own
  · cases ok <;> exact hput.mapped
  · cases ok <;> exact hput.skipped
  · cases ok <;> exact hput.mode
  · refine table.congr ?_ ?_ ?_ ?_ ?_ <;> split <;> rfl
  · rw [uncounted, loop_owes]
    split <;> simp only [hs, hd, he] <;> omega
  · rw [uncounted, loop_owes]
    split <;> simp only [hs] <;> omega
  · obtain ⟨rfl, hlpos⟩ := loop_eq hloop
    split <;> exact ⟨by simp only; omega, hlpos⟩

theorem Kept.takeBack (h : s.Kept n) (hpc : s.pc = .dequeuing left err)
    (window : ∀ h ∈ o.window, h ∈ s.display) (clean : (Op.takeBack o).Clean s) :
    (s.takeBack left err o).Kept n := by
  obtain ⟨hion, hsticky⟩ := clean
  cases hwindow : o.window with
  | none =>
    have hcount := h.counted.count
    have hshown := h.counted.shown
    have hp := h.placed
    simp only [uncounted, hpc, owes] at hcount hshown
    rw [Preview.takeBack, hwindow]
    exact ⟨⟨hp.own, hp.mapped, hp.skipped, hp.mode⟩, h.table.congr rfl rfl rfl rfl rfl, hcount,
      hshown, nofun⟩
  | some w =>
    have hshown : w ∈ s.display := window w hwindow
    have hroom := h.table.room
    rw [Preview.takeBack, hwindow, hion]
    rcases dequeueBuffer_cases h.table hshown with
      ⟨i, hi, hhandle, hflag, heq⟩ | ⟨hnew, hlt, heq⟩
    · -- a buffer that is known comes only when there has been no error
      have herr : err = false := by
        by_contra herr
        exact hsticky left (by rw [hpc]; simpa using herr) w hwindow i hi hhandle
      rw [heq]
      dsimp only
      rw [if_neg (show ¬ (s.known i w).mBufferCount ≤ i by simp only [known]; omega),
        if_neg (show ¬ s.mMappableBuffers ≤ i by omega), herr, if_neg Bool.false_ne_true]
      exact h.taken o.queued (!o.queued) hpc (h.placed.takeKnown hi hflag)
        (h.table.takeKnown hi hhandle) hshown ⟨rfl, rfl, rfl, rfl, rfl⟩
    · rw [heq]
      dsimp only
      rw [if_neg (show ¬ (s.placedNew w).mBufferCount ≤ s.mMappableBuffers by
        simp only [placedNew]; omega), if_pos le_rfl]
      have hplaced := h.placed.takeNew (h := w)
      have htable := h.table.takeNew hshown hnew
      cases o.mapped with
      | true =>
        exact h.taken o.queued (!o.queued) hpc hplaced htable hshown ⟨rfl, rfl, rfl, rfl, rfl⟩
      | false =>
        simp only [Bool.not_false, if_true, le_refl]
        exact h.taken false true hpc hplaced htable hshown ⟨rfl, rfl, rfl, rfl, rfl⟩

/-- **A step that loses no buffer keeps the invariant.** -/
theorem Kept.step {op : Op} (h : s.Kept n) (hexec : op.exec s = some t) (clean : op.Clean s) :
    t.Kept n := by
  cases op with
  | frame b =>
    obtain ⟨⟨hb, hsync⟩, ⟨⟩⟩ := Option.ite_none_right_eq_some.mp hexec
    exact h.frame hb hsync
  | synchronous needProcess enqueue =>
    rw [Op.exec] at hexec
    split at hexec <;> cases hexec
    case h_1 b hsync => exact h.synchronous hsync clean
  | synchronousCount =>
    rw [Op.exec] at hexec
    split at hexec <;> cases hexec
    case h_1 b hsync => exact h.synchronousCount hsync
  | notify =>
    rw [Op.exec] at hexec
    split at hexec <;> cases hexec
    case h_1 b hsync => exact h.notify hsync
  | preview needProcess enqueue queued =>
    rw [Op.exec] at hexec
    split at hexec <;> cases hexec
    case h_1 b rest hpc hq => exact h.preview hpc hq clean
  | previewCount =>
    rw [Op.exec] at hexec
    split at hexec <;> cases hexec
    case h_1 more hpc => exact h.previewCount hpc
  | takeBack o =>
    rw [Op.exec] at hexec
    split at hexec
    case h_1 left err hpc =>
      obtain ⟨window, ⟨⟩⟩ := Option.ite_none_right_eq_some.mp hexec
      exact h.takeBack hpc window clean
    case h_2 => cases hexec

/-- **The invariant holds at the start**, however many buffers there are and go back at once. -/
theorem Kept.start (isSyncCBEnabled : Bool) (count : Fin 256) (minUndequeued : ℕ) (handle : ℕ ↪ ℕ) :
    (Preview.start isSyncCBEnabled count minUndequeued handle).Kept
      (count - CAMERA_INITIAL_MAPPABLE_PREVIEW_BUFFERS) := by
  set m := min count.val CAMERA_INITIAL_MAPPABLE_PREVIEW_BUFFERS with hm
  have hmapped : (Preview.start isSyncCBEnabled count minUndequeued handle).mMappableBuffers = m := rfl
  set shown := (range count.val).filter fun i => !(minUndequeued ≤ i && i < m) with hshown
  have hdisplay : (Preview.start isSyncCBEnabled count minUndequeued handle).display =
      shown.map handle := rfl
  have hhandle {i : ℕ} (hi : i < m) :
      (Preview.start isSyncCBEnabled count minUndequeued handle).mBufferHandle i =
        some (handle i) := if_pos hi
  refine ⟨⟨fun i hi => ?_, fun i hi => ?_, nofun, fun _ => ⟨rfl, nofun⟩⟩,
    ⟨fun i hi => ⟨handle i, hhandle hi, ?_⟩, fun i hi j hj heq => ?_, ?_, ?_, count.isLt⟩,
    ⟨rfl, ?_, nofun⟩⟩
  · have hnodup : ((range m).filter fun i => minUndequeued ≤ i).Nodup := nodup_range.filter _
    have hcount := hnodup.count (a := i)
    have hnone : (Preview.start isSyncCBEnabled count minUndequeued handle).inCallback i = 0 := by
      rw [inCallback]
      split <;> rfl
    rw [hnone]
    show ((range m).filter fun i => minUndequeued ≤ i).count i + 0 + 0 + 0 =
      if decide (minUndequeued ≤ i ∧ i < m) then 1 else 0
    rw [hcount]
    simp only [mem_filter, mem_range, decide_eq_true_eq, and_comm, add_zero]
  · rcases hi with hi | hi | hi | hi | hi
    · exact mem_range.mp (mem_filter.mp hi).1
    · cases hi
    · cases hi
    · cases hi
    · cases hi
  · have hi' : i < m := hi
    have hlt : i < count.val := lt_of_lt_of_le hi' (min_le_left ..)
    rw [hdisplay, mem_map_of_injective handle.injective, hshown, mem_filter]
    show _ ↔ decide (minUndequeued ≤ i ∧ i < m) = false
    simp [hi', hlt]
  · rw [hhandle hi, hhandle hj] at heq
    exact handle.injective (Option.some.inj heq)
  · exact (nodup_range.filter _).map handle.injective
  · -- those that have not been seen are not among the first
    rw [hmapped, hdisplay, filter_map, length_map]
    have hsub : (range m ++ shown.filter ((fun h =>
        !(Preview.start isSyncCBEnabled count minUndequeued handle).seen h) ∘ handle)).length ≤
          (range count.val).length := by
      refine Subperm.length_le (subperm_of_subset ?_ fun i hi => ?_)
      · refine nodup_append.mpr ⟨nodup_range, (nodup_range.filter _).filter _,
          fun i hi j hj heq => ?_⟩
        have hseen : (Preview.start isSyncCBEnabled count minUndequeued handle).seen (handle i) :=
          seen_iff.mpr ⟨i, mem_range.mp hi, hhandle (mem_range.mp hi)⟩
        have hnot := (mem_filter.mp hj).2
        rw [← heq] at hnot
        simp [hseen] at hnot
      · rcases mem_append.mp hi with hi | hi
        · exact mem_range.mpr (lt_of_lt_of_le (mem_range.mp hi) (min_le_left ..))
        · exact (mem_filter.mp (mem_filter.mp hi).1).1
    rw [length_append, length_range, length_range] at hsub
    exact hsub
  · rw [hdisplay, length_map]
    show count.val - CAMERA_INITIAL_MAPPABLE_PREVIEW_BUFFERS + 0 ≤ shown.length
    have hsub : (range' CAMERA_INITIAL_MAPPABLE_PREVIEW_BUFFERS
        (count - CAMERA_INITIAL_MAPPABLE_PREVIEW_BUFFERS)).length ≤ shown.length := by
      refine Subperm.length_le (subperm_of_subset nodup_range' fun i hi => ?_)
      obtain ⟨hle, hlt⟩ := mem_range'_1.mp hi
      refine mem_filter.mpr ⟨mem_range.mpr (by omega), ?_⟩
      have hnot : ¬ i < m := fun him => by
        have hle5 : m ≤ CAMERA_INITIAL_MAPPABLE_PREVIEW_BUFFERS := min_le_right ..
        omega
      simp [hnot]
    rw [length_range'] at hsub
    exact hsub

end Preview

def Step (op : Op) (s t : Preview) : Prop := op.exec s = some t ∧ op.Clean s

/-- **The preview buffers are conserved in every run** in which no step loses one: whatever frames
come, whether they are sent to the display by the one callback or the other, discarded or not, and
whatever else fails. -/
theorem preview_conserved {isSyncCBEnabled : Bool} {count : Fin 256} {minUndequeued : ℕ} {handle : ℕ ↪ ℕ}
    {ops : List Op} (h : Run Step ops (.start isSyncCBEnabled count minUndequeued handle) t)
    (quiet : t.quiet) : t.Conserved (count - CAMERA_INITIAL_MAPPABLE_PREVIEW_BUFFERS) := by
  refine Preview.Kept.conserved (h.invariant (I := Preview.Kept _) ?_ (.start ..)) quiet
  exact fun (op : Op) (s t : Preview) hstep hs => hs.step hstep.1 hstep.2

/-- A frame is sent to the display, and a new buffer is taken back, which cannot be mapped. -/
def oneFrame : List Op :=
  [.frame 3, .synchronous true true, .synchronousCount, .notify, .preview true true true,
    .previewCount, .takeBack { window := some 5, mapped := false }, .takeBack { window := none }]

theorem preview_conserved_one : ∃ t,
    Run Step oneFrame (.start true 6 2 (.refl ℕ)) t ∧ t.Conserved 1 ∧
      t.driver = [2, 4] ∧ t.failed = [5] ∧ t.mEnqueuedBuffers = 1 := by
  obtain ⟨t, hrun, hquiet, hends⟩ : ∃ t, Run Step oneFrame (.start true 6 2 (.refl ℕ)) t ∧ t.quiet ∧
      t.driver = [2, 4] ∧ t.failed = [5] ∧ t.mEnqueuedBuffers = 1 := by
    refine ⟨_, .cons ⟨rfl, trivial⟩ (.cons ⟨rfl, fun _ => rfl⟩ (.cons ⟨rfl, trivial⟩
      (.cons ⟨rfl, trivial⟩ (.cons ⟨rfl, fun _ _ => rfl⟩ (.cons ⟨rfl, trivial⟩ (.cons ⟨rfl, rfl, ?_⟩
      (.cons ⟨rfl, rfl, ?_⟩ (.nil _)))))))), ?_, rfl, rfl, rfl⟩
    · exact fun _ h => by cases h
    · exact fun _ _ _ h => by cases h
    · exact ⟨rfl, fun _ h => by cases h⟩
  exact ⟨t, hrun, preview_conserved hrun hquiet, hends⟩

/-- **A buffer is forgotten, and the count does not start at zero**: `enqueue_buffer` fails for the
frame of the only callback, whose buffer is with nobody afterwards. -/
theorem preview_starved : ∃ t, Run (fun (op : Op) (s t : Preview) => op.exec s = some t)
      [.frame 3, .notify, .preview true false true] (.start false 6 2 (.refl ℕ)) t ∧ t.quiet ∧
    3 < t.mMappableBuffers ∧ 3 ∉ t.waiting ∧ 3 ∉ t.failed ∧ 3 ∉ t.driver ∧ t.mLocalFlag 3 = true ∧
    t.mEnqueuedBuffers + t.dequeued ≠ t.enqueued := by
  refine ⟨_, .cons rfl (.cons rfl (.cons rfl (.nil _))), ⟨rfl, fun _ h => by cases h⟩, ?_⟩
  decide

end Hal1Preview
