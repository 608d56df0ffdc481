import MidoCamera.Library.Tally

/-!
# What is allocated, held and freed

An address comes from the allocator once. It is held in one place, then it may be loose, where it
waits to be freed; at last it is freed. Whoever holds an address holds one that is neither loose nor
freed, and nobody else holds it.
-/

namespace Loop

open List

variable {α : Type*} [DecidableEq α]

/-- Every address is known to the allocator, and one that is held is held once and is neither loose
nor freed. -/
structure Allocated (held loose freed mallocs : List α) : Prop where
  known : ∀ a, a ∈ held ∨ a ∈ loose ∨ a ∈ freed → a ∈ mallocs
  distinct : ∀ a, held.count a ≤ 1
  live : ∀ a ∈ held, a ∉ loose ∧ a ∉ freed

namespace Allocated

variable {held loose freed mallocs held' loose' freed' mallocs' : List α}

theorem nil (mallocs : List α) : Allocated [] [] [] mallocs where
  known a h := by simp at h
  distinct a := by simp
  live a h := by simp at h

/-- **Addresses leave, and new ones come.** What leaves is loose or freed from then on; what is new
is held, or loose, or freed at once. -/
theorem advance (h : Allocated held loose freed mallocs) (left new newLoose : List α)
    (moves : ∀ a, held'.count a + left.count a ≤ held.count a + new.count a)
    (loosened : ∀ a ∈ loose', a ∈ loose ∨ a ∈ left ∨ a ∈ newLoose)
    (freeing : ∀ a ∈ freed', a ∈ freed ∨ a ∈ left ∨ a ∈ loose ∨ a ∈ newLoose)
    (nodup : (new ++ newLoose).Nodup) (fresh : ∀ a ∈ new ++ newLoose, a ∉ mallocs)
    (grow : ∀ a, a ∈ mallocs ∨ a ∈ new ∨ a ∈ newLoose → a ∈ mallocs') :
    Allocated held' loose' freed' mallocs' := by
  have hnew : ∀ a ∈ new, held.count a = 0 ∧ new.count a ≤ 1 := fun a ha =>
    ⟨count_eq_zero.mpr fun hheld => fresh a (mem_append_left _ ha) (h.known a (.inl hheld)),
      nodup_iff_count_le_one.mp nodup.of_append_left a⟩
  have hof : ∀ a ∈ held', a ∈ held ∨ a ∈ new := fun a ha => by
    have hpos := count_pos_iff.mpr ha
    have hmoves := moves a
    rcases Nat.eq_zero_or_pos (held.count a) with hzero | hheld
    · exact .inr (count_pos_iff.mp (by omega))
    · exact .inl (count_pos_iff.mp hheld)
  -- what leaves is not held any more
  have hleft : ∀ a ∈ held', a ∉ left := fun a ha hl => by
    have hpos := count_pos_iff.mpr ha
    have hpos' := count_pos_iff.mpr hl
    have hmoves := moves a
    have hdistinct := h.distinct a
    rcases Nat.eq_zero_or_pos (new.count a) with hzero | hin
    · omega
    · have := hnew a (count_pos_iff.mp hin)
      omega
  have hloose : ∀ a ∈ held', a ∉ loose ∧ a ∉ freed ∧ a ∉ newLoose := fun a ha => by
    rcases hof a ha with hheld | hin
    · refine ⟨(h.live a hheld).1, (h.live a hheld).2, fun hl => ?_⟩
      exact fresh a (mem_append_right _ hl) (h.known a (.inl hheld))
    · have hfresh := fresh a (mem_append_left _ hin)
      refine ⟨fun hl => hfresh (h.known a (.inr (.inl hl))),
        fun hf => hfresh (h.known a (.inr (.inr hf))), ?_⟩
      exact disjoint_of_nodup_append nodup hin
  have hleftKnown : ∀ a ∈ left, a ∈ mallocs ∨ a ∈ new := fun a ha => by
    have hpos := count_pos_iff.mpr ha
    have hmoves := moves a
    rcases Nat.eq_zero_or_pos (held.count a) with hzero | hheld
    · exact .inr (count_pos_iff.mp (by omega))
    · exact .inl (h.known a (.inl (count_pos_iff.mp hheld)))
  refine ⟨fun a ha => grow a ?_, fun a => ?_, fun a ha => ⟨fun hl => ?_, fun hf => ?_⟩⟩
  · rcases ha with ha | ha | ha
    · exact (hof a ha).imp (fun ha => h.known a (.inl ha)) .inl
    · rcases loosened a ha with ha | ha | ha
      · exact .inl (h.known a (.inr (.inl ha)))
      · exact (hleftKnown a ha).imp_right .inl
      · exact .inr (.inr ha)
    · rcases freeing a ha with ha | ha | ha | ha
      · exact .inl (h.known a (.inr (.inr ha)))
      · exact (hleftKnown a ha).imp_right .inl
      · exact .inl (h.known a (.inr (.inl ha)))
      · exact .inr (.inr ha)
  · have hmoves := moves a
    have hdistinct := h.distinct a
    rcases Nat.eq_zero_or_pos (new.count a) with hzero | hin
    · omega
    · have := hnew a (count_pos_iff.mp hin)
      omega
  · rcases loosened a hl with hl | hl | hl
    · exact (hloose a ha).1 hl
    · exact hleft a ha hl
    · exact (hloose a ha).2.2 hl
  · rcases freeing a hf with hf | hf | hf | hf
    · exact (hloose a ha).2.1 hf
    · exact hleft a ha hf
    · exact (hloose a ha).1 hf
    · exact (hloose a ha).2.2 hf

theorem shift (h : Allocated held loose freed mallocs) (left : List α)
    (moves : ∀ a, held'.count a + left.count a ≤ held.count a)
    (loosened : ∀ a ∈ loose', a ∈ loose ∨ a ∈ left)
    (freeing : ∀ a ∈ freed', a ∈ freed ∨ a ∈ left ∨ a ∈ loose)
    (grow : ∀ a ∈ mallocs, a ∈ mallocs') : Allocated held' loose' freed' mallocs' :=
  h.advance left [] [] (fun a => by simpa using moves a)
    (fun a ha => (loosened a ha).imp_right .inl)
    (fun a ha => (freeing a ha).imp_right fun h => h.imp_right .inl) .nil (by simp)
    fun a ha => grow a (by simpa using ha)

end Allocated

end Loop
