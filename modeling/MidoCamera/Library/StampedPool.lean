import Mathlib.Data.List.Nodup
import Mathlib.Data.List.Range

/-!
# A pool whose members keep their marks

The free members of a pool are listed. A member is taken from the head of the list and marked with the
key that it is used for; it is found by its mark, and put at the end of the list again. The mark stays
until the member is taken for another key. If no key is used twice, the first member with the mark of
a key in use is the one that is used for it: a member that has been given back has an old key, and the
members that have never been taken, which may have any mark at all, come after it.
-/

namespace Loop

open List

variable {κ : Type*} {k : κ} {count touched i : ℕ} {released rest : List ℕ} {mark : ℕ → κ}
  {used keys : List κ}

/-- The free members: those from `touched` on have never been taken. -/
def freeMembers (count touched : ℕ) (released : List ℕ) : List ℕ :=
  List.range' touched (count - touched) ++ released

/-- **A stamped pool**: the members that have been taken and are not given back are marked with the
keys in use, one each; those that are given back have marks of old keys. -/
structure Stamped (count touched : ℕ) (released : List ℕ) (mark : ℕ → κ)
    (used keys : List κ) : Prop where
  le : touched ≤ count
  nodup : released.Nodup
  stale : ∀ i ∈ released, i < touched ∧ mark i ∈ used ∧ mark i ∉ keys
  keysNodup : keys.Nodup
  keysUsed : ∀ k ∈ keys, k ∈ used
  taken : ∀ i < touched, i ∉ released → mark i ∈ keys
  marked : ∀ k ∈ keys, ∃ i < touched, i ∉ released ∧ mark i = k
  single : ∀ i < touched, i ∉ released → ∀ j < touched, j ∉ released → mark i = mark j → i = j
  length : (freeMembers count touched released).length + keys.length = count

theorem mem_freeMembers : i ∈ freeMembers count touched released ↔
    (touched ≤ i ∧ i < count) ∨ i ∈ released := by
  unfold freeMembers
  rw [mem_append, mem_range'_1]
  refine or_congr_left ⟨fun h => ⟨h.1, by omega⟩, fun h => ⟨h.1, by omega⟩⟩

namespace Stamped

theorem empty (count : ℕ) (mark : ℕ → κ) : Stamped count 0 [] mark [] [] where
  le := Nat.zero_le count
  nodup := .nil
  stale := nofun
  keysNodup := .nil
  keysUsed := nofun
  taken := nofun
  marked := nofun
  single := nofun
  length := by simp [freeMembers]

theorem perm {keys' : List κ} (h : Stamped count touched released mark used keys)
    (hkeys : keys.Perm keys') : Stamped count touched released mark used keys' where
  le := h.le
  nodup := h.nodup
  stale i hi := ⟨(h.stale i hi).1, (h.stale i hi).2.1, mt hkeys.mem_iff.mpr (h.stale i hi).2.2⟩
  keysNodup := hkeys.nodup_iff.mp h.keysNodup
  keysUsed k hk := h.keysUsed k (hkeys.mem_iff.mpr hk)
  taken i hi hnot := hkeys.mem_iff.mp (h.taken i hi hnot)
  marked k hk := h.marked k (hkeys.mem_iff.mpr hk)
  single := h.single
  length := hkeys.length_eq ▸ h.length

theorem free_nodup (h : Stamped count touched released mark used keys) :
    (freeMembers count touched released).Nodup := by
  refine nodup_append.mpr ⟨nodup_range', h.nodup, fun i hi j hj heq => ?_⟩
  have hle := (mem_range'_1.mp hi).1
  have hlt := (h.stale j hj).1
  omega

theorem free_lt (h : Stamped count touched released mark used keys)
    (hi : i ∈ freeMembers count touched released) : i < count := by
  rcases mem_freeMembers.mp hi with hi | hi
  · exact hi.2
  · exact (h.stale i hi).1.trans_le h.le

theorem of_not_free (h : i < count) (hi : i ∉ freeMembers count touched released) :
    i < touched ∧ i ∉ released := by
  rw [mem_freeMembers] at hi
  exact ⟨by omega, fun hmem => hi (.inr hmem)⟩

theorem not_free (hlt : i < touched) (hnot : i ∉ released) :
    i ∉ freeMembers count touched released := by
  rw [mem_freeMembers]
  rintro (h | h)
  · omega
  · exact hnot h

/-- **A member in use is found by its mark.** -/
theorem find [DecidableEq κ] (h : Stamped count touched released mark used keys)
    (hk : k ∈ keys) : ∃ i < touched, i ∉ released ∧ mark i = k ∧
      (List.range count).find? (fun i => mark i = k) = some i := by
  obtain ⟨i, hi, hnot, hmark⟩ := h.marked k hk
  refine ⟨i, hi, hnot, hmark, find?_range_eq_some.mpr ⟨by simpa using hmark, ?_, ?_⟩⟩
  · exact mem_range.mpr (hi.trans_le h.le)
  · -- an earlier member has been taken, and so has another key, in use or not
    intro j hj
    have hne : mark j ≠ k := fun heq => by
      by_cases hrel : j ∈ released
      · exact (h.stale j hrel).2.2 (heq ▸ hk)
      · have := h.single j (hj.trans hi) hrel i hi hnot (heq.trans hmark.symm)
        omega
    simpa using hne

theorem stamp (h : Stamped count touched released mark used keys) (hk : k ∉ used)
    {touched' : ℕ} {released' : List ℕ} (le : touched' ≤ count) (nodup : released'.Nodup)
    (sub : ∀ j ∈ released', j ∈ released ∧ j ≠ i) (hi : i < touched') (hrel : i ∉ released')
    (old : ∀ j, j ≠ i → (j < touched' ↔ j < touched) ∧ (j ∈ released' ↔ j ∈ released))
    (free : i :: freeMembers count touched' released' = freeMembers count touched released) :
    Stamped count touched' released' (Function.update mark i k) (used ++ [k])
      (keys ++ [k]) := by
  have hother {j : ℕ} (hj : j ≠ i) : Function.update mark i k j = mark j :=
    Function.update_of_ne hj ..
  have hnew : k ∉ keys := fun hmem => hk (h.keysUsed k hmem)
  -- the marks of the members in use are the keys
  have hmark {j : ℕ} (hj : j < touched') (hnot : j ∉ released') (hne : j ≠ i) : mark j ∈ keys :=
    h.taken j ((old j hne).1.mp hj) (mt (old j hne).2.mpr hnot)
  refine ⟨le, nodup, fun j hj => ?_, ?_, fun k' hk' => ?_, fun j hj hnot => ?_,
    fun k' hk' => ?_, fun j hj hnot l hl hnot' heq => ?_, ?_⟩
  · obtain ⟨hj', hne⟩ := sub j hj
    obtain ⟨hlt, hused, hstale⟩ := h.stale j hj'
    rw [hother hne]
    refine ⟨(old j hne).1.mpr hlt, mem_append_left _ hused, fun hmem => ?_⟩
    rcases mem_append.mp hmem with hmem | hmem
    · exact hstale hmem
    · exact hk (mem_singleton.mp hmem ▸ hused)
  · refine nodup_append.mpr ⟨h.keysNodup, nodup_singleton k, fun a ha b hb heq => ?_⟩
    exact hnew (mem_singleton.mp hb ▸ heq ▸ ha)
  · rcases mem_append.mp hk' with hk' | hk'
    · exact mem_append_left _ (h.keysUsed k' hk')
    · exact mem_append_right _ hk'
  · rcases eq_or_ne j i with rfl | hne
    · rw [Function.update_self]
      exact mem_append_right _ (mem_singleton_self k)
    · rw [hother hne]
      exact mem_append_left _ (hmark hj hnot hne)
  · rcases mem_append.mp hk' with hk' | hk'
    · obtain ⟨j, hj, hnot, rfl⟩ := h.marked k' hk'
      have hne : j ≠ i := by
        rintro rfl
        have hmem : j ∈ freeMembers count touched released := free ▸ mem_cons_self
        exact not_free hj hnot hmem
      exact ⟨j, (old j hne).1.mpr hj, mt (old j hne).2.mp hnot, hother hne⟩
    · rw [mem_singleton.mp hk']
      exact ⟨i, hi, hrel, Function.update_self ..⟩
  · by_cases hji : j = i
    · by_cases hli : l = i
      · exact hji.trans hli.symm
      · rw [hji, Function.update_self, hother hli] at heq
        exact absurd (heq ▸ hmark hl hnot' hli) hnew
    · by_cases hli : l = i
      · rw [hli, Function.update_self, hother hji] at heq
        exact absurd (heq ▸ hmark hj hnot hji) hnew
      · rw [hother hji, hother hli] at heq
        exact h.single j ((old j hji).1.mp hj) (mt (old j hji).2.mpr hnot) l
          ((old l hli).1.mp hl) (mt (old l hli).2.mpr hnot') heq
  · have hlength := h.length
    rw [← free, length_cons] at hlength
    rw [length_append, length_singleton]
    omega

/-- **The first free member is taken** for a key that is new. -/
theorem take (h : Stamped count touched released mark used keys) (hk : k ∉ used)
    (hfree : freeMembers count touched released = i :: rest) :
    ∃ touched' released', freeMembers count touched' released' = rest ∧
      Stamped count touched' released' (Function.update mark i k) (used ++ [k])
        (keys ++ [k]) := by
  rcases Nat.lt_or_ge touched count with hlt | hge
  · -- it has never been taken
    have hcons : freeMembers count touched released =
        touched :: freeMembers count (touched + 1) released := by
      unfold freeMembers
      obtain ⟨n, hn⟩ : ∃ n, count - touched = n + 1 := ⟨count - touched - 1, by omega⟩
      rw [hn, range'_succ, show count - (touched + 1) = n by omega]
      rfl
    obtain ⟨rfl, rfl⟩ := cons.inj (hcons.symm.trans hfree)
    refine ⟨touched + 1, released, rfl, h.stamp hk hlt h.nodup (fun j hj => ⟨hj, ?_⟩)
      (Nat.lt_succ_self _) (fun hmem => ?_) (fun j hj => ⟨by omega, Iff.rfl⟩) hcons.symm⟩
    · have := (h.stale j hj).1
      omega
    · have := (h.stale touched hmem).1
      omega
  · -- it has been given back
    have hreleased : freeMembers count touched released = released := by
      unfold freeMembers
      rw [Nat.sub_eq_zero_of_le hge]
      rfl
    obtain rfl : released = i :: rest := hreleased.symm.trans hfree
    obtain ⟨hi, hrest⟩ := nodup_cons.mp h.nodup
    have hrest' : freeMembers count touched rest = rest := by
      unfold freeMembers
      rw [Nat.sub_eq_zero_of_le hge]
      rfl
    refine ⟨touched, rest, hrest', h.stamp hk h.le hrest (fun j hj => ?_)
      (h.stale i mem_cons_self).1 hi (fun j hj => ⟨Iff.rfl, ?_⟩) ?_⟩
    · exact ⟨mem_cons_of_mem _ hj, ne_of_mem_of_not_mem hj hi⟩
    · simp [hj]
    · rw [hrest', hfree]

/-- **The member that is in use for a key is given back.** -/
theorem release {keys' : List κ} (h : Stamped count touched released mark used keys)
    (hkeys : keys.Perm (mark i :: keys')) (hi : i < touched) (hnot : i ∉ released) :
    Stamped count touched (released ++ [i]) mark used keys' := by
  have hp := h.perm hkeys
  obtain ⟨hgone, hnodup⟩ := nodup_cons.mp hp.keysNodup
  have hold {j : ℕ} (hj : j ∉ released ++ [i]) : j ∉ released ∧ j ≠ i := by
    simpa [not_or] using hj
  refine ⟨h.le, ?_, fun j hj => ?_, hnodup,
    fun k hk => hp.keysUsed k (mem_cons_of_mem _ hk), fun j hj hnot' => ?_, fun k hk => ?_,
    fun j hj hnot' l hl hnot'' heq => h.single j hj (hold hnot').1 l hl (hold hnot'').1 heq, ?_⟩
  · refine nodup_append.mpr ⟨h.nodup, nodup_singleton i, fun a ha b hb heq => ?_⟩
    exact hnot (mem_singleton.mp hb ▸ heq ▸ ha)
  · rcases mem_append.mp hj with hj | hj
    · obtain ⟨hlt, hused, hstale⟩ := hp.stale j hj
      exact ⟨hlt, hused, fun hmem => hstale (mem_cons_of_mem _ hmem)⟩
    · rw [mem_singleton.mp hj]
      exact ⟨hi, hp.keysUsed _ mem_cons_self, hgone⟩
  · obtain ⟨hrel, hne⟩ := hold hnot'
    refine (mem_cons.mp (hp.taken j hj hrel)).resolve_left fun heq => hne ?_
    exact h.single j hj hrel i hi hnot heq
  · obtain ⟨j, hj, hrel, rfl⟩ := hp.marked k (mem_cons_of_mem _ hk)
    refine ⟨j, hj, fun hmem => ?_, rfl⟩
    rcases mem_append.mp hmem with hmem | hmem
    · exact hrel hmem
    · exact hgone (mem_singleton.mp hmem ▸ hk)
  · have hlength := hp.length
    unfold freeMembers at hlength ⊢
    simp only [length_append, length_cons, length_nil] at hlength ⊢
    omega

end Stamped

end Loop
