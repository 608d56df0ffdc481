import Mathlib.Data.List.Range
import Mathlib.Data.List.Nodup

/-!
# A pool whose members are marked

A pool grows one member at a time. A member that is in use is marked with the key it is used for,
and a free one with a mark that is no key; the free members are listed. A member is found by its
mark, so that members in use have different marks.
-/

namespace Loop

open Function List

variable {κ : Type*} {count : ℕ} {free : List ℕ} {mark : ℕ → κ} {unmarked : κ} {keys : List κ}

/-- The members below `count` that are not free are marked with the keys, one each. -/
structure Marked (unmarked : κ) (count : ℕ) (free : List ℕ) (mark : ℕ → κ) (keys : List κ) : Prop where
  nodup : free.Nodup
  loose : ∀ b ∈ free, b < count ∧ mark b = unmarked
  taken : ∀ b < count, b ∉ free → mark b ∈ keys
  single : ∀ b < count, b ∉ free → ∀ b' < count, b' ∉ free → mark b = mark b' → b = b'
  marked : ∀ k ∈ keys, ∃ b < count, b ∉ free ∧ mark b = k

namespace Marked

theorem empty : Marked unmarked 0 [] mark [] :=
  ⟨.nil, nofun, fun _ h => absurd h (Nat.not_lt_zero _), fun _ h => absurd h (Nat.not_lt_zero _),
    nofun⟩

theorem mem_free_iff (h : Marked unmarked count free mark keys) (hnone : unmarked ∉ keys) {b : ℕ}
    (hb : b < count) : b ∈ free ↔ mark b ∉ keys :=
  ⟨fun hfree => (h.loose b hfree).2 ▸ hnone, fun hkey => by
    by_contra hfree
    exact hkey (h.taken b hb hfree)⟩

theorem congr {mark' : ℕ → κ} (h : Marked unmarked count free mark keys)
    (same : ∀ b < count, mark' b = mark b) : Marked unmarked count free mark' keys where
  nodup := h.nodup
  loose b hb := ⟨(h.loose b hb).1, (same b (h.loose b hb).1).trans (h.loose b hb).2⟩
  taken b hb hfree := same b hb ▸ h.taken b hb hfree
  single b hb hfree b' hb' hfree' heq :=
    h.single b hb hfree b' hb' hfree' (by rw [← same b hb, ← same b' hb', heq])
  marked k hk := by
    obtain ⟨b, hb, hfree, hmark⟩ := h.marked k hk
    exact ⟨b, hb, hfree, (same b hb).trans hmark⟩

theorem grow (h : Marked unmarked count [] mark keys) {k : κ} (hk : k ∉ keys) :
    Marked unmarked (count + 1) [] (update mark count k) (keys ++ [k]) := by
  have hother (b : ℕ) (hb : b ≠ count) : update mark count k b = mark b :=
    update_of_ne hb ..
  refine ⟨.nil, nofun, fun b hb _ => ?_, fun b hb _ b' hb' _ heq => ?_, fun k' hk' => ?_⟩
  · rcases eq_or_ne b count with rfl | hne
    · simp
    · rw [hother b hne]
      exact mem_append_left _ (h.taken b (by omega) not_mem_nil)
  · -- the key is new, so that the new member is told apart by its mark
    have hnew (c : ℕ) (hc : c < count + 1) (hmark : update mark count k c = k) :
        c = count := by
      by_contra hne
      rw [hother c hne] at hmark
      exact hk (hmark ▸ h.taken c (by omega) not_mem_nil)
    rcases eq_or_ne b count with rfl | hne
    · rw [update_self] at heq
      exact (hnew b' hb' heq.symm).symm
    · rcases eq_or_ne b' count with rfl | hne'
      · rw [update_self] at heq
        exact hnew b hb heq
      · rw [hother b hne, hother b' hne'] at heq
        exact h.single b (by omega) not_mem_nil b' (by omega) not_mem_nil heq
  · rcases mem_append.mp hk' with hk' | hk'
    · obtain ⟨b, hb, _, hmark⟩ := h.marked k' hk'
      exact ⟨b, by omega, not_mem_nil, (hother b (by omega)).trans hmark⟩
    · rw [mem_singleton.mp hk']
      exact ⟨count, Nat.lt_succ_self _, not_mem_nil, update_self ..⟩

/-- A free member is put to use for a new key. -/
theorem take {b : ℕ} {rest : List ℕ} (h : Marked unmarked count (b :: rest) mark keys) {k : κ}
    (hk : k ∉ keys) : Marked unmarked count rest (update mark b k) (keys ++ [k]) := by
  obtain ⟨hb, hrest⟩ := nodup_cons.mp h.nodup
  have hother (c : ℕ) (hc : c ≠ b) : update mark b k c = mark c :=
    update_of_ne hc ..
  have hold {c : ℕ} (hc : c ≠ b) (hfree : c ∉ rest) : c ∉ b :: rest := by
    simpa [hc] using hfree
  refine ⟨hrest, fun c hc => ?_, fun c hlt hfree => ?_, fun c hlt hfree c' hlt' hfree' heq => ?_,
    fun k' hk' => ?_⟩
  · have hne : c ≠ b := fun h => hb (h ▸ hc)
    rw [hother c hne]
    exact h.loose c (mem_cons_of_mem _ hc)
  · rcases eq_or_ne c b with rfl | hne
    · simp
    · rw [hother c hne]
      exact mem_append_left _ (h.taken c hlt (hold hne hfree))
  · have hnew (d : ℕ) (hd : d < count) (hfree : d ∉ rest)
        (hmark : update mark b k d = k) : d = b := by
      by_contra hne
      rw [hother d hne] at hmark
      exact hk (hmark ▸ h.taken d hd (hold hne hfree))
    rcases eq_or_ne c b with rfl | hne
    · rw [update_self] at heq
      exact (hnew c' hlt' hfree' heq.symm).symm
    · rcases eq_or_ne c' b with rfl | hne'
      · rw [update_self] at heq
        exact hnew c hlt hfree heq
      · rw [hother c hne, hother c' hne'] at heq
        exact h.single c hlt (hold hne hfree) c' hlt' (hold hne' hfree') heq
  · rcases mem_append.mp hk' with hk' | hk'
    · obtain ⟨c, hlt, hfree, hmark⟩ := h.marked k' hk'
      obtain ⟨hne, hfree⟩ := not_or.mp (mt mem_cons.mpr hfree)
      exact ⟨c, hlt, hfree, (hother c hne).trans hmark⟩
    · rw [mem_singleton.mp hk']
      exact ⟨b, (h.loose b mem_cons_self).1, hb, update_self ..⟩

/-- **The member found by its mark is given back**, and its key is gone. -/
theorem release {b : ℕ} {k : κ} (h : Marked unmarked count free mark (k :: keys)) (hb : b < count)
    (hmark : mark b = k) (hnone : unmarked ≠ k) (hk : k ∉ keys) :
    Marked unmarked count (free ++ [b]) (update mark b unmarked) keys := by
  have hbfree : b ∉ free := fun hmem => hnone ((h.loose b hmem).2.symm.trans hmark)
  have hother (c : ℕ) (hc : c ≠ b) : update mark b unmarked c = mark c :=
    update_of_ne hc ..
  have hold {c : ℕ} (hfree : c ∉ free ++ [b]) : c ∉ free ∧ c ≠ b := by
    simpa [not_or] using hfree
  refine ⟨nodup_append.mpr ⟨h.nodup, nodup_singleton b, ?_⟩, fun c hc => ?_,
    fun c hlt hfree => ?_, fun c hlt hfree c' hlt' hfree' heq => ?_, fun k' hk' => ?_⟩
  · intro c hc d hd
    rw [mem_singleton.mp hd]
    exact fun heq => hbfree (heq ▸ hc)
  · rcases eq_or_ne c b with rfl | hne
    · exact ⟨hb, update_self ..⟩
    · rw [hother c hne]
      refine h.loose c ((mem_append.mp hc).resolve_right fun hmem => hne ?_)
      exact mem_singleton.mp hmem
  · obtain ⟨hfree, hne⟩ := hold hfree
    rw [hother c hne]
    refine (mem_cons.mp (h.taken c hlt hfree)).resolve_left fun hck => hne ?_
    exact h.single c hlt hfree b hb hbfree (hck.trans hmark.symm)
  · obtain ⟨hfree, hne⟩ := hold hfree
    obtain ⟨hfree', hne'⟩ := hold hfree'
    rw [hother c hne, hother c' hne'] at heq
    exact h.single c hlt hfree c' hlt' hfree' heq
  · obtain ⟨c, hlt, hfree, hcmark⟩ := h.marked k' (mem_cons_of_mem _ hk')
    have hne : c ≠ b := by
      rintro rfl
      exact hk (hmark ▸ hcmark ▸ hk')
    refine ⟨c, hlt, ?_, (hother c hne).trans hcmark⟩
    simpa [not_or] using ⟨hfree, hne⟩

end Marked

end Loop
