import MidoCamera.Library.Custody

/-!
# Counting what is where

Items that move between lists are counted by what they stand for: an item may stand for any number
of keys. The count of a key over a list adds up along the list, splits along a filter, and loses the
share of an item that is taken out.
-/

namespace Loop

open List

variable {α β κ : Type*} [DecidableEq κ] {f : α → List κ} {k : κ} {l : List α}

/-- How often `k` is among what the items of a list stand for. -/
def tally (f : α → List κ) (k : κ) (l : List α) : ℕ := (l.flatMap f).count k

@[simp] theorem tally_nil : tally f k [] = 0 := rfl

@[simp] theorem tally_cons (a : α) : tally f k (a :: l) = (f a).count k + tally f k l := by
  simp only [tally, flatMap_cons, count_append]

@[simp] theorem tally_append (l l' : List α) :
    tally f k (l ++ l') = tally f k l + tally f k l' := by
  simp only [tally, flatMap_append, count_append]

theorem tally_map (g : α → κ) : tally (fun a => [g a]) k l = (l.map g).count k := by
  induction l with
  | nil => rfl
  | cons a l ih => simp only [tally_cons, ih, map_cons, count_cons, count_nil, zero_add,
      add_comm]

theorem tally_flatMap {β : Type*} (g : β → List α) (l : List β) :
    tally f k (l.flatMap g) = tally (fun b => (g b).flatMap f) k l := by
  rw [tally, tally, flatMap_assoc]

theorem tally_map_list {β : Type*} (g : β → α) (l : List β) :
    tally f k (l.map g) = tally (fun b => f (g b)) k l := by
  rw [tally, tally, flatMap_map]

/-- A filter and its complement share the count. -/
theorem tally_filter_add (p : α → Bool) :
    tally f k (l.filter p) + tally f k (l.filter fun a => !p a) = tally f k l := by
  induction l with
  | nil => rfl
  | cons a l ih =>
    rw [tally_cons, ← ih]
    cases hp : p a with
    | true =>
      rw [filter_cons_of_pos hp, filter_cons_of_neg (by simp [hp]), tally_cons, add_assoc]
    | false =>
      rw [filter_cons_of_neg (by simp [hp]), filter_cons_of_pos (by simp [hp]), tally_cons,
        add_left_comm]

theorem tally_pos_iff : 0 < tally f k l ↔ ∃ a ∈ l, k ∈ f a := by
  rw [tally, count_pos_iff, mem_flatMap]

theorem tally_eq_zero_iff : tally f k l = 0 ↔ ∀ a ∈ l, k ∉ f a := by
  rw [tally, count_eq_zero, mem_flatMap]
  push Not
  rfl

theorem le_tally {a : α} (mem : a ∈ l) : (f a).count k ≤ tally f k l := by
  induction l with
  | nil => cases mem
  | cons b l ih =>
    rw [tally_cons]
    rcases mem_cons.mp mem with rfl | hl
    · exact Nat.le_add_right _ _
    · exact (ih hl).trans (Nat.le_add_left _ _)

theorem tally_congr {g : α → List κ} (h : ∀ a ∈ l, f a = g a) : tally f k l = tally g k l := by
  induction l with
  | nil => rfl
  | cons a l ih =>
    rw [tally_cons, tally_cons, h a mem_cons_self, ih fun b hb => h b (mem_cons_of_mem a hb)]

theorem tally_mono {g : α → List κ} (h : ∀ a ∈ l, (f a).count k ≤ (g a).count k) :
    tally f k l ≤ tally g k l := by
  induction l with
  | nil => exact le_rfl
  | cons a l ih =>
    rw [tally_cons, tally_cons]
    exact Nat.add_le_add (h a mem_cons_self) (ih fun b hb => h b (mem_cons_of_mem a hb))

theorem tally_filter_eq {p : α → Bool} (h : ∀ a ∈ l, p a = false → f a = []) :
    tally f k (l.filter p) = tally f k l := by
  have hrest : tally f k (l.filter fun a => !p a) = 0 := by
    refine tally_eq_zero_iff.mpr fun a ha => ?_
    obtain ⟨hl, hp⟩ := mem_filter.mp ha
    rw [h a hl (by simpa using hp)]
    exact not_mem_nil
  rw [← tally_filter_add (l := l) p, hrest, add_zero]

theorem tally_perm {l' : List α} (h : l.Perm l') : tally f k l = tally f k l' :=
  (h.flatMap_right f).count_eq k

theorem tally_sublist {l' : List α} (h : l'.Sublist l) : tally f k l' ≤ tally f k l := by
  induction h with
  | slnil => exact le_rfl
  | cons a _ ih =>
    rw [tally_cons]
    exact ih.trans (Nat.le_add_left _ _)
  | cons_cons a _ ih =>
    rw [tally_cons, tally_cons]
    exact Nat.add_le_add_left ih _

/-- One item more is counted, where the items are distinct. -/
theorem countP_gain {p q : α → Bool} {a : α} (nodup : l.Nodup) (mem : a ∈ l) (was : p a = false)
    (now : q a = true) (others : ∀ b ∈ l, b ≠ a → q b = p b) : l.countP q = l.countP p + 1 := by
  induction l with
  | nil => cases mem
  | cons c l ih =>
    rw [nodup_cons] at nodup
    rcases mem_cons.mp mem with rfl | hmem
    · -- no other item of the list is this one
      have hrest : l.countP q = l.countP p := countP_congr fun b hb => by
        rw [others b (mem_cons_of_mem a hb) fun hba => nodup.1 (hba ▸ hb)]
      rw [countP_cons_of_pos now, countP_cons_of_neg (by simp [was]), hrest]
    · have hc : q c = p c := others c mem_cons_self fun hca => nodup.1 (hca ▸ hmem)
      have hrest := ih nodup.2 hmem fun b hb => others b (mem_cons_of_mem c hb)
      rw [countP_cons, countP_cons, hc, hrest, add_right_comm]

variable [DecidableEq β] {key : α → β} {b : β}

theorem takeOut_sublist (key : α → β) (b : β) (l : List α) : (takeOut key b l).Sublist l :=
  eraseP_sublist

theorem takeOut_of_find?_none (h : l.find? (fun a => key a == b) = none) : takeOut key b l = l :=
  eraseP_of_forall_not fun a ha => by simpa using find?_eq_none.mp h a ha

/-- The first item of a key, when it is taken out, takes its share with it. -/
theorem tally_takeOut {a : α} (h : l.find? (fun a => key a == b) = some a) :
    tally f k (takeOut key b l) + (f a).count k = tally f k l := by
  induction l with
  | nil => cases h
  | cons c l ih =>
    unfold takeOut at ih ⊢
    rw [eraseP_cons, tally_cons]
    cases hc : key c == b with
    | true =>
      rw [find?_cons_of_pos (by simpa using hc)] at h
      rw [cond_true, Option.some.inj h, add_comm]
    | false =>
      rw [find?_cons_of_neg (by simpa using hc)] at h
      rw [cond_false, tally_cons, add_assoc, ih h]

theorem count_map_takeOut {a : α} (g : α → κ) (h : l.find? (fun a => key a == b) = some a) :
    ((takeOut key b l).map g).count k + [g a].count k = (l.map g).count k := by
  rw [← tally_map, ← tally_map]
  exact tally_takeOut h

end Loop
