import MidoCamera.Library.Tally

/-!
# The first entry of a table

A table is searched from its start, and the first entry that is looked for is changed in place. What
is said of the table is said of what stands before the entry, the entry, and what stands after it.
-/

namespace Loop

open List

variable {α β : Type*} {p : α → Bool} {f : α → α} {l : List α} {a : α}

/-- The first item that satisfies `p` is changed. -/
def changeFirst (p : α → Bool) (f : α → α) : List α → List α
  | [] => []
  | a :: l => if p a then f a :: l else a :: changeFirst p f l

theorem changeFirst_of_none (h : l.find? p = none) : changeFirst p f l = l := by
  induction l with
  | nil => rfl
  | cons a l ih =>
    rcases hp : p a with _ | _
    · rw [find?_cons_of_neg (by simp [hp])] at h
      rw [changeFirst, if_neg (by simp [hp]), ih h]
    · rw [find?_cons_of_pos hp] at h
      cases h

/-- **The table before and after the change**: what stands before the item is not looked for. -/
theorem changeFirst_split (h : l.find? p = some a) :
    ∃ l₁ l₂, l = l₁ ++ a :: l₂ ∧ p a = true ∧ (∀ b ∈ l₁, p b = false) ∧
      changeFirst p f l = l₁ ++ f a :: l₂ := by
  induction l with
  | nil => cases h
  | cons b l ih =>
    rcases hp : p b with _ | _
    · rw [find?_cons_of_neg (by simp [hp])] at h
      obtain ⟨l₁, l₂, rfl, ha, hbefore, heq⟩ := ih h
      refine ⟨b :: l₁, l₂, rfl, ha, fun c hc => ?_, ?_⟩
      · rcases mem_cons.mp hc with rfl | hc
        · exact hp
        · exact hbefore c hc
      · rw [changeFirst, if_neg (by simp [hp]), heq, cons_append]
    · rw [find?_cons_of_pos hp] at h
      cases h
      exact ⟨[], l, rfl, hp, nofun, by rw [changeFirst, if_pos hp, nil_append]⟩

@[simp] theorem length_changeFirst (p : α → Bool) (f : α → α) (l : List α) :
    (changeFirst p f l).length = l.length := by
  rcases h : l.find? p with _ | a
  · rw [changeFirst_of_none h]
  · obtain ⟨l₁, l₂, hl, -, -, heq⟩ := changeFirst_split (f := f) h
    rw [heq, hl]
    simp

/-- **The change is counted** among the images: the old item's is one less, the new one's one more.
-/
theorem count_changeFirst [DecidableEq β] (g : α → β) (b : β) (h : l.find? p = some a) :
    ((changeFirst p f l).map g).count b + [g a].count b = (l.map g).count b + [g (f a)].count b := by
  obtain ⟨l₁, l₂, hl, -, -, heq⟩ := changeFirst_split (f := f) h
  rw [heq, hl]
  simp only [map_append, map_cons, count_append, count_cons, count_nil]
  omega

theorem mem_changeFirst {b : α} (h : l.find? p = some a) (hb : b ∈ changeFirst p f l) :
    b ∈ l ∨ b = f a := by
  obtain ⟨l₁, l₂, hl, -, -, heq⟩ := changeFirst_split (f := f) h
  rw [heq, mem_append, mem_cons] at hb
  rw [hl, mem_append, mem_cons]
  rcases hb with hb | hb | hb
  · exact .inl (.inl hb)
  · exact .inr hb
  · exact .inl (.inr (.inr hb))

theorem mem_changeFirst_of_single [DecidableEq β] (g : α → β) (h : l.find? p = some a)
    (single : (l.map g).count (g a) ≤ 1) {b : α} (hb : b ∈ changeFirst p f l) :
    b = f a ∨ (b ∈ l ∧ g b ≠ g a) := by
  obtain ⟨l₁, l₂, hl, -, -, heq⟩ := changeFirst_split (f := f) h
  rw [hl, map_append, map_cons, count_append, count_cons_self] at single
  have hnot : ∀ c, c ∈ l₁ ∨ c ∈ l₂ → g c ≠ g a := fun c hc hg => by
    rcases hc with hc | hc <;>
      have hpos := count_pos_iff.mpr (hg ▸ mem_map_of_mem (f := g) hc) <;> omega
  rw [heq, mem_append, mem_cons] at hb
  rw [hl, mem_append, mem_cons]
  rcases hb with hb | hb | hb
  · exact .inr ⟨.inl hb, hnot b (.inl hb)⟩
  · exact .inl hb
  · exact .inr ⟨.inr (.inr hb), hnot b (.inr hb)⟩

theorem mem_changeFirst_of_not {b : α} (hb : b ∈ l) (hp : p b = false) : b ∈ changeFirst p f l := by
  rcases h : l.find? p with _ | a
  · rwa [changeFirst_of_none h]
  · obtain ⟨l₁, l₂, hl, ha, -, heq⟩ := changeFirst_split (f := f) h
    rw [heq, mem_append, mem_cons]
    rw [hl, mem_append, mem_cons] at hb
    rcases hb with hb | rfl | hb
    · exact .inl hb
    · rw [hp] at ha
      cases ha
    · exact .inr (.inr hb)

theorem mem_changeFirst_self (h : l.find? p = some a) : f a ∈ changeFirst p f l := by
  obtain ⟨l₁, l₂, -, -, -, heq⟩ := changeFirst_split (f := f) h
  rw [heq]
  exact mem_append_right _ mem_cons_self

end Loop
