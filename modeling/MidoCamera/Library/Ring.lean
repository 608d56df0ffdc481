import Mathlib.Data.List.Chain
import Mathlib.Data.List.Nodup

/-!
# Circular doubly linked lists

The links of an intrusive list are two functions on the addresses of its cells. A ring is a head
and a list of cells, all different, in which every cell and the one after it point to each other,
all the way around to the head. An insertion between two neighbours and the removal of a cell keep
a ring; each changes both directions at two places.
-/

namespace Loop

open Function List

variable {α : Type*}

/-- The two pointers of every address. -/
structure Links (α : Type*) where
  next : α → α
  prev : α → α

namespace Links

/-- Two cells point to each other, the second coming after the first. -/
def Linked (l : Links α) (a b : α) : Prop := l.next a = b ∧ l.prev b = a

/-- From the head, the links lead through the cells, all of them different, and back. -/
structure Ring (l : Links α) (h : α) (xs : List α) : Prop where
  chain : (h :: xs ++ [h]).IsChain l.Linked
  nodup : (h :: xs).Nodup

variable {l l' : Links α} {h x p n : α} {xs ys : List α}

/-- A chain stays a chain where its links are left alone: forwards at all cells but the last,
backwards at all but the first. -/
theorem chain_congr {c : α} {rest : List α} (hc : (c :: rest).IsChain l.Linked)
    (hnext : ∀ a ∈ (c :: rest).dropLast, l'.next a = l.next a)
    (hprev : ∀ b ∈ rest, l'.prev b = l.prev b) : (c :: rest).IsChain l'.Linked := by
  induction rest generalizing c with
  | nil => exact isChain_singleton c
  | cons d rest ih =>
    rw [isChain_cons_cons] at hc ⊢
    obtain ⟨⟨hcd, hdc⟩, hrest⟩ := hc
    rw [dropLast_cons_cons] at hnext
    refine ⟨⟨?_, ?_⟩, ?_⟩
    · rw [hnext c mem_cons_self, hcd]
    · rw [hprev d mem_cons_self, hdc]
    · apply ih hrest
      · exact fun a ha => hnext a (mem_cons_of_mem _ ha)
      · exact fun b hb => hprev b (mem_cons_of_mem _ hb)

/-- A cut of a ring: the cells before it end with `p`, and those after it, up to the head, begin
with `n`. -/
structure Cut (h : α) (xs ys : List α) (p n : α) : Prop where
  before : ∃ front, h :: xs = front ++ [p]
  after : ∃ back, ys ++ [h] = n :: back

theorem ring_of_cut (cut : Cut h xs ys p n) (hleft : (h :: xs).IsChain l.Linked)
    (hlink : l.Linked p n) (hright : (ys ++ [h]).IsChain l.Linked)
    (hnd : (h :: (xs ++ ys)).Nodup) : l.Ring h (xs ++ ys) := by
  obtain ⟨front, hp⟩ := cut.before
  obtain ⟨back, hn⟩ := cut.after
  refine ⟨?_, hnd⟩
  rw [cons_append, append_assoc, ← cons_append]
  rw [hp] at hleft ⊢
  rw [hn] at hright ⊢
  rw [append_assoc]
  exact isChain_append_cons_cons.mpr ⟨hleft, hlink, hright⟩

theorem Ring.cut (hr : l.Ring h (xs ++ ys)) (cut : Cut h xs ys p n) :
    (h :: xs).IsChain l.Linked ∧ l.Linked p n ∧ (ys ++ [h]).IsChain l.Linked := by
  obtain ⟨front, hp⟩ := cut.before
  obtain ⟨back, hn⟩ := cut.after
  have hchain := hr.chain
  rw [cons_append, append_assoc, ← cons_append, hp, hn, append_assoc] at hchain
  rw [hp, hn]
  exact isChain_append_cons_cons.mp hchain

/-- The cells on either side of a cut are chains of other links, too, that differ only forwards at
the cell before the cut and backwards at the one after it. -/
theorem Cut.chains_congr (cut : Cut h xs ys p n) (hleft : (h :: xs).IsChain l.Linked)
    (hright : (ys ++ [h]).IsChain l.Linked) (hnd : (h :: (xs ++ ys)).Nodup)
    (hnext : ∀ a ∈ h :: (xs ++ ys), a ≠ p → l'.next a = l.next a)
    (hprev : ∀ b ∈ h :: (xs ++ ys), b ≠ n → l'.prev b = l.prev b) :
    (h :: xs).IsChain l'.Linked ∧ (ys ++ [h]).IsChain l'.Linked := by
  obtain ⟨front, hp⟩ := cut.before
  obtain ⟨back, hn⟩ := cut.after
  have hpmem : p ∈ h :: xs := by
    rw [hp]
    simp
  have hnmem : n ∈ ys ++ [h] := by
    rw [hn]
    simp
  constructor
  · apply chain_congr hleft
    · intro a ha
      have hamem := dropLast_subset _ ha
      apply hnext a (by simp at hamem ⊢; tauto)
      -- the last of the cells before the cut is none of the others
      rintro rfl
      have hndl : (h :: xs).Nodup := hnd.sublist (by simp)
      rw [hp] at ha hndl
      rw [dropLast_concat] at ha
      exact (nodup_append.mp hndl).2.2 a ha a (by simp) rfl
    · intro b hb
      apply hprev b (by simp [hb])
      rintro rfl
      rcases mem_append.mp hnmem with hmem | hmem
      · exact (nodup_append.mp (nodup_cons.mp hnd).2).2.2 b hb b hmem rfl
      · obtain rfl := mem_singleton.mp hmem
        exact (nodup_cons.mp hnd).1 (mem_append_left _ hb)
  · rw [hn] at hright ⊢
    apply chain_congr hright
    · intro a ha
      rw [← hn, dropLast_concat] at ha
      apply hnext a (by simp [ha])
      rintro rfl
      rcases mem_cons.mp hpmem with rfl | hmem
      · exact (nodup_cons.mp hnd).1 (mem_append_right _ ha)
      · exact (nodup_append.mp (nodup_cons.mp hnd).2).2.2 a hmem a ha rfl
    · intro b hb
      have hbmem : b ∈ ys ++ [h] := by
        rw [hn]
        exact mem_cons_of_mem _ hb
      apply hprev b (by simp at hbmem ⊢; tauto)
      -- the first of the cells after the cut is none of the others
      rintro rfl
      have hndr : (ys ++ [h]).Nodup := by
        have hndh : (h :: ys).Nodup := hnd.sublist (by simp)
        exact (perm_append_singleton h ys).nodup_iff.mpr hndh
      rw [hn] at hndr
      exact (nodup_cons.mp hndr).1 hb

theorem cut_exists (h : α) (xs ys : List α) :
    Cut h xs ys ((h :: xs).getLast (by simp)) (ys.headD h) := by
  constructor
  · exact ⟨(h :: xs).dropLast, (dropLast_append_getLast _).symm⟩
  · cases ys with
    | nil => exact ⟨[], rfl⟩
    | cons y ys => exact ⟨ys ++ [h], rfl⟩

theorem Cut.ne (cut : Cut h xs ys p n) (hx : x ∉ h :: (xs ++ ys)) : p ≠ x ∧ n ≠ x := by
  obtain ⟨front, hp⟩ := cut.before
  obtain ⟨back, hn⟩ := cut.after
  constructor
  · rintro rfl
    have hmem : p ∈ h :: xs := by
      rw [hp]
      simp
    exact hx (by simp at hmem ⊢; tauto)
  · rintro rfl
    have hmem : n ∈ ys ++ [h] := by
      rw [hn]
      simp
    exact hx (by simp at hmem ⊢; tauto)

theorem Ring.linked (hr : l.Ring h (xs ++ ys)) (cut : Cut h xs ys p n) : l.Linked p n :=
  (hr.cut cut).2.1

theorem Ring.next_head (hr : l.Ring h xs) : l.next h = xs.headD h :=
  (@Ring.linked _ l h _ _ [] xs hr (cut_exists h [] xs)).1

theorem Ring.next_mem (hr : l.Ring h (xs ++ x :: ys)) : l.next x = ys.headD h := by
  have hr' : l.Ring h ((xs ++ [x]) ++ ys) := by
    rw [append_assoc]
    exact hr
  refine (hr'.linked ⟨⟨h :: xs, rfl⟩, ?_⟩).1
  exact (cut_exists h [] ys).after

theorem Ring.next_cell (hr : l.Ring h xs) (hx : x ∈ h :: xs) : l.next x ∈ h :: xs := by
  rcases mem_cons.mp hx with rfl | hmem
  · rw [hr.next_head]
    cases xs with
    | nil => exact mem_cons_self
    | cons y ys => exact mem_cons_of_mem _ mem_cons_self
  · obtain ⟨as, bs, rfl⟩ := append_of_mem hmem
    rw [hr.next_mem]
    cases bs with
    | nil => exact mem_cons_self
    | cons y ys => simp

theorem Ring.reached (hr : l.Ring h xs) (k : ℕ) : l.next^[k] h ∈ h :: xs := by
  induction k with
  | zero => exact mem_cons_self
  | succ k ih =>
    rw [Function.iterate_succ_apply']
    exact hr.next_cell ih

section Change

variable [DecidableEq α]

/-! ## The changes -/

def setNext (l : Links α) (a b : α) : Links α := { l with next := update l.next a b }

def setPrev (l : Links α) (a b : α) : Links α := { l with prev := update l.prev a b }

def single (l : Links α) (x : α) : Links α := (l.setNext x x).setPrev x x

/-- A cell is linked in between two others. -/
def insert (l : Links α) (x p n : α) : Links α :=
  ⟨update (update l.next x n) p x,
    update (update l.prev x p) n x⟩

/-- A cell is unlinked, and then points to itself. -/
def remove (l : Links α) (x : α) : Links α :=
  ⟨update (update l.next (l.prev x) (l.next x)) x x,
    update (update l.prev (l.next x) (l.prev x)) x x⟩

theorem Ring.empty (l : Links α) (h : α) : (l.single h).Ring h [] := by
  constructor
  · simp [Linked, single, setNext, setPrev]
  · simp

theorem Ring.insert (hr : l.Ring h (xs ++ ys)) (cut : Cut h xs ys p n)
    (hx : x ∉ h :: (xs ++ ys)) : (l.insert x p n).Ring h (xs ++ x :: ys) := by
  obtain ⟨hpx, hnx⟩ := cut.ne hx
  obtain ⟨back, hn⟩ := cut.after
  obtain ⟨hleft, -, hright⟩ := hr.cut cut
  have hnext : ∀ a ∈ h :: (xs ++ ys), a ≠ p → (l.insert x p n).next a = l.next a := by
    intro a ha hap
    have hax : a ≠ x := fun he => hx (he ▸ ha)
    simp [Links.insert, hap, hax]
  have hprev : ∀ b ∈ h :: (xs ++ ys), b ≠ n → (l.insert x p n).prev b = l.prev b := by
    intro b hb hbn
    have hbx : b ≠ x := fun he => hx (he ▸ hb)
    simp [Links.insert, hbn, hbx]
  obtain ⟨hleft', hright'⟩ := cut.chains_congr hleft hright hr.nodup hnext hprev
  have hpl : (l.insert x p n).Linked p x := by
    constructor
    · simp [Links.insert]
    · simp [Links.insert, hnx.symm]
  have hnl : (l.insert x p n).Linked x n := by
    constructor
    · simp [Links.insert, hpx.symm]
    · simp [Links.insert]
  have cut' : Cut h xs (x :: ys) p x := ⟨cut.before, ⟨ys ++ [h], rfl⟩⟩
  apply ring_of_cut cut' hleft' hpl
  · rw [cons_append, hn, isChain_cons_cons, ← hn]
    exact ⟨hnl, hright'⟩
  · have hperm : (h :: (xs ++ x :: ys)).Perm (x :: h :: (xs ++ ys)) :=
      ((perm_middle).cons h).trans (.swap x h _)
    exact hperm.nodup_iff.mpr (nodup_cons.mpr ⟨hx, hr.nodup⟩)

theorem Ring.remove (hr : l.Ring h (xs ++ x :: ys)) : (l.remove x).Ring h (xs ++ ys) := by
  have hr' : l.Ring h ((xs ++ [x]) ++ ys) := by
    rw [append_assoc]
    exact hr
  obtain ⟨p, n, cut⟩ : ∃ p n, Cut h xs ys p n := ⟨_, _, cut_exists h xs ys⟩
  obtain ⟨hleft, ⟨-, hpx⟩, -⟩ := hr.cut ⟨cut.before, ⟨ys ++ [h], rfl⟩⟩
  obtain ⟨-, ⟨hxn, -⟩, hright⟩ := hr'.cut ⟨⟨h :: xs, rfl⟩, cut.after⟩
  have hperm : (h :: (xs ++ x :: ys)).Perm (x :: h :: (xs ++ ys)) :=
    ((perm_middle).cons h).trans (.swap x h _)
  obtain ⟨hx, hnd⟩ := nodup_cons.mp (hperm.nodup_iff.mp hr.nodup)
  obtain ⟨hpx', hnx'⟩ := cut.ne hx
  have hnext : ∀ a ∈ h :: (xs ++ ys), a ≠ p → (l.remove x).next a = l.next a := by
    intro a ha hap
    have hax : a ≠ x := fun he => hx (he ▸ ha)
    simp [Links.remove, hpx, hap, hax]
  have hprev : ∀ b ∈ h :: (xs ++ ys), b ≠ n → (l.remove x).prev b = l.prev b := by
    intro b hb hbn
    have hbx : b ≠ x := fun he => hx (he ▸ hb)
    simp [Links.remove, hxn, hbn, hbx]
  obtain ⟨hleft', hright'⟩ := cut.chains_congr hleft hright hnd hnext hprev
  apply ring_of_cut cut hleft' _ hright' hnd
  -- the two neighbours of the cell now point to each other
  constructor
  · simp [Links.remove, hpx, hxn, hpx']
  · simp [Links.remove, hpx, hxn, hnx']

end Change

end Links

end Loop
