import Mathlib.Algebra.Order.Group.Multiset

/-!
# Custody of items by key

A holder takes items in and gives them back, and tells them apart by a key alone: giving an item
back takes the first item of its key out of the holdings. Whatever the keys, those held and those
given back make up those taken in; and if no two items of one key are ever held at once, the items
themselves do.
-/

namespace Loop

open List

variable {α κ : Type*} [DecidableEq κ] {key : α → κ}

def takeOut (key : α → κ) (k : κ) (held : List α) : List α := held.eraseP fun a => key a == k

def giveBack (key : α → κ) (items held : List α) : List α :=
  items.foldl (fun held a => takeOut key (key a) held) held

theorem takeOut_keys (k : κ) (held : List α) :
    (takeOut key k held).map key = (held.map key).erase k := by
  induction held with
  | nil => rfl
  | cons a held ih =>
    unfold takeOut at ih ⊢
    cases hk : key a == k with
    | true => rw [eraseP_cons, hk, map_cons, erase_cons, if_pos hk, cond_true]
    | false =>
      rw [eraseP_cons, hk, cond_false, map_cons, map_cons, erase_cons, hk,
        if_neg Bool.false_ne_true, ih]

theorem takeOut_eq_erase [DecidableEq α] {a : α} {held : List α} (mem : a ∈ held)
    (distinct : (held.map key).Nodup) : takeOut key (key a) held = held.erase a := by
  induction held with
  | nil => cases mem
  | cons b held ih =>
    obtain ⟨hb, hrest⟩ := nodup_cons.mp distinct
    unfold takeOut at ih ⊢
    rw [eraseP_cons]
    by_cases hab : b = a
    · subst hab
      rw [beq_self_eq_true, cond_true, erase_cons_head]
    · have hmem : a ∈ held := (mem_cons.mp mem).resolve_left (Ne.symm hab)
      have hkey : (key b == key a) = false :=
        beq_eq_false_iff_ne.mpr fun h => hb (h ▸ mem_map_of_mem hmem)
      rw [hkey, cond_false, erase_cons_tail (by simpa using hab), ih hmem hrest]

/-- **The keys held and given back are those taken in**, and what has been given back has been taken
in. -/
structure Custody (key : α → κ) (taken held returned : List α) : Prop where
  keys : (held.map key : Multiset κ) + (returned.map key : Multiset κ) =
    (taken.map key : Multiset κ)
  sub : (returned : Multiset α) ≤ taken

/-- **The items held and given back are those taken in**, and no two of one key are held. -/
structure ExactCustody (key : α → κ) (taken held returned : List α) : Prop where
  items : (held : Multiset α) + (returned : Multiset α) = taken
  distinct : (held.map key).Nodup

variable {taken held returned : List α}

/-- **The rule for giving back**: what is kept when one item is given back, that has been taken in
and not given back yet, is kept when many are. -/
theorem giveBack_rule {P : List α → List α → Prop}
    (one : ∀ held returned a, P held returned → (returned : Multiset α) + {a} ≤ taken →
      P (takeOut key (key a) held) (returned ++ [a]))
    {items : List α} (h : P held returned) (sub : (returned : Multiset α) + items ≤ taken) :
    P (giveBack key items held) (returned ++ items) := by
  induction items generalizing held returned with
  | nil =>
    rw [append_nil]
    exact h
  | cons a items ih =>
    have hcons : ((a :: items : List α) : Multiset α) = {a} + (items : Multiset α) := rfl
    rw [hcons, ← add_assoc] at sub
    have hone := one _ _ _ h (le_trans (Multiset.le_add_right _ _) sub)
    have hrest := ih hone (by rwa [← Multiset.coe_add])
    rwa [append_assoc] at hrest

namespace Custody

omit [DecidableEq κ] in
theorem nil : Custody key ([] : List α) [] [] := ⟨rfl, le_rfl⟩

omit [DecidableEq κ] in
theorem takeIn (h : Custody key taken held returned) (items : List α) :
    Custody key (taken ++ items) (held ++ items) returned := by
  refine ⟨?_, ?_⟩
  · simp only [map_append, ← Multiset.coe_add]
    rw [← h.keys]
    exact add_right_comm _ _ _
  · rw [← Multiset.coe_add]
    exact h.sub.trans (Multiset.le_add_right _ _)

omit [DecidableEq κ] in
theorem mem_keys {a : α} (h : Custody key taken held returned)
    (sub : (returned : Multiset α) + {a} ≤ taken) : key a ∈ held.map key := by
  have hmap := Multiset.map_le_map (f := key) sub
  rw [Multiset.map_add, Multiset.map_coe, Multiset.map_coe, ← h.keys, Multiset.map_singleton,
    add_comm (held.map key : Multiset κ)] at hmap
  exact Multiset.mem_coe.mp (Multiset.singleton_le.mp (le_of_add_le_add_left hmap))

theorem giveBackOne {a : α} (h : Custody key taken held returned)
    (sub : (returned : Multiset α) + {a} ≤ taken) :
    Custody key taken (takeOut key (key a) held) (returned ++ [a]) := by
  refine ⟨?_, by rwa [← Multiset.coe_add]⟩
  have hheld := Multiset.cons_erase (Multiset.mem_coe.mpr (h.mem_keys sub))
  rw [takeOut_keys, ← Multiset.coe_erase, map_append, ← Multiset.coe_add, ← h.keys,
    ← hheld, Multiset.erase_cons_head, ← Multiset.singleton_add]
  simp only [map_cons, map_nil, Multiset.coe_singleton]
  rw [add_comm {key a}, add_assoc, add_comm {key a}]

/-- **Items are given back**, one by one, that have been taken in and not given back yet. -/
theorem giveBack {items : List α} (h : Custody key taken held returned)
    (sub : (returned : Multiset α) + items ≤ taken) :
    Custody key taken (Loop.giveBack key items held) (returned ++ items) :=
  giveBack_rule (fun _ _ _ hc ha => hc.giveBackOne ha) h sub

end Custody

namespace ExactCustody

variable [DecidableEq α]

omit [DecidableEq κ] [DecidableEq α] in
theorem nil : ExactCustody key ([] : List α) [] [] := ⟨rfl, nodup_nil⟩

omit [DecidableEq κ] [DecidableEq α] in
theorem takeIn {items : List α} (h : ExactCustody key taken held returned)
    (distinct : ((held ++ items).map key).Nodup) :
    ExactCustody key (taken ++ items) (held ++ items) returned := by
  refine ⟨?_, distinct⟩
  rw [← Multiset.coe_add, ← Multiset.coe_add, ← h.items]
  exact add_right_comm _ _ _

theorem giveBackOne {a : α} (h : ExactCustody key taken held returned)
    (sub : (returned : Multiset α) + {a} ≤ taken) :
    ExactCustody key taken (takeOut key (key a) held) (returned ++ [a]) := by
  have hmem : a ∈ held := by
    rw [← h.items, add_comm (held : Multiset α)] at sub
    exact Multiset.mem_coe.mp (Multiset.singleton_le.mp (le_of_add_le_add_left sub))
  rw [takeOut_eq_erase hmem h.distinct]
  refine ⟨?_, h.distinct.sublist (erase_sublist.map key)⟩
  rw [← Multiset.coe_erase, ← Multiset.coe_add, ← h.items, Multiset.coe_singleton,
    ← add_assoc, add_right_comm, add_comm _ ({a} : Multiset α), Multiset.singleton_add,
    Multiset.cons_erase (Multiset.mem_coe.mpr hmem)]

/-- **Items are given back**, one by one, that have been taken in and not given back yet. -/
theorem giveBack {items : List α} (h : ExactCustody key taken held returned)
    (sub : (returned : Multiset α) + items ≤ taken) :
    ExactCustody key taken (Loop.giveBack key items held) (returned ++ items) :=
  giveBack_rule (fun _ _ _ hc ha => hc.giveBackOne ha) h sub

end ExactCustody

end Loop
