import MidoCamera.Library.Tally

/-!
# Owners

Things come in, are owned, and are gone. A program hands what it owns from one place to the other
and has it in its hands in between; the places, and the hands, are one list of owners, whose order
does not matter. If each thing that came in is owned once or is gone once, this stays so as owners
move, trade what they own, come with new things, and go with theirs.
-/

namespace Loop

open List

variable {ω α : Type*} [DecidableEq α]

def Owned (owns : ω → List α) (came gone : List α) (owners : List ω) : Prop :=
  ∀ a, tally owns a owners + gone.count a = came.count a

namespace Owned

variable {owns : ω → List α} {came gone : List α} {owners owners' : List ω} {o : ω} {a : α}

theorem nil (owns : ω → List α) : Owned owns [] [] [] := fun _ => rfl

theorem perm (h : Owned owns came gone owners) (p : owners.Perm owners') :
    Owned owns came gone owners' := fun a => by
  rw [← tally_perm p]
  exact h a

/-- Owners trade: others own the same. -/
theorem trade {os os' : List ω} (h : Owned owns came gone (os ++ owners))
    (same : ∀ a, tally owns a os' = tally owns a os) : Owned owns came gone (os' ++ owners) :=
  fun a => by
    have := h a
    rw [tally_append] at this ⊢
    rw [same, this]

theorem come (h : Owned owns came gone owners) (o : ω) :
    Owned owns (came ++ owns o) gone (o :: owners) := fun a => by
  have := h a
  rw [tally_cons, count_append]
  omega

theorem go (h : Owned owns came gone (o :: owners)) : Owned owns came (gone ++ owns o) owners :=
  fun a => by
    have := h a
    rw [tally_cons] at this
    rw [count_append]
    omega

theorem came_of_mem (h : Owned owns came gone owners) (ho : o ∈ owners) (ha : a ∈ owns o) :
    a ∈ came := by
  have hpos : 0 < tally owns a owners := tally_pos_iff.mpr ⟨o, ho, ha⟩
  have := h a
  exact count_pos_iff.mp (by omega)

theorem came_of_gone (h : Owned owns came gone owners) (ha : a ∈ gone) : a ∈ came := by
  have hpos := count_pos_iff.mpr ha
  have := h a
  exact count_pos_iff.mp (by omega)

/-- Among distinct things, each one that came in is owned once or gone once. -/
theorem one (h : Owned owns came gone owners) (distinct : came.Nodup) (ha : a ∈ came) :
    tally owns a owners + gone.count a = 1 := by
  rw [h a, count_eq_one_of_mem distinct ha]

theorem nodup_owned (h : Owned owns came gone owners) (distinct : came.Nodup) :
    (owners.flatMap owns).Nodup := nodup_iff_count_le_one.mpr fun a => by
  have hone := nodup_iff_count_le_one.mp distinct a
  have := h a
  exact (Nat.le_add_right _ _).trans (this.le.trans hone)

theorem nodup_gone (h : Owned owns came gone owners) (distinct : came.Nodup) : gone.Nodup :=
  nodup_iff_count_le_one.mpr fun a => by
    have hone := nodup_iff_count_le_one.mp distinct a
    have := h a
    omega

theorem not_gone (h : Owned owns came gone owners) (distinct : came.Nodup) (ho : o ∈ owners)
    (ha : a ∈ owns o) : a ∉ gone := fun hgone => by
  have hone := nodup_iff_count_le_one.mp distinct a
  have hpos : 0 < tally owns a owners := tally_pos_iff.mpr ⟨o, ho, ha⟩
  have hpos' := count_pos_iff.mpr hgone
  have := h a
  omega

end Owned

end Loop
