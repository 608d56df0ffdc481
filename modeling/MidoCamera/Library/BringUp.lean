import Mathlib.Data.List.Find
import Mathlib.Data.List.Nodup

/-!
# Components that are brought up in order

A system brings its components up one after the other, and stops at the first that fails; the
failure may leave something behind in its component. To undo it, the system takes down the
components it has visited, the one that failed with them. Since each component has a state of its
own, what the whole leaves behind is told component by component.
-/

namespace Loop

open Function List

variable {ι σ ρ : Type*} {p q : ι → Bool} {l : List ι} {i : ι}

/-- The items of a list up to the first that satisfies a predicate, which is the last of them. -/
def reached (p : ι → Bool) : List ι → List ι
  | [] => []
  | i :: l => if p i then [i] else i :: reached p l

theorem reached_eq : reached p l = (l.takeWhile fun i => !p i) ++ (l.find? p).toList := by
  induction l with
  | nil => rfl
  | cons i l ih =>
    unfold reached
    cases hp : p i with
    | true => simp [hp]
    | false => simp [hp, ih]

theorem mem_of_mem_reached (h : i ∈ reached p l) : i ∈ l := by
  rw [reached_eq, mem_append, Option.mem_toList] at h
  rcases h with h | h
  · exact takeWhile_subset _ h
  · exact mem_of_find?_eq_some h

theorem reached_nodup (h : l.Nodup) : (reached p l).Nodup := by
  induction l with
  | nil => exact h
  | cons i l ih =>
    obtain ⟨hi, hl⟩ := nodup_cons.mp h
    unfold reached
    split
    · exact nodup_singleton i
    · exact nodup_cons.mpr ⟨fun hmem => hi (mem_of_mem_reached hmem), ih hl⟩

theorem reached_congr (h : ∀ i ∈ l, p i = q i) : reached p l = reached q l := by
  induction l with
  | nil => rfl
  | cons i l ih =>
    unfold reached
    rw [h i mem_cons_self, ih fun j hj => h j (mem_cons_of_mem i hj)]

variable [DecidableEq ι] {up : ι → σ → ρ × σ} {failed : ρ → Bool} {down : ι → σ → σ} {s : ι → σ}

/-- **The components of a list are brought up in order**: the result of the first that fails, those
visited, and the states. -/
def bringUp (up : ι → σ → ρ × σ) (failed : ρ → Bool) :
    List ι → (ι → σ) → Option ρ × List ι × (ι → σ)
  | [], s => (none, [], s)
  | i :: l, s =>
    let (r, x) := up i (s i)
    let s := update s i x
    if failed r then (some r, [i], s)
    else
      let (r, visited, s) := bringUp up failed l s
      (r, i :: visited, s)

def takeDown (down : ι → σ → σ) (l : List ι) (s : ι → σ) : ι → σ :=
  l.foldl (fun s i => update s i (down i (s i))) s

def fails (up : ι → σ → ρ × σ) (failed : ρ → Bool) (s : ι → σ) (i : ι) : Bool :=
  failed (up i (s i)).1

theorem bringUp_eq (h : l.Nodup) : bringUp up failed l s =
    ((l.find? (fails up failed s)).map fun i => (up i (s i)).1, reached (fails up failed s) l,
      fun i => if i ∈ reached (fails up failed s) l then (up i (s i)).2 else s i) := by
  induction l generalizing s with
  | nil => rfl
  | cons i l ih =>
    obtain ⟨hi, hl⟩ := nodup_cons.mp h
    unfold bringUp reached
    cases hf : fails up failed s i with
    | true =>
      rw [find?_cons_of_pos hf]
      simp only [show failed (up i (s i)).1 = true from hf, if_true, Option.map_some]
      congr 2
      funext j
      by_cases hj : j = i
      · rw [hj, update_self, if_pos (mem_singleton_self i)]
      · rw [update_of_ne hj, if_neg (mt mem_singleton.mp hj)]
    | false =>
      -- the components after it are in the states they were in
      have hother : ∀ j ∈ l, update s i (up i (s i)).2 j = s j := fun j hj =>
        update_of_ne (fun hji : j = i => hi (hji ▸ hj)) _ _
      have hsame : ∀ j ∈ l, fails up failed (update s i (up i (s i)).2) j =
          fails up failed s j := by
        intro j hj
        unfold fails
        rw [hother j hj]
      rw [find?_cons_of_neg (by rw [hf]; exact Bool.false_ne_true)]
      simp only [show failed (up i (s i)).1 = false from hf, Bool.false_eq_true, if_false]
      rw [ih hl, reached_congr hsame, find?_congr hsame]
      refine Prod.ext (Option.map_congr fun j hj => ?_) (Prod.ext rfl (funext fun j => ?_))
      · rw [hother j (mem_of_find?_eq_some hj)]
      · dsimp only
        by_cases hj : j = i
        · have hnot : i ∉ reached (fails up failed s) l := fun h => hi (mem_of_mem_reached h)
          rw [hj, if_neg hnot, update_self, if_pos mem_cons_self]
        · simp only [update_of_ne hj, mem_cons, hj, false_or]

theorem takeDown_eq (h : l.Nodup) :
    takeDown down l s = fun i => if i ∈ l then down i (s i) else s i := by
  induction l generalizing s with
  | nil => rfl
  | cons i l ih =>
    obtain ⟨hi, hl⟩ := nodup_cons.mp h
    unfold takeDown at ih ⊢
    rw [foldl_cons, ih hl]
    funext j
    by_cases hj : j = i
    · rw [hj, if_neg hi, if_pos mem_cons_self, update_self]
    · rw [update_of_ne hj]
      simp only [mem_cons, hj, false_or]

end Loop
