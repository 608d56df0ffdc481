import MidoCamera.Library.Bytes

/-!
# Rasters that are converted in place

An image is converted in the buffer it is in: from its last pixel to its first, each pixel is worked
out from what the buffer has then, and its element is stored. An element that is stored may cover
bytes that a later pixel is read from. So what a pixel is worked out from is said of the buffer at
its turn: its elements from the pixel on are converted, and its other bytes are the original ones.
-/

namespace Loop

/-! ## Counting down -/

section DownTo

variable {σ : Type*} {body : ℕ → σ → Option σ} {n : ℕ} {s : σ}

/-- The body is run for the numbers below the bound, from the greatest on. -/
def downTo (body : ℕ → σ → Option σ) : ℕ → σ → Option σ
  | 0, s => some s
  | n + 1, s => (body n s).bind (downTo body n)

/-- **The invariant rule**: what holds at the bound, and is passed on from each number to the next,
holds at 0. -/
theorem downTo_rule {I : ℕ → σ → Prop} (hs : I n s)
    (step : ∀ k < n, ∀ s, I (k + 1) s → ∃ t, body k s = some t ∧ I k t) :
    ∃ t, downTo body n s = some t ∧ I 0 t := by
  induction n generalizing s with
  | zero => exact ⟨s, rfl, hs⟩
  | succ n ih =>
    obtain ⟨t, ht, hI⟩ := step n (Nat.lt_succ_self n) s hs
    obtain ⟨u, hu, h0⟩ := ih hI fun k hk => step k (Nat.lt_succ_of_lt hk)
    refine ⟨u, ?_, h0⟩
    rw [downTo, ht]
    exact hu

end DownTo

/-! ## Elements -/

section Elem

variable {e : Endian} {n i j v p : ℕ} {buf out : List UInt8}

def loadElem (e : Endian) (n : ℕ) (buf : List UInt8) (i : ℕ) : Option ℕ :=
  (load buf (n * i) n).map e.decode

/-- An element is stored, if the buffer has it. -/
def storeElem (e : Endian) (n : ℕ) (buf : List UInt8) (i v : ℕ) : Option (List UInt8) :=
  if n * i + n ≤ buf.length then some (store buf (n * i) (e.encode n v)) else none

theorem length_storeElem (h : storeElem e n buf i v = some out) : out.length = buf.length := by
  obtain ⟨-, hout⟩ := Option.ite_none_right_eq_some.mp h
  cases hout
  exact length_store

theorem loadElem_storeElem_self (h : storeElem e n buf i v = some out) (hv : v < 256 ^ n) :
    loadElem e n out i = some v := by
  obtain ⟨hroom, hout⟩ := Option.ite_none_right_eq_some.mp h
  cases hout
  have hload := load_store_self buf (n * i) (e.encode n v) (by rwa [Endian.length_encode])
  rw [Endian.length_encode] at hload
  rw [loadElem, hload, Option.map_some, e.decode_encode hv]

theorem getElem?_storeElem (h : storeElem e n buf i v = some out)
    (outside : p < n * i ∨ n * i + n ≤ p) : out[p]? = buf[p]? := by
  obtain ⟨-, hout⟩ := Option.ite_none_right_eq_some.mp h
  cases hout
  exact getElem?_store (by rwa [Endian.length_encode])

theorem elem_disjoint (hij : i ≠ j) : n * i + n ≤ n * j ∨ n * j + n ≤ n * i := by
  rcases Nat.lt_or_gt_of_ne hij with hlt | hgt
  · exact .inl (Nat.mul_le_mul_left n hlt)
  · exact .inr (Nat.mul_le_mul_left n hgt)

theorem loadElem_storeElem_other (h : storeElem e n buf i v = some out) (hij : i ≠ j) :
    loadElem e n out j = loadElem e n buf j := by
  have hload : load out (n * j) n = load buf (n * j) n := by
    refine load_congr fun p hp hpn => getElem?_storeElem h ?_
    rcases elem_disjoint (n := n) hij with hle | hle
    · exact .inr (hle.trans hp)
    · exact .inl (Nat.lt_of_lt_of_le hpn hle)
  rw [loadElem, loadElem, hload]

end Elem

/-! ## Rasters -/

/-- The pixels of an image are converted row by row and column by column, from the last on. -/
def rasterBack (e : Endian) (n width height : ℕ) (index : ℕ → ℕ → ℕ)
    (pixel : ℕ → ℕ → List UInt8 → Option ℕ) : List UInt8 → Option (List UInt8) :=
  downTo (fun y => downTo (fun x buf => (pixel y x buf).bind (storeElem e n buf (index y x))) width)
    height

namespace Raster

variable (e : Endian) (n width height : ℕ) (index val : ℕ → ℕ → ℕ)

def After (width height y₀ x₀ y x : ℕ) : Prop :=
  x < width ∧ y < height ∧ (y₀ < y ∨ y = y₀ ∧ x₀ ≤ x)

/-- The buffer where the pixels from a place on are converted. -/
structure Converted (orig : List UInt8) (y₀ x₀ : ℕ) (buf : List UInt8) : Prop where
  length : buf.length = orig.length
  elem : ∀ y x, After width height y₀ x₀ y x → loadElem e n buf (index y x) = some (val y x)
  frame : ∀ p, (∀ y x, After width height y₀ x₀ y x → p < n * index y x ∨ n * index y x + n ≤ p) →
    buf[p]? = orig[p]?

variable {e n width height index val} {orig buf out : List UInt8} {y x y₀ x₀ : ℕ}

theorem Converted.congr (h : Converted e n width height index val orig y₀ x₀ buf)
    (same : ∀ y' x', After width height y x y' x' ↔ After width height y₀ x₀ y' x') :
    Converted e n width height index val orig y x buf where
  length := h.length
  elem y' x' hafter := h.elem y' x' ((same y' x').mp hafter)
  frame p hp := h.frame p fun y' x' hafter => hp y' x' ((same y' x').mpr hafter)

theorem Converted.start : Converted e n width height index val orig height 0 orig where
  length := rfl
  elem y x hafter := by
    obtain ⟨-, hy, hlt | ⟨heq, -⟩⟩ := hafter <;> omega
  frame p _ := rfl

theorem Converted.row (h : Converted e n width height index val orig (y + 1) 0 buf) :
    Converted e n width height index val orig y width buf :=
  h.congr fun y' x' => by
    unfold After
    omega

theorem Converted.store (h : Converted e n width height index val orig y (x + 1) buf)
    (hstore : storeElem e n buf (index y x) (val y x) = some out) (hval : val y x < 256 ^ n)
    (inj : ∀ y' x', After width height y (x + 1) y' x' → index y x ≠ index y' x')
    (hx : x < width) (hy : y < height) :
    Converted e n width height index val orig y x out where
  length := (length_storeElem hstore).trans h.length
  elem y' x' hafter := by
    by_cases hself : y' = y ∧ x' = x
    · obtain ⟨rfl, rfl⟩ := hself
      exact loadElem_storeElem_self hstore hval
    · have hafter' : After width height y (x + 1) y' x' := by
        unfold After at hafter ⊢
        omega
      rw [loadElem_storeElem_other hstore (inj y' x' hafter')]
      exact h.elem y' x' hafter'
  frame p hp := by
    rw [getElem?_storeElem hstore (hp y x ⟨hx, hy, .inr ⟨rfl, le_rfl⟩⟩)]
    refine h.frame p fun y' x' hafter => hp y' x' ?_
    unfold After at hafter ⊢
    omega

/-- **What each pixel gives at its turn is what its element has at the end.** -/
theorem rasterBack_rule {pixel : ℕ → ℕ → List UInt8 → Option ℕ}
    (inj : ∀ y x y' x', y < height → x < width → After width height y (x + 1) y' x' →
      index y x ≠ index y' x')
    (room : ∀ y x, y < height → x < width → n * index y x + n ≤ orig.length)
    (small : ∀ y x, y < height → x < width → val y x < 256 ^ n)
    (turn : ∀ y x buf, y < height → x < width →
      Converted e n width height index val orig y (x + 1) buf → pixel y x buf = some (val y x)) :
    ∃ out, rasterBack e n width height index pixel orig = some out ∧
      Converted e n width height index val orig 0 0 out := by
  refine downTo_rule (I := fun y buf => Converted e n width height index val orig y 0 buf)
    .start fun y hy buf hbuf => ?_
  refine downTo_rule (I := fun x buf => Converted e n width height index val orig y x buf)
    hbuf.row fun x hx buf hbuf => ?_
  have hstore : storeElem e n buf (index y x) (val y x) =
      some (store buf (n * index y x) (e.encode n (val y x))) :=
    if_pos (hbuf.length ▸ room y x hy hx)
  refine ⟨_, ?_, hbuf.store hstore (small y x hy hx) (inj y x · · hy hx) hx hy⟩
  rw [turn y x buf hy hx hbuf, Option.bind_some, hstore]

end Raster

end Loop
