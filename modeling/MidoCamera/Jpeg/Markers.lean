import MidoCamera.Jpeg.Mpo
import Mathlib.Data.List.Induction

/-!
# Finding a marker

The composer looks for a marker segment of a JPEG. From a place it goes to the next `0xFF`, and
takes the byte behind it as a marker. If it is not the one, the search skips the segment by its
length, and goes on.

The length is counted from behind the marker, and the skip from the marker. So a skip ends at the
last byte of the segment, and the search is out of step if that is `0xFF` itself.
-/

namespace MmJpeg

open Loop List Option

variable {buf : List UInt8} {last : ℤ} {marker m n : UInt8} {p q f g : ℕ}

/-! ## The search, by its places -/

/-- The marker behind the first `0xFF` from a place on. Behind the place itself it is looked for
before the last byte only. -/
structure MarkerAt (buf : List UInt8) (last : ℤ) (p f : ℕ) (m : UInt8) : Prop where
  le : p ≤ f
  lead : buf[f]? = some 0xFF
  clear : ∀ i, p ≤ i → i < f → ∃ byte, buf[i]? = some byte ∧ byte ≠ 0xFF
  inside : f = p ∨ (f : ℤ) < last
  marker : buf[f + 1]? = some m

/-- The search skips the segment of another marker, and goes on before the last byte. -/
def Skips (buf : List UInt8) (last : ℤ) (marker : UInt8) (p q : ℕ) : Prop :=
  ∃ f m size, MarkerAt buf last p f m ∧ m ≠ marker ∧ m ≠ mEoi ∧
    appMarkerSize buf (f + 1) m = some size ∧ q = f + 1 + size ∧ (q : ℤ) < last

abbrev Reaches (buf : List UInt8) (last : ℤ) (marker : UInt8) : ℕ → ℕ → Prop :=
  Relation.ReflTransGen (Skips buf last marker)

/-- The search from a place on, with as many rounds as there are bytes. -/
def searchFrom (buf : List UInt8) (last : ℤ) (marker : UInt8) (p : ℕ) : Option (Option ℕ) :=
  markerLoop buf last marker (buf.length + 1) p

theorem MarkerAt.unique (h : MarkerAt buf last p f m) (h' : MarkerAt buf last p g n) :
    f = g ∧ m = n := by
  have hle : ∀ {f g : ℕ} {m n : UInt8}, MarkerAt buf last p f m → MarkerAt buf last p g n →
      f ≤ g := by
    intro f g m n h h'
    by_contra hlt
    obtain ⟨byte, hbyte, hne⟩ := h.clear g h'.le (Nat.lt_of_not_le hlt)
    exact hne (some.inj (hbyte.symm.trans h'.lead))
  obtain rfl : f = g := Nat.le_antisymm (hle h h') (hle h' h)
  exact ⟨rfl, some.inj (h.marker.symm.trans h'.marker)⟩

theorem Skips.lt (h : Skips buf last marker p q) : p < q := by
  obtain ⟨f, m, size, hat, -, -, -, rfl, -⟩ := h
  have hle := hat.le
  omega

/-! ## One round -/

theorem skipTo_eq_some {l : List UInt8} {byte : UInt8} {addr : ℕ}
    (h : skipTo last p l = some (byte, addr)) : ∃ k, addr = p + k + 1 ∧ l[k]? = some byte ∧
      (∀ i < k, ∃ b, l[i]? = some b ∧ b ≠ 0xFF) ∧ (k = 0 ∨ ((p + k : ℕ) : ℤ) < last) ∧
      (byte ≠ 0xFF → last ≤ (p + k + 1 : ℕ)) := by
  induction l generalizing p with
  | nil => cases h
  | cons b l ih =>
    rw [skipTo] at h
    split_ifs at h with hgo
    · obtain ⟨k, hk, hbyte, hclear, hinside, hend⟩ := ih h
      refine ⟨k + 1, by omega, hbyte, fun i hi => ?_, .inr ?_, fun hne => ?_⟩
      · rcases i with _ | i
        · exact ⟨b, rfl, hgo.1⟩
        · exact hclear i (Nat.lt_of_succ_lt_succ hi)
      · rcases hinside with rfl | hlt
        · exact hgo.2
        · push_cast at hlt ⊢
          omega
      · have hle := hend hne
        push_cast at hle ⊢
        omega
    · cases h
      refine ⟨0, rfl, rfl, fun i hi => absurd hi (Nat.not_lt_zero i), .inl rfl, fun hne => ?_⟩
      by_contra hlt
      exact hgo ⟨hne, by simpa using hlt⟩

theorem skipTo_isSome {l : List UInt8} (hne : l ≠ []) (hlast : last ≤ (p + l.length : ℕ)) :
    ∃ res, skipTo last p l = some res := by
  induction l generalizing p with
  | nil => exact absurd rfl hne
  | cons b l ih =>
    rw [skipTo]
    split_ifs with hgo
    · refine ih ?_ ?_
      · rintro rfl
        have hlt := hgo.2
        simp only [length_cons, length_nil] at hlast
        omega
      · rw [length_cons] at hlast
        push_cast at hlast ⊢
        omega
    · exact ⟨_, rfl⟩

theorem skipTo_of_clear {l : List UInt8} {k : ℕ} (hlead : l[k]? = some 0xFF)
    (hclear : ∀ i < k, ∃ b, l[i]? = some b ∧ b ≠ 0xFF) (hinside : k = 0 ∨ ((p + k : ℕ) : ℤ) < last) :
    skipTo last p l = some (0xFF, p + k + 1) := by
  induction k generalizing p l with
  | zero =>
    rcases l with _ | ⟨b, l⟩
    · cases hlead
    · cases hlead
      rw [skipTo, if_neg fun h => h.1 rfl]
  | succ k ih =>
    rcases l with _ | ⟨b, l⟩
    · cases hlead
    · obtain ⟨b', hb', hne⟩ := hclear 0 (Nat.succ_pos k)
      cases hb'
      have hlt : ((p + (k + 1) : ℕ) : ℤ) < last := hinside.resolve_left (Nat.succ_ne_zero k)
      rw [skipTo, if_pos ⟨hne, by push_cast at hlt ⊢; omega⟩,
        ih hlead (fun i hi => hclear (i + 1) (Nat.succ_lt_succ hi))
          (.inr (by push_cast at hlt ⊢; omega))]
      congr 2
      omega

theorem MarkerAt.skipTo_eq (h : MarkerAt buf last p f m) :
    skipTo last p (buf.drop p) = some (0xFF, f + 1) := by
  obtain ⟨k, rfl⟩ := Nat.exists_eq_add_of_le h.le
  refine skipTo_of_clear ?_ (fun i hi => ?_) ?_
  · rw [getElem?_drop]
    exact h.lead
  · rw [getElem?_drop]
    exact h.clear (p + i) (Nat.le_add_right p i) (Nat.add_lt_add_left hi p)
  · exact h.inside.imp_left fun h => by omega

theorem MarkerAt.found (h : MarkerAt buf last p f marker) :
    searchFrom buf last marker p = some (some (f + 2)) := by
  rw [searchFrom, markerLoop, h.skipTo_eq]
  simp only [bind_eq_bind, bind_some, ne_eq, not_true_eq_false, if_false, h.marker,
    if_true]

theorem MarkerAt.out (h : MarkerAt buf last p f m) (hne : m ≠ marker)
    (hsize : appMarkerSize buf (f + 1) m = none) : searchFrom buf last marker p = none := by
  rw [searchFrom, markerLoop, h.skipTo_eq]
  simp only [bind_eq_bind, bind_some, ne_eq, not_true_eq_false, if_false, h.marker,
    if_neg hne, hsize, bind_none]

theorem Skips.search_eq (h : Skips buf last marker p q) :
    searchFrom buf last marker p = searchFrom buf last marker q := by
  have hpos : 0 < q := Nat.lt_of_le_of_lt (Nat.zero_le p) h.lt
  obtain ⟨f, m, size, hat, hne, heoi, hsize, rfl, hlt⟩ := h
  have hrounds : markerLoop buf last marker (buf.length + 1) (f + 1 + size) =
      markerLoop buf last marker buf.length (f + 1 + size) := markerLoop_rounds (by omega)
  rw [searchFrom, searchFrom, hrounds, markerLoop, hat.skipTo_eq]
  simp only [bind_eq_bind, bind_some, ne_eq, not_true_eq_false, if_false, hat.marker,
    if_neg hne, hsize, if_pos (show ¬m = mEoi ∧ ((f + 1 + size : ℕ) : ℤ) < last from ⟨heoi, hlt⟩)]

theorem Reaches.search_eq (h : Reaches buf last marker p q) :
    searchFrom buf last marker p = searchFrom buf last marker q := by
  induction h with
  | refl => rfl
  | tail _ hskip ih => exact ih.trans hskip.search_eq

/-- **A round ends the search, or skips a segment.** -/
theorem search_round (hp : p + 1 < buf.length) (hlast : last < buf.length) :
    searchFrom buf last marker p = some none ∨ (∃ f, MarkerAt buf last p f marker) ∨
      (∃ f m, MarkerAt buf last p f m ∧ m ≠ marker ∧ appMarkerSize buf (f + 1) m = none) ∨
      ∃ q, Skips buf last marker p q := by
  obtain ⟨⟨byte, addr⟩, hskip⟩ : ∃ res, skipTo last p (buf.drop p) = some res :=
    skipTo_isSome (fun h => by rw [drop_eq_nil_iff] at h; omega) (by rw [length_drop]; omega)
  obtain ⟨k, rfl, hbyte, hclear, hinside, -⟩ := skipTo_eq_some hskip
  by_cases hff : byte = 0xFF
  · subst hff
    -- the byte behind the `0xFF` is there
    have hbound : p + k + 1 < buf.length := by
      rcases hinside with rfl | hlt
      · exact hp
      · omega
    obtain ⟨m, hm⟩ : ∃ m, buf[p + k + 1]? = some m := ⟨_, getElem?_eq_getElem hbound⟩
    have hat : MarkerAt buf last p (p + k) m := by
      refine ⟨Nat.le_add_right p k, ?_, fun i hi hik => ?_, ?_, hm⟩
      · rwa [getElem?_drop] at hbyte
      · obtain ⟨b, hb, hne⟩ := hclear (i - p) (by omega)
        rw [getElem?_drop, Nat.add_sub_cancel' hi] at hb
        exact ⟨b, hb, hne⟩
      · exact hinside.imp_left fun h => by omega
    by_cases hmarker : m = marker
    · subst hmarker
      exact .inr (.inl ⟨_, hat⟩)
    rcases hsize : appMarkerSize buf (p + k + 1) m with _ | size
    · exact .inr (.inr (.inl ⟨_, m, hat, hmarker, hsize⟩))
    by_cases hgo : m ≠ mEoi ∧ ((p + k + 1 + size : ℕ) : ℤ) < last
    · exact .inr (.inr (.inr ⟨_, _, m, size, hat, hmarker, hgo.1, hsize, rfl, hgo.2⟩))
    · refine .inl ?_
      rw [searchFrom, markerLoop, hskip]
      simp only [bind_eq_bind, bind_some, ne_eq, not_true_eq_false, if_false, hm,
        if_neg hmarker, hsize]
      exact if_neg hgo
  · refine .inl ?_
    rw [searchFrom, markerLoop, hskip]
    simp only [bind_eq_bind, bind_some, ne_eq, hff, not_false_eq_true, if_true]

/-! ## The whole search -/

/-- **The search comes to an end**: without a marker, at the marker, or where a length is outside.
-/
theorem search_ends (hp : p + 1 < buf.length) (hlast : last < buf.length) :
    ∃ q, Reaches buf last marker p q ∧ (searchFrom buf last marker q = some none ∨
      (∃ f, MarkerAt buf last q f marker) ∨
      ∃ f m, MarkerAt buf last q f m ∧ m ≠ marker ∧ appMarkerSize buf (f + 1) m = none) := by
  -- on the number of bytes from the place on
  induction hk : buf.length - p using Nat.strong_induction_on generalizing p with
  | _ k ih =>
    rcases (search_round hp hlast : _ ∨ _ ∨ _ ∨ ∃ q, Skips buf last marker p q) with
      hnone | hfound | hout | ⟨q, hskip⟩
    · exact ⟨p, .refl, .inl hnone⟩
    · exact ⟨p, .refl, .inr (.inl hfound)⟩
    · exact ⟨p, .refl, .inr (.inr hout)⟩
    · have hlt := hskip.lt
      have hq : q + 1 < buf.length := by
        obtain ⟨-, -, -, -, -, -, -, -, hq⟩ := hskip
        omega
      obtain ⟨r, hr, hend⟩ := ih (buf.length - q) (by omega) hq rfl
      exact ⟨r, .head hskip hr, hend⟩

/-- **Where a marker is found**: the search comes to a place from which it is the next. -/
theorem searchFrom_found_iff (hp : p + 1 < buf.length) (hlast : last < buf.length) :
    searchFrom buf last marker p = some (some (f + 2)) ↔
      ∃ q, Reaches buf last marker p q ∧ MarkerAt buf last q f marker := by
  constructor
  · intro h
    obtain ⟨q, hreach, hnone | ⟨g, hfound⟩ | ⟨g, m, hat, hne, hsize⟩⟩ :
        ∃ q, Reaches buf last marker p q ∧ _ := search_ends hp hlast
    · cases (hreach.search_eq.symm.trans h).symm.trans hnone
    · have hfg := (hreach.search_eq.symm.trans h).symm.trans hfound.found
      simp only [some.injEq, Nat.add_right_cancel_iff] at hfg
      exact ⟨q, hreach, hfg ▸ hfound⟩
    · cases (hreach.search_eq.symm.trans h).symm.trans (hat.out hne hsize)
  · rintro ⟨q, hreach, hfound⟩
    exact hreach.search_eq.trans hfound.found

/-- **When a search stays inside**: every length that it comes to is there. -/
theorem searchFrom_inside_iff (hp : p + 1 < buf.length) (hlast : last < buf.length) :
    searchFrom buf last marker p ≠ none ↔ ∀ q f m, Reaches buf last marker p q →
      MarkerAt buf last q f m → m ≠ marker → appMarkerSize buf (f + 1) m ≠ none := by
  constructor
  · intro h q f m hreach hat hne hsize
    exact h (hreach.search_eq.trans (hat.out hne hsize))
  · intro h hnone
    obtain ⟨q, hreach, hsome | ⟨g, hfound⟩ | ⟨g, m, hat, hne, hsize⟩⟩ :
        ∃ q, Reaches buf last marker p q ∧ _ := search_ends hp hlast
    · cases (hreach.search_eq.symm.trans hnone).symm.trans hsome
    · cases (hreach.search_eq.symm.trans hnone).symm.trans hfound.found
    · exact h q g m hreach hat hne hsize

/-! ## Segments -/

/-- A marker segment: what is behind its length. `SOI` and `EOI` have no length. -/
structure MarkerSegment where
  marker : UInt8
  payload : List UInt8
  hasLength : marker ≠ mSoi ∧ marker ≠ mEoi
  fits : payload.length + 2 < 2 ^ 16

namespace MarkerSegment

/-- The bytes of a segment. The length is its own two bytes and the payload's. -/
def bytes (s : MarkerSegment) : List UInt8 :=
  [0xFF, s.marker] ++ Endian.big.encode 2 (s.payload.length + 2) ++ s.payload

/-- The segment ends in a byte that is taken for the start of a marker. -/
def EndsInFF (s : MarkerSegment) : Prop := s.payload.getLast? = some 0xFF

instance (s : MarkerSegment) : Decidable s.EndsInFF :=
  inferInstanceAs (Decidable (s.payload.getLast? = some 0xFF))

@[simp] theorem length_bytes (s : MarkerSegment) : s.bytes.length = s.payload.length + 4 := by
  simp only [bytes, length_append, Endian.length_encode, length_cons, length_nil]
  omega

end MarkerSegment

/-- `SOI`, and the segments behind it. -/
def jpegStart (segments : List MarkerSegment) : List UInt8 :=
  [0xFF, mSoi] ++ segments.flatMap MarkerSegment.bytes

theorem jpegStart_append (l : List MarkerSegment) (s : MarkerSegment) :
    jpegStart (l ++ [s]) = jpegStart l ++ s.bytes := by
  simp [jpegStart]

section Start

variable {l : List MarkerSegment} {s : MarkerSegment} {t : List UInt8}

theorem length_jpegStart_pos (l : List MarkerSegment) : 2 ≤ (jpegStart l).length := by
  simp [jpegStart]

theorem getLast?_bytes (s : MarkerSegment) : s.bytes.getLast? = some 0xFF ↔ s.EndsInFF := by
  unfold MarkerSegment.bytes MarkerSegment.EndsInFF
  rw [getLast?_append]
  rcases hlast : s.payload.getLast? with _ | byte
  · rw [getLast?_eq_none_iff.mp hlast]
    simp [Endian.encode, lowBytes]
  · rfl

theorem getLast?_jpegStart_nil : (jpegStart []).getLast? ≠ some 0xFF := by decide

theorem getLast?_jpegStart_append :
    (jpegStart (l ++ [s])).getLast? = some 0xFF ↔ s.EndsInFF := by
  rw [jpegStart_append, getLast?_append, ← getLast?_bytes]
  rcases hlast : s.bytes.getLast? with _ | byte
  · have hlength := s.length_bytes
    rw [getLast?_eq_none_iff.mp hlast] at hlength
    simp at hlength
  · rfl

theorem getElem?_next (k : ℕ) : (jpegStart l ++ (s.bytes ++ t))[(jpegStart l).length + k]? =
    (s.bytes ++ t)[k]? := by
  rw [getElem?_append_right (Nat.le_add_right _ _), Nat.add_sub_cancel_left]

theorem markerAt_next (hlast : (jpegStart l).getLast? ≠ some 0xFF) :
    MarkerAt (jpegStart l ++ (s.bytes ++ t)) ((jpegStart l ++ (s.bytes ++ t)).length - 1)
      ((jpegStart l).length - 1) (jpegStart l).length s.marker where
  le := Nat.sub_le _ _
  lead := getElem?_next 0
  clear i hi hilt := by
    have hpos := length_jpegStart_pos l
    obtain rfl : i = (jpegStart l).length - 1 := by omega
    refine ⟨_, (getElem?_append_left hilt).trans (getElem?_eq_getElem hilt), fun h => ?_⟩
    rw [getLast?_eq_getElem?, getElem?_eq_getElem hilt, h] at hlast
    exact hlast rfl
  inside := .inr (by
    rw [length_append, length_append, s.length_bytes]
    push_cast
    omega)
  marker := getElem?_next 1

theorem appMarkerSize_next (hsoi : s.marker ≠ mSoi) :
    appMarkerSize (jpegStart l ++ (s.bytes ++ t)) ((jpegStart l).length + 1) s.marker =
      some (s.payload.length + 2) := by
  have hload := load_middle (jpegStart l ++ [0xFF, s.marker])
    (Endian.big.encode 2 (s.payload.length + 2)) (s.payload ++ t)
  rw [Endian.length_encode, length_append] at hload
  have hbytes : jpegStart l ++ [0xFF, s.marker] ++ Endian.big.encode 2 (s.payload.length + 2) ++
      (s.payload ++ t) = jpegStart l ++ (s.bytes ++ t) := by
    simp only [MarkerSegment.bytes, append_assoc]
  rw [hbytes] at hload
  rw [appMarkerSize, if_pos hsoi, readShort_eq]
  refine (congrArg (Option.map _) hload).trans ?_
  rw [map_some, Endian.decode_encode _ s.fits]

theorem skips_next (hlast : (jpegStart l).getLast? ≠ some 0xFF) (hne : s.marker ≠ marker)
    (htail : t ≠ []) :
    Skips (jpegStart l ++ (s.bytes ++ t)) ((jpegStart l ++ (s.bytes ++ t)).length - 1) marker
      ((jpegStart l).length - 1) ((jpegStart (l ++ [s])).length - 1) := by
  have hpos := length_pos_iff.mpr htail
  refine ⟨_, s.marker, _, markerAt_next hlast, hne, s.hasLength.2, appMarkerSize_next s.hasLength.1,
    ?_, ?_⟩
  · rw [jpegStart_append, length_append, s.length_bytes]
    omega
  · rw [jpegStart_append, length_append, length_append, length_append, s.length_bytes]
    push_cast
    omega

theorem getLast?_jpegStart (hff : ∀ s ∈ l, ¬s.EndsInFF) : (jpegStart l).getLast? ≠ some 0xFF := by
  rcases eq_nil_or_concat l with rfl | ⟨l', s, rfl⟩
  · exact getLast?_jpegStart_nil
  · rw [Ne, concat_eq_append, getLast?_jpegStart_append]
    exact hff s (by simp)

/-- **The search is in step** up to the last byte of a segment, if no segment before ends in an
`0xFF`. -/
theorem reaches_start (hne : ∀ s ∈ l, s.marker ≠ mApp2) (hff : ∀ s ∈ l, ¬s.EndsInFF)
    (htail : t ≠ []) : Reaches (jpegStart l ++ t) ((jpegStart l ++ t).length - 1) mApp2 0
      ((jpegStart l).length - 1) := by
  induction l using reverseRecOn generalizing t with
  | nil =>
    have hpos := length_pos_iff.mpr htail
    -- `SOI` has no length: the search goes on at its marker
    refine .single ⟨0, mSoi, 0, ⟨le_rfl, rfl, fun i _ hi => absurd hi (Nat.not_lt_zero i), .inl rfl,
      rfl⟩, by decide, by decide, rfl, rfl, ?_⟩
    rw [length_append]
    show ((2 - 1 : ℕ) : ℤ) < _
    simp only [jpegStart, flatMap_nil, append_nil, length_cons, length_nil]
    push_cast
    omega
  | append_singleton l s ih =>
    have hbytes : jpegStart (l ++ [s]) ++ t = jpegStart l ++ (s.bytes ++ t) := by
      rw [jpegStart_append, append_assoc]
    have hbefore : ∀ s' ∈ l, ¬s'.EndsInFF := fun s' hs' => hff s' (by simp [hs'])
    rw [hbytes]
    refine (ih (fun s' hs' => hne s' (by simp [hs'])) hbefore (by simp [htail])).tail ?_
    exact skips_next (getLast?_jpegStart hbefore) (hne s (by simp)) htail

end Start

/-! ## The first APP2 segment -/

/-- The search for APP2 comes from a place to one from which the next `0xFF`, before APP2, is at an
address. -/
def ComesTo (buf : List UInt8) (p f : ℕ) : Prop :=
  ∃ q, Reaches buf (buf.length - 1) mApp2 p q ∧ MarkerAt buf (buf.length - 1) q f mApp2

/-- **A segment puts the search out of step, and it comes back by chance**: of the segments the
first that ends in an `0xFF`, with the search from this byte on. -/
def BackInStep (buf : List UInt8) (segments : List MarkerSegment) : Prop :=
  ∃ l s r, segments = l ++ s :: r ∧ (∀ s' ∈ l, ¬s'.EndsInFF) ∧ s.EndsInFF ∧
    ComesTo buf ((jpegStart (l ++ [s])).length - 1) (jpegStart segments).length

theorem ComesTo.of_reaches (hp : p + 1 < buf.length) (hq : q + 1 < buf.length)
    (h : Reaches buf (buf.length - 1) mApp2 p q) : ComesTo buf p f ↔ ComesTo buf q f := by
  have hp' : searchFrom buf (buf.length - 1) mApp2 p = some (some (f + 2)) ↔ ComesTo buf p f :=
    searchFrom_found_iff hp (by omega)
  have hq' : searchFrom buf (buf.length - 1) mApp2 q = some (some (f + 2)) ↔ ComesTo buf q f :=
    searchFrom_found_iff hq (by omega)
  rw [← hp', ← hq', h.search_eq]

/-- **When the first APP2 segment is found**: no segment before it ends in an `0xFF`, or the search
comes back to it from the first that does. -/
theorem app2_found_iff {before : List MarkerSegment} {app2 : MarkerSegment} (rest : List UInt8)
    (others : ∀ s ∈ before, s.marker ≠ mApp2) (isApp2 : app2.marker = mApp2) :
    let buf := jpegStart before ++ (app2.bytes ++ rest)
    getAppMarker buf buf.length mApp2 = some (some ((jpegStart before).length + 2)) ↔
      (∀ s ∈ before, ¬s.EndsInFF) ∨ BackInStep buf before := by
  intro buf
  have htail : app2.bytes ++ rest ≠ [] := by simp [MarkerSegment.bytes]
  have htwo : 0 + 1 < buf.length := by
    have hpos := length_jpegStart_pos before
    rw [length_append]
    omega
  have hsearch : getAppMarker buf buf.length mApp2 = some (some ((jpegStart before).length + 2)) ↔
      ComesTo buf 0 (jpegStart before).length :=
    (searchFrom_found_iff htwo (by omega) : searchFrom buf (buf.length - 1) mApp2 0 = _ ↔ _)
  rw [hsearch]
  by_cases hff : ∀ s ∈ before, ¬s.EndsInFF
  · -- in step, the search comes to the last byte before the segment
    have hfound := markerAt_next (s := app2) (t := rest) (getLast?_jpegStart hff)
    rw [isApp2] at hfound
    exact iff_of_true ⟨_, reaches_start others hff htail, hfound⟩ (.inl hff)
  · -- the first segment that ends in an `0xFF` is skipped in step too
    have hcomes : ∀ {l s r}, before = l ++ s :: r → (∀ s' ∈ l, ¬s'.EndsInFF) →
        (ComesTo buf 0 (jpegStart before).length ↔
          ComesTo buf ((jpegStart (l ++ [s])).length - 1) (jpegStart before).length) := by
      intro l s r hbefore hl
      have hbuf : buf = jpegStart l ++
          (s.bytes ++ (r.flatMap MarkerSegment.bytes ++ (app2.bytes ++ rest))) := by
        simp [buf, hbefore, jpegStart]
      have hreach := reaches_start (fun s' hs' => others s' (by simp [hbefore, hs'])) hl
        (t := s.bytes ++ (r.flatMap MarkerSegment.bytes ++ (app2.bytes ++ rest)))
        (by simp [MarkerSegment.bytes])
      have hskip := skips_next (t := r.flatMap MarkerSegment.bytes ++ (app2.bytes ++ rest))
        (getLast?_jpegStart hl) (others s (by simp [hbefore])) (by simp [MarkerSegment.bytes])
      rw [← hbuf] at hreach hskip
      refine ComesTo.of_reaches htwo ?_ (hreach.tail hskip)
      simp only [hbuf, jpegStart_append, length_append, app2.length_bytes, s.length_bytes]
      omega
    rw [or_iff_right hff]
    constructor
    · intro h
      obtain ⟨s, hs⟩ : ∃ s, before.find? (fun s => s.EndsInFF) = some s := by
        rw [← isSome_iff_exists, find?_isSome]
        push Not at hff
        simpa using hff
      obtain ⟨hends, l, r, hbefore, hl⟩ := find?_eq_some_iff_append.mp hs
      have hl' : ∀ s' ∈ l, ¬s'.EndsInFF := fun s' hs' => by simpa using hl s' hs'
      exact ⟨l, s, r, hbefore, hl', by simpa using hends, (hcomes hbefore hl').mp h⟩
    · rintro ⟨l, s, r, hbefore, hl, -, h⟩
      exact (hcomes hbefore hl).mpr h

/-- An APP2 segment behind one whose payload ends in an `0xFF` is not found. -/
theorem app2_lost :
    let app1 : MarkerSegment := ⟨0xE1, [0xFF], by decide, by decide⟩
    let app2 : MarkerSegment := ⟨mApp2, [], by decide, by decide⟩
    let buf := jpegStart [app1] ++ (app2.bytes ++ [0xFF, mEoi])
    buf = [0xFF, 0xD8, 0xFF, 0xE1, 0x00, 0x03, 0xFF, 0xFF, 0xE2, 0x00, 0x02, 0xFF, 0xD9] ∧
      getAppMarker buf buf.length mApp2 = some none := by
  decide +kernel

/-- An APP1 segment that ends in a zero, and then the APP2 segment. -/
theorem app2_found_behind :
    let app1 : MarkerSegment := ⟨0xE1, [0xFF, 0x00], by decide, by decide⟩
    let app2 : MarkerSegment := ⟨mApp2, [], by decide, by decide⟩
    let buf := jpegStart [app1] ++ (app2.bytes ++ [0xFF, mEoi])
    (∀ s ∈ [app1], s.marker ≠ mApp2) ∧ app2.marker = mApp2 ∧
      getAppMarker buf buf.length mApp2 = some (some 10) := by
  intro app1 app2 buf
  have others : ∀ s ∈ [app1], s.marker ≠ mApp2 := by
    rintro s (_ | ⟨_, _ | _⟩)
    decide
  refine ⟨others, rfl, (app2_found_iff [0xFF, mEoi] others rfl).mpr (.inl ?_)⟩
  rintro s (_ | ⟨_, _ | _⟩)
  decide

end MmJpeg
