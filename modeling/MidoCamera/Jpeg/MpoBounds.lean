import MidoCamera.Jpeg.Markers

/-!
# The accesses of the composer

What the composer reads and writes, where the primary image may hold any bytes. The search reads the
length behind a marker whether it is there or not. The update of the header compares nothing before
it reads. It writes a field only if the last byte of it is inside the buffer; but this is told from
the offset plus 3 in 32 bits, which is small again for the last three offsets. With debug logging,
it reads a byte more at the start of each part that it comes to.
-/

namespace MmJpeg

open Loop List Option

def auxStarts : ℕ → List ℕ → List ℕ
  | _, [] => []
  | aux, len :: lens => aux :: auxStarts (aux + len) lens

/-- Where `LOGD` reads a byte in `mm_jpeg_mpo_update_header`: at the APP2 segment, at the MP header,
and at each auxiliary image. -/
def logReads (app2 primaryLen : ℕ) (auxLens : List ℕ) : List ℕ :=
  app2 :: getMpHeader app2 :: auxStarts primaryLen auxLens

/-- **All accesses are inside**: those of the search in the primary image, and it ends; those of the
update in the output buffer, with what is logged. What is outside is a step that fails. -/
structure AccessesInside (debug : Bool) (out : List UInt8) (primaryLen : ℕ) (auxLens : List ℕ) :
    Prop where
  search : getAppMarker (out.take primaryLen) (toInt primaryLen) mApp2 ≠ none
  update : updateHeader out primaryLen auxLens ≠ none
  logged : debug = true → ∀ app2,
    getAppMarker (out.take primaryLen) (toInt primaryLen) mApp2 = some (some app2) →
      ∀ o ∈ logReads app2 primaryLen auxLens, o < out.length

/-- The order in which the composer reads the header at an offset. -/
def headerOrder (out : List UInt8) (header : ℕ) : Endian :=
  if Endian.big.decode ((out.drop header).take 4) = mpoLittleEndian then .little else .big

def ifdOffset (out : List UInt8) (header : ℕ) : ℕ :=
  (headerOrder out header).decode ((out.drop (header + 4)).take 4)

def ifdAt (out : List UInt8) (header : ℕ) : ℕ := uint32 (header + ifdOffset out header)

/-- Where the MP entries are, in 32 bits: behind the tags of 12 bytes. -/
def entriesAt (out : List UInt8) (header : ℕ) : ℕ :=
  uint32 (ifdAt out header + 2 + Endian.big.decode ((out.drop (ifdAt out header)).take 2) * 12 + 4)

/-- The offsets of the fields of some auxiliary images, behind an entry. -/
def auxFields : ℕ → ℕ → List ℕ
  | _, 0 => []
  | entry, n + 1 => uint32 (entry + 20) :: uint32 (entry + 24) :: auxFields (uint32 (entry + 16)) n

/-- The offsets of all fields that are written, for a number of auxiliary images. -/
def fieldOffsets (entries n : ℕ) : List ℕ := uint32 (entries + 4) :: auxFields entries n

/-- No field is written across the end of the 32-bit offsets: none is there, up to the first of
which the last byte is seen to be outside. -/
def NoneAcross (size : ℕ) : List ℕ → Prop
  | [] => True
  | o :: os => size ≤ uint32 (o + 3) ∨ o + 4 ≤ 2 ^ 32 ∧ NoneAcross size os

instance NoneAcross.decidable (size : ℕ) : (os : List ℕ) → Decidable (NoneAcross size os)
  | [] => .isTrue trivial
  | o :: os =>
    have := decidable size os
    inferInstanceAs (Decidable (size ≤ uint32 (o + 3) ∨ o + 4 ≤ 2 ^ 32 ∧ NoneAcross size os))

/-- The header that is behind the marker at an offset: it is inside the buffer with its 8 bytes, the
number of tags of its IFD is, and no field is written across the end of the offsets. -/
structure HeaderInside (debug : Bool) (out : List UInt8) (primaryLen : ℕ) (auxLens : List ℕ)
    (marker : ℕ) : Prop where
  header : marker + 16 ≤ out.length
  index : ifdAt out (marker + 8) + 2 ≤ out.length
  fields : NoneAcross out.length (fieldOffsets (entriesAt out (marker + 8)) auxLens.length)
  logged : debug = true → ∀ o ∈ auxStarts primaryLen auxLens, o < out.length

/-- **The condition**: the search comes to no marker that should have a length and does not have it
in the image, with `EOI` among these; and if it finds an APP2 segment, the header there is inside.
-/
structure Guarded (debug : Bool) (out : List UInt8) (primaryLen : ℕ) (auxLens : List ℕ) : Prop where
  lengths : ∀ p f m, Reaches (out.take primaryLen) (toInt primaryLen - 1) mApp2 0 p →
    MarkerAt (out.take primaryLen) (toInt primaryLen - 1) p f m → m ≠ mApp2 → m ≠ mSoi →
      f + 4 ≤ primaryLen
  header : ∀ p f, Reaches (out.take primaryLen) (toInt primaryLen - 1) mApp2 0 p →
    MarkerAt (out.take primaryLen) (toInt primaryLen - 1) p f mApp2 →
      HeaderInside debug out primaryLen auxLens f

section

variable {debug : Bool} {buf out : List UInt8} {primaryLen size off : ℕ} {auxLens : List ℕ}

theorem uint32_lt (n : ℕ) : uint32 n < 2 ^ 32 := Nat.mod_lt _ (Nat.two_pow_pos 32)

/-! ## Reads -/

theorem readShort_of_le (h : off + 2 ≤ buf.length) :
    readShort buf off = some (Endian.big.decode ((buf.drop off).take 2)) := by
  rw [readShort_eq, load_eq_take h, map_some]

theorem readShort_of_lt (h : buf.length < off + 2) : readShort buf off = none := by
  rw [readShort_eq, load_eq_none (by decide) h, map_none]

theorem readLong_of_le (h : off + 4 ≤ buf.length) :
    readLong buf off = some (Endian.big.decode ((buf.drop off).take 4)) := by
  rw [readLong_eq, load_eq_take h, map_some]

theorem readLong_of_lt (h : buf.length < off + 4) : readLong buf off = none := by
  rw [readLong_eq, load_eq_none (by decide) h, map_none]

theorem readOffset_of_le {header : ℕ} (h : header + 8 ≤ out.length) :
    readOffset (Endian.big.decode ((out.drop header).take 4)) out (header + 4) =
      some (ifdOffset out header) := by
  unfold readOffset ifdOffset headerOrder
  split_ifs
  · rw [readLongLittle_eq, load_eq_take (by omega), map_some]
  · exact readLong_of_le (by omega)

theorem readOffset_of_lt {endianess : ℕ} (h : buf.length < off + 4) :
    readOffset endianess buf off = none := by
  unfold readOffset
  split_ifs
  · rw [readLongLittle_eq, load_eq_none (by decide) h, map_none]
  · exact readLong_of_lt h

/-- **The way to the entries is inside** where the header is, and the number of tags. -/
theorem mpEntryVal_of_inside {header : ℕ} (small : out.length < 2 ^ 32)
    (hheader : header + 8 ≤ out.length) (hindex : ifdAt out header + 2 ≤ out.length) :
    mpEntryVal out header =
      some (Endian.big.decode ((out.drop header).take 4), entriesAt out header) := by
  have hwrap : ∀ n ≤ out.length, uint32 n = n := fun n hn => Nat.mod_eq_of_lt (by omega)
  have htags : ∀ n, uint32 (uint32 (ifdAt out header + 2) + n * 12 + 4) =
      uint32 (ifdAt out header + 2 + n * 12 + 4) := by
    intro n
    unfold uint32
    omega
  have hmod : ∀ n, uint32 (uint32 n + 4) = uint32 (n + 4) := by
    intro n
    unfold uint32
    omega
  unfold mpEntryVal mpEndianBytes mpIndexCountBytes mpIndexOffsetOfNextIfdBytes
  simp only [bind_eq_bind]
  rw [hwrap header (by omega), readLong_of_le (by omega), bind_some,
    hwrap (header + 4) (by omega), readOffset_of_le hheader, bind_some]
  change ((readShort out (ifdAt out header)).bind fun n => _) = _
  rw [readShort_of_le hindex, bind_some]
  change some (_, uint32 (uint32 (uint32 (ifdAt out header + 2) + _ * 12) + 4)) = _
  rw [hmod, htags]
  rfl

theorem mpEntryVal_outside {header : ℕ} (hheader : header < 2 ^ 32 - 4)
    (h : ¬(header + 8 ≤ out.length ∧ ifdAt out header + 2 ≤ out.length)) :
    mpEntryVal out header = none := by
  have hwrap : uint32 header = header := Nat.mod_eq_of_lt (by omega)
  have hwrap' : uint32 (header + 4) = header + 4 := Nat.mod_eq_of_lt (by omega)
  unfold mpEntryVal mpEndianBytes
  simp only [bind_eq_bind]
  rw [hwrap, hwrap']
  by_cases hlong : header + 4 ≤ out.length
  · rw [readLong_of_le hlong, bind_some]
    by_cases hall : header + 8 ≤ out.length
    · rw [readOffset_of_le hall, bind_some]
      change ((readShort out (ifdAt out header)).bind fun n => _) = _
      rw [readShort_of_lt (by by_contra hlt; exact h ⟨hall, by omega⟩), bind_none]
    · rw [readOffset_of_lt (by omega), bind_none]
  · rw [readLong_of_lt (by omega), bind_none]

/-! ## Writes -/

theorem length_writeByte {byte : UInt8} (h : writeByte buf off byte = some out) :
    out.length = buf.length := by
  unfold writeByte at h
  split_ifs at h
  cases h
  exact length_set

theorem writeByte_outside {byte : UInt8} (h : buf.length ≤ uint32 off) :
    writeByte buf off byte = none := if_neg (Nat.not_lt.mpr h)

/-- Bytes are written one after the other. -/
def writeBytes : List (ℕ × UInt8) → List UInt8 → Option (List UInt8)
  | [], buf => some buf
  | w :: ws, buf => (writeByte buf w.1 w.2).bind (writeBytes ws)

theorem writeBytes_inside {ws : List (ℕ × UInt8)} (h : ∀ w ∈ ws, uint32 w.1 < buf.length) :
    ∃ out, writeBytes ws buf = some out ∧ out.length = buf.length := by
  induction ws generalizing buf with
  | nil => exact ⟨buf, rfl, rfl⟩
  | cons w ws ih =>
    have hbyte : writeByte buf w.1 w.2 = some (buf.set (uint32 w.1) w.2) :=
      if_pos (h w mem_cons_self)
    have hlength := length_writeByte hbyte
    have hrest : ∀ w' ∈ ws, uint32 w'.1 < (buf.set (uint32 w.1) w.2).length := fun w' hw' =>
      hlength ▸ h w' (mem_cons_of_mem _ hw')
    obtain ⟨out, hout, hsame⟩ := ih hrest
    exact ⟨out, by rw [writeBytes, hbyte, bind_some, hout], hsame.trans hlength⟩

theorem writeBytes_outside {ws : List (ℕ × UInt8)} {w : ℕ × UInt8} (hw : w ∈ ws)
    (h : buf.length ≤ uint32 w.1) : writeBytes ws buf = none := by
  induction ws generalizing buf with
  | nil => cases hw
  | cons w' ws ih =>
    rw [writeBytes]
    rcases mem_cons.mp hw with rfl | hw
    · rw [writeByte_outside h, bind_none]
    · rcases hbyte : writeByte buf w'.1 w'.2 with _ | t
      · rfl
      · exact ih hw (length_writeByte hbyte ▸ h)

theorem writeEntry_eq_writeBytes (endianess : ℕ) (v : ℤ) (h : ¬buf.length ≤ uint32 (off + 3)) :
    ∃ ws, (∀ w ∈ ws, off ≤ w.1 ∧ w.1 < off + 4) ∧ (∀ k < 4, ∃ w ∈ ws, w.1 = off + k) ∧
      writeEntry endianess off buf.length v (buf, false) =
        (writeBytes ws buf).map fun t => (t, false) := by
  have hcover : ∀ {ws : List (ℕ × UInt8)} {a b c d : UInt8},
      ws = [(off, a), (off + 1, b), (off + 2, c), (off + 3, d)] ∨
        ws = [(off + 3, a), (off + 2, b), (off + 1, c), (off, d)] →
      (∀ w ∈ ws, off ≤ w.1 ∧ w.1 < off + 4) ∧ ∀ k < 4, ∃ w ∈ ws, w.1 = off + k := by
    rintro ws a b c d (rfl | rfl) <;> refine ⟨by simp, fun k hk => ?_⟩ <;>
      simp only [mem_cons, not_mem_nil, or_false, exists_eq_or_imp, exists_eq_left] <;> omega
  unfold writeEntry writeLongLittleEndian writeLong
  dsimp only
  rw [if_neg h, Bool.not_false, if_pos rfl, if_pos rfl]
  split_ifs
  · obtain ⟨hin, hall⟩ := hcover (.inr (Eq.refl [(off + 3, byteOf v 24), (off + 2, byteOf v 16),
      (off + 1, byteOf v 8), (off, byteOf v 0)]))
    refine ⟨_, hin, hall, ?_⟩
    simp only [writeBytes, bind_eq_bind, Option.map_bind, Function.comp_def, map_some]
  · obtain ⟨hin, hall⟩ := hcover (.inl (Eq.refl [(off, byteOf v 24), (off + 1, byteOf v 16),
      (off + 2, byteOf v 8), (off + 3, byteOf v 0)]))
    refine ⟨_, hin, hall, ?_⟩
    simp only [writeBytes, bind_eq_bind, Option.map_bind, Function.comp_def, map_some]

/-- **A field is refused, or written, or written across the end of the offsets**, which is outside.
-/
theorem writeEntry_cases (endianess : ℕ) (v : ℤ) (hoff : off < 2 ^ 32) (small : buf.length < 2 ^ 32) :
    (buf.length ≤ uint32 (off + 3) ∧
      writeEntry endianess off buf.length v (buf, false) = some (buf, true)) ∨
    (¬buf.length ≤ uint32 (off + 3) ∧ off + 4 ≤ 2 ^ 32 ∧ ∃ out, out.length = buf.length ∧
      writeEntry endianess off buf.length v (buf, false) = some (out, false)) ∨
    (¬buf.length ≤ uint32 (off + 3) ∧ ¬off + 4 ≤ 2 ^ 32 ∧
      writeEntry endianess off buf.length v (buf, false) = none) := by
  by_cases hflag : buf.length ≤ uint32 (off + 3)
  · exact .inl ⟨hflag, writeEntry_over buf (.inr hflag)⟩
  · obtain ⟨ws, hin, hall, hwrite⟩ := writeEntry_eq_writeBytes endianess v hflag
    rw [hwrite]
    by_cases hend : off + 4 ≤ 2 ^ 32
    · have hinside : ∀ w ∈ ws, uint32 w.1 < buf.length := by
        intro w hw
        have hw := hin w hw
        unfold uint32 at *
        omega
      obtain ⟨out, hout, hlength⟩ := writeBytes_inside hinside
      exact .inr (.inl ⟨hflag, hend, out, hlength, by rw [hout, map_some]⟩)
    · -- the last offset of all is among the four
      obtain ⟨w, hw, hlast⟩ := hall (2 ^ 32 - 1 - off) (by omega)
      have houtside : buf.length ≤ uint32 w.1 := by
        unfold uint32
        omega
      exact .inr (.inr ⟨hflag, hend, by rw [writeBytes_outside hw houtside, map_none]⟩)

theorem bind_writeEntry_isSome {α : Type*} (endianess : ℕ) (v : ℤ) (flag : Bool) {os : List ℕ}
    {f : List UInt8 × Bool → Option α} (hoff : off < 2 ^ 32) (small : buf.length < 2 ^ 32)
    (rest : ∀ t flag, t.length = buf.length →
      ((f (t, flag)).isSome ↔ flag = true ∨ NoneAcross buf.length os)) :
    ((writeEntry endianess off buf.length v (buf, flag)).bind f).isSome ↔
      flag = true ∨ NoneAcross buf.length (off :: os) := by
  cases flag with
  | true =>
    rw [writeEntry_over buf (.inl rfl), bind_some, rest _ _ rfl]
    exact iff_of_true (.inl rfl) (.inl rfl)
  | false =>
    rw [or_iff_right Bool.false_ne_true, NoneAcross]
    rcases writeEntry_cases endianess v hoff small with ⟨hover, hw⟩ | ⟨hin, hend, t, ht, hw⟩ |
      ⟨hin, hend, hw⟩
    · rw [hw, bind_some, rest _ _ rfl]
      exact iff_of_true (.inl rfl) (.inl hover)
    · rw [hw, bind_some, rest _ _ ht, or_iff_right Bool.false_ne_true, or_iff_right hin,
        and_iff_right hend]
    · rw [hw, bind_none, or_iff_right hin]
      exact iff_of_false Bool.false_ne_true fun h => hend h.1

/-- **The entries of the auxiliary images** are written inside, unless a field is across the end. -/
theorem auxEntries_isSome (endianess header : ℕ) (lens : List ℕ) (entry aux : ℕ) (flag : Bool)
    (small : buf.length < 2 ^ 32) :
    (auxEntries endianess buf.length header lens entry aux (buf, flag)).isSome ↔
      flag = true ∨ NoneAcross buf.length (auxFields entry lens.length) := by
  induction lens generalizing entry aux buf flag with
  | nil => exact iff_of_true rfl (.inr trivial)
  | cons len lens ih =>
    have hsize : uint32 (uint32 (entry + 16) + 4) = uint32 (entry + 20) := by
      unfold uint32
      omega
    have hoffset : uint32 (uint32 (entry + 20) + 4) = uint32 (entry + 24) := by
      unfold uint32
      omega
    unfold auxEntries mpIndexEntryValueBytes mpIndexEntryIndividualImageAttributeBytes
      mpIndexEntryIndividualImageSizeBytes
    simp only [bind_eq_bind]
    rw [hsize, hoffset, length_cons, auxFields]
    refine bind_writeEntry_isSome _ _ _ (uint32_lt _) small fun t flag ht => ?_
    rw [← ht]
    refine bind_writeEntry_isSome _ _ _ (uint32_lt _) (ht ▸ small) fun t' flag ht' => ?_
    rw [← ht']
    exact ih _ _ _ (by omega)

/-- **The update of a header** that is found, and where it is inside. -/
theorem updateHeader_isSome {marker : ℕ} (hmarker : marker + 12 < 2 ^ 32)
    (small : out.length < 2 ^ 32)
    (found : getAppMarker out (toInt primaryLen) mApp2 = some (some (marker + 2))) :
    updateHeader out primaryLen auxLens ≠ none ↔
      marker + 16 ≤ out.length ∧ ifdAt out (marker + 8) + 2 ≤ out.length ∧
        NoneAcross out.length (fieldOffsets (entriesAt out (marker + 8)) auxLens.length) := by
  have hsize : uint32 out.length = out.length := Nat.mod_eq_of_lt small
  have hheader : getMpHeader (marker + 2) = marker + 8 := rfl
  rw [← isSome_iff_ne_none]
  unfold updateHeader
  rw [found, hsize]
  simp only [bind_eq_bind, bind_some]
  rw [hheader]
  by_cases hin : marker + 8 + 8 ≤ out.length ∧ ifdAt out (marker + 8) + 2 ≤ out.length
  · rw [mpEntryVal_of_inside small hin.1 hin.2, bind_some]
    unfold fieldOffsets mpIndexEntryIndividualImageAttributeBytes
    dsimp only
    rw [bind_writeEntry_isSome _ _ false (uint32_lt _) small, or_iff_right Bool.false_ne_true]
    · exact ⟨fun h => ⟨hin.1, hin.2, h⟩, fun h => h.2.2⟩
    · intro t flag ht
      have hentries : (auxEntries _ t.length _ _ _ _ (t, flag)).isSome ↔ _ := auxEntries_isSome
        (Endian.big.decode ((out.drop (marker + 8)).take 4)) (marker + 8) auxLens
        (entriesAt out (marker + 8)) primaryLen flag (ht ▸ small)
      rw [ht] at hentries
      rw [← hentries]
      cases auxEntries _ _ _ _ _ _ _ <;> rfl
  · rw [mpEntryVal_outside (by omega) hin, bind_none]
    exact iff_of_false Bool.false_ne_true fun h => hin ⟨h.1, h.2.1⟩

theorem toInt_le (n : ℕ) : toInt n ≤ n := by
  unfold toInt
  rw [Int.bmod_def]
  split_ifs <;> omega

theorem toInt_lt (n : ℕ) : toInt n < 2 ^ 31 := by
  have h := Int.bmod_lt (x := (n : ℤ)) (m := 2 ^ 32) (by decide)
  unfold toInt
  omega

theorem Reaches.inside {last : ℤ} {marker m : UInt8} {p f : ℕ} (h : Reaches buf last marker 0 p)
    (hat : MarkerAt buf last p f m) : f = 0 ∨ (f : ℤ) < last := by
  have hp : p = 0 ∨ (p : ℤ) < last := by
    rcases Relation.ReflTransGen.cases_tail h with rfl | ⟨q, -, hskip⟩
    · exact .inl rfl
    · obtain ⟨-, -, -, -, -, -, -, -, hlt⟩ := hskip
      exact .inr hlt
  rcases hat.inside with rfl | hlt
  · exact hp
  · exact .inr hlt

theorem appMarkerSize_ne_none {f : ℕ} {m : UInt8} :
    appMarkerSize buf (f + 1) m ≠ none ↔ (m ≠ mSoi → f + 4 ≤ buf.length) := by
  unfold appMarkerSize
  split_ifs with hsoi
  · rw [readShort_eq]
    by_cases hin : f + 4 ≤ buf.length
    · rw [load_eq_take (by omega)]
      exact iff_of_true nofun fun _ => hin
    · rw [load_eq_none (by decide) (by omega)]
      exact iff_of_false (fun h => h rfl) fun h => hin (h hsoi)
  · exact iff_of_true nofun fun h => absurd h hsoi

theorem searchFrom_eq_add {last : ℤ} {marker : UInt8} {p a : ℕ} (hp : p + 1 < buf.length)
    (hlast : last < buf.length) (h : searchFrom buf last marker p = some (some a)) :
    ∃ f, a = f + 2 := by
  obtain ⟨q, hreach, hnone | ⟨f, hfound⟩ | ⟨f, m, hat, hne, hsize⟩⟩ :
      ∃ q, Reaches buf last marker p q ∧ _ := search_ends hp hlast
  · cases (hreach.search_eq.symm.trans h).symm.trans hnone
  · have hfa := (hreach.search_eq.symm.trans h).symm.trans hfound.found
    simp only [some.injEq] at hfa
    exact ⟨f, hfa⟩
  · cases (hreach.search_eq.symm.trans h).symm.trans (hat.out hne hsize)

/-- **When all accesses are inside**: exactly if the image is guarded. -/
theorem accesses_inside_iff (hlong : 2 ≤ primaryLen) (hfits : primaryLen ≤ out.length)
    (small : out.length < 2 ^ 32) :
    AccessesInside debug out primaryLen auxLens ↔ Guarded debug out primaryLen auxLens := by
  have himage : (out.take primaryLen).length = primaryLen := by
    rw [length_take, min_eq_left hfits]
  have hint := toInt_le primaryLen
  have hint' := toInt_lt primaryLen
  have htwo : 0 + 1 < (out.take primaryLen).length := by omega
  have hlast : toInt primaryLen - 1 < (out.take primaryLen).length := by omega
  have hinside : getAppMarker (out.take primaryLen) (toInt primaryLen) mApp2 ≠ none ↔ ∀ p f m,
      Reaches (out.take primaryLen) (toInt primaryLen - 1) mApp2 0 p →
        MarkerAt (out.take primaryLen) (toInt primaryLen - 1) p f m → m ≠ mApp2 → m ≠ mSoi →
          f + 4 ≤ primaryLen := by
    have h : searchFrom (out.take primaryLen) (toInt primaryLen - 1) mApp2 0 ≠ none ↔ _ :=
      searchFrom_inside_iff htwo hlast
    simp only [appMarkerSize_ne_none, himage] at h
    exact h
  have hfound : ∀ {f}, getAppMarker (out.take primaryLen) (toInt primaryLen) mApp2 =
      some (some (f + 2)) ↔ ∃ p, Reaches (out.take primaryLen) (toInt primaryLen - 1) mApp2 0 p ∧
        MarkerAt (out.take primaryLen) (toInt primaryLen - 1) p f mApp2 := fun {f} =>
    (searchFrom_found_iff htwo hlast :
      searchFrom (out.take primaryLen) (toInt primaryLen - 1) mApp2 0 = _ ↔ _)
  -- what is found in the image is found in the buffer
  have hbuffer : ∀ {res}, getAppMarker (out.take primaryLen) (toInt primaryLen) mApp2 = some res →
      getAppMarker out (toInt primaryLen) mApp2 = some res := by
    intro res h
    have h := getAppMarker_append (r := out.drop primaryLen) h
    rwa [take_append_drop] at h
  constructor
  · rintro ⟨hsearch, hupdate, hlogged⟩
    refine ⟨hinside.mp hsearch, fun p f hreach hat => ?_⟩
    have hf : f < 2 ^ 31 := by
      rcases hreach.inside hat with rfl | hlt <;> omega
    have h := hfound.mpr ⟨p, hreach, hat⟩
    obtain ⟨hheader, hindex, hfields⟩ :=
      (updateHeader_isSome (by omega) small (hbuffer h)).mp hupdate
    exact ⟨hheader, hindex, hfields, fun hdebug o ho => hlogged hdebug _ h o (by simp [logReads, ho])⟩
  · rintro ⟨hlengths, hheader⟩
    have hsearch := hinside.mpr hlengths
    rcases hres : getAppMarker (out.take primaryLen) (toInt primaryLen) mApp2 with _ | _ | app2
    · exact absurd hres hsearch
    · -- without a header the update returns at once
      refine ⟨hsearch, ?_, fun _ app2 h => ?_⟩
      · unfold updateHeader
        rw [hbuffer hres]
        exact nofun
      · rw [hres] at h
        cases h
    · obtain ⟨f, rfl⟩ : ∃ f, app2 = f + 2 := searchFrom_eq_add htwo hlast hres
      obtain ⟨p, hreach, hat⟩ := hfound.mp hres
      have hf : f < 2 ^ 31 := by
        rcases hreach.inside hat with rfl | hlt <;> omega
      have h := hheader p f hreach hat
      refine ⟨hsearch, (updateHeader_isSome (by omega) small (hbuffer hres)).mpr
        ⟨h.header, h.index, h.fields⟩, fun hdebug app2 happ2 o ho => ?_⟩
      rw [hres] at happ2
      cases happ2
      have hin := h.header
      rcases mem_cons.mp ho with rfl | ho
      · omega
      rcases mem_cons.mp ho with rfl | ho
      · unfold getMpHeader mpApp2FieldLengthBytes mpFormatIdentifierBytes
        omega
      · exact h.logged hdebug o ho

end

/-- **An access is outside**: the search reads a length behind an `EOI` that is the image, and the
update reads a header behind the APP2 segment that is the last in the buffer. -/
theorem accesses_outside :
    ¬AccessesInside false [0xFF, mEoi] 2 [] ∧ ¬AccessesInside false [0xFF, mApp2] 2 [] := by
  constructor
  · intro h
    exact h.search (by decide)
  · intro h
    exact h.update (by decide)

/-- An image with a header that is inside, in a buffer of its size. -/
theorem accesses_inside_header :
    let out : List UInt8 := [0xFF, 0xE2, 0x00, 0x20, 0x4D, 0x50, 0x46, 0x00] ++
      [0x4D, 0x4D, 0x00, 0x2A, 0x00, 0x00, 0x00, 0x08, 0x00, 0x00] ++ replicate 12 0
    2 ≤ out.length ∧ out.length ≤ out.length ∧ out.length < 2 ^ 32 ∧
      AccessesInside true out out.length [] := by
  intro out
  refine ⟨by decide, le_rfl, by decide, (accesses_inside_iff (by decide) le_rfl (by decide)).mpr ?_⟩
  have hat : MarkerAt (out.take out.length) (toInt out.length - 1) 0 0 mApp2 :=
    ⟨le_rfl, rfl, fun i _ hi => absurd hi (Nat.not_lt_zero i), .inl rfl, rfl⟩
  -- the search goes no further than the first marker
  have hstart : ∀ p, Reaches (out.take out.length) (toInt out.length - 1) mApp2 0 p → p = 0 := by
    intro p h
    rcases Relation.ReflTransGen.cases_head h with rfl | ⟨q, ⟨f, m, size, hat', hne, -⟩, -⟩
    · rfl
    · exact absurd (hat.unique hat').2.symm hne
  refine ⟨fun p f m hreach hat' hne _ => ?_, fun p f hreach hat' => ?_⟩
  · rw [hstart p hreach] at hat'
    exact absurd (hat.unique hat').2.symm hne
  · rw [hstart p hreach] at hat'
    rw [← (hat.unique hat').1]
    exact ⟨by decide, by decide, by decide, fun _ o ho => by cases ho⟩

end MmJpeg
