import Mathlib.Tactic.Ring

/-!
# Bytes in a buffer

A buffer is a list of bytes. Bytes are stored one after the other from an offset on, and loaded from
there; a load outside the buffer fails. A number is encoded in a fixed number of bytes, the most
significant one first or last.
-/

namespace Loop

open List

/-! ## Stores and loads -/

def store (buf : List UInt8) (off : ℕ) : List UInt8 → List UInt8
  | [] => buf
  | b :: bs => store (buf.set off b) (off + 1) bs

/-- A number of bytes are read, from an offset on. -/
def load (buf : List UInt8) (off : ℕ) : ℕ → Option (List UInt8)
  | 0 => some []
  | n + 1 => do
    let b ← buf[off]?
    let bs ← load buf (off + 1) n
    some (b :: bs)

variable {buf l r bs cs : List UInt8} {off p n : ℕ}

@[simp] theorem length_store : (store buf off bs).length = buf.length := by
  induction bs generalizing buf off with
  | nil => rfl
  | cons b bs ih => rw [store, ih, length_set]

/-- **Outside of a store**, the bytes are as they were. -/
theorem getElem?_store (outside : p < off ∨ off + bs.length ≤ p) :
    (store buf off bs)[p]? = buf[p]? := by
  induction bs generalizing buf off with
  | nil => rfl
  | cons b bs ih =>
    rw [length_cons] at outside
    rw [store, ih (by omega), getElem?_set_ne (by omega)]

theorem load_congr (h : ∀ p, off ≤ p → p < off + n → buf[p]? = l[p]?) :
    load buf off n = load l off n := by
  induction n generalizing off with
  | zero => rfl
  | succ n ih =>
    rw [load, load, h off le_rfl (by omega), ih fun p hp hpn => h p (by omega) (by omega)]

/-- **What is stored is loaded**, if there is room for it. -/
theorem load_store_self (buf : List UInt8) (off : ℕ) (bs : List UInt8)
    (room : off + bs.length ≤ buf.length) :
    load (store buf off bs) off bs.length = some bs := by
  induction bs generalizing buf off with
  | nil => rfl
  | cons b bs ih =>
    rw [length_cons] at room
    have hfirst : (store (buf.set off b) (off + 1) bs)[off]? = some b := by
      rw [getElem?_store (.inl (Nat.lt_succ_self off)), getElem?_set_self (by omega)]
    have hrest := ih (buf.set off b) (off + 1) (by rw [length_set]; omega)
    rw [length_cons, load, store, hfirst, hrest]
    rfl

theorem load_append (h : load l off n = some bs) : load (l ++ r) off n = some bs := by
  induction n generalizing off bs with
  | zero => exact h
  | succ n ih =>
    simp only [load, Option.bind_eq_bind, Option.bind_eq_some_iff] at h ⊢
    obtain ⟨b, hb, cs, hcs, hbs⟩ := h
    have hoff : off < l.length := (List.getElem?_eq_some_iff.mp hb).1
    exact ⟨b, (getElem?_append_left hoff).trans hb, cs, ih hcs, hbs⟩

theorem load_middle (l bs r : List UInt8) : load (l ++ bs ++ r) l.length bs.length = some bs := by
  induction bs generalizing l with
  | nil => rfl
  | cons b bs ih =>
    have hfirst : (l ++ (b :: bs) ++ r)[l.length]? = some b := by simp
    have hrest := ih (l ++ [b])
    rw [length_append, append_assoc l, singleton_append] at hrest
    rw [length_cons, load, hfirst]
    exact (congrArg (Option.bind · _) hrest :)

theorem load_eq_take (h : off + n ≤ buf.length) : load buf off n = some ((buf.drop off).take n) := by
  have hload := load_middle (buf.take off) ((buf.drop off).take n) ((buf.drop off).drop n)
  rw [append_assoc, take_append_drop, take_append_drop, length_take,
    length_take, length_drop, min_eq_left (by omega), min_eq_left (by omega)] at hload
  exact hload

theorem load_eq_none (hn : 0 < n) (h : buf.length < off + n) : load buf off n = none := by
  induction n generalizing off with
  | zero => exact absurd hn (Nat.lt_irrefl 0)
  | succ n ih =>
    rw [load]
    rcases hbyte : buf[off]? with _ | b
    · rfl
    · have hoff : off < buf.length := (List.getElem?_eq_some_iff.mp hbyte).1
      rw [ih (by omega) (by omega)]
      rfl

theorem exists_load (h : off + n ≤ buf.length) : ∃ bs, load buf off n = some bs ∧ bs.length = n :=
  ⟨_, load_eq_take h, by rw [length_take, length_drop, min_eq_left (by omega)]⟩

theorem load_take {m : ℕ} (h : load buf off n = some bs) (hm : m ≤ n) :
    load buf off m = some (bs.take m) := by
  induction n generalizing off bs m with
  | zero =>
    cases Nat.le_zero.mp hm
    rfl
  | succ n ih =>
    rcases m with _ | m
    · rfl
    simp only [load, Option.bind_eq_bind, Option.bind_eq_some_iff, Option.some.injEq] at h
    obtain ⟨b, hb, cs, hcs, rfl⟩ := h
    rw [load, hb, ih hcs (Nat.le_of_succ_le_succ hm)]
    rfl

/-! ## Numbers -/

/-- A byte order: the least significant byte is the first one, or the last one. -/
inductive Endian
  | little | big
  deriving DecidableEq, Repr

def lowBytes : ℕ → ℕ → List UInt8
  | 0, _ => []
  | n + 1, v => UInt8.ofNat (v % 256) :: lowBytes n (v / 256)

def ofLowBytes : List UInt8 → ℕ
  | [] => 0
  | b :: bs => b.toNat + 256 * ofLowBytes bs

@[simp] theorem length_lowBytes (n v : ℕ) : (lowBytes n v).length = n := by
  induction n generalizing v with
  | zero => rfl
  | succ n ih => rw [lowBytes, length_cons, ih]

theorem ofLowBytes_lowBytes {n v : ℕ} (h : v < 256 ^ n) : ofLowBytes (lowBytes n v) = v := by
  induction n generalizing v with
  | zero => exact (Nat.lt_one_iff.mp h).symm
  | succ n ih =>
    have hdiv : v / 256 < 256 ^ n := Nat.div_lt_of_lt_mul (by rw [← pow_succ']; exact h)
    have hbyte : v % 256 % 2 ^ 8 = v % 256 := Nat.mod_mod v 256
    rw [lowBytes, ofLowBytes, ih hdiv, UInt8.toNat_ofNat', hbyte, Nat.mod_add_div]

theorem ofLowBytes_mod (bs : List UInt8) (m : ℕ) :
    ofLowBytes bs % 256 ^ m = ofLowBytes (bs.take m) := by
  induction m generalizing bs with
  | zero => rw [pow_zero, Nat.mod_one, take_zero, ofLowBytes]
  | succ m ih =>
    rcases bs with _ | ⟨b, bs⟩
    · simp [ofLowBytes]
    · have hb : b.toNat < 256 := b.toNat_lt
      rw [take_succ_cons, ofLowBytes, ofLowBytes, ← ih, pow_succ', Nat.mod_mul,
        Nat.add_mul_mod_self_left, Nat.mod_eq_of_lt hb, Nat.add_mul_div_left _ _ (by norm_num),
        Nat.div_eq_of_lt hb, zero_add]

def Endian.encode (e : Endian) (n v : ℕ) : List UInt8 :=
  match e with
  | little => lowBytes n v
  | big => (lowBytes n v).reverse

def Endian.decode (e : Endian) (bs : List UInt8) : ℕ :=
  match e with
  | little => ofLowBytes bs
  | big => ofLowBytes bs.reverse

@[simp] theorem Endian.length_encode (e : Endian) (n v : ℕ) : (e.encode n v).length = n := by
  cases e with
  | little => exact length_lowBytes n v
  | big => rw [encode, length_reverse, length_lowBytes]

/-- **Numbers that fit are decoded as they were encoded.** -/
theorem Endian.decode_encode (e : Endian) {n v : ℕ} (h : v < 256 ^ n) :
    e.decode (e.encode n v) = v := by
  cases e with
  | little => exact ofLowBytes_lowBytes h
  | big => rw [encode, decode, reverse_reverse, ofLowBytes_lowBytes h]

end Loop
