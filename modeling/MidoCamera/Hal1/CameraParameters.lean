import Mathlib.Data.Char
import Mathlib.Data.List.Lex
import Mathlib.Order.Lattice

/-!
# The parameters of a camera as one string

`CameraParameters` keeps strings by key. `flatten` hands them on as one string, and `unflatten` reads
them from one. It reads more than `set` accepts: a key may have a `;` in it, and a value a `=`. What is
flattened is read back all the same.
-/

namespace CameraParameters

open List

variable {K V : Type} [LinearOrder K]

/-- `KeyedVector::add`, in the order of the keys: what has the key is replaced. -/
def add (k : K) (v : V) (m : List (K × V)) : List (K × V) :=
  m.filter (·.1 < k) ++ (k, v) :: m.filter (k < ·.1)

theorem add_sorted {m : List (K × V)} (k : K) (v : V) (h : m.Pairwise (·.1 < ·.1)) :
    (add k v m).Pairwise (·.1 < ·.1) := by
  simp only [add, pairwise_append, pairwise_cons, mem_cons, mem_filter, decide_eq_true_eq]
  refine ⟨h.filter _, ⟨fun x hx => hx.2, h.filter _⟩, ?_⟩
  rintro x ⟨-, hx⟩ y (rfl | ⟨-, hy⟩)
  · exact hx
  · exact hx.trans hy

theorem add_last {m : List (K × V)} {k : K} (v : V) (h : ∀ e ∈ m, e.1 < k) :
    add k v m = m ++ [(k, v)] := by
  rw [add, filter_eq_self.mpr fun x hx => decide_eq_true (h x hx),
    filter_eq_nil_iff.mpr fun x hx => by simpa using (h x hx).le]

/-- What a `String8` has before the NUL that ends it. -/
abbrev String8 := List Char

/-- `DefaultKeyedVector<String8, String8>`. -/
abbrev Params := List (String8 × String8)

/-- `strchr`: what is before the first `c`, and what is behind it. -/
def strchr (c : Char) : String8 → Option (String8 × String8)
  | [] => none
  | x :: a => if x = c then some ([], a) else (strchr c a).map fun s => (x :: s.1, s.2)

theorem strchr_eq_some {c : Char} {a k r : String8} :
    strchr c a = some (k, r) ↔ a = k ++ c :: r ∧ c ∉ k := by
  induction a generalizing k with
  | nil => simp [strchr]
  | cons x a ih =>
    unfold strchr
    rcases k with _ | ⟨y, k⟩ <;> split_ifs with hx
    · simp [hx]
    · simp [hx]
    · grind
    · simp only [Option.map_eq_some_iff]
      grind

theorem strchr_eq_none {c : Char} {a : String8} : strchr c a = none ↔ c ∉ a := by
  induction a with
  | nil => simp [strchr]
  | cons x a ih =>
    unfold strchr
    split_ifs with hx
    · simp [hx]
    · simp [ih, Ne.symm hx]

def flatten (m : Params) : String8 := [';'].intercalate (m.map fun e => e.1 ++ '=' :: e.2)

/-- The loop of `unflatten`, from `a` on. -/
def unflattenFrom (m : Params) (a : String8) : Params :=
  match _hkey : strchr '=' a with
  | none => m
  | some (k, v) =>
    match _hvalue : strchr ';' v with
    | none => add k v m
    | some (v, a) => unflattenFrom (add k v m) a
  termination_by a.length
  decreasing_by
    rw [(strchr_eq_some.mp _hkey).1, (strchr_eq_some.mp _hvalue).1]
    simp only [length_append, length_cons]
    omega

def unflatten (params : String8) : Params := unflattenFrom [] params

inductive Call
  | set (key value : String8)
  | remove (key : String8)
  | unflatten (params : String8)

def Call.exec (m : Params) : Call → Params
  | .set k v => if '=' ∈ k ∨ ';' ∈ k ∨ '=' ∈ v ∨ ';' ∈ v then m else add k v m
  | .remove k => m.filter (·.1 ≠ k)
  | .unflatten a => CameraParameters.unflatten a

/-- The keys are in order, and the separators are the first behind a key and behind its value. -/
structure Kept (m : Params) : Prop where
  sorted : m.Pairwise (·.1 < ·.1)
  apart : ∀ e ∈ m, '=' ∉ e.1 ∧ ';' ∉ e.2

variable {m l : Params} {k v : String8}

theorem Kept.add (hm : Kept m) (hk : '=' ∉ k) (hv : ';' ∉ v) : Kept (add k v m) where
  sorted := add_sorted k v hm.sorted
  apart := fun e he => by
    rcases mem_append.mp he with he | he
    · exact hm.apart e (mem_of_mem_filter he)
    · rcases mem_cons.mp he with rfl | he
      · exact ⟨hk, hv⟩
      · exact hm.apart e (mem_of_mem_filter he)

theorem Kept.unflattenFrom (a : String8) (hm : Kept m) : Kept (unflattenFrom m a) := by
  fun_induction CameraParameters.unflattenFrom m a with
  | case1 => exact hm
  | case2 m a k v hkey hvalue => exact hm.add (strchr_eq_some.mp hkey).2 (strchr_eq_none.mp hvalue)
  | case3 m a k v hkey v' a' hvalue ih =>
    exact ih (hm.add (strchr_eq_some.mp hkey).2 (strchr_eq_some.mp hvalue).2)

theorem Kept.exec (hm : Kept m) (c : Call) : Kept (c.exec m) := by
  cases c with
  | set k v =>
    dsimp only [Call.exec]
    split_ifs with hrefused
    · exact hm
    · simp only [not_or] at hrefused
      exact hm.add hrefused.1 hrefused.2.2.2
  | remove k => exact ⟨hm.sorted.filter _, fun e he => hm.apart e (mem_of_mem_filter he)⟩
  | unflatten a => exact Kept.unflattenFrom a ⟨.nil, nofun⟩

theorem unflattenFrom_last (m : Params) (hk : '=' ∉ k) (hv : ';' ∉ v) :
    unflattenFrom m (k ++ '=' :: v) = add k v m := by
  have hkey : strchr '=' (k ++ '=' :: v) = some (k, v) := strchr_eq_some.mpr ⟨rfl, hk⟩
  rw [unflattenFrom]
  split <;> grind [strchr_eq_none]

theorem unflattenFrom_next (m : Params) (hk : '=' ∉ k) (hv : ';' ∉ v) (a : String8) :
    unflattenFrom m (k ++ '=' :: (v ++ ';' :: a)) = unflattenFrom (add k v m) a := by
  have hkey : strchr '=' (k ++ '=' :: (v ++ ';' :: a)) = some (k, v ++ ';' :: a) :=
    strchr_eq_some.mpr ⟨rfl, hk⟩
  have hvalue : strchr ';' (v ++ ';' :: a) = some (v, a) := strchr_eq_some.mpr ⟨rfl, hv⟩
  rw [unflattenFrom]
  split <;> grind

/-- What has been read is before what is still to be read. -/
theorem unflattenFrom_flatten (h : Kept (m ++ l)) : unflattenFrom m (flatten l) = m ++ l := by
  induction l generalizing m with
  | nil => simp [unflattenFrom, flatten, strchr]
  | cons e l ih =>
    have hlast : CameraParameters.add e.1 e.2 m = m ++ [e] := add_last e.2 fun x hx =>
      (pairwise_append.mp h.sorted).2.2 x hx e mem_cons_self
    obtain ⟨hk, hv⟩ := h.apart e (mem_append_right _ mem_cons_self)
    rcases l with _ | ⟨e', l⟩
    · rw [show flatten [e] = e.1 ++ '=' :: e.2 by simp [flatten],
        unflattenFrom_last m hk hv, hlast]
    · rw [show flatten (e :: e' :: l) = e.1 ++ '=' :: (e.2 ++ ';' :: flatten (e' :: l)) by
          simp [flatten, intercalate],
        unflattenFrom_next m hk hv, hlast, ih (by rwa [append_assoc]), append_assoc]
      rfl

/-- **What is flattened is read back**, whatever was set, removed and read before. -/
theorem unflatten_flatten (calls : List Call) :
    unflatten (flatten (calls.foldl Call.exec [])) = calls.foldl Call.exec [] :=
  unflattenFrom_flatten (m := []) (foldlRecOn calls _ ⟨.nil, nofun⟩ fun _ hm c _ => hm.exec c)

end CameraParameters
