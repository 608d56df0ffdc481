import Mathlib.Data.Int.Notation
import Mathlib.Tactic.Common

/-!
# A dynamic loader

A library is known by a name, and is mapped as long as it was opened more often than it was closed.
A handle, and with it every symbol that was looked up through it, belongs to one mapping: when a
library is unmapped and mapped again, the handles and symbols of before stay behind.
-/

namespace Loop

/-- The libraries of a process: how often each is open, and how often it has been mapped so far. -/
structure Loader (N : Type*) where
  refs : N → ℕ
  maps : N → ℕ

namespace Loader

variable {N : Type*}

/-- A handle of a library: its name, and the mapping that it is a handle of. -/
structure Lib (N : Type*) where
  name : N
  map : ℕ
  deriving DecidableEq

/-- A symbol, by the handle it was looked up through. -/
structure Sym (N : Type*) where
  lib : Lib N
  symbol : String
  deriving DecidableEq

def empty : Loader N := ⟨fun _ => 0, fun _ => 0⟩

def Mapped (l : Loader N) (n : N) : Prop := 0 < l.refs n

/-- The handle is one of a library that is mapped, and of its current mapping. -/
def Loaded (l : Loader N) (h : Lib N) : Prop := l.Mapped h.name ∧ l.maps h.name = h.map

instance (l : Loader N) (n : N) : Decidable (l.Mapped n) := inferInstanceAs (Decidable (0 < _))

instance (l : Loader N) (h : Lib N) : Decidable (l.Loaded h) :=
  inferInstanceAs (Decidable (_ ∧ _))

variable [DecidableEq N]

/-- Open a library: one that is mapped already is only counted. -/
def dlopen (l : Loader N) (n : N) : Lib N × Loader N :=
  let maps := if l.refs n = 0 then Function.update l.maps n (l.maps n + 1) else l.maps
  (⟨n, maps n⟩, { refs := Function.update l.refs n (l.refs n + 1), maps := maps })

/-- Close a handle: 0, or -1 for a handle that is not loaded. -/
def dlclose (l : Loader N) (h : Lib N) : ℤ × Loader N :=
  if l.Loaded h then
    (0, { l with refs := Function.update l.refs h.name (l.refs h.name - 1) })
  else (-1, l)

/-! ## What opening does -/

@[simp] theorem dlopen_name (l : Loader N) (n : N) : (l.dlopen n).1.name = n := rfl

@[simp] theorem dlopen_refs (l : Loader N) (n : N) :
    (l.dlopen n).2.refs = Function.update l.refs n (l.refs n + 1) := rfl

/-- What was just opened is loaded. -/
theorem loaded_dlopen (l : Loader N) (n : N) : (l.dlopen n).2.Loaded (l.dlopen n).1 := by
  constructor
  · simp [Mapped]
  · rfl

/-- Opening a library leaves every handle loaded that is. -/
theorem loaded_dlopen_of_loaded {l : Loader N} {h : Lib N} (hl : l.Loaded h) (n : N) :
    (l.dlopen n).2.Loaded h := by
  rcases hl with ⟨hmapped, hmap⟩
  unfold Mapped at hmapped
  by_cases hn : h.name = n
  · -- it is mapped already, so this is the same mapping
    subst hn
    constructor
    · simp [Mapped]
    · simp only [dlopen]
      rw [if_neg (by omega), hmap]
  · constructor
    · simpa [Mapped, hn] using hmapped
    · simp only [dlopen]
      split
      · rw [Function.update_of_ne hn, hmap]
      · exact hmap

/-! ## What closing does -/

/-- What closing a loaded handle leaves open. -/
theorem refs_dlclose {l : Loader N} {h : Lib N} (hl : l.Loaded h) :
    (l.dlclose h).2.refs = Function.update l.refs h.name (l.refs h.name - 1) := by
  simp [dlclose, hl]

theorem loaded_dlclose_of_ne {l : Loader N} {h k : Lib N} (hne : k.name ≠ h.name) :
    (l.dlclose h).2.Loaded k ↔ l.Loaded k := by
  unfold dlclose
  split
  · simp [Loaded, Mapped, hne]
  · rfl

end Loader

end Loop
