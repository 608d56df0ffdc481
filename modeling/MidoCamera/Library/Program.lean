import Mathlib.Logic.Relation
import Mathlib.Tactic.Common

/-!
# Programs with a view and a log

A program of `StateM` may be of interest only for what it does to a part of the state, the view, and
for the entries that it writes to a log. `Leads` is what is known of both when it ends. It is read
off the program from the front: each rule runs one part of it.
-/

namespace Loop

variable {σ ω ε α β : Type} {view : σ → ω} {log : σ → List ε}

/-- From any state with the view, the program ends with a result, a view and entries added to the
log as the postcondition says. -/
def Leads (view : σ → ω) (log : σ → List ε) (c : StateM σ α) (w : ω)
    (Q : α → ω → List ε → Prop) : Prop :=
  ∀ s, view s = w → ∃ k, log (c.run s).2 = log s ++ k ∧ Q (c.run s).1 (view (c.run s).2) k

section Leads

variable {c d : StateM σ α} {f : α → StateM σ β} {w : ω} {P Q : α → ω → List ε → Prop}
  {R : β → ω → List ε → Prop}

theorem leads_pure {a : α} (h : Q a w []) : Leads view log (pure a) w Q := by
  rintro s rfl
  exact ⟨[], (List.append_nil _).symm, h⟩

/-- What the parts of a program write, in order, the program writes. -/
theorem leads_bind
    (h : Leads view log c w fun a w' k => Leads view log (f a) w' fun b w'' l => R b w'' (k ++ l)) :
    Leads view log (c >>= f) w R := by
  intro s hs
  obtain ⟨k, hk, hf⟩ := h s hs
  obtain ⟨l, hl, hR⟩ := hf _ rfl
  refine ⟨k ++ l, ?_, hR⟩
  rw [hk, List.append_assoc] at hl
  exact hl

theorem leads_pure_bind {a : α} (h : Leads view log (f a) w R) :
    Leads view log (pure a >>= f) w R := by
  rw [pure_bind]
  exact h

theorem leads_ite {p : Prop} [Decidable p] (hc : p → Leads view log c w Q)
    (hd : ¬p → Leads view log d w Q) : Leads view log (if p then c else d) w Q := by
  split_ifs with hp
  · exact hc hp
  · exact hd hp

theorem leads_pos {p : Prop} [Decidable p] (hp : p) (hc : Leads view log c w Q) :
    Leads view log (if p then c else d) w Q := leads_ite (fun _ => hc) fun h => absurd hp h

theorem leads_neg {p : Prop} [Decidable p] (hp : ¬p) (hd : Leads view log d w Q) :
    Leads view log (if p then c else d) w Q := leads_ite (fun h => absurd h hp) fun _ => hd

/-- **The rule of consequence.** -/
theorem Leads.mono (h : Leads view log c w P) (hpq : ∀ a w' k, P a w' k → Q a w' k) :
    Leads view log c w Q := by
  intro s hs
  obtain ⟨k, hk, hP⟩ := h s hs
  exact ⟨k, hk, hpq _ _ _ hP⟩

/-- A part of which something is known is run, and what follows it. -/
theorem Leads.bind (h : Leads view log c w P)
    (hf : ∀ a w' k, P a w' k → Leads view log (f a) w' fun b w'' l => R b w'' (k ++ l)) :
    Leads view log (c >>= f) w R := leads_bind (h.mono hf)

end Leads

/-- The program leaves the view alone, and writes the entries to the log. -/
def Emits (view : σ → ω) (log : σ → List ε) (l : List ε) (c : StateM σ α) : Prop :=
  ∀ w, Leads view log c w fun _ w' k => w' = w ∧ k = l

namespace Emits

variable {l l' : List ε} {c d : StateM σ α} {f : α → StateM σ β} {w : ω}

theorem intro (h : ∀ s, view (c.run s).2 = view s ∧ log (c.run s).2 = log s ++ l) :
    Emits view log l c := by
  rintro w s rfl
  exact ⟨l, (h s).2, (h s).1, rfl⟩

theorem pure (a : α) : Emits view log [] (pure a : StateM σ α) := fun _ => leads_pure ⟨rfl, rfl⟩

theorem bind (hc : Emits view log l c) (hf : ∀ a, Emits view log l' (f a)) :
    Emits view log (l ++ l') (c >>= f) := by
  intro w
  apply (hc w).bind
  rintro a _ _ ⟨rfl, rfl⟩
  apply (hf a _).mono
  rintro b _ _ ⟨rfl, rfl⟩
  exact ⟨rfl, rfl⟩

/-- Something may be done first that writes nothing. -/
theorem after (hc : Emits view log [] c) (hf : ∀ a, Emits view log l (f a)) :
    Emits view log l (c >>= f) := hc.bind hf

theorem ite {p : Prop} [Decidable p] (hc : Emits view log l c) (hd : Emits view log l d) :
    Emits view log l (if p then c else d) := fun w => leads_ite (fun _ => hc w) fun _ => hd w

/-- A program that leaves the view alone and writes nothing is passed over. -/
theorem leads {R : β → ω → List ε → Prop} (hc : Emits view log [] c)
    (hf : ∀ a, Leads view log (f a) w R) : Leads view log (c >>= f) w R := by
  apply (hc w).bind
  rintro a _ _ ⟨rfl, rfl⟩
  exact hf a

end Emits

/-- A program that is built of programs that emit is found by instances to do so. -/
class Emitter (view : σ → ω) (log : σ → List ε) (l : List ε) (c : StateM σ α) : Prop where
  emits : Emits view log l c

namespace Emitter

variable {l : List ε} {c d : StateM σ α} {f : α → StateM σ β}

instance pure (a : α) : Emitter view log [] (pure a : StateM σ α) := ⟨.pure a⟩

instance after [hc : Emitter view log [] c] [hf : ∀ a, Emitter view log l (f a)] :
    Emitter view log l (c >>= f) := ⟨hc.emits.after fun a => (hf a).emits⟩

instance ite {p : Prop} [Decidable p] [hc : Emitter view log l c] [hd : Emitter view log l d] :
    Emitter view log l (if p then c else d) := ⟨hc.emits.ite hd.emits⟩

theorem leads {w : ω} {R : β → ω → List ε → Prop} [hc : Emitter view log [] c]
    (hf : ∀ a, Leads view log (f a) w R) : Leads view log (c >>= f) w R := hc.emits.leads hf

end Emitter

def Carries (view : σ → ω) (r : ω → ω → Prop) (c : StateM σ α) : Prop :=
  ∀ s, Relation.ReflTransGen r (view s) (view (c.run s).2)

namespace Carries

variable {r : ω → ω → Prop} {c d : StateM σ α} {f : α → StateM σ β}

theorem keep (h : ∀ s, view (c.run s).2 = view s) : Carries view r c :=
  fun s => (h s).symm ▸ .refl

theorem step (h : ∀ s, r (view s) (view (c.run s).2)) : Carries view r c :=
  fun s => .single (h s)

theorem pure (a : α) : Carries view r (pure a : StateM σ α) := keep fun _ => rfl

theorem bind (hc : Carries view r c) (hf : ∀ a, Carries view r (f a)) :
    Carries view r (c >>= f) := fun s => (hc s).trans (hf _ _)

theorem ite {p : Prop} [Decidable p] (hc : Carries view r c) (hd : Carries view r d) :
    Carries view r (if p then c else d) := by
  split_ifs
  · exact hc
  · exact hd

/-- **An invariant of the relation** is one of the program. -/
theorem invariant {I : ω → Prop} (hI : ∀ w w', r w w' → I w → I w') (hc : Carries view r c)
    {s : σ} (hs : I (view s)) : I (view (c.run s).2) := by
  have hsteps : ∀ w, Relation.ReflTransGen r (view s) w → I w := by
    intro w hw
    induction hw with
    | refl => exact hs
    | tail _ hstep ih => exact hI _ _ hstep ih
  exact hsteps _ (hc s)

end Carries

/-- As `Emitter`, for `Carries`. -/
class Carrier (view : σ → ω) (r : ω → ω → Prop) (c : StateM σ α) : Prop where
  carries : Carries view r c

namespace Carrier

variable {r : ω → ω → Prop} {c d : StateM σ α} {f : α → StateM σ β}

instance pure (a : α) : Carrier view r (pure a : StateM σ α) := ⟨.pure a⟩

instance bind [hc : Carrier view r c] [hf : ∀ a, Carrier view r (f a)] :
    Carrier view r (c >>= f) := ⟨hc.carries.bind fun a => (hf a).carries⟩

instance ite {p : Prop} [Decidable p] [hc : Carrier view r c] [hd : Carrier view r d] :
    Carrier view r (if p then c else d) := ⟨hc.carries.ite hd.carries⟩

end Carrier

/-- A condition that is computed holds. -/
instance factTrue : Fact (true = true) := ⟨rfl⟩

end Loop
