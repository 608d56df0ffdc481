import MidoCamera.Library.FirstMatch
import MidoCamera.Library.Run

/-!
# The event observers of a camera

`mm_camera_register_event_notify_internal` registers an observer, or takes one out again when it is
given no callback. The dispatch of an event calls each entry of the table that has a callback. But
the table is searched by `user_data`, which is null in an empty entry, and nothing keeps an observer
from having a null `user_data` of its own.
-/

namespace MmCamera

open Loop List

abbrev evtEntryMax : ℕ := 4

/-- `mm_camera_evt_entry_t`: the callback, if any, and a pointer, which is zero when it is null. -/
structure EvtEntry where
  evtCb : Option ℕ
  userData : ℕ
  deriving DecidableEq, Repr

/-- `mm_camera_evt_obj_t`. -/
structure EvtObj where
  evt : List EvtEntry
  regCount : ℤ
  size : evt.length = evtEntryMax

def EvtObj.empty : EvtObj := ⟨List.replicate evtEntryMax ⟨none, 0⟩, 0, rfl⟩

/-- The first entry with this `user_data` is replaced, and `reg_count` changed. -/
def EvtObj.replace (userData : ℕ) (e : EvtEntry) (d : ℤ) (s : EvtObj) : EvtObj :=
  { evt := changeFirst (·.userData == userData) (fun _ => e) s.evt
    regCount := s.regCount + d
    size := (length_changeFirst ..).trans s.size }

/-- `mm_camera_register_event_notify_internal`, with its return code. -/
def registerEventNotifyInternal (evtCb : Option ℕ) (userData : ℕ) (s : EvtObj) : ℤ × EvtObj :=
  match evtCb with
  | some cb =>
    -- an entry is taken to be empty if its `user_data` is null
    if s.evt.any (·.userData == 0) then (0, s.replace 0 ⟨some cb, userData⟩ 1) else (-1, s)
  | none =>
    if s.evt.any (·.userData == userData) then (0, s.replace userData ⟨none, 0⟩ (-1)) else (-1, s)

/-- A call. -/
structure EvtCall where
  evtCb : Option ℕ
  userData : ℕ

def EvtCall.Step (c : EvtCall) (s t : EvtObj) : Prop :=
  (registerEventNotifyInternal c.evtCb c.userData s).2 = t

/-- The observers: the entries that are called when an event is dispatched. -/
def EvtObj.registered (s : EvtObj) : List EvtEntry := s.evt.filter (·.evtCb.isSome)

/-- `reg_count` is the number of observers. -/
def EvtObj.Counted (s : EvtObj) : Prop := s.regCount = s.registered.length

instance (s : EvtObj) : Decidable s.Counted := inferInstanceAs (Decidable (_ = _))

/-- **What a call is to do**: nothing; or it adds an observer to those there are, or takes one out
with its `user_data`; and the observers are counted. -/
structure EvtCall.Lawful (c : EvtCall) (s t : EvtObj) : Prop where
  counted : t.Counted
  register : c.evtCb.isSome = true → t = s ∨
    t.registered.Perm (⟨c.evtCb, c.userData⟩ :: s.registered)
  unregister : c.evtCb = none → t = s ∨
    ∃ e : EvtEntry, e.userData = c.userData ∧ s.registered.Perm (e :: t.registered)

/-- The `user_data` that a call looks for. -/
def EvtCall.sought (c : EvtCall) : ℕ := if c.evtCb.isSome then 0 else c.userData

/-- **The condition**: the first entry with the `user_data` that the call looks for, if there is one,
is no observer where one is to be registered, and is one where one is to be taken out. -/
def EvtCall.Fits (c : EvtCall) (s : EvtObj) : Prop :=
  ∀ e ∈ s.evt.find? (·.userData == c.sought), e.evtCb.isSome = c.evtCb.isNone

def EvtCall.LawfulStep (c : EvtCall) (s t : EvtObj) : Prop := c.Step s t ∧ c.Lawful s t

def EvtCall.FittingStep (c : EvtCall) (s t : EvtObj) : Prop := c.Step s t ∧ c.Fits s

/-- **An observer is overwritten**: it has a null `user_data`, so its entry is taken for an empty one
when the next observer is registered. -/
theorem registry_overwrites :
    ¬∀ (calls : List EvtCall) (c : EvtCall) (s t : EvtObj),
      Run EvtCall.Step calls .empty s → c.Step s t → c.Lawful s t := by
  intro hall
  have hlawful := hall [⟨some 1, 0⟩] ⟨some 2, 16⟩ _ _ (.one rfl) rfl
  exact absurd hlawful.counted (by decide)

section

variable {c : EvtCall} {calls : List EvtCall} {s t : EvtObj} {e : EvtEntry} {userData : ℕ}

theorem replace_registered (e' : EvtEntry) (d : ℤ)
    (found : s.evt.find? (·.userData == userData) = some e) :
    ∃ l₁ l₂, s.evt = l₁ ++ e :: l₂ ∧ e.userData = userData ∧
      (s.replace userData e' d).evt = l₁ ++ e' :: l₂ := by
  obtain ⟨l₁, l₂, hsplit, he, -, hchanged⟩ := changeFirst_split (f := fun _ => e') found
  exact ⟨l₁, l₂, hsplit, by simpa using he, hchanged⟩

theorem filter_split (l₁ l₂ : List EvtEntry) (e : EvtEntry) :
    (l₁ ++ e :: l₂).filter (·.evtCb.isSome) =
      l₁.filter (·.evtCb.isSome) ++
        ((if e.evtCb.isSome then [e] else []) ++ l₂.filter (·.evtCb.isSome)) := by
  rw [filter_append, filter_cons]
  split_ifs
  · rfl
  · rfl

/-- The entry that a call leaves in the place of the one it finds. -/
def EvtCall.entry (c : EvtCall) : EvtEntry :=
  if c.evtCb.isSome then ⟨c.evtCb, c.userData⟩ else ⟨none, 0⟩

/-- What a call adds to `reg_count` when it finds an entry. -/
def EvtCall.added (c : EvtCall) : ℤ := if c.evtCb.isSome then 1 else -1

/-- **Every call** leaves the table alone, or replaces the first entry with the `user_data` that it
looks for. -/
theorem EvtCall.Step.cases (step : c.Step s t) :
    s.evt.find? (·.userData == c.sought) = none ∧ t = s ∨
      ∃ e, s.evt.find? (·.userData == c.sought) = some e ∧
        t = s.replace c.sought c.entry c.added := by
  have heq : t = if s.evt.any (·.userData == c.sought) then s.replace c.sought c.entry c.added
      else s := by
    obtain ⟨evtCb, userData⟩ := c
    rw [← step]
    unfold registerEventNotifyInternal
    cases evtCb with
    | none | some cb => exact apply_ite Prod.snd ..
  cases hfind : s.evt.find? (·.userData == c.sought) with
  | none =>
    have hany : ¬s.evt.any (·.userData == c.sought) = true := by
      rw [any_eq_true]
      exact fun ⟨e, he, hp⟩ => find?_eq_none.mp hfind e he hp
    exact .inl ⟨rfl, heq.trans (if_neg hany)⟩
  | some e =>
    have hp := find?_some hfind
    have hany : s.evt.any (·.userData == c.sought) = true :=
      any_eq_true.mpr ⟨e, mem_of_find?_eq_some hfind, hp⟩
    exact .inr ⟨e, rfl, heq.trans (if_pos hany)⟩

/-- **Every call** does what it is to do exactly if it meets the condition. -/
theorem EvtCall.Step.lawful_iff (step : c.Step s t) (counted : s.Counted) :
    c.Lawful s t ↔ c.Fits s := by
  unfold EvtCall.Fits
  rcases step.cases with ⟨hnone, rfl⟩ | ⟨e, hfind, rfl⟩
  · rw [hnone]
    exact iff_of_true ⟨counted, fun _ => .inl rfl, fun _ => .inl rfl⟩ fun _ h => nomatch h
  rw [hfind]
  obtain ⟨l₁, l₂, hsplit, he, hreplaced⟩ :=
    replace_registered c.entry c.added hfind
  have hs : s.registered = _ := (congrArg (filter _) hsplit).trans (filter_split l₁ l₂ e)
  have ht : (s.replace c.sought c.entry c.added).registered = _ :=
    (congrArg (filter _) hreplaced).trans (filter_split l₁ l₂ c.entry)
  have hcount : (s.replace c.sought c.entry c.added).regCount = s.registered.length + c.added :=
    congrArg (· + c.added) counted
  -- the observers but for the entry that is replaced
  generalize l₁.filter (·.evtCb.isSome) = r₁ at hs ht
  generalize l₂.filter (·.evtCb.isSome) = r₂ at hs ht
  cases hcb : c.evtCb with
  | some cb =>
    have hentry : c.entry = ⟨c.evtCb, c.userData⟩ := if_pos (by rw [hcb]; rfl)
    have hadded : c.added = 1 := if_pos (by rw [hcb]; rfl)
    rw [if_pos (by rw [hentry, hcb]; rfl), singleton_append] at ht
    constructor
    · -- an observer that is overwritten is counted twice
      rintro hlawful e' ⟨⟩
      have hnew := hlawful.counted
      unfold EvtObj.Counted at hnew
      rw [hcount, ht, hs, hadded] at hnew
      by_contra hobserver
      rw [if_pos (Option.isSome_iff_ne_none.mpr (by simpa using hobserver))] at hnew
      simp only [length_append, length_cons, length_nil] at hnew
      omega
    · intro hfree
      rw [if_neg (by simp [hfree e rfl]), nil_append] at hs
      refine ⟨?_, fun _ => .inr ?_, fun hnone => ?_⟩
      · unfold EvtObj.Counted
        rw [hcount, ht, hs, hadded]
        simp only [length_append, length_cons]
        omega
      · rw [ht, hs, hentry]
        exact perm_middle
      · exact absurd (hcb.symm.trans hnone) nofun
  | none =>
    have hentry : c.entry = ⟨none, 0⟩ := if_neg (by simp [hcb])
    have hadded : c.added = -1 := if_neg (by simp [hcb])
    have hsought : c.sought = c.userData := if_neg (by simp [hcb])
    rw [if_neg (by simp [hentry]), nil_append] at ht
    constructor
    · -- where no observer is taken out, one too few is counted
      rintro hlawful e' ⟨⟩
      have hnew := hlawful.counted
      unfold EvtObj.Counted at hnew
      rw [hcount, ht, hs, hadded] at hnew
      by_contra hfree
      rw [if_neg (by simpa using hfree)] at hnew
      simp only [length_append, length_nil] at hnew
      omega
    · intro hobserver
      rw [if_pos (by simp [hobserver e rfl]), singleton_append] at hs
      refine ⟨?_, fun hsome => ?_, fun _ => .inr ⟨e, he.trans hsought, ?_⟩⟩
      · unfold EvtObj.Counted
        rw [hcount, ht, hs, hadded]
        simp only [length_append, length_cons]
        omega
      · rw [hcb] at hsome
        cases hsome
      · rw [ht, hs]
        exact perm_middle

theorem run_lawful_iff (counted : s.Counted) :
    Run EvtCall.LawfulStep calls s t ↔ Run EvtCall.FittingStep calls s t := by
  constructor
  · intro run
    induction run with
    | nil => exact .nil _
    | cons step _ ih => exact .cons ⟨step.1, (step.1.lawful_iff counted).mp step.2⟩ (ih step.2.counted)
  · intro run
    induction run with
    | nil => exact .nil _
    | cons step _ ih =>
      have hlawful := (step.1.lawful_iff counted).mpr step.2
      exact .cons ⟨step.1, hlawful⟩ (ih hlawful.counted)

/-- **Over a run** each call does what it is to do exactly if each meets the condition. -/
theorem registry_lawful_iff (calls : List EvtCall) (t : EvtObj) :
    Run EvtCall.LawfulStep calls .empty t ↔ Run EvtCall.FittingStep calls .empty t :=
  run_lawful_iff (by decide)

end

end MmCamera
