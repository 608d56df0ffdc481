import MidoCamera.Library.Run
import MidoCamera.Library.Tally
import Mathlib.Data.List.Range

/-!
# The table of reprocess channels

The post-processor keeps its reprocess channels in a table, one for each pass over a frame. `start`
deletes the channels of the session before and creates new ones, `stop` and the destructor delete
them; all three walk the entries below the count. No deletion clears its entry: the pointer that is
set to NULL is a local one. An entry is therefore overwritten by the next session, or left stale: if
a pass cannot be set up, `start` returns with the count already raised over entries it has not come
to.
-/

namespace Reproc

open Loop Function List

/-- What becomes of one pass: its channel cannot be added, or cannot be started, or runs. -/
inductive Setup
  | notAdded
  | notStarted
  | running
  deriving DecidableEq, Repr

/-- The table of reprocess channels. Channels are numbered as they are created, and `deleted` lists
those that have been deleted. -/
structure PostProc where
  inited : Bool := false
  ppChannelCount : ℕ := 0
  ppChannels : ℕ → Option ℕ := fun _ => none
  created : ℕ := 0
  deleted : List ℕ := []
  destroyed : Bool := false

namespace PostProc

def inUse (s : PostProc) : List ℕ := (List.range s.ppChannelCount).filterMap s.ppChannels

def deleteChannels (s : PostProc) : PostProc :=
  { s with ppChannelCount := 0, deleted := s.deleted ++ s.inUse }

/-- The passes from `i` on are set up, `n` of them; the first that fails ends it. -/
def addChannels (setup : ℕ → Setup) : ℕ → ℕ → PostProc → PostProc × Bool
  | 0, _, s => (s, true)
  | n + 1, i, s =>
    match setup i with
    | .notAdded => ({ s with ppChannels := update s.ppChannels i none }, false)
    | .notStarted =>
      ({ s with
          ppChannels := update s.ppChannels i none
          created := s.created + 1
          deleted := s.deleted ++ [s.created] }, false)
    | .running =>
      addChannels setup n (i + 1)
        { s with
          ppChannels := update s.ppChannels i (some s.created)
          created := s.created + 1 }

/-- `start`: whether there is a source channel and a reprocess is needed, how many passes there are,
and what becomes of each. -/
def start (s : PostProc) (srcChannel needReprocess manualCapture : Bool) (reprocCount : ℕ)
    (setup : ℕ → Setup) : PostProc × Bool :=
  if !s.inited || !srcChannel then (s, false)
  else if needReprocess then
    let n := if manualCapture then reprocCount - 1 else reprocCount
    addChannels setup n 0 { s.deleteChannels with ppChannelCount := n }
  else (s, true)

/-- `stop`, initialised or not. -/
def stop (s : PostProc) : PostProc := s.deleteChannels

def destroy (s : PostProc) : PostProc := { s.deleteChannels with destroyed := true }

end PostProc

/-- What is called on the post-processor. -/
inductive Op
  | init
  | deinit
  | start (srcChannel needReprocess manualCapture : Bool) (reprocCount : ℕ) (setup : ℕ → Setup)
  | stop
  | destroy

/-- The calls, until the object is gone. -/
def Op.exec (op : Op) (s : PostProc) : Option PostProc :=
  if s.destroyed then none
  else some <| match op with
    | .init => { s with inited := true }
    | .deinit => { s with inited := false }
    | .start src need manual count setup => (s.start src need manual count setup).1
    | .stop => s.stop
    | .destroy => s.destroy

namespace PostProc

/-- **The table is valid**: an entry below the count is NULL or a channel that has been created and
not deleted. -/
def Valid (s : PostProc) : Prop :=
  ∀ i < s.ppChannelCount, ∀ c, s.ppChannels i = some c → c < s.created ∧ c ∉ s.deleted

/-- **Each channel is deleted once**: none twice, and none is left when the object is gone. -/
def DeletedOnce (s : PostProc) : Prop :=
  s.deleted.Nodup ∧ (∀ c ∈ s.deleted, c < s.created) ∧
    (s.destroyed = true → ∀ c < s.created, c ∈ s.deleted)

/-- The channels in use and the deleted ones are the channels created, each of them once; and the
table never held anything else. -/
structure Held (s : PostProc) : Prop where
  ledger : ∀ c, s.inUse.count c + s.deleted.count c = if c < s.created then 1 else 0
  entries : ∀ i c, s.ppChannels i = some c → c < s.created
  gone : s.destroyed = true → s.ppChannelCount = 0

end PostProc

/-- Of `n` passes, the first that cannot be set up is the `k`-th. -/
def FailsAt (setup : ℕ → Setup) (n k : ℕ) : Prop :=
  k < n ∧ setup k ≠ .running ∧ ∀ j < k, setup j = .running

def Clears (setup : ℕ → Setup) (n : ℕ) (s : PostProc) : Prop :=
  ∀ k, FailsAt setup n k → ∀ j, k < j → j < n → s.ppChannels j = none

/-- A start that fails half-way comes before any session has had that many passes. -/
def Op.Clears (s : PostProc) : Op → Prop
  | .start src need manual count setup =>
    s.inited = true → src = true → need = true →
      Reproc.Clears setup (if manual then count - 1 else count) s
  | _ => True

def Step (op : Op) (s t : PostProc) : Prop := op.Clears s ∧ op.exec s = some t

/-! ## Ledger -/

section Ledger

variable {s t : PostProc} {setup : ℕ → Setup} {i n : ℕ}

namespace PostProc

/-- The entries below `i` that are not NULL. -/
def below (s : PostProc) (i : ℕ) : List ℕ := (List.range i).filterMap s.ppChannels

theorem inUse_eq (s : PostProc) : s.inUse = s.below s.ppChannelCount := rfl

theorem below_add (h : ∀ j, i ≤ j → j < i + n → s.ppChannels j = none) :
    s.below (i + n) = s.below i := by
  induction n with
  | zero => rfl
  | succ n ih =>
    have hlast : s.ppChannels (i + n) = none := h _ (by omega) (by omega)
    have hrest := ih fun j hi hn => h j hi (by omega)
    unfold below at hrest ⊢
    rw [← add_assoc, range_succ, filterMap_append, hrest,
      filterMap_cons_none hlast, filterMap_nil, append_nil]

theorem below_succ (t : PostProc) (i : ℕ) :
    t.below (i + 1) = t.below i ++ (t.ppChannels i).toList := by
  unfold below
  rw [range_succ, filterMap_append]
  cases h : t.ppChannels i <;> simp [h]

theorem below_update (e : Option ℕ) (same : t.ppChannels = update s.ppChannels i e) :
    t.below i = s.below i := by
  unfold below
  refine filterMap_congr fun j hj => ?_
  rw [same, update_of_ne (mem_range.mp hj).ne]

theorem Held.entry_deleted (h : Held s) {c : ℕ} (hc : c < s.created) (free : c ∉ s.inUse) :
    c ∈ s.deleted := by
  have hone := h.ledger c
  rw [if_pos hc, count_eq_zero.mpr free, Nat.zero_add] at hone
  exact count_pos_iff.mp (by omega)

theorem Held.valid (h : Held s) : s.Valid := by
  intro i hi c hc
  have hmem : c ∈ s.inUse := mem_filterMap.mpr ⟨i, mem_range.mpr hi, hc⟩
  have hpos := count_pos_iff.mpr hmem
  have hone := h.ledger c
  rw [if_pos (h.entries i c hc)] at hone
  exact ⟨h.entries i c hc, count_eq_zero.mp (by omega)⟩

theorem Held.deletedOnce (h : Held s) : s.DeletedOnce := by
  refine ⟨nodup_iff_count_le_one.mpr fun c => ?_, fun c hc => ?_, fun gone c hc => ?_⟩
  · have hone := h.ledger c
    split at hone <;> omega
  · have hpos := count_pos_iff.mpr hc
    have hone := h.ledger c
    by_contra hlate
    rw [if_neg hlate] at hone
    omega
  · refine h.entry_deleted hc ?_
    rw [inUse_eq, h.gone gone]
    exact not_mem_nil

theorem Held.deleteChannels (h : Held s) : Held s.deleteChannels where
  ledger c := by
    have hone := h.ledger c
    show ([] : List ℕ).count c + (s.deleted ++ s.inUse).count c = _
    rw [count_nil, Nat.zero_add, count_append, add_comm]
    exact hone
  entries := h.entries
  gone _ := rfl

/-- What holds while the passes are set up: the ledger of the entries below `i`. -/
structure Filling (i : ℕ) (s : PostProc) : Prop where
  ledger : ∀ c, (s.below i).count c + s.deleted.count c = if c < s.created then 1 else 0
  entries : ∀ j c, s.ppChannels j = some c → c < s.created
  gone : s.destroyed = false

theorem Filling.held (h : Filling i s)
    (rest : ∀ j, i ≤ j → j < s.ppChannelCount → s.ppChannels j = none)
    (hi : i ≤ s.ppChannelCount) : Held s := by
  obtain ⟨n, hn⟩ := Nat.exists_eq_add_of_le hi
  refine ⟨fun c => ?_, h.entries, fun gone => absurd gone (by simp [h.gone])⟩
  rw [inUse_eq, hn, below_add fun j hij hj => rest j hij (hn ▸ hj)]
  exact h.ledger c

theorem Filling.next (h : Filling i s) :
    Filling (i + 1) { s with
      ppChannels := update s.ppChannels i (some s.created)
      created := s.created + 1 } := by
  refine ⟨fun c => ?_, fun j c hj => ?_, h.gone⟩
  · have hone := h.ledger c
    rw [below_succ, below_update (s := s) (some s.created) rfl, count_append]
    simp only [update_self, Option.toList_some, count_singleton, beq_iff_eq]
    split at hone <;> split <;> split <;> omega
  · rcases eq_or_ne j i with rfl | hne
    · cases (update_self ..).symm.trans hj
      exact Nat.lt_succ_self _
    · exact Nat.lt_succ_of_lt (h.entries j c ((update_of_ne hne ..).symm.trans hj))

theorem Filling.notAdded (h : Filling i s) :
    Filling i { s with ppChannels := update s.ppChannels i none } := by
  refine ⟨fun c => ?_, fun j c hj => ?_, h.gone⟩
  · rw [below_update (s := s) none rfl]
    exact h.ledger c
  · rcases eq_or_ne j i with rfl | hne
    · cases (update_self ..).symm.trans hj
    · exact h.entries j c ((update_of_ne hne ..).symm.trans hj)

theorem Filling.notStarted (h : Filling i s) :
    Filling i { s with
      ppChannels := update s.ppChannels i none
      created := s.created + 1
      deleted := s.deleted ++ [s.created] } := by
  obtain ⟨hledger, hentries, hgone⟩ := h.notAdded
  refine ⟨fun c => ?_, fun j c hj => Nat.lt_succ_of_lt (hentries j c hj), hgone⟩
  have hone := h.ledger c
  rw [below_update (s := s) none rfl, count_append, count_singleton]
  simp only [beq_iff_eq]
  split at hone <;> split <;> split <;> omega

/-- **Setting up the passes keeps the ledger**, if the entries after one that fails are NULL. The
induction is on the passes that are left. -/
theorem Filling.addChannels (h : Filling i s) (total : s.ppChannelCount = i + n)
    (clear : ∀ k, i ≤ k → k < i + n → setup k ≠ .running →
      (∀ j, i ≤ j → j < k → setup j = .running) → ∀ j, k < j → j < i + n → s.ppChannels j = none) :
    Held (PostProc.addChannels setup n i s).1 := by
  induction n generalizing i s with
  | zero => exact h.held (fun j hij hj => by omega) (by omega)
  | succ n ih =>
    -- the entries from a failing pass on are NULL: its own is written, the others were
    have hnull (hfail : setup i ≠ .running) (j : ℕ) (hij : i ≤ j) (hj : j < s.ppChannelCount) :
        update s.ppChannels i none j = none := by
      rcases eq_or_ne j i with rfl | hne
      · exact update_self ..
      · rw [update_of_ne hne]
        exact clear i le_rfl (by omega) hfail (fun j hij hj => by omega) j (by omega) (by omega)
    unfold PostProc.addChannels
    cases hset : setup i with
    | notAdded =>
      refine h.notAdded.held (hnull (by simp [hset])) ?_
      show i ≤ s.ppChannelCount
      omega
    | notStarted =>
      refine h.notStarted.held (hnull (by simp [hset])) ?_
      show i ≤ s.ppChannelCount
      omega
    | running =>
      refine ih h.next (total.trans (by omega)) fun k hik hk hfail hrun j hkj hj => ?_
      show update s.ppChannels i (some s.created) j = none
      rw [update_of_ne (by omega)]
      refine clear k (by omega) (by omega) hfail (fun j hij hj => ?_) j hkj (by omega)
      rcases eq_or_ne j i with rfl | hne
      · exact hset
      · exact hrun j (by omega) hj

/-- **Where a pass fails, the entries after it stay.** -/
theorem addChannels_stale {k : ℕ} (hik : i ≤ k) (hk : k < i + n) (hfail : setup k ≠ .running)
    (hrun : ∀ j, i ≤ j → j < k → setup j = .running) {j : ℕ} (hj : k < j) :
    (addChannels setup n i s).1.ppChannels j = s.ppChannels j := by
  induction n generalizing i s with
  | zero => omega
  | succ n ih =>
    unfold addChannels
    cases hset : setup i with
    | notAdded | notStarted => exact update_of_ne (by omega) ..
    | running =>
      have hne : i ≠ k := fun h => hfail (h ▸ hset)
      refine (ih (by omega) (by omega) fun j hij hjk => hrun j (by omega) hjk).trans ?_
      exact update_of_ne (by omega) ..

theorem addChannels_frame (setup : ℕ → Setup) (n i : ℕ) (s : PostProc) :
    (addChannels setup n i s).1.ppChannelCount = s.ppChannelCount ∧
      ∀ c ∈ s.deleted, c ∈ (addChannels setup n i s).1.deleted := by
  induction n generalizing i s with
  | zero => exact ⟨rfl, fun _ h => h⟩
  | succ n ih =>
    unfold addChannels
    cases setup i with
    | notAdded => exact ⟨rfl, fun _ h => h⟩
    | notStarted => exact ⟨rfl, fun _ h => mem_append_left _ h⟩
    | running => exact ih (i + 1) _

theorem Held.filling (h : Held s) (alive : s.destroyed = false) (n : ℕ) :
    Filling 0 { s.deleteChannels with ppChannelCount := n } :=
  ⟨h.deleteChannels.ledger, h.entries, alive⟩

/-- **A step keeps the ledger of channels**, if it clears the table it counts. -/
theorem Held.step {op : Op} (h : Held s) (hstep : Step op s t) : Held t := by
  obtain ⟨clear, hexec⟩ := hstep
  have alive : s.destroyed = false := by
    cases hgone : s.destroyed with
    | false => rfl
    | true => simp [Op.exec, hgone] at hexec
  simp only [Op.exec, alive, Bool.false_eq_true, if_false, Option.some.injEq] at hexec
  subst hexec
  cases op with
  | init | deinit => exact ⟨h.ledger, h.entries, fun gone => absurd gone Bool.false_ne_true⟩
  | stop => exact h.deleteChannels
  | destroy => exact ⟨h.deleteChannels.ledger, h.entries, fun _ => rfl⟩
  | start src need manual count setup =>
    show Held (s.start src need manual count setup).1
    unfold PostProc.start
    split
    · exact h
    · split
      · rename_i hready hneed
        simp only [Bool.or_eq_true, Bool.not_eq_true', not_or, Bool.not_eq_false] at hready
        have hclear := clear hready.1 hready.2 hneed
        refine (h.filling alive _).addChannels (Nat.zero_add _).symm ?_
        intro k _ hk hfail hrun j hkj hj
        exact hclear k ⟨by omega, hfail, fun j hj => hrun j (Nat.zero_le j) hj⟩ j hkj (by omega)
      · exact h

/-- **A start that does not clear the table leaves it with a deleted channel.** -/
theorem Held.stale {op : Op} (h : Held s) (hexec : op.exec s = some t) (valid : t.Valid) :
    op.Clears s := by
  cases op with
  | start src need manual count setup =>
    rintro hinit rfl rfl k ⟨hk, hfail, hrun⟩ j hkj hj
    by_contra hstale
    obtain ⟨c, hc⟩ := Option.ne_none_iff_exists'.mp hstale
    have ht : t = (s.start true true manual count setup).1 := by
      unfold Op.exec at hexec
      split at hexec
      · cases hexec
      · exact (Option.some.inj hexec).symm
    simp only [PostProc.start, hinit, Bool.not_true, Bool.or_self, Bool.false_eq_true, if_false,
      if_true] at ht
    set n := if manual then count - 1 else count
    set s₀ : PostProc := { s.deleteChannels with ppChannelCount := n }
    have hframe := addChannels_frame setup n 0 s₀
    have hentry : t.ppChannels j = some c := by
      rw [ht, addChannels_stale (Nat.zero_le k) (by omega) hfail (fun j _ hj => hrun j hj) hkj]
      exact hc
    -- whatever the table held has been deleted before the passes are set up
    have hdeleted : c ∈ s.deleteChannels.deleted :=
      h.deleteChannels.entry_deleted (h.entries j c hc) not_mem_nil
    have hcount : j < t.ppChannelCount := by
      rw [ht, hframe.1]
      exact hj
    refine (valid j hcount c hentry).2 ?_
    rw [ht]
    exact hframe.2 c hdeleted
  | _ => trivial

end PostProc

end Ledger

def constructed : PostProc := {}

theorem held_constructed : constructed.Held where
  ledger _ := rfl
  entries _ _ h := by cases h
  gone _ := rfl

/-- **The table is valid and each channel is deleted once**, in every run whose starts clear the
table they count; the first that does not leaves a deleted channel in use. -/
theorem reproc_channels_valid (ops : List Op) (t : PostProc)
    (run : Run Step ops constructed t) :
    t.Valid ∧ t.DeletedOnce ∧
      ∀ (op : Op) (u : PostProc), op.exec t = some u → (u.Valid ∧ u.DeletedOnce ↔ op.Clears t) := by
  have held : t.Held := run.invariant (fun _ _ _ hstep h => h.step hstep) held_constructed
  refine ⟨held.valid, held.deletedOnce, fun op u hexec => ⟨fun hu => held.stale hexec hu.1, ?_⟩⟩
  intro clear
  have heldU := held.step ⟨clear, hexec⟩
  exact ⟨heldU.valid, heldU.deletedOnce⟩

/-- Two passes whose channels run, and two of which the first fails. -/
def twoPasses : Op := .start true true false 2 fun _ => .running
def firstFails : Op := .start true true false 2 fun _ => .notAdded

/-- A session of two passes, and one more after it. -/
theorem reproc_channels_valid_sessions :
    ∃ t, Run Step [.init, twoPasses, .stop, twoPasses, .destroy] constructed t ∧
      t.deleted = [0, 1, 2, 3] ∧ t.Valid ∧ t.DeletedOnce := by
  obtain ⟨t, hrun, hdel⟩ : ∃ t, Run Step [.init, twoPasses, .stop, twoPasses, .destroy]
      constructed t ∧ t.deleted = [0, 1, 2, 3] := by
    have hclears (s : PostProc) : twoPasses.Clears s := fun _ _ _ k hk => absurd rfl hk.2.1
    refine ⟨_, .cons ⟨trivial, rfl⟩ (.cons ⟨hclears _, rfl⟩ (.cons ⟨trivial, rfl⟩
      (.cons ⟨hclears _, rfl⟩ (.cons ⟨trivial, rfl⟩ (.nil _))))), ?_⟩
    decide
  have hall := reproc_channels_valid _ t hrun
  exact ⟨t, hrun, hdel, hall.1, hall.2.1⟩

/-- **A start that fails half-way makes the next stop delete a channel again**: two passes run and
are stopped, the first of the next two cannot be added, and the second pass's old channel is still
counted. -/
theorem reproc_channels_stale :
    ¬ ∀ (ops : List Op) (t : PostProc),
      Run (fun op s t => op.exec s = some t) ops constructed t → t.Valid ∧ t.DeletedOnce := by
  intro h
  have hrun : Run (fun op s t => op.exec s = some t)
      [.init, twoPasses, .stop, firstFails, .stop] constructed _ :=
    .cons rfl (.cons rfl (.cons rfl (.cons rfl (.cons rfl (.nil _)))))
  have hnodup := (h _ _ hrun).2.1
  revert hnodup
  decide

end Reproc
