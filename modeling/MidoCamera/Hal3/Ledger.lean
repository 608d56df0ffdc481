import MidoCamera.Hal3.Types
import MidoCamera.Library.Custody

/-!
# The ledger of live requests

What the interface is for, with its bookkeeping left out: requests with increasing frame numbers are
accepted and wait in order; a buffer that comes in is kept with its request while it waits, and
returned at once when it no longer does; and only the request that has waited longest is finished,
with the buffers kept with it.
-/

namespace Hal3

open Loop List

/-! ## Items, entries, notices -/

/-- An output buffer of a request. -/
structure Item where
  frameNumber : ℕ
  stream : Stream
  buffer : ℕ
  deriving DecidableEq, Repr

def Item.slot (a : Item) : ℕ × Stream := (a.frameNumber, a.stream)

/-- What the framework is told: that the result of a request is to come, its final result, and the
buffers that are returned after it. -/
inductive Notice
  | announced (frameNumber : ℕ)
  | final (frameNumber : ℕ) (items : List Item)
  | late (items : List Item)
  deriving DecidableEq, Repr

def finals (log : List Notice) : List ℕ :=
  log.filterMap fun
    | .final f _ => some f
    | _ => none

def announced (log : List Notice) : List ℕ :=
  log.filterMap fun
    | .announced f => some f
    | _ => none

def returned (log : List Notice) : List Item :=
  log.flatMap fun
    | .announced _ => []
    | .final _ items => items
    | .late items => items

/-- What is returned by itself is returned after the final result of its request. -/
def Late (log : List Notice) : Prop :=
  ∀ pre items post, log = pre ++ .late items :: post → ∀ a ∈ items, a.frameNumber ∈ finals pre

@[simp] theorem finals_append (log log' : List Notice) :
    finals (log ++ log') = finals log ++ finals log' := filterMap_append

@[simp] theorem announced_append (log log' : List Notice) :
    announced (log ++ log') = announced log ++ announced log' := filterMap_append

@[simp] theorem returned_append (log log' : List Notice) :
    returned (log ++ log') = returned log ++ returned log' := flatMap_append

theorem Late.nil : Late [] := fun pre _ _ h => by cases pre <;> cases h

theorem Late.concat {log : List Notice} {n : Notice} (h : Late log)
    (late : ∀ items, n = .late items → ∀ a ∈ items, a.frameNumber ∈ finals log) :
    Late (log ++ [n]) := by
  intro pre items post heq a ha
  rcases eq_nil_or_concat post with rfl | ⟨post, m, rfl⟩
  · obtain ⟨rfl, hn⟩ := append_inj' heq rfl
    exact late items (singleton_inj.mp hn) a ha
  · rw [concat_eq_append, ← cons_append, ← append_assoc] at heq
    exact h pre items post (append_inj' heq rfl).1 a ha

/-- A request that waits: its streams, each with the buffer that is kept. -/
structure Entry where
  frameNumber : ℕ
  slots : List (Stream × Option ℕ)
  deriving DecidableEq, Repr

def Entry.cached (e : Entry) : List Item :=
  e.slots.filterMap fun s => s.2.map (Item.mk e.frameNumber s.1)

/-- A buffer is kept with its request, if there is none yet for its stream. -/
def Entry.put (a : Item) (e : Entry) : Entry :=
  if e.frameNumber = a.frameNumber then
    { e with slots := e.slots.map fun s =>
        if s.1 = a.stream ∧ s.2 = none then (s.1, some a.buffer) else s }
  else e

section Entries

variable {a x : Item} {e : Entry}

theorem Entry.mem_cached :
    x ∈ e.cached ↔ x.frameNumber = e.frameNumber ∧ (x.stream, some x.buffer) ∈ e.slots := by
  unfold Entry.cached
  rw [mem_filterMap]
  constructor
  · rintro ⟨⟨s, b⟩, hs, hx⟩
    cases b with
    | none => cases hx
    | some b =>
      cases hx
      exact ⟨rfl, hs⟩
  · rintro ⟨hf, hs⟩
    exact ⟨_, hs, by rw [← hf]; rfl⟩

@[simp] theorem Entry.put_frameNumber (a : Item) (e : Entry) :
    (e.put a).frameNumber = e.frameNumber := by
  unfold Entry.put
  split_ifs <;> rfl

@[simp] theorem Entry.put_streams (a : Item) (e : Entry) :
    (e.put a).slots.map Prod.fst = e.slots.map Prod.fst := by
  unfold Entry.put
  split_ifs
  · rw [map_map]
    refine map_congr_left fun s _ => ?_
    rw [Function.comp_apply]
    split_ifs <;> rfl
  · rfl

theorem Entry.mem_cached_put (h : x ∈ (e.put a).cached) : x ∈ e.cached ∨ x = a := by
  obtain ⟨hf, hs⟩ := Entry.mem_cached.mp h
  rw [Entry.put_frameNumber] at hf
  unfold Entry.put at hs
  split_ifs at hs with he
  · obtain ⟨s, hmem, hsx⟩ := mem_map.mp hs
    split_ifs at hsx with hc
    · refine .inr ?_
      obtain ⟨h1, h2⟩ := Prod.mk.inj hsx
      cases x
      cases a
      simp_all
    · exact .inl (Entry.mem_cached.mpr ⟨hf, hsx ▸ hmem⟩)
  · exact .inl (Entry.mem_cached.mpr ⟨hf, hs⟩)

theorem Entry.cached_put (h : x ∈ e.cached) : x ∈ (e.put a).cached := by
  obtain ⟨hf, hs⟩ := Entry.mem_cached.mp h
  refine Entry.mem_cached.mpr ⟨by rw [Entry.put_frameNumber, hf], ?_⟩
  unfold Entry.put
  split_ifs
  · refine mem_map.mpr ⟨_, hs, if_neg fun hc => ?_⟩
    cases hc.2
  · exact hs

theorem Entry.mem_put (frame : e.frameNumber = a.frameNumber)
    (stream : a.stream ∈ e.slots.map Prod.fst) (none : ∀ x ∈ e.cached, x.slot ≠ a.slot) :
    a ∈ (e.put a).cached := by
  refine Entry.mem_cached.mpr ⟨by rw [Entry.put_frameNumber, frame], ?_⟩
  obtain ⟨⟨s, b⟩, hs, hst⟩ := mem_map.mp stream
  change s = a.stream at hst
  subst hst
  unfold Entry.put
  rw [if_pos frame]
  cases b with
  | none => exact mem_map.mpr ⟨_, hs, if_pos ⟨rfl, rfl⟩⟩
  | some b =>
    refine absurd ?_ (none ⟨e.frameNumber, a.stream, b⟩ (Entry.mem_cached.mpr ⟨rfl, hs⟩))
    exact congrArg (·, a.stream) frame

theorem Entry.cached_slots (e : Entry) (h : (e.slots.map Prod.fst).Nodup) :
    (e.cached.map Item.slot).Nodup := by
  have hsub : (e.cached.map Item.slot).Sublist ((e.slots.map Prod.fst).map (e.frameNumber, ·)) := by
    unfold Entry.cached
    induction e.slots with
    | nil => exact .slnil
    | cons s slots ih =>
      cases hs : s.2 with
      | none =>
        rw [filterMap_cons_none (by rw [hs]; rfl)]
        exact ih.cons _
      | some b =>
        rw [filterMap_cons_some (by rw [hs]; rfl)]
        exact ih.cons_cons _
  exact (h.map fun _ _ heq => (Prod.mk.inj heq).2).sublist hsub

end Entries

/-! ## The ledger -/

/-- The ledger: the frame numbers and buffers of the requests accepted, whether no buffer was ever
part of two requests at once, the buffers called back, the requests that wait, the buffers held,
and what the framework has been told. -/
structure Ledger where
  frames : List ℕ
  issued : List Item
  exclusive : Prop
  called : List (ℕ × Stream)
  pending : List Entry
  held : List Item
  log : List Notice

def itemsOf (frameNumber : ℕ) (bs : List (Stream × ℕ)) : List Item :=
  bs.map fun b => ⟨frameNumber, b.1, b.2⟩

def entryOf (frameNumber : ℕ) (bs : List (Stream × ℕ)) : Entry :=
  ⟨frameNumber, bs.map fun b => (b.1, none)⟩

/-- **The steps of the ledger.** -/
inductive Ledger.Step (L : Ledger) : Ledger → Prop
  | accept (f : ℕ) (bs : List (Stream × ℕ)) (next : ∀ g ∈ L.frames, g < f)
      (streams : (bs.map Prod.fst).Nodup) :
      Step L { L with
        frames := L.frames ++ [f]
        issued := L.issued ++ itemsOf f bs
        exclusive := L.exclusive ∧ ((L.held ++ itemsOf f bs).map Item.buffer).Nodup
        pending := L.pending ++ [entryOf f bs]
        held := L.held ++ itemsOf f bs }
  | finish {e : Entry} {es : List Entry} (pending : L.pending = e :: es) :
      Step L { L with
        pending := es
        held := giveBack Item.buffer e.cached L.held
        log := L.log ++ [.announced e.frameNumber, .final e.frameNumber e.cached] }
  | keep {a : Item} (issued : a ∈ L.issued) (once : a.slot ∉ L.called)
      (waits : a.frameNumber ∈ L.pending.map Entry.frameNumber) :
      Step L { L with called := L.called ++ [a.slot], pending := L.pending.map (Entry.put a) }
  | giveBack {a : Item} (issued : a ∈ L.issued) (once : a.slot ∉ L.called)
      (done : a.frameNumber ∉ L.pending.map Entry.frameNumber) :
      Step L { L with
        called := L.called ++ [a.slot]
        held := takeOut Item.buffer a.buffer L.held
        log := L.log ++ [.late [a]] }

/-- **The ledger is sound.** The requests accepted are those finished and those that wait, in order;
each that is finished has been announced; a buffer that has been called back is kept with its
request or has been returned, once, when its request was finished or later; and the buffers held and
returned are those of the requests accepted. -/
structure Ledger.Sound (L : Ledger) : Prop where
  increasing : L.frames.Pairwise (· < ·)
  split : L.frames = finals L.log ++ L.pending.map Entry.frameNumber
  announced : announced L.log = finals L.log
  issuedSlots : (L.issued.map Item.slot).Nodup
  issuedFrames : ∀ a ∈ L.issued, a.frameNumber ∈ L.frames
  streams : ∀ e ∈ L.pending, (e.slots.map Prod.fst).Nodup
  covers : ∀ e ∈ L.pending, ∀ a ∈ L.issued, a.frameNumber = e.frameNumber →
    a.stream ∈ e.slots.map Prod.fst
  cached : ∀ e ∈ L.pending, ∀ a ∈ e.cached, a ∈ L.issued ∧ a.slot ∈ L.called
  returnedSlots : ((returned L.log).map Item.slot).Nodup
  returnedItems : ∀ a ∈ returned L.log,
    a ∈ L.issued ∧ a.slot ∈ L.called ∧ a.frameNumber ∈ finals L.log
  calledSlots : ∀ k ∈ L.called, (∃ a ∈ returned L.log, a.slot = k) ∨
    ∃ e ∈ L.pending, ∃ a ∈ e.cached, a.slot = k
  late : Late L.log
  custody : Custody Item.buffer L.issued L.held (returned L.log)
  exact : L.exclusive → ExactCustody Item.buffer L.issued L.held (returned L.log)

section

variable {L M : Ledger} {a x : Item} {e : Entry} {f : ℕ} {bs : List (Stream × ℕ)}

theorem mem_itemsOf : a ∈ itemsOf f bs ↔ a.frameNumber = f ∧ (a.stream, a.buffer) ∈ bs := by
  unfold itemsOf
  rw [mem_map]
  constructor
  · rintro ⟨b, hb, rfl⟩
    exact ⟨rfl, hb⟩
  · rintro ⟨rfl, hb⟩
    exact ⟨_, hb, rfl⟩

theorem cached_entryOf (f : ℕ) (bs : List (Stream × ℕ)) : (entryOf f bs).cached = [] := by
  refine filterMap_eq_nil_iff.mpr fun s hs => ?_
  obtain ⟨b, -, rfl⟩ := mem_map.mp hs
  rfl

theorem streams_entryOf (f : ℕ) (bs : List (Stream × ℕ)) :
    (entryOf f bs).slots.map Prod.fst = bs.map Prod.fst := map_map

theorem slots_itemsOf (streams : (bs.map Prod.fst).Nodup) :
    ((itemsOf f bs).map Item.slot).Nodup := by
  have hmap : (itemsOf f bs).map Item.slot = (bs.map Prod.fst).map (f, ·) := by
    unfold itemsOf
    rw [map_map, map_map]
    rfl
  rw [hmap]
  exact streams.map fun _ _ heq => (Prod.mk.inj heq).2

namespace Ledger.Sound

theorem initial : Sound ⟨[], [], True, [], [], [], []⟩ where
  increasing := .nil
  split := rfl
  announced := rfl
  issuedSlots := .nil
  issuedFrames _ h := nomatch h
  streams _ h := nomatch h
  covers _ h := nomatch h
  cached _ h := nomatch h
  returnedSlots := .nil
  returnedItems _ h := nomatch h
  calledSlots _ h := nomatch h
  late := .nil
  custody := .nil
  exact _ := .nil

theorem accept (h : L.Sound) (next : ∀ g ∈ L.frames, g < f)
    (streams : (bs.map Prod.fst).Nodup) :
    Sound { L with
      frames := L.frames ++ [f]
      issued := L.issued ++ itemsOf f bs
      exclusive := L.exclusive ∧ ((L.held ++ itemsOf f bs).map Item.buffer).Nodup
      pending := L.pending ++ [entryOf f bs]
      held := L.held ++ itemsOf f bs } := by
  -- the frame number is new: no request that waits has it, and no buffer issued before
  have hwait : ∀ e ∈ L.pending, e.frameNumber < f := by
    intro e he
    refine next _ ?_
    rw [h.split]
    exact mem_append_right _ (mem_map_of_mem he)
  have hissued : ∀ a ∈ L.issued, a.frameNumber < f := fun a ha => next _ (h.issuedFrames a ha)
  refine ⟨?_, ?_, h.announced, ?_, ?_, ?_, ?_, ?_, h.returnedSlots, ?_, ?_, h.late,
    h.custody.takeIn _, fun he => (h.exact he.1).takeIn he.2⟩
  · refine pairwise_append.mpr ⟨h.increasing, pairwise_singleton _ _, ?_⟩
    intro g hg f' hf'
    rw [mem_singleton.mp hf']
    exact next g hg
  · show L.frames ++ [f] = finals L.log ++ (L.pending ++ [entryOf f bs]).map Entry.frameNumber
    rw [h.split, map_append, append_assoc]
    rfl
  · rw [map_append]
    refine nodup_append.mpr ⟨h.issuedSlots, slots_itemsOf streams, ?_⟩
    intro k hk k' hk' heq
    obtain ⟨a, ha, rfl⟩ := mem_map.mp hk
    obtain ⟨b, hb, rfl⟩ := mem_map.mp hk'
    have hframe : a.frameNumber = b.frameNumber := congrArg Prod.fst heq
    exact (hissued a ha).ne (hframe.trans (mem_itemsOf.mp hb).1)
  · intro a ha
    rcases mem_append.mp ha with ha | ha
    · exact mem_append_left _ (h.issuedFrames a ha)
    · rw [(mem_itemsOf.mp ha).1]
      exact mem_append_right _ mem_cons_self
  · intro e he
    rcases mem_append.mp he with he | he
    · exact h.streams e he
    · rw [mem_singleton.mp he, streams_entryOf]
      exact streams
  · intro e he a ha hframe
    rcases mem_append.mp he with he | he
    · rcases mem_append.mp ha with ha | ha
      · exact h.covers e he a ha hframe
      · exact absurd (hframe.symm.trans (mem_itemsOf.mp ha).1) (hwait e he).ne
    · rw [mem_singleton.mp he] at hframe ⊢
      rcases mem_append.mp ha with ha | ha
      · exact absurd hframe (hissued a ha).ne
      · rw [streams_entryOf]
        exact mem_map_of_mem (mem_itemsOf.mp ha).2
  · intro e he a ha
    rcases mem_append.mp he with he | he
    · obtain ⟨hi, hc⟩ := h.cached e he a ha
      exact ⟨mem_append_left _ hi, hc⟩
    · rw [mem_singleton.mp he, cached_entryOf] at ha
      cases ha
  · intro a ha
    obtain ⟨hi, hrest⟩ := h.returnedItems a ha
    exact ⟨mem_append_left _ hi, hrest⟩
  · intro k hk
    refine (h.calledSlots k hk).imp_right ?_
    rintro ⟨e, he, hx⟩
    exact ⟨e, mem_append_left _ he, hx⟩

theorem frames_nodup (h : L.Sound) : L.frames.Nodup := h.increasing.imp ne_of_lt

theorem not_finished (h : L.Sound) (he : e ∈ L.pending) : e.frameNumber ∉ finals L.log := by
  have hnodup := h.frames_nodup
  rw [h.split] at hnodup
  exact fun hf => disjoint_of_nodup_append hnodup hf (mem_map_of_mem he)

/-- What has been issued and is of different slots, together with what has been returned, has been
taken in and not given back twice. -/
theorem returned_le (h : L.Sound) {items : List Item}
    (slots : ((returned L.log ++ items).map Item.slot).Nodup) (sub : ∀ a ∈ items, a ∈ L.issued) :
    (returned L.log : Multiset Item) + items ≤ L.issued := by
  rw [Multiset.coe_add]
  refine (Multiset.le_iff_subset (Multiset.coe_nodup.mpr (Nodup.of_map _ slots))).mpr ?_
  intro a ha
  rcases mem_append.mp (Multiset.mem_coe.mp ha) with ha | ha
  · exact Multiset.mem_coe.mpr (h.returnedItems a ha).1
  · exact Multiset.mem_coe.mpr (sub a ha)

theorem finish (h : L.Sound) {es : List Entry} (pending : L.pending = e :: es) :
    Sound { L with
      pending := es
      held := Loop.giveBack Item.buffer e.cached L.held
      log := L.log ++ [.announced e.frameNumber, .final e.frameNumber e.cached] } := by
  have he : e ∈ L.pending := pending ▸ mem_cons_self
  have hes : ∀ e' ∈ es, e' ∈ L.pending := fun e' he' => pending ▸ mem_cons_of_mem _ he'
  have hnot := h.not_finished he
  -- what the log gains
  have hfinals : finals (L.log ++ [.announced e.frameNumber, .final e.frameNumber e.cached]) =
      finals L.log ++ [e.frameNumber] := finals_append _ _
  have hannounced :
      Hal3.announced (L.log ++ [.announced e.frameNumber, .final e.frameNumber e.cached]) =
        Hal3.announced L.log ++ [e.frameNumber] := announced_append _ _
  have hreturned : returned (L.log ++ [.announced e.frameNumber, .final e.frameNumber e.cached]) =
      returned L.log ++ e.cached := by
    rw [returned_append]
    exact congrArg _ (append_nil _)
  -- what is returned has not been returned before
  have hslots : ((returned L.log ++ e.cached).map Item.slot).Nodup := by
    rw [map_append]
    refine nodup_append.mpr ⟨h.returnedSlots, e.cached_slots (h.streams e he), ?_⟩
    intro k hk k' hk' heq
    obtain ⟨a, ha, rfl⟩ := mem_map.mp hk
    obtain ⟨b, hb, rfl⟩ := mem_map.mp hk'
    have hframe : a.frameNumber = e.frameNumber :=
      (congrArg Prod.fst heq).trans (Entry.mem_cached.mp hb).1
    exact hnot (hframe ▸ (h.returnedItems a ha).2.2)
  have hle := h.returned_le hslots fun a ha => (h.cached e he a ha).1
  refine ⟨h.increasing, ?_, ?_, h.issuedSlots, h.issuedFrames, fun e' he' => h.streams e' (hes e' he'),
    fun e' he' => h.covers e' (hes e' he'), fun e' he' => h.cached e' (hes e' he'), ?_, ?_, ?_, ?_,
    ?_, ?_⟩
  · rw [h.split, pending, hfinals, map_cons, append_assoc]
    rfl
  · rw [hfinals, hannounced, h.announced]
  · rw [hreturned]
    exact hslots
  · intro a ha
    rw [hreturned] at ha
    rw [hfinals]
    rcases mem_append.mp ha with ha | ha
    · obtain ⟨hi, hc, hf⟩ := h.returnedItems a ha
      exact ⟨hi, hc, mem_append_left _ hf⟩
    · obtain ⟨hi, hc⟩ := h.cached e he a ha
      rw [(Entry.mem_cached.mp ha).1]
      exact ⟨hi, hc, mem_append_right _ mem_cons_self⟩
  · intro k hk
    rw [hreturned]
    rcases h.calledSlots k hk with ⟨a, ha, rfl⟩ | ⟨e', he', a, ha, rfl⟩
    · exact .inl ⟨a, mem_append_left _ ha, rfl⟩
    · rw [pending] at he'
      rcases mem_cons.mp he' with rfl | he'
      · exact .inl ⟨a, mem_append_right _ ha, rfl⟩
      · exact .inr ⟨e', he', a, ha, rfl⟩
  · have hfirst : Late (L.log ++ [.announced e.frameNumber]) := h.late.concat fun _ hn => nomatch hn
    have hboth := hfirst.concat (n := .final e.frameNumber e.cached) fun _ hn => nomatch hn
    rwa [append_assoc] at hboth
  · rw [hreturned]
    exact h.custody.giveBack hle
  · intro hex
    rw [hreturned]
    exact (h.exact hex).giveBack hle

theorem keep (h : L.Sound) (issued : a ∈ L.issued) (once : a.slot ∉ L.called)
    (waits : a.frameNumber ∈ L.pending.map Entry.frameNumber) :
    Sound { L with called := L.called ++ [a.slot], pending := L.pending.map (Entry.put a) } := by
  have hframes : (L.pending.map (Entry.put a)).map Entry.frameNumber =
      L.pending.map Entry.frameNumber := by
    rw [map_map]
    exact map_congr_left fun e _ => Entry.put_frameNumber a e
  have hput : ∀ e' ∈ L.pending.map (Entry.put a), ∃ e ∈ L.pending, e.put a = e' :=
    fun _ he' => mem_map.mp he'
  refine ⟨h.increasing, ?_, h.announced, h.issuedSlots, h.issuedFrames, ?_, ?_, ?_,
    h.returnedSlots, ?_, ?_, h.late, h.custody, h.exact⟩
  · rw [hframes]
    exact h.split
  · intro e' he'
    obtain ⟨e, he, rfl⟩ := hput e' he'
    rw [Entry.put_streams]
    exact h.streams e he
  · intro e' he' x hx hframe
    obtain ⟨e, he, rfl⟩ := hput e' he'
    rw [Entry.put_frameNumber] at hframe
    rw [Entry.put_streams]
    exact h.covers e he x hx hframe
  · intro e' he' x hx
    obtain ⟨e, he, rfl⟩ := hput e' he'
    rcases Entry.mem_cached_put hx with hx | rfl
    · obtain ⟨hi, hc⟩ := h.cached e he x hx
      exact ⟨hi, mem_append_left _ hc⟩
    · exact ⟨issued, mem_append_right _ mem_cons_self⟩
  · intro x hx
    obtain ⟨hi, hc, hf⟩ := h.returnedItems x hx
    exact ⟨hi, mem_append_left _ hc, hf⟩
  · intro k hk
    rcases mem_append.mp hk with hk | hk
    · refine (h.calledSlots k hk).imp_right ?_
      rintro ⟨e, he, x, hx, rfl⟩
      exact ⟨e.put a, mem_map_of_mem he, x, Entry.cached_put hx, rfl⟩
    · -- the slot of the buffer is one of its request's, and is empty
      obtain ⟨e, he, hframe⟩ := mem_map.mp waits
      rw [mem_singleton.mp hk]
      refine .inr ⟨e.put a, mem_map_of_mem he, a, ?_, rfl⟩
      refine Entry.mem_put hframe (h.covers e he a issued hframe.symm) fun x hx heq => ?_
      exact once (heq ▸ (h.cached e he x hx).2)

theorem giveBack (h : L.Sound) (issued : a ∈ L.issued) (once : a.slot ∉ L.called)
    (done : a.frameNumber ∉ L.pending.map Entry.frameNumber) :
    Sound { L with
      called := L.called ++ [a.slot]
      held := takeOut Item.buffer a.buffer L.held
      log := L.log ++ [.late [a]] } := by
  have hfinished : a.frameNumber ∈ finals L.log := by
    have hframe := h.issuedFrames a issued
    rw [h.split] at hframe
    exact (mem_append.mp hframe).resolve_right done
  have hfinals : finals (L.log ++ [.late [a]]) = finals L.log := by
    rw [finals_append]
    exact append_nil _
  have hannounced : Hal3.announced (L.log ++ [.late [a]]) = Hal3.announced L.log := by
    rw [announced_append]
    exact append_nil _
  have hreturned : returned (L.log ++ [.late [a]]) = returned L.log ++ [a] := returned_append _ _
  have hslots : ((returned L.log ++ [a]).map Item.slot).Nodup := by
    rw [map_append]
    refine nodup_append.mpr ⟨h.returnedSlots, nodup_singleton _, ?_⟩
    intro k hk k' hk' heq
    obtain ⟨x, hx, rfl⟩ := mem_map.mp hk
    rw [mem_singleton.mp hk'] at heq
    exact once (heq ▸ (h.returnedItems x hx).2.1)
  have hle := h.returned_le hslots fun x hx => by rwa [mem_singleton.mp hx]
  refine ⟨h.increasing, ?_, ?_, h.issuedSlots, h.issuedFrames, h.streams, h.covers, ?_, ?_, ?_, ?_,
    ?_, ?_, ?_⟩
  · rw [hfinals]
    exact h.split
  · rw [hfinals, hannounced]
    exact h.announced
  · intro e he x hx
    obtain ⟨hi, hc⟩ := h.cached e he x hx
    exact ⟨hi, mem_append_left _ hc⟩
  · rw [hreturned]
    exact hslots
  · intro x hx
    rw [hreturned] at hx
    rw [hfinals]
    rcases mem_append.mp hx with hx | hx
    · obtain ⟨hi, hc, hf⟩ := h.returnedItems x hx
      exact ⟨hi, mem_append_left _ hc, hf⟩
    · rw [mem_singleton.mp hx]
      exact ⟨issued, mem_append_right _ mem_cons_self, hfinished⟩
  · intro k hk
    rw [hreturned]
    rcases mem_append.mp hk with hk | hk
    · refine (h.calledSlots k hk).imp_left ?_
      rintro ⟨x, hx, rfl⟩
      exact ⟨x, mem_append_left _ hx, rfl⟩
    · exact .inl ⟨a, mem_append_right _ mem_cons_self, (mem_singleton.mp hk).symm⟩
  · refine h.late.concat fun items hn x hx => ?_
    cases hn
    rw [mem_singleton.mp hx]
    exact hfinished
  · rw [hreturned]
    exact h.custody.giveBackOne hle
  · intro hex
    rw [hreturned]
    exact (h.exact hex).giveBackOne hle

end Ledger.Sound

theorem Ledger.Step.sound (step : L.Step M) (h : L.Sound) : M.Sound := by
  cases step with
  | accept f bs next streams => exact h.accept next streams
  | finish pending => exact h.finish pending
  | keep issued once waits => exact h.keep issued once waits
  | giveBack issued once done => exact h.giveBack issued once done

end

end Hal3
