import MidoCamera.Library.Threads
import MidoCamera.Util.Queue

/-!
# The job queue between threads

Threads enqueue and dequeue jobs. What a call does to the list is done under the lock, in one step:
each call writes the pointer that leads from the head only once, so that a read of it from outside
comes before or after. `mm_jpeg_queue_enq_head` makes such a read, of the node it is to insert
before; when it has the lock, that node may have been dequeued and freed. A freed node is read as it
was left, with its pointers to itself.

Elements are told apart by their turn. What has been accepted and returned is recorded, and no call
reads the record.
-/

namespace MmJpegQueue

open Loop QCamera Function List

/-- What threads share: the queue, the memory of its nodes, and the record. -/
structure Shared where
  list : CamList
  size : UInt32
  locked : Bool
  data : ℕ → Elem
  allocated : ℕ → Bool
  turns : ℕ
  accepted : List Elem
  returned : List Elem

/-- A call that is to take the lock, with its node and the node to insert before. -/
inductive Call
  | enq (n : ℕ)
  | enqHead (n : ℕ) (pos : Cell)
  | deq
  deriving DecidableEq, Repr

/-- Where a thread is: between two calls, about to read the first node, before the lock, behind it,
done with the list, and out of the lock. -/
inductive Pc
  | idle
  | read (n : ℕ)
  | want (c : Call)
  | inside (c : Call)
  | leaving (taken : Option ℕ)
  | back (taken : Option ℕ)
  deriving DecidableEq, Repr

/-- What a thread does next; a call that allocates is given the node, if there is memory. -/
inductive Act
  | enq (malloc : Option ℕ) (data : Ptr)
  | enqHead (malloc : Option ℕ) (data : Ptr)
  | deq
  | read
  | lock
  | body
  | unlock
  | finish
  deriving DecidableEq, Repr

namespace Shared

/-- `mm_jpeg_queue_init`. -/
def init : Shared where
  list := camListInit ⟨id, id⟩ .mHead
  size := 0
  locked := false
  data _ := ⟨0, none⟩
  allocated _ := false
  turns := 0
  accepted := []
  returned := []

/-- `malloc` of a node, and `node->data = data`. -/
def alloc (s : Shared) (n : ℕ) (data : Ptr) : Shared :=
  { s with
    data := update s.data n ⟨s.turns, data⟩
    allocated := update s.allocated n true
    turns := s.turns + 1 }

def enter (s : Shared) (list : CamList) (n : ℕ) : Shared :=
  { s with list := list, size := s.size + 1, accepted := s.accepted ++ [s.data n] }

/-- What a call does under the lock. -/
def body (s : Shared) : Call → Shared × Pc
  | .enq n => (s.enter (camListAddTailNode s.list (.node n) .mHead) n, .leaving none)
  | .enqHead n pos => (s.enter (camListInsertBeforeNode s.list (.node n) pos) n, .leaving none)
  | .deq =>
    match s.list.next .mHead with
    | .mHead => (s, .leaving none)
    | .node n =>
      ({ s with list := camListDelNode s.list (.node n), size := s.size - 1 }, .leaving (some n))

/-- The data of a node that was taken is returned, and the node freed. -/
def give (s : Shared) (n : ℕ) : Shared :=
  { s with allocated := update s.allocated n false, returned := s.returned ++ [s.data n] }

end Shared

/-- **A step of a thread**. -/
def exec (a : Act) (s : Shared) (p : Pc) : Option (Shared × Pc) :=
  match a, p with
  | .enq (some n) data, .idle =>
    if s.allocated n then none else some (s.alloc n data, .want (.enq n))
  | .enqHead (some n) data, .idle =>
    if s.allocated n then none else some (s.alloc n data, .read n)
  | .enq none _, .idle | .enqHead none _, .idle => some (s, .idle)
  | .deq, .idle => some (s, .want .deq)
  | .read, .read n => some (s, .want (.enqHead n (s.list.next .mHead)))
  | .lock, .want c => if s.locked then none else some ({ s with locked := true }, .inside c)
  | .body, .inside c => some (s.body c)
  | .unlock, .leaving taken => some ({ s with locked := false }, .back taken)
  | .finish, .back none => some (s, .idle)
  | .finish, .back (some n) => some (s.give n, .idle)
  | _, _ => none

namespace Pc

def pending : Pc → List ℕ
  | .read n | .want (.enq n) | .want (.enqHead n _) | .inside (.enq n) | .inside (.enqHead n _) => [n]
  | _ => []

def taken : Pc → List ℕ
  | .leaving (some n) | .back (some n) => [n]
  | _ => []

end Pc

/-- The list is a ring of as many nodes as are counted, and every element that has been accepted is
in it, in the hands of a thread, or returned, once. -/
def Shared.Sound (s : Shared) (ps : List Pc) : Prop :=
  s.accepted.Nodup ∧ ∃ ns, s.list.Ring .mHead (ns.map .node) ∧ s.size = UInt32.ofNat ns.length ∧
    s.accepted.Perm (s.returned ++ (ns ++ ps.flatMap Pc.taken).map s.data)

def Shared.Reaches (s : Shared) (pos : Cell) : Prop := ∃ k, s.list.next^[k] .mHead = pos

def Linked (a : Act) (s : Shared) (p : Pc) : Prop :=
  ∀ n pos, a = .body → p = .inside (.enqHead n pos) → s.Reaches pos

/-- The nodes that are in the list or have been taken from it, and those that are still to be put
there: they are allocated, all different, and their elements have turns of their own. -/
structure Shared.Ledger (s : Shared) (taken pending : List ℕ) : Prop where
  nodup : (taken ++ pending).Nodup
  allocated : ∀ n ∈ taken ++ pending, s.allocated n = true
  ledger : s.accepted.Perm (s.returned ++ taken.map s.data)
  turns : ((s.accepted ++ pending.map s.data).map Elem.turn).Nodup
  fresh : ∀ e ∈ s.accepted ++ pending.map s.data, e.turn < s.turns

/-- **What is kept**: the ring of the list, the count, and the ledger of the nodes; a cell that is
not in the list points back to itself. -/
structure Kept (s : Shared) (ps : List Pc) (ns : List ℕ) : Prop where
  ring : s.list.Ring .mHead (ns.map .node)
  size : s.size = UInt32.ofNat ns.length
  outside : ∀ c ∉ Cell.mHead :: ns.map .node, s.list.prev c = c
  nodes : s.Ledger (ns ++ ps.flatMap Pc.taken) (ps.flatMap Pc.pending)

section

variable {s t : Shared} {T T' P P' ns ns' : List ℕ} {n : ℕ} {p p' : Pc} {ps qs rest : List Pc}

/-! ### The ledger -/

namespace Shared.Ledger

theorem perm (h : s.Ledger T P) (hT : T.Perm T') (hP : P.Perm P') : s.Ledger T' P' where
  nodup := (hT.append hP).nodup_iff.mp h.nodup
  allocated n hn := h.allocated n ((hT.append hP).mem_iff.mpr hn)
  ledger := h.ledger.trans ((hT.map s.data).append_left _)
  turns := (((hP.map s.data).append_left _).map _).nodup_iff.mp h.turns
  fresh e he := h.fresh e (((hP.map s.data).append_left _).mem_iff.mpr he)

theorem accepted_nodup (h : s.Ledger T P) : s.accepted.Nodup := by
  have hturns := h.turns
  rw [map_append] at hturns
  exact (nodup_append.mp hturns).1.of_map

theorem map_update {data : ℕ → Elem} {e : Elem} (hn : n ∉ T) :
    T.map (update data n e) = T.map data :=
  map_congr_left fun _ hm => update_of_ne (ne_of_mem_of_not_mem hm hn) ..

theorem alloc (h : s.Ledger T P) (free : s.allocated n = false) (data : Ptr) :
    (s.alloc n data).Ledger T (n :: P) := by
  have hn : n ∉ T ++ P := fun hmem => by simp [h.allocated n hmem] at free
  obtain ⟨hT, hP⟩ := not_or.mp (mt mem_append.mpr hn)
  have hmap : (n :: P).map (s.alloc n data).data = ⟨s.turns, data⟩ :: P.map s.data := by
    rw [map_cons]
    exact congrArg₂ _ (update_self ..) (map_update hP)
  refine ⟨perm_middle.nodup_iff.mpr (nodup_cons.mpr ⟨hn, h.nodup⟩), ?_, ?_, ?_, ?_⟩
  · intro m hm
    rcases mem_cons.mp (perm_middle.mem_iff.mp hm) with rfl | hm
    · exact update_self ..
    · exact (update_of_ne (ne_of_mem_of_not_mem hm hn) ..).trans (h.allocated m hm)
  · exact (map_update hT).symm ▸ h.ledger
  · -- the turn is new
    rw [hmap]
    have hperm : (s.accepted ++ ⟨s.turns, data⟩ :: P.map s.data).Perm
        (⟨s.turns, data⟩ :: (s.accepted ++ P.map s.data)) := perm_middle
    refine (hperm.map Elem.turn).nodup_iff.mpr (nodup_cons.mpr ⟨fun hmem => ?_, h.turns⟩)
    obtain ⟨e, he, hturn⟩ := mem_map.mp hmem
    exact (h.fresh e he).ne hturn
  · intro e he
    rw [hmap] at he
    rcases mem_cons.mp (perm_middle.mem_iff.mp he) with rfl | he
    · exact Nat.lt_succ_self _
    · exact (h.fresh e he).trans (Nat.lt_succ_self _)

theorem enter (h : s.Ledger T (n :: P)) (list : CamList) : (s.enter list n).Ledger (n :: T) P where
  nodup := perm_middle.nodup_iff.mp h.nodup
  allocated m hm := h.allocated m (perm_middle.mem_iff.mpr hm)
  ledger := by
    have hlast : (s.accepted ++ [s.data n]).Perm (s.data n :: (s.returned ++ T.map s.data)) :=
      (perm_append_singleton ..).trans (h.ledger.cons _)
    exact hlast.trans perm_middle.symm
  turns := by
    have hturns := h.turns
    rw [map_cons, append_cons] at hturns
    exact hturns
  fresh e he := by
    refine h.fresh e ?_
    rw [map_cons, append_cons]
    exact he

theorem give (h : s.Ledger (n :: T) P) : (s.give n).Ledger T P := by
  obtain ⟨hn, hnodup⟩ := nodup_cons.mp h.nodup
  refine ⟨hnodup, fun m hm => ?_, ?_, h.turns, h.fresh⟩
  · exact (update_of_ne (ne_of_mem_of_not_mem hm hn) ..).trans
      (h.allocated m (mem_cons_of_mem _ hm))
  · have hledger := h.ledger
    rw [map_cons, append_cons] at hledger
    exact hledger

theorem withList (h : s.Ledger T P) (list : CamList) (size : UInt32) :
    { s with list := list, size := size }.Ledger T P :=
  ⟨h.nodup, h.allocated, h.ledger, h.turns, h.fresh⟩

end Shared.Ledger

variable {l : CamList} {pos : Cell}

theorem node_mem : Cell.node n ∈ Cell.mHead :: ns.map .node ↔ n ∈ ns := by simp

theorem insert_ring (ring : l.Ring .mHead (ns.map .node)) (hpos : pos ∈ Cell.mHead :: ns.map .node)
    (hn : n ∉ ns) : ∃ ns' : List ℕ, ns'.Perm (n :: ns) ∧
      (l.insert (.node n) (l.prev pos) pos).Ring .mHead (ns'.map .node) := by
  have hcell : Cell.node n ∉ Cell.mHead :: ns.map .node := mt node_mem.mp hn
  rcases mem_cons.mp hpos with rfl | hmem
  · -- before the head is at the end
    have hr : l.Ring .mHead (ns.map .node ++ []) := by
      rw [append_nil]
      exact ring
    have cut := Links.cut_exists Cell.mHead (ns.map .node) []
    have hprev : l.prev .mHead = _ := (hr.linked cut).2
    refine ⟨ns ++ [n], perm_append_singleton .., ?_⟩
    rw [hprev, map_append]
    exact hr.insert cut (by rwa [append_nil])
  · obtain ⟨m, hm, rfl⟩ := mem_map.mp hmem
    obtain ⟨as, bs, rfl⟩ := append_of_mem hm
    rw [map_append] at ring hcell
    have cut := Links.cut_exists Cell.mHead (as.map .node) ((m :: bs).map .node)
    have hprev : l.prev (.node m) = _ := (ring.linked cut).2
    refine ⟨as ++ n :: m :: bs, perm_middle, ?_⟩
    rw [hprev, map_append]
    exact ring.insert cut hcell

theorem insert_outside (outside : ∀ c ∉ Cell.mHead :: ns.map .node, l.prev c = c)
    (hpos : pos ∈ Cell.mHead :: ns.map .node) (perm : ns'.Perm (n :: ns)) :
    ∀ c ∉ Cell.mHead :: ns'.map .node, (l.insert (.node n) (l.prev pos) pos).prev c = c := by
  intro c hc
  have hperm : (ns'.map Cell.node).Perm (Cell.node n :: ns.map .node) := perm.map _
  have hold : c ∉ Cell.mHead :: ns.map .node := fun hmem => hc <| by
    rcases mem_cons.mp hmem with rfl | hmem
    · exact mem_cons_self
    · exact mem_cons_of_mem _ (hperm.mem_iff.mpr (mem_cons_of_mem _ hmem))
  have hnode : c ≠ .node n := fun heq =>
    hc (heq ▸ mem_cons_of_mem _ (hperm.mem_iff.mpr mem_cons_self))
  have hne : c ≠ pos := fun heq => hold (heq ▸ hpos)
  exact (update_of_ne hne ..).trans ((update_of_ne hnode ..).trans (outside c hold))

theorem Kept.mem_of_reaches (h : Kept s ps ns) (hpos : s.Reaches pos) :
    pos ∈ Cell.mHead :: ns.map .node := by
  obtain ⟨k, rfl⟩ := hpos
  exact h.ring.reached k

theorem Kept.perm (h : Kept s ps ns) (hps : ps.Perm qs) : Kept s qs ns where
  ring := h.ring
  size := h.size
  outside := h.outside
  nodes := h.nodes.perm ((hps.flatMap_right _).append_left _) (hps.flatMap_right _)

theorem Kept.sound (h : Kept s ps ns) : s.Sound ps :=
  ⟨h.nodes.accepted_nodup, ns, h.ring, h.size, h.nodes.ledger⟩

theorem Kept.goOn (h : Kept s (p :: rest) ns) (taken : p'.taken = p.taken)
    (pending : p'.pending = p.pending) : Kept s (p' :: rest) ns where
  ring := h.ring
  size := h.size
  outside := h.outside
  nodes := by
    have hnodes := h.nodes
    rw [flatMap_cons, flatMap_cons] at hnodes ⊢
    rw [taken, pending]
    exact hnodes

theorem Kept.withLock (h : Kept s ps ns) (locked : Bool) : Kept { s with locked := locked } ps ns :=
  ⟨h.ring, h.size, h.outside, ⟨h.nodes.nodup, h.nodes.allocated, h.nodes.ledger, h.nodes.turns,
    h.nodes.fresh⟩⟩

theorem Kept.alloc (h : Kept s (.idle :: rest) ns) (free : s.allocated n = false) (data : Ptr)
    (taken : p'.taken = []) (pending : p'.pending = [n]) : Kept (s.alloc n data) (p' :: rest) ns where
  ring := h.ring
  size := h.size
  outside := h.outside
  nodes := by
    rw [flatMap_cons, flatMap_cons, taken, pending]
    exact h.nodes.alloc free data

/-- **A node is inserted** before a cell of the ring. -/
theorem Kept.enter (h : Kept s (p :: rest) ns) (hpos : pos ∈ Cell.mHead :: ns.map .node)
    (taken : p.taken = []) (pending : p.pending = [n]) :
    ∃ ns', Kept (s.enter (s.list.insert (.node n) (s.list.prev pos) pos) n)
      (.leaving none :: rest) ns' := by
  have hnodes := h.nodes
  rw [flatMap_cons, flatMap_cons, taken, pending] at hnodes
  have hn : n ∉ ns := fun hmem => by
    have hcross := (nodup_append.mp hnodes.nodup).2.2
    exact hcross n (mem_append_left _ hmem) n mem_cons_self rfl
  obtain ⟨ns', hperm, hring⟩ := insert_ring h.ring hpos hn
  refine ⟨ns', hring, ?_, insert_outside h.outside hpos hperm, ?_⟩
  · have hsize : s.size + 1 = UInt32.ofNat ns'.length := by
      rw [hperm.length_eq, length_cons, h.size, UInt32.ofNat_add]
      rfl
    exact hsize
  · exact (hnodes.enter _).perm (hperm.symm.append_right _) .rfl

/-- **The first node is taken out**, if there is one. -/
theorem Kept.deq (h : Kept s (.inside .deq :: rest) ns) :
    ∃ ns', Kept (s.body .deq).1 ((s.body .deq).2 :: rest) ns' := by
  have hhead := h.ring.next_head
  cases ns with
  | nil =>
    have hbody : s.body .deq = (s, .leaving none) := by
      show (match s.list.next .mHead with | .mHead => _ | .node n => _) = _
      rw [hhead]
      rfl
    rw [hbody]
    exact ⟨[], h.goOn rfl rfl⟩
  | cons n ns =>
    have hbody : s.body .deq =
        ({ s with list := s.list.remove (.node n), size := s.size - 1 }, .leaving (some n)) := by
      show (match s.list.next .mHead with | .mHead => _ | .node n => _) = _
      rw [hhead]
      rfl
    rw [hbody]
    have hring : s.list.Ring .mHead ([] ++ .node n :: ns.map .node) := h.ring
    refine ⟨ns, hring.remove, ?_, fun c hc => ?_, ?_⟩
    · have hsize : s.size - 1 = UInt32.ofNat ns.length := by
        rw [h.size, length_cons, UInt32.ofNat_add]
        exact UInt32.add_sub_cancel ..
      exact hsize
    · -- the node points to itself, and the others are left alone
      rcases eq_or_ne c (.node n) with rfl | hne
      · exact update_self ..
      · have hnext : c ≠ s.list.next (.node n) := fun heq => hc <| by
          rw [heq, hring.next_mem]
          cases ns with
          | nil => exact mem_cons_self
          | cons m ns => exact mem_cons_of_mem _ mem_cons_self
        have hold : c ∉ Cell.mHead :: (n :: ns).map .node := by
          simpa [hne] using hc
        exact (update_of_ne hne ..).trans ((update_of_ne hnext ..).trans (h.outside c hold))
    · exact (h.nodes.withList _ _).perm perm_middle.symm .rfl

theorem Kept.body {c : Call} (h : Kept s (.inside c :: rest) ns)
    (linked : ∀ n pos, c = .enqHead n pos → s.Reaches pos) :
    ∃ ns', Kept (s.body c).1 ((s.body c).2 :: rest) ns' := by
  cases c with
  | enq n =>
    show ∃ ns', Kept (s.enter (camListAddTailNode s.list (.node n) .mHead) n)
      (.leaving none :: rest) ns'
    rw [camListAddTailNode_eq (Cell.node_ne_mHead n)]
    exact h.enter mem_cons_self rfl rfl
  | enqHead n pos =>
    show ∃ ns', Kept (s.enter (camListInsertBeforeNode s.list (.node n) pos) n)
      (.leaving none :: rest) ns'
    rw [camListInsertBeforeNode_eq]
    exact h.enter (h.mem_of_reaches (linked n pos rfl)) rfl rfl
  | deq => exact h.deq

/-- **A step of a thread** is kept, if it inserts before a linked node. -/
theorem Kept.step {a : Act} (h : Kept s (p :: rest) ns) (linked : Linked a s p)
    (step : exec a s p = some (t, p')) : ∃ ns', Kept t (p' :: rest) ns' := by
  unfold exec at step
  split at step
  · -- a node is allocated
    split at step
    · cases step
    · next hfree =>
      cases step
      exact ⟨ns, h.alloc (Bool.not_eq_true _ ▸ hfree) _ rfl rfl⟩
  · split at step
    · cases step
    · next hfree =>
      cases step
      exact ⟨ns, h.alloc (Bool.not_eq_true _ ▸ hfree) _ rfl rfl⟩
  · cases step
    exact ⟨ns, h⟩
  · cases step
    exact ⟨ns, h⟩
  · cases step
    exact ⟨ns, h.goOn rfl rfl⟩
  · cases step
    exact ⟨ns, h.goOn rfl rfl⟩
  · next c =>
    split at step
    · cases step
    · cases step
      exact ⟨ns, (h.withLock true).goOn (by cases c <;> rfl) (by cases c <;> rfl)⟩
  · next c =>
    have hbody : s.body c = (t, p') := Option.some.inj step
    have hkept := h.body fun n pos hc => linked n pos rfl (congrArg Pc.inside hc)
    rw [hbody] at hkept
    exact hkept
  · next taken =>
    cases step
    exact ⟨ns, (h.withLock false).goOn (by cases taken <;> rfl) (by cases taken <;> rfl)⟩
  · cases step
    exact ⟨ns, h.goOn rfl rfl⟩
  · next n =>
    -- the node leaves the hands of the thread
    cases step
    refine ⟨ns, h.ring, h.size, h.outside, ?_⟩
    have hnodes := h.nodes.perm perm_middle .rfl
    exact hnodes.give
  · cases step

theorem Kept.init (k : ℕ) : Kept .init (List.replicate k .idle) [] := by
  have hflat (f : Pc → List ℕ) (hf : f .idle = []) : (replicate k Pc.idle).flatMap f = [] :=
    flatMap_eq_nil_iff.mpr fun p hp => (eq_of_mem_replicate hp).symm ▸ hf
  refine ⟨Links.Ring.empty .., rfl, fun c hc => ?_, ?_⟩
  · exact update_of_ne (ne_of_mem_of_not_mem mem_cons_self hc).symm ..
  · rw [hflat _ rfl, hflat _ rfl]
    exact ⟨.nil, nofun, .nil, .nil, nofun⟩

end

/-- **Jobs are conserved**, over every interleaving of any number of threads in which a node is
inserted before a node that is still in the list: the list is a ring of as many nodes as are
counted, and each element accepted is in it, in the hands of a thread, or returned, once. -/
theorem queue_conserved {k : ℕ} {ls : List (ℕ × Act)} {t : Threads Shared Pc}
    (run : Run (Threads.Step exec Linked) ls ⟨.init, List.replicate k .idle⟩ t) :
    t.shared.Sound t.locals := by
  have hkept : ∃ ns, Kept t.shared t.locals ns := by
    refine run.invariant (I := fun s => ∃ ns, Kept s.shared s.locals ns) ?_ ⟨[], .init k⟩
    intro l s t hstep hs
    refine hstep.invariant (I := fun s ps => ∃ ns, Kept s ps ns) ?_ ?_ hs
    · rintro s ps qs hps ⟨ns, h⟩
      exact ⟨ns, h.perm hps⟩
    · rintro a s t p p' rest hok hact ⟨ns, h⟩
      exact h.step hok hact
  obtain ⟨ns, h⟩ := hkept
  exact h.sound

/-- A node is inserted in front of the first one, and both are dequeued. -/
theorem queue_conserved_two : ∃ t : Threads Shared Pc, t.shared.Sound t.locals ∧
    t.shared.returned = [⟨1, some 8⟩, ⟨0, some 7⟩] := by
  let check (a : Act) (s : Shared) (p : Pc) : Bool :=
    match a, p with
    | .body, .inside (.enqHead _ pos) => decide (pos = s.list.next .mHead)
    | _, _ => true
  have checked (a : Act) (s : Shared) (p : Pc) (h : check a s p) : Linked a s p := by
    rintro n pos rfl rfl
    exact ⟨1, (of_decide_eq_true h).symm⟩
  let run (i : ℕ) (as : List Act) : List (ℕ × Act) := as.map (i, ·)
  obtain ⟨t, ht, hreturned⟩ :
      ∃ t, execAll (Threads.exec exec check) ⟨.init, replicate 2 .idle⟩
        (run 0 [.enq (some 0) (some 7), .lock, .body, .unlock, .finish] ++
          run 1 [.enqHead (some 1) (some 8), .read, .lock, .body, .unlock, .finish] ++
          run 0 [.deq, .lock, .body, .unlock, .finish] ++
          run 1 [.deq, .lock, .body, .unlock, .finish]) = some t ∧
        t.shared.returned = [⟨1, some 8⟩, ⟨0, some 7⟩] := ⟨_, rfl, rfl⟩
  exact ⟨t, queue_conserved (Threads.run_of_execAll checked ht), hreturned⟩

/-- A node is inserted before one that was dequeued and freed meanwhile: the list is empty, with a
size of one, and what was accepted is lost. -/
theorem enqHead_lost : ∃ ls t, Run (Threads.Step exec fun _ _ _ => True) ls
    ⟨.init, List.replicate 2 .idle⟩ t ∧ t.locals = [.idle, .idle] ∧ ¬ t.shared.Sound t.locals := by
  let run (i : ℕ) (as : List Act) : List (ℕ × Act) := as.map (i, ·)
  obtain ⟨t, ht, hlocals, hnext, hsize⟩ :
      ∃ t, execAll (Threads.exec exec fun _ _ _ => true) ⟨.init, replicate 2 .idle⟩
        (run 0 [.enq (some 0) (some 7), .lock, .body, .unlock, .finish] ++
          run 1 [.enqHead (some 1) (some 8), .read] ++
          run 0 [.deq, .lock, .body, .unlock, .finish] ++
          run 1 [.lock, .body, .unlock, .finish]) = some t ∧
        t.locals = [.idle, .idle] ∧ t.shared.list.next .mHead = .mHead ∧ t.shared.size = 1 :=
    ⟨_, rfl, rfl, rfl, rfl⟩
  refine ⟨_, t, Threads.run_of_execAll (fun _ _ _ _ => trivial) ht, hlocals, ?_⟩
  rintro ⟨-, ns, hring, hlen, -⟩
  have hhead := hring.next_head
  rw [hnext] at hhead
  cases ns with
  | nil => exact absurd (hsize.symm.trans hlen) (by decide)
  | cons n ns => exact Cell.node_ne_mHead n hhead.symm

end MmJpegQueue
