import MidoCamera.Util.Queue

/-!
# The queue is a double-ended queue

The contents of the queue are those of a double-ended queue: `enqueue` adds at the end,
`enqueueWithPriority` at the front, elements are taken from either end or where they match, and a
selective flush keeps those that do not match. The nodes around the head represent the contents, and
every operation on the links keeps that.

A flushed element is passed to the release function only if it has data and there is such a
function: the queue of the default constructor has none.
-/

namespace QCamera

open Loop List

variable {add : Elem → List Elem → List Elem} {data : Ptr} {malloc : Option ℕ}

/-! ## The deque -/

/-- A double-ended queue of elements that can be turned off, with what became of the elements. -/
structure Deque where
  contents : List Elem
  active : Bool
  dataFn : Bool
  userData : Ptr
  log : Log

/-- Elements are flushed: those that have data are released, if there is a release function, and
freed. -/
def Log.flush (log : Log) (dataFn : Bool) (es : List Elem) : Log :=
  { log with
    flushed := log.flushed ++ es
    released := log.released ++ if dataFn then es.filter Elem.hasData else []
    freed := log.freed ++ es.filter Elem.hasData }

namespace Deque

def new (dataFn : Bool) (userData : Ptr) : Deque :=
  ⟨[], true, dataFn, userData, ⟨[], [], [], [], []⟩⟩

/-- An element is accepted, and added to the contents. -/
def accept (d : Deque) (add : Elem → List Elem → List Elem) (data : Ptr) : Deque :=
  let e : Elem := ⟨d.log.accepted.length, data⟩
  { d with contents := add e d.contents, log := { d.log with accepted := d.log.accepted ++ [e] } }

def enqueueBy (d : Deque) (add : Elem → List Elem → List Elem) (malloc : Option ℕ) (data : Ptr) :
    Bool × Deque :=
  match malloc with
  | none => (false, d)
  | some _ => if d.active then (true, d.accept add data) else (false, d)

/-- An element is taken, if there is one, and the others left. -/
def take (d : Deque) (e : Option Elem) (rest : List Elem) : Ptr × Deque :=
  match e with
  | none => (none, d)
  | some e =>
    (e.data, { d with
      contents := rest, log := { d.log with dequeued := d.log.dequeued ++ [e] } })

def dequeue (d : Deque) (bFromHead : Bool) : Ptr × Deque :=
  if d.active then
    if bFromHead then d.take d.contents.head? d.contents.tail
    else d.take d.contents.getLast? d.contents.dropLast
  else (none, d)

def dequeueMatch (d : Deque) (mtch : Option (Ptr → Ptr → Ptr → Bool)) (matchData : Ptr) :
    Ptr × Deque :=
  match mtch, matchData with
  | none, _ => (none, d)
  | some _, none => (none, d)
  | some mtch, some m =>
    let p : Elem → Bool := fun e => mtch e.data d.userData (some m)
    if d.active then d.take (d.contents.find? p) (d.contents.eraseP p) else (none, d)

/-- The elements that match are flushed. The others are kept, in their order. -/
def discard (d : Deque) (mtch : Ptr → Bool) : Deque :=
  { d with
    contents := d.contents.filter fun e => !mtch e.data
    log := d.log.flush d.dataFn (d.contents.filter fun e => mtch e.data) }

def flush (d : Deque) : Deque :=
  if d.active then { d.discard fun _ => true with active := false } else d

def flushNodes (d : Deque) (mtch : Option (Ptr → Ptr → Bool)) : Deque :=
  match mtch with
  | none => d
  | some mtch => if d.active then d.discard fun data => mtch data d.userData else d

def flushNodesMatch (d : Deque) (mtch : Option (Ptr → Ptr → Ptr → Bool)) (matchData : Ptr) :
    Deque :=
  match mtch with
  | none => d
  | some mtch => if d.active then d.discard fun data => mtch data d.userData matchData else d

/-- **An operation on the deque.** -/
def exec (d : Deque) : QueueOp → Ret × Deque
  | .init => (.void, { d with active := true })
  | .isEmpty => (.bool d.contents.isEmpty, d)
  | .getCurrentSize => (.int d.contents.length, d)
  | .enqueue malloc data => (d.enqueueBy (fun e es => es ++ [e]) malloc data).map .bool id
  | .enqueueWithPriority malloc data => (d.enqueueBy List.cons malloc data).map .bool id
  | .peek => (.ptr (if d.active then d.contents.head?.bind Elem.data else none), d)
  | .dequeue bFromHead => (d.dequeue bFromHead).map .ptr id
  | .dequeueMatch mtch matchData => (d.dequeueMatch mtch matchData).map .ptr id
  | .flush => (.void, d.flush)
  | .flushNodes mtch => (.void, d.flushNodes mtch)
  | .flushNodesMatch mtch matchData => (.void, d.flushNodesMatch mtch matchData)

def Step (c : Call) (d d' : Deque) : Prop := d.exec c.op = (c.ret, d')

end Deque

theorem eraseP_first {α : Type*} {p : α → Bool} {front back : List α} {a : α} (ha : p a = true)
    (hfront : ∀ b ∈ front, (!p b) = true) :
    (front ++ a :: back).eraseP p = front ++ back := by
  rw [eraseP_append_right _ (by simpa using hfront), eraseP_cons_of_pos ha]

/-! ## The representation -/

/-- **The nodes around the head hold the contents of the deque**, they are the ones allocated, and
`m_size` counts them. -/
structure QCameraQueue.Represents (q : QCameraQueue) (ns : List ℕ) (d : Deque) : Prop where
  ring : q.list.Ring .mHead (ns.map .node)
  size : q.mSize = ns.length
  data : ns.map q.data = d.contents
  heap : ∀ n, q.allocated n = true ↔ n ∈ ns
  active : q.mActive = d.active
  dataFn : q.mDataFn = d.dataFn
  userData : q.mUserData = d.userData
  log : q.log = d.log

theorem QCameraQueue.represents_new (dataFn : Bool) (userData : Ptr) :
    (QCameraQueue.new dataFn userData).Represents [] (Deque.new dataFn userData) where
  ring := Links.Ring.empty _ _
  size := rfl
  data := rfl
  heap := by simp [QCameraQueue.new]
  active := rfl
  dataFn := rfl
  userData := rfl
  log := rfl

namespace QCameraQueue

variable {q q' : QCameraQueue} {ns xs ys : List ℕ} {n : ℕ} {d : Deque}

theorem Represents.nodup (h : q.Represents ns d) : ns.Nodup :=
  (nodup_cons.mp h.ring.nodup).2.of_map _

/-! ### What a node is linked in by -/

theorem Represents.notMem_cells (h : q.Represents ns d) (hn : q.allocated n = false) :
    Cell.node n ∉ Cell.mHead :: ns.map Cell.node := by
  have hns : n ∉ ns := by
    rw [← h.heap, hn]
    exact Bool.false_ne_true
  simpa using hns

/-- **A node is linked in** and its element accepted. -/
theorem Represents.link {l : CamList} (h : q.Represents (xs ++ ys) d)
    (hn : q.allocated n = false) (hl : l.Ring .mHead ((xs ++ n :: ys).map .node)) :
    ({ q.alloc n data with list := l, mSize := q.mSize + 1 }.accept n).Represents (xs ++ n :: ys)
      (d.accept (fun e _ => xs.map q.data ++ e :: ys.map q.data) data) := by
  have hns : n ∉ xs ++ ys := by
    rw [← h.heap, hn]
    exact Bool.false_ne_true
  constructor
  · exact hl
  · show q.mSize + 1 = _
    rw [h.size]
    simp
    omega
  · have hcongr : ∀ zs : List ℕ, n ∉ zs → zs.map (q.alloc n data).data = zs.map q.data := by
      intro zs hzs
      apply map_congr_left
      intro m hm
      have hmn : m ≠ n := by
        rintro rfl
        exact hzs hm
      exact Function.update_of_ne hmn _ _
    show (xs ++ n :: ys).map (q.alloc n data).data = _
    rw [map_append, map_cons, hcongr xs (fun hm => hns (by simp [hm])),
      hcongr ys (fun hm => hns (by simp [hm]))]
    simp [Deque.accept, alloc, h.log]
  · intro m
    show Function.update q.allocated n true m = true ↔ _
    by_cases hm : m = n
    · subst hm
      simp
    · rw [Function.update_of_ne hm, h.heap]
      simp [hm]
  · exact h.active
  · exact h.dataFn
  · exact h.userData
  · simp [Deque.accept, accept, alloc, h.log]

theorem Represents.alloc_free (h : q.Represents ns d) (hn : q.allocated n = false) :
    ((q.alloc n data).free n).Represents ns d := by
  have hns : n ∉ ns := by
    rw [← h.heap, hn]
    exact Bool.false_ne_true
  refine { h with data := ?_, heap := ?_ }
  · rw [← h.data]
    apply map_congr_left
    intro m hm
    have hmn : m ≠ n := by
      rintro rfl
      exact hns hm
    exact Function.update_of_ne hmn _ _
  · intro m
    show Function.update (Function.update q.allocated n true) n false m = true ↔ _
    rw [← h.heap]
    by_cases hm : m = n
    · subst hm
      simp [hn]
    · simp [hm]

theorem Represents.unlink (h : q.Represents (xs ++ n :: ys) d) :
    ((q.unlink n).free n).Represents (xs ++ ys)
      { d with contents := (xs ++ ys).map q.data } := by
  have hnd := h.nodup
  have hn : n ∉ xs ++ ys := (nodup_middle.mp hnd).notMem
  have hring := h.ring
  rw [map_append, map_cons] at hring
  refine { h with ring := ?_, size := ?_, data := rfl, heap := ?_ }
  · rw [map_append]
    exact hring.remove
  · show q.mSize - 1 = _
    rw [h.size]
    simp
    omega
  · intro m
    show Function.update q.allocated n false m = true ↔ _
    by_cases hm : m = n
    · subst hm
      simpa using hn
    · rw [Function.update_of_ne hm, h.heap]
      simp [hm]

/-! ### What the operations do -/

theorem Represents.next_head (h : q.Represents ns d) :
    q.list.next .mHead = (ns.map Cell.node).headD .mHead := h.ring.next_head

theorem Represents.next_node (h : q.Represents (xs ++ n :: ys) d) :
    q.list.next (.node n) = (ys.map Cell.node).headD .mHead := by
  have hring := h.ring
  rw [map_append, map_cons] at hring
  exact hring.next_mem

/-- **Both ways to enqueue** link in a node where the deque adds the element. -/
theorem Represents.enqueueBy {addNode : CamList → Cell → Cell → CamList}
    (h : q.Represents (xs ++ ys) d) (hfresh : ∀ n ∈ malloc, q.allocated n = false)
    (hadd : ∀ e, add e d.contents = xs.map q.data ++ e :: ys.map q.data)
    (hnode : ∀ n, Cell.node n ∉ Cell.mHead :: (xs ++ ys).map Cell.node →
      (addNode q.list (.node n) .mHead).Ring .mHead ((xs ++ n :: ys).map Cell.node)) :
    ∃ q' ns', q.enqueueBy addNode malloc data = ((d.enqueueBy add malloc data).1, q') ∧
      q'.Represents ns' (d.enqueueBy add malloc data).2 := by
  unfold QCameraQueue.enqueueBy Deque.enqueueBy
  cases malloc with
  | none => exact ⟨q, _, rfl, h⟩
  | some n =>
    have hn := hfresh n rfl
    have hactive : (q.alloc n data).mActive = d.active := h.active
    dsimp only
    cases hd : d.active with
    | true =>
      rw [if_pos (hactive.trans hd), if_pos rfl]
      refine ⟨_, xs ++ n :: ys, rfl, ?_⟩
      have haccept : d.accept add data = d.accept (fun e _ => xs.map q.data ++ e :: ys.map q.data)
          data := by
        simp only [Deque.accept, hadd]
      rw [haccept]
      exact h.link hn (hnode n (h.notMem_cells hn))
    | false =>
      rw [if_neg (by simp [hactive, hd]), if_neg Bool.false_ne_true]
      exact ⟨_, xs ++ ys, rfl, h.alloc_free hn⟩

theorem Represents.enqueue (h : q.Represents ns d) (hfresh : ∀ n ∈ malloc, q.allocated n = false) :
    ∃ q' ns', q.enqueue malloc data = ((d.enqueueBy (fun e es => es ++ [e]) malloc data).1, q') ∧
      q'.Represents ns' (d.enqueueBy (fun e es => es ++ [e]) malloc data).2 := by
  rw [← append_nil ns] at h
  apply h.enqueueBy hfresh
  · intro e
    rw [← h.data, append_nil]
    rfl
  · intro n hn
    have hring := h.ring
    have cut := Links.cut_exists Cell.mHead (ns.map Cell.node) []
    rw [map_append] at hring hn
    have hprev : q.list.prev .mHead = _ := (hring.linked cut).2
    rw [camListAddTailNode_eq (Cell.node_ne_mHead n), hprev, map_append, map_cons]
    exact hring.insert cut hn

theorem Represents.enqueueWithPriority (h : q.Represents ns d)
    (hfresh : ∀ n ∈ malloc, q.allocated n = false) :
    ∃ q' ns', q.enqueueWithPriority malloc data = ((d.enqueueBy List.cons malloc data).1, q') ∧
      q'.Represents ns' (d.enqueueBy List.cons malloc data).2 := by
  rw [← nil_append ns] at h
  apply h.enqueueBy hfresh
  · intro e
    rw [← h.data]
    rfl
  · intro n hn
    have hring := h.ring
    have cut := Links.cut_exists Cell.mHead [] (ns.map Cell.node)
    have hnext : q.list.next .mHead = (ns.map Cell.node).headD .mHead := (hring.linked cut).1
    have hne : Cell.node n ≠ q.list.next .mHead := by
      rw [hnext]
      exact (cut.ne hn).2.symm
    rw [camListAddHeadNode_eq (Cell.node_ne_mHead n) hne, hnext]
    exact hring.insert cut hn

theorem Represents.peek (h : q.Represents ns d) :
    q.peek = if d.active then d.contents.head?.bind Elem.data else none := by
  unfold QCameraQueue.peek
  rw [h.active, h.next_head, ← h.data]
  cases ns with
  | nil => rfl
  | cons n ns => rfl

/-- **A node is taken**: its element leaves the contents. -/
theorem Represents.take (h : q.Represents (xs ++ n :: ys) d) :
    ∃ q' ns', q.take n = ((d.take (some (q.data n)) ((xs ++ ys).map q.data)).1, q') ∧
      q'.Represents ns' (d.take (some (q.data n)) ((xs ++ ys).map q.data)).2 := by
  refine ⟨_, xs ++ ys, rfl, ?_⟩
  have hlog : { q.log with dequeued := q.log.dequeued ++ [q.data n] } =
      { d.log with dequeued := d.log.dequeued ++ [q.data n] } := by rw [h.log]
  exact { h.unlink with log := hlog }

theorem Represents.dequeue {bFromHead : Bool} (h : q.Represents ns d) :
    ∃ q' ns', q.dequeue bFromHead = ((d.dequeue bFromHead).1, q') ∧
      q'.Represents ns' (d.dequeue bFromHead).2 := by
  unfold QCameraQueue.dequeue Deque.dequeue
  rw [h.active]
  cases d.active with
  | false => exact ⟨q, ns, rfl, h⟩
  | true =>
    cases bFromHead with
    | true =>
      simp only [if_true]
      rw [h.next_head, ← h.data]
      cases ns with
      | nil => exact ⟨q, [], rfl, h⟩
      | cons n ns => exact @Represents.take q [] ns n d h
    | false =>
      simp only [if_true, Bool.false_eq_true, if_false]
      have hring : q.list.Ring .mHead (ns.map Cell.node ++ []) := by
        rw [append_nil]
        exact h.ring
      have hprev := (hring.linked (Links.cut_exists Cell.mHead (ns.map Cell.node) [])).2
      rw [headD_nil] at hprev
      rw [hprev, ← h.data]
      rcases eq_nil_or_concat ns with rfl | ⟨front, n, rfl⟩
      · exact ⟨q, [], rfl, h⟩
      · simp only [concat_eq_append] at h ⊢
        obtain ⟨q', ns', htake, hrep⟩ := @Represents.take q front [] n d h
        refine ⟨q', ns', ?_, ?_⟩
        · simpa using htake
        · simpa using hrep

/-! ### The loops -/

/-- **The loop that looks for a node** stops at the first that matches. -/
theorem Represents.search (h : q.Represents (xs ++ ys) d) (mtch : Ptr → Bool) {fuel : ℕ}
    (hfuel : ys.length ≤ fuel) :
    ∃ pos, whileLoop searchGuard (q.searchRound mtch) fuel ((ys.map Cell.node).headD .mHead, none) =
      some (pos, ys.find? fun n => mtch (q.data n).data) := by
  induction ys generalizing xs fuel with
  | nil => exact ⟨.mHead, whileLoop_of_not rfl _⟩
  | cons n ys ih =>
    obtain _ | fuel := fuel
    · simp at hfuel
    rw [whileLoop_succ_of rfl]
    show ∃ pos, whileLoop _ _ _ (q.list.next (.node n), _) = _
    rw [h.next_node]
    cases hm : mtch (q.data n).data with
    | true =>
      refine ⟨(ys.map Cell.node).headD .mHead, ?_⟩
      have hfind : ((n :: ys).find? fun n => mtch (q.data n).data) = some n :=
        find?_cons_of_pos hm
      rw [if_pos rfl, hfind]
      exact whileLoop_of_not (by simp [searchGuard]) _
    | false =>
      have hfind : ((n :: ys).find? fun n => mtch (q.data n).data) =
          ys.find? fun n => mtch (q.data n).data := find?_cons_of_neg (by simp [hm])
      rw [if_neg Bool.false_ne_true, hfind]
      rw [append_cons] at h
      exact ih h (Nat.le_of_succ_le_succ hfuel)

theorem Represents.dequeueMatch {mtch : Option (Ptr → Ptr → Ptr → Bool)} {matchData : Ptr}
    (h : q.Represents ns d) :
    ∃ q' ns', q.dequeueMatch mtch matchData = some ((d.dequeueMatch mtch matchData).1, q') ∧
      q'.Represents ns' (d.dequeueMatch mtch matchData).2 := by
  unfold QCameraQueue.dequeueMatch Deque.dequeueMatch
  cases mtch with
  | none => exact ⟨q, ns, rfl, h⟩
  | some mtch =>
    cases matchData with
    | none => exact ⟨q, ns, rfl, h⟩
    | some m =>
      dsimp only
      rw [h.active, h.userData, h.next_head]
      cases d.active with
      | false => exact ⟨q, ns, rfl, h⟩
      | true =>
        have hfuel : ns.length ≤ q.mSize.toNat := by simp [h.size]
        obtain ⟨pos, hloop⟩ := @Represents.search q [] ns d h
          (fun data => mtch data d.userData (some m)) _ hfuel
        simp only [if_true]
        rw [hloop, ← h.data, find?_map]
        cases hfind : ns.find? fun n => mtch (q.data n).data d.userData (some m) with
        | none =>
          refine ⟨q, ns, ?_, ?_⟩
          · simp only [Function.comp_def, hfind]
            rfl
          · simp only [Function.comp_def, hfind]
            exact h
        | some n =>
          -- the nodes before the one that is found do not match
          obtain ⟨hn, front, back, rfl, hfront⟩ := find?_eq_some_iff_append.mp hfind
          obtain ⟨q', ns', htake, hrep⟩ := h.take
          have herase : (map q.data (front ++ n :: back)).eraseP (fun e =>
              mtch e.data d.userData (some m)) = (front ++ back).map q.data := by
            rw [eraseP_map]
            exact congrArg (map q.data) (eraseP_first hn hfront)
          simp only [Function.comp_def, hfind, Option.map_some, herase]
          refine ⟨q', ns', ?_, hrep⟩
          exact congrArg some htake

/-- **A node is flushed**: its element leaves the contents. -/
theorem Represents.discard (h : q.Represents (xs ++ n :: ys) d) :
    (q.discard n).Represents (xs ++ ys)
      { d with contents := (xs ++ ys).map q.data, log := d.log.flush d.dataFn [q.data n] } := by
  have hlog : (q.discard n).log = d.log.flush d.dataFn [q.data n] := by
    rw [← h.log, ← h.dataFn]
    unfold QCameraQueue.discard Log.flush
    cases he : (q.data n).hasData <;> cases hf : q.mDataFn <;>
      simp [QCameraQueue.unlink, he, hf]
  exact { h.unlink with log := hlog }

theorem Log.flush_flush (log : Log) (f : Bool) (es fs : List Elem) :
    (log.flush f es).flush f fs = log.flush f (es ++ fs) := by
  cases f <;> simp [Log.flush]

/-- **The loop that flushes** the nodes that match, from one on. -/
theorem Represents.flushLoop_from (h : q.Represents (xs ++ ys) d) (mtch : Ptr → Bool) {fuel : ℕ}
    (hfuel : ys.length ≤ fuel) :
    ∃ q', whileLoop (fun s => s.1 ≠ .mHead) (flushRound mtch) fuel
        ((ys.map Cell.node).headD .mHead, q) = some (.mHead, q') ∧
      q'.Represents (xs ++ ys.filter fun n => !mtch (q.data n).data)
        { d with
          contents := (xs ++ ys.filter fun n => !mtch (q.data n).data).map q.data
          log := d.log.flush d.dataFn ((ys.filter fun n => mtch (q.data n).data).map q.data) } := by
  induction ys generalizing xs q d fuel with
  | nil =>
    refine ⟨q, whileLoop_of_not rfl _, ?_⟩
    have hlog : d.log.flush d.dataFn [] = d.log := by simp [Log.flush]
    rw [append_nil] at h
    simpa [hlog, h.data] using h
  | cons n ys ih =>
    obtain _ | fuel := fuel
    · simp at hfuel
    have hlen := Nat.le_of_succ_le_succ hfuel
    rw [whileLoop_succ_of rfl]
    show ∃ q', whileLoop _ _ _ (q.list.next (.node n), _) = _ ∧ _
    rw [h.next_node]
    cases hm : mtch (q.data n).data with
    | true =>
      obtain ⟨q', hloop, hrep⟩ := ih h.discard hlen
      refine ⟨q', hloop, ?_⟩
      have hdata : (q.discard n).data = q.data := rfl
      rw [hdata, Log.flush_flush] at hrep
      simpa [hm] using hrep
    | false =>
      rw [append_cons] at h
      obtain ⟨q', hloop, hrep⟩ := ih h hlen
      refine ⟨q', hloop, ?_⟩
      simpa [hm] using hrep

/-- **The loop that flushes** comes to its end, and flushes what matches. -/
theorem Represents.flushLoop (h : q.Represents ns d) (mtch : Ptr → Bool) :
    ∃ q' ns', q.flushLoop mtch = some q' ∧ q'.Represents ns' (d.discard mtch) := by
  have hfuel : ns.length ≤ q.mSize.toNat := by simp [h.size]
  obtain ⟨q', hloop, hrep⟩ := @Represents.flushLoop_from q [] ns d h mtch _ hfuel
  refine ⟨q', ns.filter fun n => !mtch (q.data n).data, ?_, ?_⟩
  · unfold QCameraQueue.flushLoop
    rw [h.next_head, hloop]
    rfl
  · unfold Deque.discard
    rw [← h.data, filter_map, filter_map]
    exact hrep

theorem Represents.flush (h : q.Represents ns d) :
    ∃ q' ns', q.flush = some q' ∧ q'.Represents ns' d.flush := by
  unfold QCameraQueue.flush Deque.flush
  rw [h.active]
  cases d.active with
  | false => exact ⟨q, ns, rfl, h⟩
  | true =>
    obtain ⟨q', ns', hloop, hrep⟩ := h.flushLoop fun _ => true
    simp only [if_true]
    rw [hloop]
    refine ⟨_, ns', rfl, ?_⟩
    -- the counter is set to zero, and that is what it is
    have hnil : ns' = [] := by
      have hdata := hrep.data
      simpa [Deque.discard] using hdata
    subst hnil
    exact { hrep with size := rfl, active := rfl }

theorem Represents.flushNodes {mtch : Option (Ptr → Ptr → Bool)} (h : q.Represents ns d) :
    ∃ q' ns', q.flushNodes mtch = some q' ∧ q'.Represents ns' (d.flushNodes mtch) := by
  unfold QCameraQueue.flushNodes Deque.flushNodes
  cases mtch with
  | none => exact ⟨q, ns, rfl, h⟩
  | some mtch =>
    dsimp only
    rw [h.active, h.userData]
    cases d.active with
    | false => exact ⟨q, ns, rfl, h⟩
    | true => exact h.flushLoop _

theorem Represents.flushNodesMatch {mtch : Option (Ptr → Ptr → Ptr → Bool)} {matchData : Ptr}
    (h : q.Represents ns d) : ∃ q' ns', q.flushNodesMatch mtch matchData = some q' ∧
      q'.Represents ns' (d.flushNodesMatch mtch matchData) := by
  unfold QCameraQueue.flushNodesMatch Deque.flushNodesMatch
  cases mtch with
  | none => exact ⟨q, ns, rfl, h⟩
  | some mtch =>
    dsimp only
    rw [h.active, h.userData]
    cases d.active with
    | false => exact ⟨q, ns, rfl, h⟩
    | true => exact h.flushLoop _

/-- **Every operation returns, and returns what it returns on the deque.** -/
theorem Represents.exec {op : QueueOp} (h : q.Represents ns d) (hfresh : op.MallocFresh q) :
    ∃ q' ns', q.exec op = some ((d.exec op).1, q') ∧ q'.Represents ns' (d.exec op).2 := by
  cases op with
  | init => exact ⟨_, ns, rfl, { h with active := rfl }⟩
  | isEmpty =>
    refine ⟨q, ns, ?_, h⟩
    have hempty : q.isEmpty = d.contents.isEmpty := by
      rw [← h.data]
      unfold QCameraQueue.isEmpty
      rw [h.size]
      cases ns with
      | nil => rfl
      | cons n ns =>
        have hpos : (0 : ℤ) < (n :: ns).length := by simp
        rw [if_pos hpos]
        rfl
    show some (Ret.bool q.isEmpty, q) = _
    rw [hempty]
    rfl
  | getCurrentSize =>
    refine ⟨q, ns, ?_, h⟩
    show some (Ret.int q.mSize, q) = some (Ret.int d.contents.length, q)
    rw [h.size, ← h.data, length_map]
  | enqueue malloc data =>
    have hmalloc : ∀ n ∈ malloc, q.allocated n = false := by
      rintro n rfl
      exact hfresh
    obtain ⟨q', ns', henq, hrep⟩ := h.enqueue hmalloc
    refine ⟨q', ns', ?_, hrep⟩
    show some ((q.enqueue malloc data).map Ret.bool id) = _
    rw [henq]
    rfl
  | enqueueWithPriority malloc data =>
    have hmalloc : ∀ n ∈ malloc, q.allocated n = false := by
      rintro n rfl
      exact hfresh
    obtain ⟨q', ns', henq, hrep⟩ := h.enqueueWithPriority hmalloc
    refine ⟨q', ns', ?_, hrep⟩
    show some ((q.enqueueWithPriority malloc data).map Ret.bool id) = _
    rw [henq]
    rfl
  | peek =>
    refine ⟨q, ns, ?_, h⟩
    show some (Ret.ptr q.peek, q) = _
    rw [h.peek]
    rfl
  | dequeue bFromHead =>
    obtain ⟨q', ns', hdeq, hrep⟩ := @Represents.dequeue q ns d bFromHead h
    refine ⟨q', ns', ?_, hrep⟩
    show some ((q.dequeue bFromHead).map Ret.ptr id) = _
    rw [hdeq]
    rfl
  | dequeueMatch mtch matchData =>
    obtain ⟨q', ns', hdeq, hrep⟩ := @Represents.dequeueMatch q ns d mtch matchData h
    refine ⟨q', ns', ?_, hrep⟩
    show (q.dequeueMatch mtch matchData).map _ = _
    rw [hdeq]
    rfl
  | flush =>
    obtain ⟨q', ns', hflush, hrep⟩ := h.flush
    refine ⟨q', ns', ?_, hrep⟩
    show q.flush.map _ = _
    rw [hflush]
    rfl
  | flushNodes mtch =>
    obtain ⟨q', ns', hflush, hrep⟩ := @Represents.flushNodes q ns d mtch h
    refine ⟨q', ns', ?_, hrep⟩
    show (q.flushNodes mtch).map _ = _
    rw [hflush]
    rfl
  | flushNodesMatch mtch matchData =>
    obtain ⟨q', ns', hflush, hrep⟩ := @Represents.flushNodesMatch q ns d mtch matchData h
    refine ⟨q', ns', ?_, hrep⟩
    show (q.flushNodesMatch mtch matchData).map _ = _
    rw [hflush]
    rfl

end QCameraQueue

/-- **The elements accepted**, all different, are those held, those dequeued and those flushed; and
those flushed that have data have been released, if there is a release function. -/
structure Deque.Accounted (dataFn : Bool) (d : Deque) : Prop where
  fn : d.dataFn = dataFn
  turns : d.log.accepted.map Elem.turn = List.range d.log.accepted.length
  split : (d.contents ++ d.log.dequeued ++ d.log.flushed).Perm d.log.accepted
  released : d.log.released = if dataFn then d.log.flushed.filter Elem.hasData else []

namespace Deque

variable {c : Call} {dataFn : Bool} {d d' : Deque} {es : List Elem}

theorem Accounted.nodup (h : d.Accounted dataFn) : d.log.accepted.Nodup := by
  apply Nodup.of_map Elem.turn
  rw [h.turns]
  exact nodup_range

theorem Accounted.new (dataFn : Bool) (userData : Ptr) :
    (Deque.new dataFn userData).Accounted dataFn :=
  ⟨rfl, rfl, Perm.refl _, by cases dataFn <;> rfl⟩

theorem Accounted.accept (h : d.Accounted dataFn)
    (data : Ptr) (hadd : ∀ e es, (add e es).Perm (e :: es)) :
    (d.accept add data).Accounted dataFn := by
  refine ⟨h.fn, ?_, ?_, h.released⟩
  · show (d.log.accepted ++ [_]).map Elem.turn = _
    rw [map_append, h.turns]
    simp [Deque.accept, range_succ]
  · show (add _ d.contents ++ d.log.dequeued ++ d.log.flushed).Perm (d.log.accepted ++ [_])
    refine (((hadd _ _).append_right _).append_right _).trans ?_
    exact (h.split.cons _).trans (perm_append_singleton _ _).symm

theorem Accounted.enqueueBy (h : d.Accounted dataFn) (hadd : ∀ e es, (add e es).Perm (e :: es)) :
    (d.enqueueBy add malloc data).2.Accounted dataFn := by
  unfold Deque.enqueueBy
  cases malloc with
  | none => exact h
  | some n =>
    dsimp only
    split
    · exact h.accept data hadd
    · exact h

theorem Accounted.take {e : Option Elem} (h : d.Accounted dataFn)
    (hrest : ∀ a ∈ e, d.contents.Perm (a :: es)) : (d.take e es).2.Accounted dataFn := by
  cases e with
  | none => exact h
  | some a =>
    refine ⟨h.fn, h.turns, ?_, h.released⟩
    show (es ++ (d.log.dequeued ++ [a]) ++ d.log.flushed).Perm d.log.accepted
    refine Perm.trans ?_ h.split
    apply Perm.append_right
    refine Perm.trans ?_ ((hrest a rfl).append_right _).symm
    rw [← append_assoc]
    exact perm_append_singleton _ _

theorem Accounted.discard (h : d.Accounted dataFn) (mtch : Ptr → Bool) :
    (d.discard mtch).Accounted dataFn := by
  refine ⟨h.fn, h.turns, ?_, ?_⟩
  · show (d.contents.filter (fun e => !mtch e.data) ++ d.log.dequeued ++
      (d.log.flushed ++ d.contents.filter fun e => mtch e.data)).Perm d.log.accepted
    refine Perm.trans ?_ h.split
    -- those flushed now come back to those kept
    have hparts := filter_append_perm (fun e : Elem => mtch e.data) d.contents
    refine Perm.trans ?_ ((hparts.append_right d.log.dequeued).append_right d.log.flushed)
    rw [← append_assoc]
    refine perm_append_comm.trans ?_
    simp only [append_assoc]
    exact Perm.refl _
  · show d.log.released ++ (if d.dataFn then _ else []) = _
    rw [h.released, h.fn]
    show _ = if dataFn then (d.log.flushed ++ _).filter Elem.hasData else []
    cases dataFn <;> simp

theorem Accounted.exec (h : d.Accounted dataFn) (op : QueueOp) :
    (d.exec op).2.Accounted dataFn := by
  cases op with
  | init => exact ⟨h.fn, h.turns, h.split, h.released⟩
  | isEmpty | getCurrentSize | peek => exact h
  | enqueue malloc data =>
    apply h.enqueueBy
    exact fun e es => perm_append_singleton e es
  | enqueueWithPriority malloc data =>
    apply h.enqueueBy
    exact fun e es => Perm.refl _
  | dequeue bFromHead =>
    show (d.dequeue bFromHead).2.Accounted dataFn
    unfold Deque.dequeue
    split_ifs
    · apply h.take
      intro a ha
      rw [eq_cons_of_mem_head? ha]
      exact Perm.refl _
    · apply h.take
      intro a ha
      have hlast := dropLast_append_getLast? a ha
      rw [← hlast]
      simp
    · exact h
  | dequeueMatch mtch matchData =>
    show (d.dequeueMatch mtch matchData).2.Accounted dataFn
    unfold Deque.dequeueMatch
    cases mtch with
    | none => exact h
    | some mtch =>
      cases matchData with
      | none => exact h
      | some m =>
        dsimp only
        split_ifs
        · apply h.take
          intro a ha
          obtain ⟨hp, front, back, heq, hfront⟩ := find?_eq_some_iff_append.mp ha
          have herase := @eraseP_first Elem (fun e => mtch e.data d.userData (some m))
            front back a hp hfront
          rw [heq, herase]
          exact perm_middle
        · exact h
  | flush =>
    show d.flush.Accounted dataFn
    unfold Deque.flush
    split_ifs
    · have hd := h.discard fun _ => true
      exact ⟨hd.fn, hd.turns, hd.split, hd.released⟩
    · exact h
  | flushNodes mtch =>
    show (d.flushNodes mtch).Accounted dataFn
    unfold Deque.flushNodes
    cases mtch with
    | none => exact h
    | some mtch =>
      dsimp only
      split_ifs
      · exact h.discard _
      · exact h
  | flushNodesMatch mtch matchData =>
    show (d.flushNodesMatch mtch matchData).Accounted dataFn
    unfold Deque.flushNodesMatch
    cases mtch with
    | none => exact h
    | some mtch =>
      dsimp only
      split_ifs
      · exact h.discard _
      · exact h

end Deque

/-- `flushNodes`, with or without external data. -/
def QueueOp.IsSelective : QueueOp → Prop
  | .flushNodes _ | .flushNodesMatch _ _ => True
  | _ => False

/-- `enqueue` and `enqueueWithPriority`. -/
def QueueOp.IsEnqueue : QueueOp → Prop
  | .enqueue _ _ | .enqueueWithPriority _ _ => True
  | _ => False

namespace Deque

variable {c : Call} {d d' : Deque}

/-- **A selective flush keeps the order** of what it keeps. -/
theorem exec_sublist {op : QueueOp} (hop : op.IsSelective) :
    (d.exec op).2.contents.Sublist d.contents := by
  cases op with
  | flushNodes mtch =>
    show (d.flushNodes mtch).contents.Sublist d.contents
    unfold Deque.flushNodes
    split
    · exact Sublist.refl _
    · split_ifs
      · exact filter_sublist
      · exact Sublist.refl _
  | flushNodesMatch mtch matchData =>
    show (d.flushNodesMatch mtch matchData).contents.Sublist d.contents
    unfold Deque.flushNodesMatch
    split
    · exact Sublist.refl _
    · split_ifs
      · exact filter_sublist
      · exact Sublist.refl _
  | _ => exact hop.elim

/-- **A deque that is turned off** stays as it is, until it is turned on, and accepts nothing. -/
theorem exec_inactive {op : QueueOp} (hd : d.active = false) (hop : op ≠ .init) :
    (d.exec op).2 = d ∧ (op.IsEnqueue → (d.exec op).1 = .bool false) := by
  cases op with
  | init => exact absurd rfl hop
  | isEmpty | getCurrentSize | peek => exact ⟨rfl, False.elim⟩
  | enqueue malloc data | enqueueWithPriority malloc data =>
    cases malloc <;> simp [exec, enqueueBy, hd]
  | dequeue bFromHead => simp [exec, dequeue, hd, QueueOp.IsEnqueue]
  | dequeueMatch mtch matchData =>
    cases mtch <;> cases matchData <;> simp [exec, dequeueMatch, hd, QueueOp.IsEnqueue]
  | flush => simp [exec, flush, hd, QueueOp.IsEnqueue]
  | flushNodes mtch => cases mtch <;> simp [exec, flushNodes, hd, QueueOp.IsEnqueue]
  | flushNodesMatch mtch matchData =>
    cases mtch <;> simp [exec, flushNodesMatch, hd, QueueOp.IsEnqueue]

theorem exec_flush_inactive : (d.exec .flush).2.active = false := by
  show d.flush.active = false
  unfold Deque.flush
  split_ifs with hd
  · rfl
  · simpa using hd

end Deque

/-! ## The refinement -/

/-- The links lead from the head through nodes that hold the elements, in order, and back, and the
counter counts them. -/
def QCameraQueue.Holds (q : QCameraQueue) (es : List Elem) : Prop :=
  ∃ ns : List ℕ, q.list.Ring .mHead (ns.map .node) ∧ q.mSize = ns.length ∧ ns.map q.data = es

section

variable {c : Call} {calls : List Call} {q q' : QCameraQueue} {ns : List ℕ} {d : Deque}

theorem QCameraQueue.Represents.holds (h : q.Represents ns d) : q.Holds d.contents :=
  ⟨ns, h.ring, h.size, h.data⟩

theorem QueueStep.simulates (hstep : QueueStep c q q') (h : q.Represents ns d) :
    ∃ ns', d.Step c (d.exec c.op).2 ∧ q'.Represents ns' (d.exec c.op).2 := by
  obtain ⟨hfresh, hexec⟩ := hstep
  obtain ⟨q'', ns', hexec', hrep⟩ := h.exec hfresh
  rw [hexec', Option.some_inj, Prod.mk.injEq] at hexec
  obtain ⟨hret, rfl⟩ := hexec
  refine ⟨ns', ?_, hrep⟩
  show d.exec c.op = (c.ret, (d.exec c.op).2)
  rw [← hret]

theorem run_simulates (hrun : Run QueueStep calls q q') (h : q.Represents ns d) :
    ∃ d' ns', Run Deque.Step calls d d' ∧ q'.Represents ns' d' := by
  induction hrun generalizing ns d with
  | nil => exact ⟨d, ns, .nil d, h⟩
  | cons hstep _ ih =>
    obtain ⟨ns', hdeque, hrep⟩ := hstep.simulates h
    obtain ⟨d', ns'', hrun', hrep'⟩ := ih hrep
    exact ⟨d', ns'', .cons hdeque hrun', hrep'⟩

theorem Deque.Step.eq {d' : Deque} (h : d.Step c d') : d' = (d.exec c.op).2 := by
  rw [show d.exec c.op = (c.ret, d') from h]

theorem run_inactive {d' : Deque} {pre mid : List QueueOp} (hrun : Run Deque.Step calls d d')
    (hops : calls.map Call.op = pre ++ .flush :: mid) (hmid : .init ∉ mid) :
    d'.active = false := by
  obtain ⟨cs, rest, rfl, rfl, hrest⟩ := map_eq_append_iff.mp hops
  obtain ⟨c, cs', rfl, hc, rfl⟩ := map_eq_cons_iff.mp hrest
  obtain ⟨t, -, hrest⟩ := hrun.split
  cases hrest with
  | cons hflush hrun' =>
    have hoff := @Deque.exec_flush_inactive t
    rw [← hc, ← hflush.eq] at hoff
    clear hflush hops hrun hrest
    induction hrun' with
    | nil => exact hoff
    | cons hstep _ ih =>
      rw [map_cons, mem_cons, not_or] at hmid
      apply ih hmid.2
      rw [hstep.eq, (Deque.exec_inactive hoff (Ne.symm hmid.1)).1]
      exact hoff

end

/-- **An element may be flushed that is neither dequeued nor released**: the queue of the default
constructor has no release function. -/
theorem queue_loses :
    ¬∀ (dataFn : Bool) (userData : Ptr) (calls : List Call) (q : QCameraQueue),
      Run QueueStep calls (QCameraQueue.new dataFn userData) q → ∀ e ∈ q.log.accepted,
        (∃ es, q.Holds es ∧ e ∈ es) ∨ e ∈ q.log.dequeued ∨ e ∈ q.log.released := by
  intro hall
  have hsomewhere := hall false none [⟨.enqueue (some 1) (some 5), .bool true⟩, ⟨.flush, .void⟩] _
    (.cons ⟨rfl, rfl⟩ (.one ⟨trivial, rfl⟩)) ⟨0, some 5⟩ (by decide)
  rcases hsomewhere with ⟨es, ⟨ns, -, hsize, hdata⟩, hmem⟩ | hmem | hmem
  · -- the counter is zero, and so nothing is held
    have hnil : ns = [] := length_eq_zero_iff.mp (Int.ofNat_inj.mp hsize.symm)
    subst hnil hdata
    cases hmem
  · exact absurd hmem (by decide)
  · exact absurd hmem (by decide)

/-- **The queue refines the deque.** After every run the links are a ring through as many nodes as
the counter says, whose elements are the contents of the deque after the same calls with the same
results. The accepted elements are all different, and each is held, or has been dequeued, or has
been flushed; those flushed that have data have been released once, if there is a release function.
Every operation returns; a selective flush keeps the order of what it keeps; and after a `flush`
nothing is accepted until `init`. -/
theorem queue_refines {dataFn : Bool} {userData : Ptr} {calls : List Call} {q : QCameraQueue}
    (hrun : Run QueueStep calls (QCameraQueue.new dataFn userData) q) :
    ∃ d, Run Deque.Step calls (Deque.new dataFn userData) d ∧ q.Holds d.contents ∧
      q.log.accepted.Nodup ∧
      (d.contents ++ q.log.dequeued ++ q.log.flushed).Perm q.log.accepted ∧
      q.log.released = (if dataFn then q.log.flushed.filter Elem.hasData else []) ∧
      (∀ op, op.MallocFresh q → ∃ ret q', q.exec op = some (ret, q')) ∧
      (∀ c q', c.op.IsSelective → QueueStep c q q' →
        ∃ es, q'.Holds es ∧ es.Sublist d.contents) ∧
      ∀ pre mid, calls.map Call.op = pre ++ .flush :: mid → .init ∉ mid →
        ∀ c q', c.op.IsEnqueue → QueueStep c q q' →
          c.ret = .bool false ∧ q'.Holds d.contents := by
  obtain ⟨d, ns, hdeque, hrep⟩ := run_simulates hrun (QCameraQueue.represents_new dataFn userData)
  have haccounts : d.Accounted dataFn := hdeque.invariant
    (fun c d d' hstep hd => hstep.eq ▸ hd.exec c.op) (.new dataFn userData)
  refine ⟨d, hdeque, hrep.holds, ?_, ?_, ?_, ?_, ?_, ?_⟩
  · rw [hrep.log]
    exact haccounts.nodup
  · rw [hrep.log]
    exact haccounts.split
  · rw [hrep.log]
    exact haccounts.released
  · intro op hfresh
    obtain ⟨q', -, hexec, -⟩ := hrep.exec hfresh
    exact ⟨_, q', hexec⟩
  · intro c q' hop hstep
    obtain ⟨_, -, hrep'⟩ := hstep.simulates hrep
    exact ⟨_, hrep'.holds, Deque.exec_sublist hop⟩
  · intro pre mid hops hmid c q' hop hstep
    obtain ⟨_, hdstep, hrep'⟩ := hstep.simulates hrep
    have hoff := run_inactive hdeque hops hmid
    have hinit : c.op ≠ .init := by
      intro he
      rw [he] at hop
      exact hop
    obtain ⟨hsame, hret⟩ := Deque.exec_inactive hoff hinit
    constructor
    · rw [← hret hop]
      exact (congrArg Prod.fst hdstep).symm
    · have hholds := hrep'.holds
      rw [hsame] at hholds
      exact hholds

/-- An element that has been enqueued with priority is flushed and released, and the one behind it
dequeued. -/
theorem queue_refines_released :
    let calls : List Call := [⟨.enqueue (some 1) (some 5), .bool true⟩,
      ⟨.enqueueWithPriority (some 2) (some 6), .bool true⟩,
      ⟨.flushNodes (some fun data _ => data == some 6), .void⟩, ⟨.dequeue true, .ptr (some 5)⟩]
    ∃ q d, Run QueueStep calls (QCameraQueue.new true none) q ∧
      q.log.released = [⟨1, some 6⟩] ∧ Run Deque.Step calls (Deque.new true none) d ∧
      q.Holds d.contents := by
  intro calls
  obtain ⟨q, hrun, hreleased⟩ : ∃ q, Run QueueStep calls (QCameraQueue.new true none) q ∧
      q.log.released = [⟨1, some 6⟩] :=
    ⟨_, .cons ⟨rfl, rfl⟩ (.cons ⟨rfl, rfl⟩ (.cons ⟨trivial, rfl⟩ (.one ⟨trivial, rfl⟩))), by decide⟩
  obtain ⟨d, hdeque, hholds, -⟩ := queue_refines hrun
  exact ⟨q, d, hrun, hreleased, hdeque, hholds⟩

end QCamera
