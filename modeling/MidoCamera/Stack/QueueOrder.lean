import MidoCamera.Stack.Runs

/-!
# The order of a superbuf queue

In a queue whose priority is not low, a buffer is taken by the node of its own frame, so the scan
keeps the unmatched nodes in the order of their frames and a node is only ever completed behind
older ones. The queue is then a run of matched nodes followed by unmatched nodes of increasing
frames, its counters are right, and every command of its channel returns.
-/

namespace MmCamera

open Loop List

def Increasing (ns : List Node) : Prop :=
  ns.Pairwise fun a b => a.matched = false → b.matched = false → a.frameIdx < b.frameIdx

/-- **The invariant of a queue whose priority is not low**. -/
structure OrderInv (k : Core) : Prop where
  priority : k.priority ≠ .low
  queueInv : QueueInv k
  increasing : Increasing k.que
  noMeta : ∀ n ∈ k.que, n.unmatchedMetaIdx = 0

/-! ## Nodes in the order of their frames -/

section Lists

variable {as bs : List Node} {n m : Node}

theorem Increasing.sublist (h : Increasing bs) (hs : as.Sublist bs) : Increasing as :=
  List.Pairwise.sublist hs h

theorem increasing_append_cons :
    Increasing (as ++ n :: bs) ↔ Increasing (as ++ bs) ∧
      (n.matched = false → (∀ a ∈ as, a.matched = false → a.frameIdx < n.frameIdx) ∧
        ∀ b ∈ bs, b.matched = false → n.frameIdx < b.frameIdx) := by
  unfold Increasing
  rw [pairwise_append, pairwise_append, pairwise_cons]
  constructor
  · rintro ⟨has, ⟨hn, hbs⟩, hab⟩
    refine ⟨⟨has, hbs, fun a ha b hb => hab a ha b (by simp [hb])⟩, fun hm => ⟨?_, ?_⟩⟩
    · exact fun a ha ham => hab a ha n (by simp) ham hm
    · exact fun b hb => hn b hb hm
  · rintro ⟨⟨has, hbs, hab⟩, hnm⟩
    refine ⟨has, ⟨fun b hb hm => (hnm hm).2 b hb, hbs⟩, ?_⟩
    intro a ha b hb ham hbm
    rcases mem_cons.mp hb with rfl | hb
    · exact (hnm hbm).1 a ha ham
    · exact hab a ha b hb ham hbm

theorem Increasing.replace (h : Increasing (as ++ n :: bs)) (hm : m.matched = n.matched)
    (hf : m.frameIdx = n.frameIdx) : Increasing (as ++ m :: bs) := by
  rw [increasing_append_cons] at h ⊢
  rwa [hm, hf]

end Lists

/-! ## The matching by frame -/

section Normal

variable {k : Core} {slot : ℕ} {b : BufInfo} {n : Node}

theorem accepts_of_ne_low {p : Priority} (hp : p ≠ .low) (slot : ℕ) (b : BufInfo) (n : Node) :
    accepts p slot b n = (b.frameIdx == n.frameIdx) := by
  have : (p == Priority.low) = false := by simpa using hp
  simp [accepts, this]

theorem adopt_of_noMeta (h : n.unmatchedMetaIdx = 0) (f : ℕ) : n.adopt f = n := by
  simp [Node.adopt, h]

theorem OrderInv.found_frameIdx {pre post : List Node} (hi : OrderInv k)
    (found : Found slot b k pre n post) : n.frameIdx = b.frameIdx := by
  have := found.accepted
  rw [accepts_of_ne_low hi.priority] at this
  exact (beq_iff_eq.mp this).symm

/-- The nodes before the one that takes a buffer are matched or of earlier frames, so what is
completed completes first. -/
theorem OrderInv.completesFirst (hi : OrderInv k) (slot : ℕ) (b : BufInfo) :
    CompletesFirst k slot b := by
  intro pre n post found _ o ho
  have hinc := hi.increasing
  rw [found.que] at hinc
  have := ((increasing_append_cons.mp hinc).2 found.unmatched).1 o (mem_of_find?_eq_some ho)
    (by simpa using find?_some ho)
  rwa [hi.found_frameIdx found] at this

end Normal

section Steps

variable {P : Core → ℕ → BufInfo → Prop} {c : ChannelId} {e : Event} {k k' : Core}

/-- The part of the invariant that speaks of the nodes alone. -/
structure Nodes (ns : List Node) : Prop where
  increasing : Increasing ns
  noMeta : ∀ n ∈ ns, n.unmatchedMetaIdx = 0

theorem Nodes.sublist {as bs : List Node} (h : Nodes bs) (hs : as.Sublist bs) : Nodes as :=
  ⟨h.increasing.sublist hs, fun n hn => h.noMeta n (hs.subset hn)⟩

theorem OrderInv.enqueue_nodes {before after vs : List Node} {slot : ℕ} {b : BufInfo}
    (expected : Bool) (hi : OrderInv k) (cut : Insertion b.frameIdx k.que vs before after)
    (hpass : ∀ n ∈ k.que, stops (accepts k.priority slot b) n = false) :
    Nodes (before ++ k.newNode slot b expected :: after) := by
  have hsub := (cut.evict.counts hi.queueInv.matchedFirst).1
  have hinc := hi.increasing.sublist hsub
  have hne : ∀ n ∈ k.que, n.matched = false → n.frameIdx ≠ b.frameIdx := by
    intro n hn hm heq
    have := hpass n hn
    simp [stops, accepts_of_ne_low hi.priority, hm, heq] at this
  refine ⟨increasing_append_cons.mpr ⟨hinc, fun _ => ⟨?_, ?_⟩⟩, ?_⟩
  · intro a ha hm
    have hle := cut.earlier a ha
    have hneq := hne a (hsub.subset (by simp [ha])) hm
    simp only [Node.newer, hm, Bool.not_false, Bool.true_and, decide_eq_false_iff_not] at hle
    change a.frameIdx < b.frameIdx
    omega
  · intro a ha hm
    change b.frameIdx < a.frameIdx
    cases hafter : after with
    | nil => simp [hafter] at ha
    | cons o after' =>
      have ho := cut.later o (by rw [hafter]; rfl)
      simp only [Node.newer, Bool.and_eq_true, Bool.not_eq_true', decide_eq_true_eq] at ho
      rw [hafter] at ha hinc
      rcases mem_cons.mp ha with rfl | ha
      · exact ho.2
      · have := ((increasing_append_cons.mp hinc).2 ho.1).2 a ha hm
        omega
  · intro n hn
    rcases mem_append.mp hn with hn | hn
    · exact hi.noMeta n (hsub.subset (by simp [hn]))
    · rcases mem_cons.mp hn with rfl | hn
      · simp [Core.newNode, hi.priority]
      · exact hi.noMeta n (hsub.subset (by simp [hn]))

theorem CompStep.nodes {fs fs' : FrameSync} {slot : ℕ} {b : BufInfo}
    (h : CompStep c slot b k fs k' fs') (hi : OrderInv k) : Nodes k'.que := by
  have hmeta : ∀ {pre post n}, Found slot b k pre n post → n.unmatchedMetaIdx = 0 :=
    fun found => hi.noMeta _ (by rw [found.que]; simp)
  have hstored : ∀ {pre post n m}, Found slot b k pre n post → Stored slot b n m →
      m.frameIdx = n.frameIdx ∧ m.unmatchedMetaIdx = 0 := by
    intro pre post n m found stored
    have h0 := hmeta found
    obtain ⟨ex, rfl⟩ := stored
    rw [adopt_of_noMeta h0]
    exact ⟨rfl, h0⟩
  cases h with
  | @duplicate pre post n found filled =>
    have hq := found.que
    rw [adopt_of_noMeta (hmeta found)]
    change Nodes (pre ++ n :: post)
    rw [← hq]
    exact ⟨hi.increasing, hi.noMeta⟩
  | @store pre post n m found empty stored unmatched =>
    have hq := found.que
    have hinc := hi.increasing
    rw [hq] at hinc
    refine ⟨hinc.replace (unmatched.trans found.unmatched.symm) (hstored found stored).1, ?_⟩
    intro o ho
    rcases mem_append.mp ho with ho | ho
    · exact hi.noMeta o (by rw [hq]; simp [ho])
    · rcases mem_cons.mp ho with rfl | ho
      · exact (hstored found stored).2
      · exact hi.noMeta o (by rw [hq]; simp [ho])
  | @complete keep old post n m found empty stored matched kept oldest =>
    have hsub : (keep ++ post).Sublist k.que := by rw [found.que]; simp
    refine ⟨increasing_append_cons.mpr ⟨hi.increasing.sublist hsub, ?_⟩, ?_⟩
    · exact fun hm => absurd matched (by simp [hm])
    · intro o ho
      rcases mem_append.mp ho with ho | ho
      · exact hi.noMeta o (hsub.subset (by simp [ho]))
      · rcases mem_cons.mp ho with rfl | ho
        · exact (hstored found stored).2
        · exact hi.noMeta o (hsub.subset (by simp [ho]))
  | refuse evict =>
    exact Nodes.sublist ⟨hi.increasing, hi.noMeta⟩ (evict.counts hi.queueInv.matchedFirst).1
  | enqueue expected cut passed room => exact hi.enqueue_nodes expected cut passed

theorem Disposal.que {n : Node} (h : Disposal n k k') : k'.que = k.que := by
  cases h <;> rfl

theorem CoreStep.priority (h : CoreStep P c e k k') : k'.priority = k.priority := by
  cases h with
  | reject => rfl
  | comp _ _ _ step => cases step <;> rfl
  | remove _ _ disposal => cases disposal <;> rfl
  | removeType => rfl

/-- **A step keeps the order** of a queue whose priority is not low. -/
theorem CoreStep.orderInv (h : CoreStep P c e k k') (hi : OrderInv k) : OrderInv k' := by
  have hnodes : Nodes k'.que := by
    cases h with
    | reject => exact ⟨hi.increasing, hi.noMeta⟩
    | comp bundled index admitted step => exact step.nodes hi
    | remove que head disposal =>
      rw [disposal.que]
      exact Nodes.sublist ⟨hi.increasing, hi.noMeta⟩ (by rw [que]; simp [Core.without])
    | removeType camType que =>
      exact Nodes.sublist ⟨hi.increasing, hi.noMeta⟩ (by rw [que]; simp [Core.without])
  have hsame : CoreStep (fun m _ _ => m = k) c e k k' := by
    cases h with
    | reject bundled => exact .reject bundled
    | comp bundled index admitted step => exact .comp bundled index rfl step
    | remove que head disposal => exact .remove que head disposal
    | removeType camType que => exact .removeType camType que
  have hinv : QueueInv k' := by
    refine hsame.queueInv ?_ hi.queueInv
    rintro _ slot b rfl -
    exact hi.completesFirst slot b
  exact ⟨h.priority ▸ hi.priority, hinv, hnodes.increasing, hnodes.noMeta⟩

theorem Quietly.orderInv {x y : Ctx} (h : Quietly P c x y) (hi : OrderInv x.ch.core) :
    OrderInv y.ch.core := by
  obtain ⟨es, -, hr⟩ := h
  obtain ⟨fs, hr'⟩ := chanRun_core_run hr
  exact hr'.invariant (fun _ _ _ hstep hk => hstep.orderInv hk) hi

theorem run_orderInv {es : List Event} (h : Run (CoreStep P c) es k k') (hi : OrderInv k) :
    OrderInv k' :=
  h.invariant (fun _ _ _ hstep hk => hstep.orderInv hk) hi

end Steps

/-- A queue in which nothing has happened yet. -/
structure Queue.Empty (q : Queue) : Prop where
  que : q.que = []
  size : q.size = 0
  matchCnt : q.matchCnt = 0

theorem Queue.Empty.queueInv {ch : Channel} (h : ch.queue.Empty) : QueueInv ch.core := by
  have hq : ch.core.que = [] := h.que
  refine ⟨?_, ?_, ?_, ?_, ?_⟩
  · rw [hq]
    exact List.Pairwise.nil
  · rw [hq]
    exact h.size
  · rw [hq]
    exact h.matchCnt
  · simp [hq]
  · simp [hq, unmatchedCount]

theorem Queue.Empty.orderInv {ch : Channel} (h : ch.queue.Empty)
    (hp : ch.queue.attr.priority ≠ .low) : OrderInv ch.core := by
  have hq : ch.core.que = [] := h.que
  refine ⟨hp, h.queueInv, ?_, by simp [hq]⟩
  rw [hq]
  exact List.Pairwise.nil

def anyEnqueue : ChannelId → Core → ℕ → BufInfo → Prop := fun _ _ _ _ => True

theorem run_stepUnder_any {ops : List Op} {s t : System} (h : Run Op.Step ops s t) :
    Run (Op.StepUnder anyEnqueue) ops s t :=
  h.mono fun _ _ _ _ hstep => ⟨fun _ _ _ _ _ _ _ _ => trivial, hstep⟩

/-- The list of a queue is a run of matched nodes followed by unmatched nodes of strictly
increasing frames. -/
def MatchedThenIncreasing (ns : List Node) : Prop :=
  ∃ ms us, ns = ms ++ us ∧ (∀ n ∈ ms, n.matched = true) ∧ (∀ n ∈ us, n.matched = false) ∧
    us.Pairwise fun a b => a.frameIdx < b.frameIdx

theorem matchedThenIncreasing {ns : List Node} (hmf : MatchedFirst ns) (hinc : Increasing ns) :
    MatchedThenIncreasing ns := by
  induction ns with
  | nil => exact ⟨[], [], rfl, by simp, by simp, .nil⟩
  | cons n ns ih =>
    cases hm : n.matched with
    | true =>
      obtain ⟨ms, us, rfl, hms, hus, hlt⟩ := ih (hmf.sublist (by simp)) (hinc.sublist (by simp))
      refine ⟨n :: ms, us, rfl, ?_, hus, hlt⟩
      intro m hmem
      rcases mem_cons.mp hmem with rfl | hmem
      · exact hm
      · exact hms m hmem
    | false =>
      have hall : ∀ m ∈ n :: ns, m.matched = false := by
        intro m hmem
        rcases mem_cons.mp hmem with rfl | hmem
        · exact hm
        · exact MatchedFirst.tail_unmatched hmf hm m hmem
      refine ⟨[], n :: ns, rfl, by simp, hall, ?_⟩
      exact List.Pairwise.imp_of_mem (fun ha hb h => h (hall _ ha) (hall _ hb)) hinc

/-- What a run guarantees of the queue of a channel in the state it reaches. -/
structure QueueGuarantee (s : System) (c : ChannelId) : Prop where
  matchCnt : (s.ch c).queue.matchCnt = matchedCount (s.ch c).queue.que % 2 ^ 32
  size : (s.ch c).queue.size = (s.ch c).queue.que.length % 2 ^ 32
  head : 0 < (s.ch c).queue.matchCnt → ∃ n rest, (s.ch c).queue.que = n :: rest ∧ n.matched = true
  dropAbove : ∀ mark, ∃ x, superbufDropAbove mark (s.ctx c) = .ok x

theorem QueueInv.guarantee {s : System} {c : ChannelId} (hi : QueueInv (s.ch c).core) :
    QueueGuarantee s c :=
  ⟨hi.matchCnt, hi.size, hi.head, fun mark => dropAbove_ok mark hi⟩

/-- **The superbuf queue of a channel whose priority is not low**, in every state a run of
commands reaches from an empty queue: matched nodes come first, and then unmatched nodes of
strictly increasing frames; the counters are those of the list; the overflow and the skip loop end
for every mark, and so does every command; and what is released after a match, in the state in
which a buffer is matched, is unmatched. -/
theorem superbufQueue_ordered {ops : List Op} {s t : System} {c : ChannelId}
    (empty : (s.ch c).queue.Empty) (priority : (s.ch c).queue.attr.priority ≠ .low)
    (run : Run Op.Step ops s t) :
    MatchedThenIncreasing (t.ch c).queue.que ∧ QueueGuarantee t c ∧
      (∀ env cmd, ∃ u, processStreamBuf env c cmd t = .ok u) ∧
      ∀ b slot x l, handleMetadata b (t.ctx c) = some x →
        (x.ch.queue.scan slot b).lastBuf = some l →
        ∀ n ∈ (x.ch.queue.que.take (x.ch.queue.scan slot b).pos).drop l, n.matched = false := by
  obtain ⟨es, -, -, hrun⟩ := opRun_core_run (run_stepUnder_any run) c
  have hi : OrderInv (t.ch c).core := run_orderInv hrun (empty.orderInv priority)
  refine ⟨matchedThenIncreasing hi.queueInv.matchedFirst hi.increasing, hi.queueInv.guarantee,
    ?_, ?_⟩
  · intro env cmd
    refine processStreamBuf_ok (P := fun k _ _ => OrderInv k)
      (fun k slot b hk _ => hk.completesFirst slot b) env cmd ?_ hi.queueInv
    rintro b - slot x - hx
    exact (handleMetadata_quietly (P := fun _ _ _ => False) (c := c) hx).orderInv hi
  · intro b slot x l hx hl
    exact released_unmatched ((handleMetadata_quietly (c := c) hx).queueInv hi.queueInv) hl

/-- A buffer of an earlier frame goes to the front, and its node is completed there. -/
theorem superbufQueue_ordered_twoStreams :
    ∃ t, Run Op.Step
        [.command .ample 0 (.dataCb (imageBuf 100 1 7)),
          .command .ample 0 (.dataCb (imageBuf 101 1 5)),
          .command .ample 0 (.dataCb (imageBuf 102 2 5))] twoStreams t ∧
      (t.ch 0).queue.que.map Node.matched = [true, false] ∧
      MatchedThenIncreasing (t.ch 0).queue.que ∧ QueueGuarantee t 0 := by
  obtain ⟨t, run, hque⟩ : ∃ t, Run Op.Step [.command .ample 0 (.dataCb (imageBuf 100 1 7)),
        .command .ample 0 (.dataCb (imageBuf 101 1 5)),
        .command .ample 0 (.dataCb (imageBuf 102 2 5))] twoStreams t ∧
      (t.ch 0).queue.que.map Node.matched = [true, false] :=
    ⟨_, .cons rfl (.cons rfl (.cons rfl (.nil _))), rfl⟩
  have h := superbufQueue_ordered (c := 0) ⟨rfl, rfl, rfl⟩ (by decide) run
  exact ⟨t, run, hque, h.1, h.2.1⟩

end MmCamera
