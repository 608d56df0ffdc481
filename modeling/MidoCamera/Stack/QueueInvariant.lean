import MidoCamera.Stack.Inversion

/-!
# The invariant of the superbuf queue

In the list of a superbuf queue the matched nodes come first; the counters of the queue follow the
list; a queue of one stream holds only matched nodes; and the unmatched nodes are bounded by the
limit of the queue. A step keeps this, as long as a node is only ever completed where no
unmatched node stays in front of it.
-/

namespace MmCamera

open Loop List

variable {b : BufInfo} {m : Node} {post que vs : List Node} {slot : ℕ}

def MatchedFirst (ns : List Node) : Prop :=
  ns.Pairwise fun a b => b.matched = true → a.matched = true

def matchedCount (ns : List Node) : ℕ := ns.countP fun n => n.matched

/-- **The invariant of a superbuf queue**. -/
structure QueueInv (k : Core) : Prop where
  matchedFirst : MatchedFirst k.que
  size : k.size = k.que.length % 2 ^ 32
  matchCnt : k.matchCnt = matchedCount k.que % 2 ^ 32
  single : k.bundledStreams.length = 1 → ∀ n ∈ k.que, n.matched = true
  backlog : k.maxUnmatchedFrames < 255 → unmatchedCount k.que ≤ k.maxUnmatchedFrames + 1

def Node.LacksOnly (n : Node) (slot : ℕ) : Prop :=
  ∀ i < n.superBuf.length, n.frameIdxAt i = 0 ↔ i = slot

/-- When a buffer completes the node it is found for, the first unmatched node of the queue is
that node, or one of an earlier frame. -/
def CompletesFirst (k : Core) (slot : ℕ) (b : BufInfo) : Prop :=
  ∀ pre n post, Found slot b k pre n post → n.LacksOnly slot →
    ∀ o, pre.find? (fun o => !o.matched) = some o → o.frameIdx < b.frameIdx

/-! ## Lists with the matched nodes first -/

section Lists

variable {as bs : List Node} {n m : Node}

theorem MatchedFirst.sublist (h : MatchedFirst bs) (hs : as.Sublist bs) : MatchedFirst as :=
  List.Pairwise.sublist hs h

theorem matchedFirst_append_cons :
    MatchedFirst (as ++ n :: bs) ↔ MatchedFirst (as ++ bs) ∧
      (n.matched = true → ∀ a ∈ as, a.matched = true) ∧
      (n.matched = false → ∀ b ∈ bs, b.matched = false) := by
  unfold MatchedFirst
  rw [pairwise_append, pairwise_append, pairwise_cons]
  constructor
  · rintro ⟨has, ⟨hn, hbs⟩, hab⟩
    refine ⟨⟨has, hbs, fun a ha b hb => hab a ha b (by simp [hb])⟩, ?_, ?_⟩
    · exact fun hm a ha => hab a ha n (by simp) hm
    · intro hm b hb
      by_contra hbm
      have := hn b hb (by simpa using hbm)
      simp [hm] at this
  · rintro ⟨⟨has, hbs, hab⟩, hpre, hpost⟩
    refine ⟨has, ⟨?_, hbs⟩, ?_⟩
    · intro b hb hbm
      by_contra hnm
      have := hpost (by simpa using hnm) b hb
      simp [hbm] at this
    · intro a ha b hb hbm
      rcases mem_cons.mp hb with rfl | hb
      · exact hpre hbm a ha
      · exact hab a ha b hb hbm

theorem MatchedFirst.tail_unmatched (h : MatchedFirst (n :: bs)) (hn : n.matched = false) :
    ∀ b ∈ bs, b.matched = false :=
  (matchedFirst_append_cons.mp (by simpa using h : MatchedFirst ([] ++ n :: bs))).2.2 hn

theorem MatchedFirst.replace (h : MatchedFirst (as ++ n :: bs)) (hm : m.matched = n.matched) :
    MatchedFirst (as ++ m :: bs) := by
  rw [matchedFirst_append_cons] at h ⊢
  rwa [hm]

theorem matchedCount_append_cons :
    matchedCount (as ++ n :: bs) = matchedCount (as ++ bs) + if n.matched then 1 else 0 := by
  simp only [matchedCount, countP_append, countP_cons]
  omega

theorem unmatchedCount_append_cons :
    unmatchedCount (as ++ n :: bs) = unmatchedCount (as ++ bs) + if n.matched then 0 else 1 := by
  simp only [unmatchedCount, countP_append, countP_cons]
  cases n.matched with
  | true => simp
  | false =>
    simp
    omega

theorem matchedCount_eq_zero (h : ∀ n ∈ as, n.matched = false) : matchedCount as = 0 := by
  simpa [matchedCount, countP_eq_zero] using h

theorem matchedCount_append : matchedCount (as ++ bs) = matchedCount as + matchedCount bs :=
  countP_append

theorem MatchedFirst.head (h : MatchedFirst as) (hc : 0 < matchedCount as) :
    ∃ n rest, as = n :: rest ∧ n.matched = true := by
  cases as with
  | nil => simp [matchedCount] at hc
  | cons n rest =>
    refine ⟨n, rest, rfl, ?_⟩
    by_contra hn
    have hn' : n.matched = false := by simpa using hn
    have hrest := h.tail_unmatched hn'
    have hzero : matchedCount (n :: rest) = 0 := by
      refine matchedCount_eq_zero fun m hm => ?_
      rcases mem_cons.mp hm with rfl | hm
      · exact hn'
      · exact hrest m hm
    omega

end Lists

theorem Stored.superBuf {n : Node} (h : Stored slot b n m) :
    m.superBuf = n.superBuf.set slot (some b) := by
  obtain ⟨e, rfl⟩ := h
  simp [Node.fill]

theorem Stored.frameIdx {n : Node} (h : Stored slot b n m) :
    m.frameIdx = (n.adopt b.frameIdx).frameIdx := by
  obtain ⟨e, rfl⟩ := h
  rfl

theorem Stored.matched_iff {n : Node} (h : Stored slot b n m) :
    m.matched = true ↔ ∀ s ∈ n.superBuf.set slot (some b), slotFrameIdx s ≠ 0 := by
  obtain ⟨e, rfl⟩ := h
  simp [Node.fill, Node.allFilled]

theorem Stored.lacksOnly {n : Node} (h : Stored slot b n m)
    (hempty : n.frameIdxAt slot = 0) (hm : m.matched = true) : n.LacksOnly slot := by
  intro i hi
  constructor
  · intro hi0
    by_contra hne
    have hmem : n.superBuf[i] ∈ n.superBuf.set slot (some b) := by
      rw [mem_iff_getElem]
      exact ⟨i, by simpa using hi, by rw [getElem_set_ne (Ne.symm hne)]⟩
    refine h.matched_iff.mp hm _ hmem ?_
    simpa [Node.frameIdxAt, getD_eq_getElem?_getD, hi] using hi0
  · rintro rfl
    exact hempty

theorem CompletesFirst.kept {k : Core} {keep old : List Node}
    {n : Node} (h : CompletesFirst k slot b) (found : Found slot b k (keep ++ old) n post)
    (hlacks : n.LacksOnly slot) (kept : ∀ o ∈ keep, o.older b.frameIdx = false) :
    ∀ o ∈ keep, o.matched = true := by
  intro o ho
  by_contra hom
  cases hfind : keep.find? (fun o => !o.matched) with
  | none => simpa [hom] using find?_eq_none.mp hfind o ho
  | some o' =>
    have hlt : o'.frameIdx < b.frameIdx :=
      h _ _ _ found hlacks o' (by rw [find?_append, hfind]; rfl)
    have hnot := kept o' (mem_of_find?_eq_some hfind)
    have hum : o'.matched = false := by simpa using find?_some hfind
    simp [Node.older, hum, hlt] at hnot

section Steps

variable {P : Core → ℕ → BufInfo → Prop} {c : ChannelId} {e : Event} {k k' : Core}

theorem Evicts.counts {que' : List Node} (h : Evicts que vs que') (hmf : MatchedFirst que) :
    que'.Sublist que ∧ matchedCount que = matchedCount que' ∧
      unmatchedCount que = unmatchedCount que' + vs.length ∧
      que.length = que'.length + vs.length ∧ ∀ v ∈ vs, v.matched = false := by
  cases h with
  | none => simp
  | @one as bs v o mem unmatched =>
    have hv : v.matched = false := by
      rcases mem_append.mp mem with ho | ho
      · by_contra hv
        have := (matchedFirst_append_cons.mp hmf).2.1 (by simpa using hv) o ho
        simp [unmatched] at this
      · rw [mem_singleton] at ho
        rwa [← ho]
    refine ⟨by simp, ?_, ?_, by simp; omega, by simpa using hv⟩
    · rw [matchedCount_append_cons, hv]
      simp
    · rw [unmatchedCount_append_cons, hv]
      simp

theorem Evicts.mem_of_matched {que' : List Node} (h : Evicts que vs que')
    (hmf : MatchedFirst que) {o : Node} (ho : o ∈ que) (hm : o.matched = true) : o ∈ que' := by
  have hvs := (h.counts hmf).2.2.2.2
  cases h with
  | none => exact ho
  | @one as bs v _ _ _ =>
    rcases mem_append.mp ho with ho | ho
    · simp [ho]
    · rcases mem_cons.mp ho with rfl | ho
      · simp [hvs o (by simp)] at hm
      · simp [ho]

theorem Disposal.queueInv {n : Node} (h : Disposal n k k') (hi : QueueInv k) : QueueInv k' := by
  cases h <;> exact ⟨hi.matchedFirst, hi.size, hi.matchCnt, hi.single, hi.backlog⟩

theorem QueueInv.without {before after : List Node} {n : Node} (hi : QueueInv k)
    (hq : k.que = before ++ n :: after) : QueueInv (k.without n (before ++ after)) := by
  have hsub : (before ++ after).Sublist k.que := by rw [hq]; simp
  have hlen : k.que.length = (before ++ after).length + 1 := by rw [hq]; simp; omega
  have hcnt : matchedCount k.que = matchedCount (before ++ after) + if n.matched then 1 else 0 := by
    rw [hq, matchedCount_append_cons]
  have hunm : unmatchedCount k.que =
      unmatchedCount (before ++ after) + if n.matched then 0 else 1 := by
    rw [hq, unmatchedCount_append_cons]
  refine ⟨hi.matchedFirst.sublist hsub, ?_, ?_, ?_, ?_⟩
  · change decU32 k.size = _
    rw [hi.size, hlen, decU32_mod]
    rfl
  · change (if n.matched then decU32 k.matchCnt else k.matchCnt) = _
    rw [hi.matchCnt, hcnt]
    cases n.matched with
    | true => exact decU32_mod _
    | false => rfl
  · exact fun h1 m hm => hi.single h1 m (hsub.subset hm)
  · intro hmax
    have := hi.backlog hmax
    change unmatchedCount (before ++ after) ≤ k.maxUnmatchedFrames + 1
    omega

theorem QueueInv.complete {keep old : List Node} {n : Node}
    (hi : QueueInv k) (found : Found slot b k (keep ++ old) n post) (hm : m.matched = true)
    (hkeep : ∀ o ∈ keep, o.matched = true)
    (oldest : ∀ o ∈ old.head?, o.older b.frameIdx = true) (qbufs : List BufDef) :
    QueueInv { k with
      que := keep ++ m :: post
      size := decU32^[old.length] k.size
      matchCnt := incU32 k.matchCnt
      qbufs := qbufs } := by
  have hq := found.que
  have hmf := hi.matchedFirst
  rw [hq] at hmf
  have hpost : ∀ o ∈ post, o.matched = false :=
    (matchedFirst_append_cons.mp hmf).2.2 found.unmatched
  have hold : ∀ o ∈ old, o.matched = false := by
    cases old with
    | nil => simp
    | cons o old =>
      have ho : o.matched = false := by
        have := oldest o rfl
        simp only [Node.older, Bool.and_eq_true, Bool.not_eq_true'] at this
        exact this.1
      have htail := (matchedFirst_append_cons.mp
        (by simpa using hmf : MatchedFirst (keep ++ o :: (old ++ n :: post)))).2.2 ho
      intro o' ho'
      rcases mem_cons.mp ho' with rfl | ho'
      · exact ho
      · exact htail o' (by simp [ho'])
  have hcnt : matchedCount k.que = matchedCount (keep ++ post) := by
    rw [hq, matchedCount_append_cons, found.unmatched, matchedCount_append, matchedCount_append,
      matchedCount_append, matchedCount_eq_zero hold]
    simp
  have hsub : (keep ++ post).Sublist k.que := by rw [hq]; simp
  have hlen : k.que.length = (keep ++ m :: post).length + old.length := by rw [hq]; simp; omega
  refine ⟨?_, ?_, ?_, ?_, ?_⟩
  · refine matchedFirst_append_cons.mpr ⟨hi.matchedFirst.sublist hsub, fun _ => hkeep, ?_⟩
    exact fun hm' => absurd hm (by simp [hm'])
  · change decU32^[old.length] k.size = _
    rw [hi.size, hlen, decU32_iterate_mod]
  · change incU32 k.matchCnt = matchedCount (keep ++ m :: post) % 2 ^ 32
    rw [hi.matchCnt, hcnt, matchedCount_append_cons, hm, incU32_mod]
    rfl
  · intro h1
    have := hi.single h1 n (by rw [hq]; simp)
    simp [found.unmatched] at this
  · intro hmax
    have := hi.backlog hmax
    have hle : unmatchedCount (keep ++ post) ≤ unmatchedCount k.que := hsub.countP_le
    change unmatchedCount (keep ++ m :: post) ≤ k.maxUnmatchedFrames + 1
    rw [unmatchedCount_append_cons, hm]
    simp only [if_true]
    omega

theorem QueueInv.refuse (hi : QueueInv k) (ev : Evicts k.que vs que) (qbufs : List BufDef) :
    QueueInv { k with que := que, size := decU32^[vs.length] k.size, qbufs := qbufs } := by
  obtain ⟨hsub, hm, hu, hlen, -⟩ := ev.counts hi.matchedFirst
  refine ⟨hi.matchedFirst.sublist hsub, ?_, ?_, ?_, ?_⟩
  · change decU32^[vs.length] k.size = _
    rw [hi.size, hlen, decU32_iterate_mod]
  · exact hi.matchCnt.trans (by rw [hm])
  · exact fun h1 n hn => hi.single h1 n (hsub.subset hn)
  · intro hmax
    have := hi.backlog hmax
    change unmatchedCount que ≤ k.maxUnmatchedFrames + 1
    omega

theorem QueueInv.enqueue {before after : List Node} (expected : Bool)
    (hi : QueueInv k) (cut : Insertion b.frameIdx k.que vs before after)
    (room : vs = [] → unmatchedCount k.que % 2 ^ 8 ≤ k.maxUnmatchedFrames) (qbufs : List BufDef) :
    QueueInv { k with
      que := before ++ k.newNode slot b expected :: after
      size := incU32 (decU32^[vs.length] k.size)
      matchCnt := if k.bundledStreams.length = 1 then incU32 k.matchCnt else k.matchCnt
      qbufs := qbufs } := by
  obtain ⟨hsub, hm, hu, hlen, -⟩ := cut.evict.counts hi.matchedFirst
  have hmf := hi.matchedFirst.sublist hsub
  have hnew : (k.newNode slot b expected).matched = (k.bundledStreams.length == 1) := rfl
  have hlater : ∀ o ∈ after, o.matched = false := by
    cases hafter : after with
    | nil => simp
    | cons o after' =>
      have ho : o.matched = false := by
        have := cut.later o (by rw [hafter]; rfl)
        simp only [Node.newer, Bool.and_eq_true, Bool.not_eq_true'] at this
        exact this.1
      have htail := (matchedFirst_append_cons.mp (hafter ▸ hmf)).2.2 ho
      intro o' ho'
      rcases mem_cons.mp ho' with rfl | ho'
      · exact ho
      · exact htail o' ho'
  refine ⟨?_, ?_, ?_, ?_, ?_⟩
  · refine matchedFirst_append_cons.mpr ⟨hmf, fun h1 a ha => ?_, fun _ => hlater⟩
    exact hi.single (by simpa [hnew] using h1) a (hsub.subset (by simp [ha]))
  · change incU32 (decU32^[vs.length] k.size) = _
    rw [hi.size, hlen, decU32_iterate_mod, incU32_mod]
    simp [Nat.add_assoc]
  · change (if k.bundledStreams.length = 1 then incU32 k.matchCnt else k.matchCnt) =
      matchedCount (before ++ k.newNode slot b expected :: after) % 2 ^ 32
    rw [hi.matchCnt, hm, matchedCount_append_cons, hnew]
    by_cases h1 : k.bundledStreams.length = 1
    · rw [if_pos h1, incU32_mod]
      simp [h1]
    · rw [if_neg h1]
      simp [h1]
  · intro h1 o ho
    rcases mem_append.mp ho with ho | ho
    · exact hi.single h1 o (hsub.subset (by simp [ho]))
    · rcases mem_cons.mp ho with rfl | ho
      · rw [hnew]
        simpa using h1
      · exact hi.single h1 o (hsub.subset (by simp [ho]))
  · intro hmax
    have hb := hi.backlog hmax
    change unmatchedCount (before ++ k.newNode slot b expected :: after) ≤ k.maxUnmatchedFrames + 1
    rw [unmatchedCount_append_cons]
    have hone : (if (k.newNode slot b expected).matched then 0 else 1) ≤ 1 := by
      split_ifs <;> omega
    cases vs with
    | nil =>
      have := room rfl
      have hk : k.maxUnmatchedFrames < 255 := hmax
      rw [Nat.mod_eq_of_lt (by omega)] at this
      simp only [length_nil, add_zero] at hu
      omega
    | cons v vs =>
      simp only [length_cons] at hu
      omega

theorem QueueInv.replace {pre : List Node} {n : Node} (hi : QueueInv k)
    (hq : k.que = pre ++ n :: post) (hm : m.matched = n.matched) (qbufs : List BufDef) :
    QueueInv { k with que := pre ++ m :: post, qbufs := qbufs } := by
  have hmf := hi.matchedFirst
  rw [hq] at hmf
  refine ⟨hmf.replace hm, ?_, ?_, ?_, ?_⟩
  · exact hi.size.trans (by rw [hq]; simp)
  · exact hi.matchCnt.trans (by rw [hq, matchedCount_append_cons, matchedCount_append_cons, hm])
  · intro h1 o ho
    have hsingle := hi.single h1
    rw [hq] at hsingle
    rcases mem_append.mp ho with ho | ho
    · exact hsingle o (by simp [ho])
    · rcases mem_cons.mp ho with rfl | ho
      · rw [hm]
        exact hsingle n (by simp)
      · exact hsingle o (by simp [ho])
  · intro hmax
    have := hi.backlog hmax
    rw [hq, unmatchedCount_append_cons] at this
    change unmatchedCount (pre ++ m :: post) ≤ k.maxUnmatchedFrames + 1
    rwa [unmatchedCount_append_cons, hm]

/-- **A step keeps the invariant**, where what is completed completes first. -/
theorem CoreStep.queueInv (hP : ∀ k slot b, P k slot b → QueueInv k → CompletesFirst k slot b)
    (h : CoreStep P c e k k') (hi : QueueInv k) : QueueInv k' := by
  cases h with
  | reject => exact ⟨hi.matchedFirst, hi.size, hi.matchCnt, hi.single, hi.backlog⟩
  | comp bundled index admitted step =>
    cases step with
    | duplicate found filled => exact hi.replace found.que (adopt_matched _ _) _
    | store found empty stored unmatched =>
      exact hi.replace found.que (unmatched.trans found.unmatched.symm) k.qbufs
    | complete found empty stored matched kept oldest =>
      have hfirst := hP _ _ _ admitted hi
      exact hi.complete found matched
        (hfirst.kept found (stored.lacksOnly empty matched) kept) oldest _
    | refuse evict => exact hi.refuse evict _
    | enqueue expected cut passed room => exact hi.enqueue expected cut room _
  | remove que head disposal => exact disposal.queueInv (hi.without que)
  | removeType camType que =>
    have hw := @QueueInv.without k [] _ _ hi que
    exact ⟨hw.matchedFirst, hw.size, hw.matchCnt, hw.single, hw.backlog⟩

theorem run_queueInv {es : List Event}
    (hP : ∀ k slot b, P k slot b → QueueInv k → CompletesFirst k slot b)
    (h : Run (CoreStep P c) es k k') (hi : QueueInv k) : QueueInv k' :=
  h.invariant (fun _ _ _ hstep hk => hstep.queueInv hP hk) hi

end Steps

/-! ## The loops end -/

section Termination

variable {P : Core → ℕ → BufInfo → Prop} {c : ChannelId} {x y : Ctx}

theorem chanRun_core_run {es : List Event} (h : Run (ChanStep P c) es x y) :
    ∃ fs, Run (CoreStep P c) fs x.ch.core y.ch.core := by
  induction h with
  | nil x => exact ⟨[], .nil _⟩
  | cons hstep _ ih =>
    obtain ⟨es, -, hr⟩ := hstep.core_run
    obtain ⟨fs, hr'⟩ := ih
    exact ⟨es ++ fs, hr.append hr'⟩

theorem Quietly.queueInv (h : Quietly (fun _ _ _ => False) c x y) (hi : QueueInv x.ch.core) :
    QueueInv y.ch.core := by
  obtain ⟨es, -, hr⟩ := h
  obtain ⟨fs, hr'⟩ := chanRun_core_run hr
  exact run_queueInv (fun _ _ _ hf => absurd hf id) hr' hi

theorem QueueInv.head {k : Core} (hi : QueueInv k) (hc : 0 < k.matchCnt) :
    ∃ n rest, k.que = n :: rest ∧ n.matched = true := by
  refine hi.matchedFirst.head ?_
  rw [hi.matchCnt] at hc
  by_contra h0
  rw [Nat.le_zero.mp (not_lt.mp h0)] at hc
  simp at hc

theorem drop_length {n : Node} {rest : List Node} (hq : x.ch.queue.que = n :: rest)
    (hn : n.matched = true) : (superbufDrop x).ch.queue.que = rest := by
  unfold superbufDrop
  cases hd : superbufDequeueInternal true x with
  | mk o y =>
    cases o with
    | none =>
      rcases (dequeueInternal_none hd).2 with hnil | ⟨-, n', rest', hq', hn'⟩
      · simp [hq] at hnil
      · rw [hq] at hq'
        obtain ⟨rfl, -⟩ := cons.inj hq'
        simp [hn] at hn'
    | some node =>
      obtain ⟨rest', hq', -, hch, -⟩ := dequeueInternal_some hd
      rw [hq] at hq'
      obtain ⟨-, rfl⟩ := cons.inj hq'
      simp [Ctx.qbuf, Channel.qbuf, hch, Channel.dequeued]

/-- **The overflow and the skip loop end**, for every mark. -/
theorem dropAbove_ok (mark : ℕ) (hi : QueueInv x.ch.core) :
    ∃ y, superbufDropAbove mark x = .ok y := by
  -- the head is matched while the guard holds, so each round takes a node out
  have hround : ∀ z : Ctx, decide (mark < z.ch.queue.matchCnt) = true → QueueInv z.ch.core →
      QueueInv (superbufDrop z).ch.core ∧
        (superbufDrop z).ch.queue.que.length < z.ch.queue.que.length := by
    intro z hz hiz
    have hpos : 0 < z.ch.core.matchCnt := by
      have : mark < z.ch.queue.matchCnt := by simpa using hz
      exact Nat.lt_of_le_of_lt (Nat.zero_le _) this
    obtain ⟨n, rest, hq, hn⟩ := hiz.head hpos
    refine ⟨(drop_quietly (c := 0) z).queueInv hiz, ?_⟩
    have hq' : z.ch.queue.que = n :: rest := hq
    rw [drop_length hq' hn, hq']
    simp
  obtain ⟨y, hy⟩ := whileLoop_isSome_of_variant (I := fun x : Ctx => QueueInv x.ch.core)
    (fun x => x.ch.queue.que.length) hround hi le_rfl
  exact ⟨y, by unfold superbufDropAbove; rw [hy]⟩

theorem overflow_ok (hi : QueueInv x.ch.core) : ∃ y, superbufBufdoneOverflow x = .ok y := by
  unfold superbufBufdoneOverflow
  split_ifs
  · exact ⟨x, rfl⟩
  · exact dropAbove_ok _ hi

theorem skip_ok (hi : QueueInv x.ch.core) : ∃ y, superbufSkip x = .ok y := by
  unfold superbufSkip
  split_ifs
  · exact ⟨x, rfl⟩
  · exact dropAbove_ok _ hi

theorem superbufEvict_ok {s : Scan} (hi : QueueInv x.ch.core)
    (hs : s.unmatchedBundles = unmatchedCount x.ch.queue.que % 2 ^ 8) :
    ∃ r, superbufEvict s x = .ok r := by
  have hb : x.ch.queue.attr.maxUnmatchedFrames < 255 →
      unmatchedCount x.ch.queue.que ≤ x.ch.queue.attr.maxUnmatchedFrames + 1 := hi.backlog
  have hround : ¬x.ch.queue.attr.maxUnmatchedFrames < s.unmatchedBundles - 1 := by
    have hle : unmatchedCount x.ch.queue.que % 2 ^ 8 ≤ unmatchedCount x.ch.queue.que :=
      Nat.mod_le _ _
    have hlt : unmatchedCount x.ch.queue.que % 2 ^ 8 < 2 ^ 8 := Nat.mod_lt _ (by decide)
    omega
  unfold superbufEvict
  dsimp only
  simp only [if_neg hround]
  split_ifs with hmax
  · split
    · exact ⟨_, rfl⟩
    · split
      · exact ⟨_, rfl⟩
      · exact ⟨_, rfl⟩
  · exact ⟨_, rfl⟩

theorem superbufInsert_ok (env : Env) (c : ChannelId) (slot : ℕ) (b : BufInfo) {s : Scan}
    (hi : QueueInv x.ch.core)
    (hs : s.unmatchedBundles = unmatchedCount x.ch.queue.que % 2 ^ 8) :
    ∃ y, superbufInsert env c slot b s x = .ok y := by
  unfold superbufInsert
  by_cases hroom : x.ch.queue.attr.maxUnmatchedFrames < s.unmatchedBundles ∧ s.lastBuf = none
  · exact ⟨_, if_pos hroom⟩
  · rw [if_neg hroom]
    obtain ⟨⟨ib, z⟩, hz⟩ := superbufEvict_ok hi hs
    rw [hz]
    change ∃ y, (if (env.newBuf && env.newNode) = true then _ else _) = Except.ok y
    split_ifs
    · exact ⟨_, rfl⟩
    · exact ⟨_, rfl⟩

/-- **No freed node is read** when a buffer arrives. -/
theorem superbufComp_ok (env : Env) (c : ChannelId) (slot : ℕ) (b : BufInfo)
    (hi : QueueInv x.ch.core) : ∃ y, superbufComp env c slot b x = .ok y := by
  unfold superbufComp
  rw [queue_scan_eq]
  dsimp only
  split_ifs with hany
  · exact ⟨_, rfl⟩
  · refine superbufInsert_ok env c slot b hi ?_
    rw [passed_eq_self (by simpa using hany)]

/-- **The release after a match** only takes out unmatched nodes: those from the first older one
on, up to the node that was found. -/
theorem released_unmatched {l : ℕ} (hi : QueueInv x.ch.core)
    (hl : (x.ch.queue.scan slot b).lastBuf = some l) :
    ∀ n ∈ (x.ch.queue.que.take (x.ch.queue.scan slot b).pos).drop l, n.matched = false := by
  rw [queue_scan_eq] at hl ⊢
  dsimp only at hl ⊢
  have hprefix : passed (accepts x.ch.queue.attr.priority slot b) x.ch.queue.que <+:
      x.ch.queue.que := takeWhile_prefix _
  rw [← prefix_iff_eq_take.mp hprefix]
  obtain ⟨as, v, bs, hcut, rfl, -, hv⟩ := findIdx?_cut hl
  have hv' : v.matched = false := by
    simp only [Node.older, Bool.and_eq_true, Bool.not_eq_true'] at hv
    exact hv.1
  have hmf : MatchedFirst (as ++ v :: bs) := hcut ▸ hi.matchedFirst.sublist hprefix.sublist
  rw [hcut, drop_left' rfl]
  intro n hn
  rcases mem_cons.mp hn with rfl | hn
  · exact hv'
  · exact (matchedFirst_append_cons.mp hmf).2.2 hv' n hn

end Termination

end MmCamera
