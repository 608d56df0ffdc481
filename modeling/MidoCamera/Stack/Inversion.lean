import MidoCamera.Stack.Arrival

/-!
# What a step does to one queue

A step of the system, seen from the queue of one channel: buffers arrive, and nodes leave. A
synced dequeue takes its nodes out first and disposes of them afterwards; on one queue this is
the same as one node after the other.
-/

namespace MmCamera

open Loop List

variable {P : Core → ℕ → BufInfo → Prop} {frame : ℕ} {info : NodeInfo} {s t : System}

/-! ## The steps of one queue -/

def Core.slotOf (k : Core) (s : StreamId) : Option ℕ := k.bundledStreams.findIdx? (s == ·)

/-- The queue once a node has been dequeued. -/
def Core.without (k : Core) (n : Node) (que : List Node) : Core :=
  { k with
    que := que
    size := decU32 k.size
    matchCnt := if n.matched then decU32 k.matchCnt else k.matchCnt }

/-- Where the buffers of a dequeued node go: back to their streams, to the callback thread, or
back because there is no callback. -/
inductive Disposal (n : Node) (k : Core) : Core → Prop
  | returned : Disposal n k { k with qbufs := k.qbufs ++ n.bufs }
  | called {sb : SuperBuf} (matched : n.matched = true)
      (bufs : sb.bufs = n.superBuf.map (·.map BufInfo.buf)) :
      Disposal n k { k with sent := k.sent ++ [n], cbQueue := k.cbQueue ++ [sb] }
  | uncalled (matched : n.matched = true) :
      Disposal n k { k with sent := k.sent ++ [n], qbufs := k.qbufs ++ n.bufs }

/-- What a step of the system does to the queue of one channel. -/
inductive CoreStep (P : Core → ℕ → BufInfo → Prop) (c : ChannelId) : Event → Core → Core → Prop
  | reject {k : Core} {b : BufInfo} {slot : ℕ} (bundled : k.slotOf b.streamId = some slot) :
      CoreStep P c (.arrive b) k { k with qbufs := k.qbufs ++ [b.buf] }
  | comp {k k' : Core} {fs fs' : FrameSync} {b : BufInfo} {slot : ℕ}
      (bundled : k.slotOf b.streamId = some slot) (index : b.frameIdx ≠ 0)
      (admitted : P k slot b) (step : CompStep c slot b k fs k' fs') :
      CoreStep P c (.arrive b) k k'
  | remove {k k' : Core} {before after : List Node} {n : Node}
      (que : k.que = before ++ n :: after) (head : n.matched = true ∨ before = [])
      (disposal : Disposal n (k.without n (before ++ after)) k') : CoreStep P c .quiet k k'
  | removeType {k : Core} {rest : List Node} {n : Node} (camType : StreamType)
      (que : k.que = n :: rest) :
      CoreStep P c .lossy k
        { k.without n rest with qbufs := k.qbufs ++ n.bufsOfType camType }

theorem CoreStep.removeHead {c : ChannelId} {k k' : Core}
    {rest : List Node} {n : Node} (que : k.que = n :: rest)
    (disposal : Disposal n (k.without n rest) k') : CoreStep P c .quiet k k' :=
  @CoreStep.remove P c k k' [] rest n que (.inr rfl) disposal

def loud (es : List Event) : List Event := es.filter (· ≠ .quiet)

@[simp] theorem loud_append (es fs : List Event) : loud (es ++ fs) = loud es ++ loud fs :=
  filter_append _ _

theorem loud_of_quiet {es : List Event} (h : ∀ e ∈ es, e = .quiet) : loud es = [] := by
  refine filter_eq_nil_iff.mpr fun e he => ?_
  simp [h e he]

theorem arrivals_loud (es : List Event) : arrivals (loud es) = arrivals es := by
  induction es with
  | nil => rfl
  | cons e es ih =>
    cases e <;> simp_all [loud, arrivals]

theorem lossy_mem_loud {es : List Event} : Event.lossy ∈ loud es ↔ Event.lossy ∈ es := by
  simp [loud]

theorem dequeued_core (ch : Channel) (n : Node) (rest : List Node) :
    (ch.dequeued n rest).core = ch.core.without n rest := rfl

/-- A step of a handler on its own queue is a step of that queue, or none. -/
theorem ChanStep.core_run {c : ChannelId} {e : Event} {x y : Ctx} (h : ChanStep P c e x y) :
    ∃ es, loud es = loud [e] ∧ Run (CoreStep P c) es x.ch.core y.ch.core := by
  cases h with
  | idle core _ =>
    rw [core]
    exact ⟨[], rfl, .nil _⟩
  | @reject _ b _ bundled => exact ⟨[.arrive b], rfl, .one (.reject bundled)⟩
  | @comp _ _ _ b _ bundled index admitted ok =>
    exact ⟨[.arrive b], rfl, .one (.comp bundled index admitted (superbufComp_cases ok))⟩
  | drop deq =>
    obtain ⟨rest, hque, -, hch, -⟩ := dequeueInternal_some deq
    refine ⟨[.quiet], rfl, .one (.removeHead hque ?_)⟩
    rw [Ctx.qbuf, hch, ← dequeued_core]
    exact .returned
  | dropType camType deq =>
    obtain ⟨rest, hque, -, hch, -⟩ := dequeueInternal_some deq
    refine ⟨[.lossy], rfl, .one ?_⟩
    rw [Ctx.qbuf, hch]
    exact .removeType camType hque

/-! ### The synced dequeue -/

def nodesOf (d : ChannelId) (info : NodeInfo) : List Node :=
  (info.filter (·.1 = d)).map Prod.snd

theorem nodesOf_cons (d c : ChannelId) (n : Node) (info : NodeInfo) :
    nodesOf d ((c, n) :: info) = if c = d then n :: nodesOf d info else nodesOf d info := by
  unfold nodesOf
  by_cases h : c = d <;> simp [h]

/-- Matched nodes of one frame are taken out of a queue, one after the other. -/
inductive Removes (frame : ℕ) : List Node → Core → Core → Prop
  | nil (k : Core) : Removes frame [] k k
  | cons {k k' : Core} {before after ns : List Node} {n : Node}
      (que : k.que = before ++ n :: after) (matched : n.matched = true)
      (index : n.frameIdx = frame) (rest : Removes frame ns (k.without n (before ++ after)) k') :
      Removes frame (n :: ns) k k'

/-- The nodes go where `Disposal` allows, one after the other. -/
inductive Disposals : List Node → Core → Core → Prop
  | nil (k : Core) : Disposals [] k k
  | cons {k k' k'' : Core} {n : Node} {ns : List Node} (head : Disposal n k k')
      (rest : Disposals ns k' k'') : Disposals (n :: ns) k k''

theorem Removes.disposal {ns : List Node} {k k₁ k₂ : Core} {n : Node}
    (h : Removes frame ns k k₁) (hd : Disposal n k₁ k₂) :
    ∃ m, Disposal n k m ∧ Removes frame ns m k₂ := by
  induction h with
  | nil k => exact ⟨k₂, hd, .nil _⟩
  | @cons k k' before after ns n' que matched index _ ih =>
    obtain ⟨m, hm, hrest⟩ := ih hd
    cases hm with
    | returned => exact ⟨_, .returned, .cons que matched index hrest⟩
    | called hn bufs => exact ⟨_, .called hn bufs, .cons que matched index hrest⟩
    | uncalled hn => exact ⟨_, .uncalled hn, .cons que matched index hrest⟩

theorem removes_run {c : ChannelId}
    {ns : List Node} {k k₁ k₂ : Core} (h : Removes frame ns k k₁) (hd : Disposals ns k₁ k₂) :
    ∃ es, loud es = [] ∧ Run (CoreStep P c) es k k₂ := by
  induction ns generalizing k k₁ with
  | nil =>
    cases h
    cases hd
    exact ⟨[], rfl, .nil _⟩
  | cons n ns ih =>
    cases h with
    | cons que matched _ hrest =>
      cases hd with
      | cons head rest =>
        obtain ⟨m, hm, hrest'⟩ := hrest.disposal head
        obtain ⟨es, hes, hr⟩ := ih hrest' rest
        exact ⟨.quiet :: es, by simpa [loud] using hes, .cons (.remove que (.inl matched) hm) hr⟩

theorem dequeueFrameFrom_some {que : List Node} {n : Node} {rest : List Node}
    (h : dequeueFrameFrom frame que = some (n, rest)) :
    ∃ before after, que = before ++ n :: after ∧ rest = before ++ after ∧ n.matched = true ∧
      n.frameIdx = frame := by
  induction que generalizing n rest with
  | nil => simp [dequeueFrameFrom] at h
  | cons m que ih =>
    unfold dequeueFrameFrom at h
    split_ifs at h with hm
    · simp only [Option.some.injEq, Prod.mk.injEq] at h
      obtain ⟨rfl, rfl⟩ := h
      simp only [Bool.and_eq_true, beq_iff_eq] at hm
      exact ⟨[], que, rfl, rfl, hm.1, hm.2⟩
    · obtain ⟨⟨n', rest'⟩, hrec, heq⟩ := Option.map_eq_some_iff.mp h
      simp only [Prod.mk.injEq] at heq
      obtain ⟨rfl, rfl⟩ := heq
      obtain ⟨before, after, rfl, rfl, hn, hf⟩ := ih hrec
      exact ⟨m :: before, after, rfl, rfl, hn, hf⟩

theorem dequeueFrameFrom_none {que : List Node} (h : dequeueFrameFrom frame que = none) :
    ∀ n ∈ que, n.matched = true → n.frameIdx ≠ frame := by
  induction que with
  | nil => simp
  | cons m que ih =>
    unfold dequeueFrameFrom at h
    split_ifs at h with hm
    simp only [Option.map_eq_none_iff] at h
    simp only [Bool.and_eq_true, beq_iff_eq, not_and] at hm
    intro n hn
    rcases mem_cons.mp hn with rfl | hn
    · exact hm
    · exact ih h n hn

/-- **A dequeue of a frame** takes one matched node of that frame out of the queue, or finds
none. -/
theorem dequeueFrameInternal_cases (frame : ℕ) (q : Queue) :
    (∃ n before after, q.que = before ++ n :: after ∧ n.matched = true ∧ n.frameIdx = frame ∧
      superbufDequeueFrameInternal frame q = (some n,
        { q with
          que := before ++ after, size := decU32 q.size, matchCnt := decU32 q.matchCnt })) ∨
      (∀ n ∈ q.que, n.matched = true → n.frameIdx ≠ frame) ∧
        superbufDequeueFrameInternal frame q = (none, q) := by
  unfold superbufDequeueFrameInternal
  cases h : dequeueFrameFrom frame q.que with
  | some r =>
    obtain ⟨n, rest⟩ := r
    obtain ⟨before, after, hq, rfl, hm, hf⟩ := dequeueFrameFrom_some h
    exact .inl ⟨n, before, after, hq, hm, hf, rfl⟩
  | none => exact .inr ⟨dequeueFrameFrom_none h, rfl⟩

theorem frameSyncDequeue_removes {js : List CamIdx} (h : frameSyncDequeue frame js s = (info, t)) :
    t.fs = s.fs ∧ ∀ d, Removes frame (nodesOf d info) (s.ch d).core (t.ch d).core := by
  induction js generalizing s info with
  | nil =>
    cases h
    exact ⟨rfl, fun d => .nil _⟩
  | cons j js ih =>
    unfold frameSyncDequeue at h
    cases hc : s.fs.chObj j with
    | none =>
      rw [hc] at h
      exact ih h
    | some c =>
      rw [hc] at h
      rcases dequeueFrameInternal_cases frame (s.ch c).queue with
        ⟨n, before, after, hq, hm, hf, hdeq⟩ | ⟨-, hdeq⟩
      · simp only [hdeq] at h
        cases hrec : frameSyncDequeue frame js (s.modify c fun ch =>
            { ch with queue := { (s.ch c).queue with
              que := before ++ after, size := decU32 (s.ch c).queue.size
              matchCnt := decU32 (s.ch c).queue.matchCnt } }) with
        | mk info' t' =>
          rw [hrec] at h
          simp only [Prod.mk.injEq] at h
          obtain ⟨rfl, rfl⟩ := h
          obtain ⟨hfs, hrem⟩ := ih hrec
          refine ⟨hfs, fun d => ?_⟩
          have hd := hrem d
          rw [nodesOf_cons]
          by_cases hcd : c = d
          · subst hcd
            rw [if_pos rfl]
            refine .cons hq hm hf ?_
            rw [modify_ch] at hd
            have hcore : (s.ch c).core.without n (before ++ after) =
                Channel.core { s.ch c with queue := { (s.ch c).queue with
                  que := before ++ after, size := decU32 (s.ch c).queue.size
                  matchCnt := decU32 (s.ch c).queue.matchCnt } } := by
              simp only [Core.without, hm, if_pos, Channel.core]
            rw [hcore]
            exact hd
          · rw [if_neg hcd]
            rwa [modify_ch_ne _ fun h => hcd h.symm] at hd
      · simp only [hdeq] at h
        exact ih h

theorem Removes.matched {ns : List Node} {k k' : Core} (h : Removes frame ns k k') :
    ∀ n ∈ ns, n.matched = true ∧ n.frameIdx = frame := by
  induction h with
  | nil => simp
  | cons _ matched index _ ih =>
    intro n hn
    rcases mem_cons.mp hn with rfl | hn
    · exact ⟨matched, index⟩
    · exact ih n hn

theorem sendNode_disposal (cbNode : Bool) {n : Node} (hn : n.matched = true) (ch : Channel) :
    Disposal n ch.core (sendNode cbNode n ch).core := by
  unfold sendNode
  dsimp only
  split_ifs
  · exact .called hn rfl
  · exact .uncalled hn

@[simp] theorem sendSuperBuf_fs (env : Env) (k : ℕ) (info : NodeInfo) (s : System) :
    (sendSuperBuf env k info s).fs = s.fs := by
  induction info generalizing k s with
  | nil => rfl
  | cons p info ih => exact ih _ _

theorem sendSuperBuf_disposals (env : Env) (d : ChannelId) :
    ∀ (k : ℕ) (s : System), (∀ n ∈ nodesOf d info, n.matched = true) →
      Disposals (nodesOf d info) (s.ch d).core ((sendSuperBuf env k info s).ch d).core := by
  induction info with
  | nil => intro k s _; exact .nil _
  | cons p info ih =>
    obtain ⟨c, n⟩ := p
    intro k s hm
    rw [nodesOf_cons] at hm ⊢
    unfold sendSuperBuf
    by_cases hcd : c = d
    · subst hcd
      rw [if_pos rfl] at hm ⊢
      have hrest := ih (k + 1) (s.modify c (sendNode (env.cbNode k) n))
        fun m hmem => hm m (mem_cons_of_mem _ hmem)
      rw [modify_ch] at hrest
      exact .cons (sendNode_disposal _ (hm n mem_cons_self) _) hrest
    · rw [if_neg hcd] at hm ⊢
      have hrest := ih (k + 1) (s.modify c (sendNode (env.cbNode k) n)) hm
      rwa [modify_ch_ne _ fun h => hcd h.symm] at hrest

@[simp] theorem nodesQbuf_fs (info : NodeInfo) (s : System) : (nodesQbuf info s).fs = s.fs := by
  unfold nodesQbuf
  induction info generalizing s with
  | nil => rfl
  | cons p info ih => exact ih _

theorem nodesQbuf_disposals (d : ChannelId) (info : NodeInfo) (s : System) :
    Disposals (nodesOf d info) (s.ch d).core ((nodesQbuf info s).ch d).core := by
  unfold nodesQbuf
  induction info generalizing s with
  | nil => exact .nil _
  | cons p info ih =>
    obtain ⟨c, n⟩ := p
    rw [nodesOf_cons, foldl_cons]
    have hrest := ih (s.modify c fun ch => ch.qbuf n.bufs)
    by_cases hcd : c = d
    · subst hcd
      rw [if_pos rfl]
      rw [modify_ch] at hrest
      exact .cons .returned hrest
    · rw [if_neg hcd]
      rwa [modify_ch_ne _ fun h => hcd h.symm] at hrest

/-- **A synced dequeue**, with the dispatch of what it collects. -/
theorem frameSyncCollect_run {u : System}
    (env : Env) (k : ℕ) (d : ChannelId) (h : frameSyncCollect s = (info, t))
    (hcore : (u.ch d).core = (t.ch d).core) :
    ∃ es, loud es = [] ∧
      Run (CoreStep P d) es (s.ch d).core ((sendSuperBuf env k info u).ch d).core := by
  unfold frameSyncCollect at h
  dsimp only at h
  by_cases h0 : frameSyncFindMatched false s.fs = 0
  · rw [if_pos h0] at h
    cases h
    exact ⟨[], rfl, by rw [sendSuperBuf, hcore]; exact .nil _⟩
  · rw [if_neg h0] at h
    cases hdeq : frameSyncDequeue (frameSyncFindMatched false s.fs)
        (finRange maxNumCameraPerBundle) s with
    | mk info' t' =>
      rw [hdeq] at h
      obtain ⟨-, hrem⟩ := frameSyncDequeue_removes hdeq
      dsimp only at h
      by_cases hlen : info'.length =
          (frameSyncRemove (frameSyncFindMatched false s.fs) t'.fs).numCam
      · rw [if_pos hlen] at h
        simp only [Prod.mk.injEq] at h
        obtain ⟨rfl, rfl⟩ := h
        have hsend := sendSuperBuf_disposals env d k u fun n hn => ((hrem d).matched n hn).1
        rw [hcore] at hsend
        exact removes_run (hrem d) hsend
      · rw [if_neg hlen] at h
        simp only [Prod.mk.injEq] at h
        obtain ⟨rfl, rfl⟩ := h
        rw [sendSuperBuf, hcore]
        exact removes_run (hrem d) (nodesQbuf_disposals d info'
          { t' with fs := frameSyncRemove (frameSyncFindMatched false s.fs) t'.fs })

/-! ### Runs of one queue -/

def eventsOf (d : ChannelId) (ls : List (ChannelId × Event)) : List Event :=
  (ls.filter (·.1 = d)).map Prod.snd

/-- **The inversion of a step of the system**: on the queue of each channel it is a run of
steps, with the events of that channel. -/
theorem SysStep.core_run {P : ChannelId → Core → ℕ → BufInfo → Prop} {l : ChannelId × Event}
    (h : SysStep P l s t) (d : ChannelId) :
    ∃ es, loud es = loud (eventsOf d [l]) ∧
      Run (CoreStep (P d) d) es (s.ch d).core (t.ch d).core := by
  cases h with
  | @chan _ c e x step =>
    by_cases hcd : c = d
    · subst hcd
      obtain ⟨es, hes, hr⟩ := step.core_run
      refine ⟨es, by simpa [eventsOf] using hes, ?_⟩
      rw [put_ch]
      exact hr
    · rw [put_ch_ne _ fun h => hcd h.symm]
      exact ⟨[], by simp [eventsOf, hcd], .nil _⟩
  | @send _ c node x ch cbNode deq core =>
    have hquiet : loud (eventsOf d [(c, Event.quiet)]) = [] :=
      loud_of_quiet fun e he => by
        simp only [eventsOf, mem_map, mem_filter, mem_singleton] at he
        obtain ⟨p, ⟨rfl, -⟩, rfl⟩ := he
        rfl
    rw [hquiet]
    by_cases hcd : c = d
    · subst hcd
      obtain ⟨rest, hque, hm, hch, -⟩ := dequeueInternal_some deq
      refine ⟨[.quiet], rfl, .one (.removeHead hque ?_)⟩
      rw [put_ch]
      have hsend := sendNode_disposal cbNode (hm rfl) ch
      rw [core, hch, dequeued_core] at hsend
      exact hsend
    · rw [put_ch_ne _ fun h => hcd h.symm]
      exact ⟨[], rfl, .nil _⟩
  | @sync _ t u c info env k collected core fs =>
    have hquiet : loud (eventsOf d [(c, Event.quiet)]) = [] :=
      loud_of_quiet fun e he => by
        simp only [eventsOf, mem_map, mem_filter, mem_singleton] at he
        obtain ⟨p, ⟨rfl, -⟩, rfl⟩ := he
        rfl
    rw [hquiet]
    exact frameSyncCollect_run env k d collected (core d)

theorem eventsOf_cons (d : ChannelId) (l : ChannelId × Event) (ls : List (ChannelId × Event)) :
    eventsOf d (l :: ls) = eventsOf d [l] ++ eventsOf d ls := by
  unfold eventsOf
  by_cases h : l.1 = d <;> simp [h]

/-- A run of the system is a run on the queue of each channel. -/
theorem sysRun_core_run {P : ChannelId → Core → ℕ → BufInfo → Prop}
    {ls : List (ChannelId × Event)} (h : Run (SysStep P) ls s t) (d : ChannelId) :
    ∃ es, loud es = loud (eventsOf d ls) ∧
      Run (CoreStep (P d) d) es (s.ch d).core (t.ch d).core := by
  induction h with
  | nil s => exact ⟨[], rfl, .nil _⟩
  | @cons l ls s t u hstep _ ih =>
    obtain ⟨es, hes, hr⟩ := hstep.core_run d
    obtain ⟨fs, hfs, hr'⟩ := ih
    refine ⟨es ++ fs, ?_, hr.append hr'⟩
    rw [eventsOf_cons, loud_append, loud_append, hes, hfs]

end MmCamera
