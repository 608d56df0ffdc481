import MidoCamera.Stack.QueueOrder

/-!
# The counter of a low priority queue

In a low priority queue a metadata buffer may wait in a node of its own for image buffers of an
earlier frame, and the node then takes their frame. The scan still compares frames as if the nodes
stood in their order, so a node can be completed behind an unmatched one. The head is then not
matched while the counter is positive, and the overflow loop, which only dequeues a matched head,
runs for ever.
-/

namespace MmCamera

open Loop

/-- On channel `c`, what is completed completes first. -/
def completesFirstAt (c : ChannelId) : ChannelId → Core → ℕ → BufInfo → Prop :=
  fun d k slot b => d = c → CompletesFirst k slot b

/-- What is completed completes first when the first unmatched node the scan passes is of an
earlier frame. -/
theorem completesFirst_of_passed {k : Core} {slot : ℕ} {b : BufInfo}
    (h : ((passed (accepts k.priority slot b) k.que).find? fun o => !o.matched).all
      (·.frameIdx < b.frameIdx) = true) : CompletesFirst k slot b := by
  intro pre n post found _ o ho
  have hpass : passed (accepts k.priority slot b) k.que = pre := by
    have hstop : stops (accepts k.priority slot b) n = true := by
      simp [stops, found.unmatched, found.accepted]
    rw [found.que, passed, List.takeWhile_append_of_pos fun o ho => by simpa using found.passed o ho]
    simp [hstop]
  rw [hpass, ho] at h
  simpa using h

/-! ## The queue that hangs -/

/-- A channel that bundles a preview, a snapshot and a metadata stream, in a low priority queue. -/
def lowPriorityStreams : System :=
  .started fun _ => .started [1, 2, 3] (.burst .low false)
    [.own 1 .preview, .own 2 .snapshot, .own 3 .metadata]

/-- Metadata of the frames 8 and 10 waits; a buffer of frame 7 joins the first, and two of frame 6
complete the second. -/
def lowPriorityOps : List Op :=
  [.command .ample 0 (.dataCb (metaBuf 100 3 8)), .command .ample 0 (.dataCb (metaBuf 101 3 10)),
    .command .ample 0 (.dataCb (imageBuf 102 2 7)), .command .ample 0 (.dataCb (imageBuf 103 2 6)),
    .command .ample 0 (.dataCb (imageBuf 104 1 6))]

/-- **A low priority queue hangs**: after five buffers the counter is positive, the head of the
queue is not matched, and neither the overflow loop with a mark of zero nor a request returns. -/
theorem lowPriority_hangs :
    ∃ t, Run Op.Step lowPriorityOps lowPriorityStreams t ∧
      (lowPriorityStreams.ch 0).queue.attr.priority = .low ∧
      (t.ch 0).queue.matchCnt = 1 ∧
      (t.ch 0).queue.que.head?.map Node.matched = some false ∧
      (∀ x, superbufDropAbove 0 (t.ctx 0) ≠ .ok x) ∧
      processStreamBuf .ample 0 (.reqDataCb .superBuf 1 0) t = .error .hang := by
  refine ⟨_, .cons rfl (.cons rfl (.cons rfl (.cons rfl (.cons rfl (.nil _))))), rfl, rfl, rfl,
    ?_, rfl⟩
  intro x hx
  cases hx

/-! ## The queue that does not -/

/-- **The counter of a superbuf queue**, of any priority, in every state reached by a run in which
what is completed on the channel completes first: it is the number of matched nodes, the head is
matched whenever it is positive, and the overflow and the skip loop end for every mark; and every
further command that keeps to the condition returns. -/
theorem superbufQueue_counted {ops : List Op} {s t : System} {c : ChannelId}
    (empty : (s.ch c).queue.Empty) (run : Run (Op.StepUnder (completesFirstAt c)) ops s t) :
    QueueGuarantee t c ∧ ∀ env cmd,
      (∀ b, cmd = .dataCb b → Admits CompletesFirst (t.ctx c) b) →
        ∃ u, processStreamBuf env c cmd t = .ok u := by
  obtain ⟨es, -, -, hrun⟩ := opRun_core_run run c
  have hi : QueueInv (t.ch c).core :=
    run_queueInv (fun k slot b hk _ => hk rfl) hrun empty.queueInv
  refine ⟨hi.guarantee, fun env cmd hadm => ?_⟩
  exact processStreamBuf_ok (P := CompletesFirst) (fun k slot b hk _ => hk) env cmd hadm hi

/-- Metadata of frame 8 waits, and two buffers of frame 7 complete its node. -/
theorem superbufQueue_counted_lowPriority :
    ∃ t, Run (Op.StepUnder (completesFirstAt 0))
        [.command .ample 0 (.dataCb (metaBuf 100 3 8)),
          .command .ample 0 (.dataCb (imageBuf 101 2 7)),
          .command .ample 0 (.dataCb (imageBuf 102 1 7))] lowPriorityStreams t ∧
      (t.ch 0).queue.que.map Node.matched = [true] ∧ QueueGuarantee t 0 := by
  obtain ⟨t, run, hque⟩ : ∃ t, Run (Op.StepUnder (completesFirstAt 0))
      [.command .ample 0 (.dataCb (metaBuf 100 3 8)),
        .command .ample 0 (.dataCb (imageBuf 101 2 7)),
        .command .ample 0 (.dataCb (imageBuf 102 1 7))] lowPriorityStreams t ∧
      (t.ch 0).queue.que.map Node.matched = [true] :=
    ⟨_, .cons (.dataCb rfl rfl (fun _ => completesFirst_of_passed rfl) rfl)
      (.cons (.dataCb rfl rfl (fun _ => completesFirst_of_passed rfl) rfl)
        (.cons (.dataCb rfl rfl (fun _ => completesFirst_of_passed rfl) rfl) (.nil _))), rfl⟩
  exact ⟨t, run, hque, (superbufQueue_counted ⟨rfl, rfl, rfl⟩ run).1⟩

end MmCamera
