import MidoCamera.Stack.SyncAgreement

/-!
# Frame sync under membership change

Channels stop, start again with an empty queue, and leave or join the frame sync while others
stream. The first registration and the last departure clear the table; any other leaves its
entries as they are. So an entry that was matched for fewer cameras is still matched when one
joins, and the bits of a camera that has left stay set. When no such entry is there at the time,
the agreement of the table holds throughout.
-/

namespace MmCamera

open Loop

/-- What happens in a run with changes of membership: the work of the channels, and what
`mm_channel_start` and `mm_channel_stop` do to the frame sync and to the queue of their channel. -/
inductive Membership
  | work (l : ChannelId × Event)
  | register (c : ChannelId)
  | unregister (c : ChannelId)
  | restart (c : ChannelId) (ch : Channel)

/-- The steps of a run with changes of membership. A channel that is not registered may be
started anew, with any attributes and an empty queue. -/
inductive MembershipStep (P : ChannelId → Core → ℕ → BufInfo → Prop) :
    Membership → System → System → Prop
  | work {s t : System} {l : ChannelId × Event} (step : SysStep P l s t) :
      MembershipStep P (.work l) s t
  | register {s : System} (c : ChannelId) :
      MembershipStep P (.register c) s { s with fs := frameSyncRegisterChannel c s.fs }
  | unregister {s : System} (c : ChannelId) :
      MembershipStep P (.unregister c) s { s with fs := frameSyncUnregisterChannel c s.fs }
  | restart {s : System} {c : ChannelId} {ch : Channel} (free : ∀ j, s.fs.chObj j ≠ some c)
      (empty : ch.queue.Empty) :
      MembershipStep P (.restart c ch) s { s with ch := Function.update s.ch c ch }

/-- The condition on a change of membership: when another channel is registered, no entry is
matched; and a slot that is taken has no bit set for a frame the channel does not hold. -/
def Membership.Cond : Membership → System → Prop
  | .register c, s => JoinCond s.fs s.frames c
  | .unregister c, s => PartCond s.fs c
  | _, _ => True

/-- A step that meets the condition: on a change of membership, and on an arrival in a low
priority queue. -/
def CleanStep (e : Membership) (s t : System) : Prop :=
  e.Cond s ∧ MembershipStep (fun _ => MemberCond) e s t

/-- Every matched entry has the bits of exactly the registered channels. -/
def FrameSync.Exact (fs : FrameSync) : Prop :=
  ∀ i, (fs.node i).matched = true → ∀ j, (fs.node i).frameValid j = (fs.chObj j).isSome

/-- **A stale match.** The only camera has matched frame 7 when another joins: the frame is still
found matched, without the bit of the camera that joined, whose queue is empty. -/
theorem frameSync_stale :
    ∃ t, Run (MembershipStep anyEnqueue)
        [.register 0, .work (0, .arrive (imageBuf 100 1 7)), .register 1] syncedCameras t ∧
      ¬t.fs.Exact ∧ frameSyncFindMatched false t.fs = 7 ∧ t.fs.chObj 1 = some 1 ∧
      (t.ch 1).queue.que = [] := by
  refine ⟨_, .cons (.register 0) (.cons (.work (.chan
    (@ChanStep.comp _ 0 _ _ .ample _ 0 rfl (by decide) trivial rfl)))
    (.cons (.register 1) (.nil _))), ?_, rfl, rfl, rfl⟩
  -- the entry of frame 7 is matched, and the bit of slot 1 is not set
  intro h
  have hbit := h 0 rfl 1
  exact absurd hbit (by decide)

/-! ## Runs that meet the condition -/

section Clean

variable {s t : System} {e : Membership}

/-- **A step that meets the condition keeps the invariant.** -/
theorem CleanStep.syncInv (h : CleanStep e s t) (hi : SyncInv Set.univ s) :
    SyncInv Set.univ t := by
  obtain ⟨hcond, hstep⟩ := h
  cases hstep with
  | work step => exact step.syncInv (fun _ _ _ _ _ hk => hk) hi
  | register c => exact ⟨hi.agreement.register hcond, fun _ _ _ => trivial, hi.queues⟩
  | unregister c => exact ⟨hi.agreement.unregister hcond, fun _ _ _ => trivial, hi.queues⟩
  | @restart _ c ch free empty =>
    refine ⟨hi.agreement.mono fun j d hd => ?_, fun _ _ _ => trivial, fun d _ => ?_⟩
    · -- a channel that is registered is not the one started
      have hdc : d ≠ c := by
        rintro rfl
        exact free j hd
      intro f hf
      show f ∈ (Function.update s.ch c ch d).core.frames
      rw [Function.update_of_ne hdc]
      exact hf
    · show MemberInv (Function.update s.ch c ch d).core
      by_cases hdc : d = c
      · subst hdc
        rw [Function.update_self]
        exact empty.memberInv
      · rw [Function.update_of_ne hdc]
        exact hi.queues d trivial

/-- **Frame sync under membership change.** From an empty table and empty queues, in every state
that a run reaches whose steps meet the condition: a matched entry has the bits of exactly the
registered channels, and a matched frame that is found is matched in the queue of each of them. -/
theorem frameSync_membership {es : List Membership} (reset : s.fs = frameSyncReset)
    (empty : ∀ d, (s.ch d).queue.Empty) (run : Run CleanStep es s t) :
    t.fs.Exact ∧
      ∀ oldest, frameSyncFindMatched oldest t.fs ≠ 0 → ∀ j d, t.fs.chObj j = some d →
        ∃ n ∈ (t.ch d).queue.que, n.matched = true ∧
          n.frameIdx = frameSyncFindMatched oldest t.fs := by
  have hs : SyncInv Set.univ s := by
    refine ⟨?_, fun _ _ _ => trivial, fun d _ => (empty d).memberInv⟩
    rw [reset]
    exact .reset _
  have ht : SyncInv Set.univ t := run.invariant (fun _ _ _ hstep hi => hstep.syncInv hi) hs
  exact ⟨ht.agreement.matched, fun _ hf _ _ hd => ht.found hf hd⟩

/-- A camera joins when the frame of the only other one has been dropped, and the next frame is
matched by both. -/
theorem frameSync_membership_join :
    ∃ t, Run CleanStep
        [.register 0, .work (0, .arrive (imageBuf 100 1 7)), .work (0, .quiet), .register 1,
          .work (0, .arrive (imageBuf 101 1 8)), .work (1, .arrive (imageBuf 200 1 8))]
        syncedCameras t ∧
      frameSyncFindMatched false t.fs = 8 ∧ t.fs.Exact ∧
      ∀ j d, t.fs.chObj j = some d →
        ∃ n ∈ (t.ch d).queue.que, n.matched = true ∧ n.frameIdx = 8 := by
  obtain ⟨t, run, hf⟩ : ∃ t, Run CleanStep
      [.register 0, .work (0, .arrive (imageBuf 100 1 7)), .work (0, .quiet), .register 1,
        .work (0, .arrive (imageBuf 101 1 8)), .work (1, .arrive (imageBuf 200 1 8))]
      syncedCameras t ∧ frameSyncFindMatched false t.fs = 8 := by
    refine ⟨_, .cons ⟨fun h0 => absurd rfl h0, .register 0⟩ (.cons ⟨trivial, .work (.chan
      (@ChanStep.comp _ 0 _ _ .ample _ 0 rfl (by decide) (fun h => nomatch h) rfl))⟩
      (.cons ⟨trivial, .work (.chan (@ChanStep.drop _ 0 _ _ true _ rfl))⟩
      (.cons ⟨?_, .register 1⟩ (.cons ⟨trivial, .work (.chan
      (@ChanStep.comp _ 0 _ _ .ample _ 0 rfl (by decide) (fun h => nomatch h) rfl))⟩
      (.cons ⟨trivial, .work (.chan
      (@ChanStep.comp _ 1 _ _ .ample _ 0 rfl (by decide) (fun h => nomatch h) rfl))⟩
      (.nil _)))))), rfl⟩
    intro _ j _ i
    fin_cases i <;> exact ⟨rfl, fun h => nomatch h⟩
  have h := frameSync_membership rfl (fun _ => ⟨rfl, rfl, rfl⟩) run
  refine ⟨t, run, hf, h.1, ?_⟩
  have hfound := h.2 false (by rw [hf]; decide)
  rw [hf] at hfound
  exact hfound

end Clean

end MmCamera
