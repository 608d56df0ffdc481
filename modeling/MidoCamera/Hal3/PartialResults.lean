import MidoCamera.Hal3.BatchMap
import MidoCamera.Hal3.ErrorCompletion

/-!
# Partial results

The metadata of a live request comes in two parts, with the urgent frame number and with the frame
number, and each part is sent as a partial result, which takes its number from a counter that both
increment. The final result is to have the number `PARTIAL_RESULT_COUNT`, as that of a reprocess
request has. It has the number one when the urgent part has not come before.

What happens to one request is an automaton of its own, its life; each operation makes moves of
it.
-/

namespace Hal3

open Loop Relation List PendingRequest HardwareInterface
open MmCamera (incU32)

variable {R : Op → HardwareInterface → HardwareInterface → Prop} {cs : List Callback}

/-! ## Partial results -/

/-- The partial result of a frame that a callback is: whether it is the final one, and its number. A
result without metadata is none. -/
def Callback.partialOf (f : ℕ) : Callback → Option (Bool × ℕ)
  | .captureResult r =>
    if r.frameNumber = f ∧ r.result ≠ .null then some (r.result != .urgent, r.partialResult)
    else none
  | _ => none

def partials (f : ℕ) (cs : List Callback) : List (Bool × ℕ) := cs.filterMap (Callback.partialOf f)

/-- **How the partial results of a request are to be numbered**: the numbers increase, that of the
final result is `PARTIAL_RESULT_COUNT`, and nothing comes after it. -/
structure PartialsSound (ps : List (Bool × ℕ)) : Prop where
  increasing : (ps.map Prod.snd).Pairwise (· < ·)
  final : ∀ p ∈ ps, p.1 = true → p.2 = partialResultCount
  last : ∀ p ∈ ps.dropLast, p.1 = false

instance (ps : List (Bool × ℕ)) : Decidable (PartialsSound ps) :=
  decidable_of_iff (_ ∧ _ ∧ _) ⟨fun ⟨h, h', h''⟩ => ⟨h, h', h''⟩, fun h => ⟨h.1, h.2, h.3⟩⟩

def Op.liveFrame : Op → Option ℕ
  | .request _ req => if req.inputBuffer = none then some req.frameNumber else none
  | _ => none

/-- **The condition**: metadata that flushes out requests finds each live one with its urgent part,
which it may bring itself. -/
def MetadataBuffer.UrgentFirst (md : MetadataBuffer) (s : HardwareInterface) : Prop :=
  ¬s.ignoresMetadata → ∀ n ∈ md.finalFrame, ∀ i ∈ s.mPendingRequestsList, i.frameNumber ≤ n →
    i.inputBuffer = none → i.bUrgentReceived = true ∨ md.urgentFrame = some i.frameNumber

instance (md : MetadataBuffer) (s : HardwareInterface) : Decidable (md.UrgentFirst s) :=
  inferInstanceAs (Decidable (¬_ → ∀ n ∈ md.finalFrame, ∀ i ∈ s.mPendingRequestsList,
    i.frameNumber ≤ n → i.inputBuffer = none →
      i.bUrgentReceived = true ∨ md.urgentFrame = some i.frameNumber))

/-- A step whose metadata meets the condition. -/
def Op.UrgentFirstStep (streams : Streams) (op : Op) (s t : HardwareInterface) : Prop :=
  (∀ timeOffset first md, op = .metadata timeOffset first md → md.UrgentFirst s) ∧
    op.Step streams s t

/-- **The urgent part is lost**: the final result has the number one. -/
theorem partialResults_short :
    ¬∀ (streams : Streams) (ops : List Op) (s : HardwareInterface),
      Run (Op.Step streams) ops (.configured 0 6) s → (ops.filterMap Op.frame).Pairwise (· < ·) →
        ∀ f ∈ ops.filterMap Op.liveFrame, PartialsSound (partials f s.callbacks) := by
  intro hall
  have hsound := hall previewStream
    [.request (channelReturns 0) (previewRequest 1), .metadata 0 true (metadataOf 1)]
    _ (.cons rfl (.one rfl)) (by decide) 1 (by decide)
  revert hsound
  decide

/-! ## The life of a request -/

/-- What is kept of the progress of a request: whether it is live, its counter, and whether its
urgent part has come. -/
structure Progress where
  live : Bool
  count : ℕ
  urgent : Bool

def PendingRequest.progress (i : PendingRequest) : Progress :=
  ⟨i.inputBuffer.isNone, i.partialResultCnt, i.bUrgentReceived⟩

def progressOf (f : ℕ) (is : List PendingRequest) : Option Progress :=
  (is.find? (·.frameNumber == f)).map PendingRequest.progress

/-- **The life of a request**: its progress while it is pending, and its partial results so far. -/
structure Life where
  entry : Option Progress
  told : List (Bool × ℕ)

def HardwareInterface.life (f : ℕ) (s : HardwareInterface) : Life :=
  ⟨progressOf f s.mPendingRequestsList, partials f s.callbacks⟩

/-- **What can happen in a life**: the request is dropped; its urgent part comes; or it gets its
final result, which may come without the urgent part where parts are lost. -/
inductive Life.Moves (lossy : Prop) : Life → Life → Prop
  | dropped (p : Progress) (ps : List (Bool × ℕ)) : Moves lossy ⟨some p, ps⟩ ⟨none, ps⟩
  | urgent (n : ℕ) (ps : List (Bool × ℕ)) :
      Moves lossy ⟨some ⟨true, n, false⟩, ps⟩
        ⟨some ⟨true, incU32 n, true⟩, ps ++ [(false, incU32 n)]⟩
  | final (n : ℕ) (u : Bool) (ps : List (Bool × ℕ)) (seen : lossy ∨ u = true) :
      Moves lossy ⟨some ⟨true, n, u⟩, ps⟩ ⟨none, ps ++ [(true, incU32 n)]⟩

/-- The partial results that a request can have got when it is pending no more. -/
inductive Ended (lossy : Prop) : List (Bool × ℕ) → Prop
  | none : Ended lossy []
  | urgent : Ended lossy [(false, 1)]
  | whole : Ended lossy [(false, 1), (true, 2)]
  | short (lost : lossy) : Ended lossy [(true, 1)]

/-- The lives that there are. -/
inductive Life.Fine (lossy : Prop) : Life → Prop
  | waiting : Fine lossy ⟨some ⟨true, 0, false⟩, []⟩
  | begun : Fine lossy ⟨some ⟨true, 1, true⟩, [(false, 1)]⟩
  | ended {ps : List (Bool × ℕ)} (ended : Ended lossy ps) : Fine lossy ⟨none, ps⟩

section

variable {lossy : Prop} {l l' : Life} {ps : List (Bool × ℕ)}

theorem Life.Moves.fine (h : l.Moves lossy l') (hl : l.Fine lossy) : l'.Fine lossy := by
  cases h with
  | dropped p ps =>
    cases hl with
    | waiting => exact .ended .none
    | begun => exact .ended .urgent
  | urgent n ps =>
    cases hl with
    | waiting => exact .begun
  | final n u ps seen =>
    cases hl with
    | waiting => exact .ended (.short (seen.resolve_right (by decide)))
    | begun => exact .ended .whole

theorem Life.fine_of_moves (h : ReflTransGen (Life.Moves lossy) l l') (hl : l.Fine lossy) :
    l'.Fine lossy := by
  induction h with
  | refl => exact hl
  | tail _ move ih => exact move.fine ih

theorem Life.eq_of_moves (h : ReflTransGen (Life.Moves lossy) ⟨none, ps⟩ l') : l' = ⟨none, ps⟩ := by
  induction h with
  | refl => rfl
  | tail _ move ih =>
    subst ih
    cases move

theorem Life.live_of_moves (h : ReflTransGen (Life.Moves lossy) l l')
    (hl : ∀ p ∈ l.entry, p.live = true) : ∀ p ∈ l'.entry, p.live = true := by
  induction h with
  | refl => exact hl
  | tail _ move _ =>
    cases move with
    | dropped | final => exact fun _ hp => nomatch hp
    | urgent n ps =>
      intro p hp
      cases hp
      rfl

theorem Ended.sound (h : Ended False ps) : PartialsSound ps := by
  cases h with
  | none | urgent | whole => decide
  | short lost => exact lost.elim

theorem Life.Fine.live (h : l.Fine lossy) : ∀ p ∈ l.entry, p.live = true := by
  cases h with
  | waiting | begun | ended => simp

theorem Life.Fine.told (h : l.Fine lossy) : Ended lossy l.told := by
  cases h with
  | waiting => exact .none
  | begun => exact .urgent
  | ended ended => exact ended

end

/-! ## The entry of a frame -/

section

variable {f : ℕ} {i : PendingRequest} {is js : List PendingRequest}

theorem progressOf_cons_self (hi : i.frameNumber = f) :
    progressOf f (i :: is) = some i.progress := by
  unfold progressOf
  rw [find?_cons_of_pos (by simpa using hi)]
  rfl

theorem input_of_live (hi : i.frameNumber = f)
    (live : ∀ p ∈ progressOf f (i :: is), p.live = true) : i.inputBuffer = none := by
  have hlive : i.progress.live = true := live _ (progressOf_cons_self hi)
  simpa [progress] using hlive

theorem progressOf_cons_ne (hi : i.frameNumber ≠ f) :
    progressOf f (i :: is) = progressOf f is := by
  unfold progressOf
  rw [find?_cons_of_neg (by simpa using hi)]

theorem progressOf_concat (f : ℕ) (i : PendingRequest) (is : List PendingRequest) :
    progressOf f (is ++ [i]) =
      (progressOf f is).or (if i.frameNumber = f then some i.progress else none) := by
  induction is with
  | nil =>
    by_cases hf : i.frameNumber = f
    · rw [if_pos hf]
      exact progressOf_cons_self hf
    · rw [if_neg hf]
      exact progressOf_cons_ne hf
  | cons j js ih =>
    rw [cons_append]
    by_cases hf : j.frameNumber = f
    · rw [progressOf_cons_self hf, progressOf_cons_self hf]
      rfl
    · rw [progressOf_cons_ne hf, progressOf_cons_ne hf]
      exact ih

theorem progressOf_eq_none : progressOf f is = none ↔ f ∉ is.map PendingRequest.frameNumber := by
  unfold progressOf
  rw [Option.map_eq_none_iff, find?_eq_none, mem_map]
  simp

theorem progressOf_map {g : PendingRequest → PendingRequest}
    (frame : ∀ i, (g i).frameNumber = i.frameNumber) (progress : ∀ i, (g i).progress = i.progress)
    (f : ℕ) (is : List PendingRequest) : progressOf f (is.map g) = progressOf f is := by
  induction is with
  | nil => rfl
  | cons i is ih =>
    rw [map_cons]
    by_cases hi : i.frameNumber = f
    · rw [progressOf_cons_self ((frame i).trans hi), progressOf_cons_self hi, progress]
    · rw [progressOf_cons_ne (fun h => hi ((frame i).symm.trans h)), progressOf_cons_ne hi, ih]

/-- Where no frame occurs twice, an entry that is still there is the same, and otherwise the request
has been dropped. -/
theorem moves_of_sublist (lossy : Prop) (ps : List (Bool × ℕ)) (sub : js.Sublist is)
    (nodup : (is.map PendingRequest.frameNumber).Nodup) :
    ReflTransGen (Life.Moves lossy) ⟨progressOf f is, ps⟩ ⟨progressOf f js, ps⟩ := by
  induction sub with
  | slnil => exact .refl
  | @cons js is i sub ih =>
    obtain ⟨hi, hnodup⟩ := nodup_cons.mp nodup
    by_cases hf : i.frameNumber = f
    · -- its frame is that of no other entry
      subst hf
      have hnone := progressOf_eq_none.mpr fun hmem => hi ((sub.map _).subset hmem)
      rw [progressOf_cons_self rfl, hnone]
      exact .single (.dropped _ _)
    · rw [progressOf_cons_ne hf]
      exact ih hnodup
  | @cons_cons js is i sub ih =>
    obtain ⟨-, hnodup⟩ := nodup_cons.mp nodup
    by_cases hf : i.frameNumber = f
    · rw [progressOf_cons_self hf, progressOf_cons_self hf]
    · rw [progressOf_cons_ne hf, progressOf_cons_ne hf]
      exact ih hnodup

end

/-! ## What the callbacks of the channels do -/

section

variable {streams : Streams} {lossy : Prop} {f n : ℕ} {τ : ℤ} {dropped : Option (List ℕ)}
  {first : Bool} {md : MetadataBuffer} {i : PendingRequest} {is : List PendingRequest}
  {s t : HardwareInterface}

theorem partials_append (f : ℕ) (cs cs' : List Callback) :
    partials f (cs ++ cs') = partials f cs ++ partials f cs' := filterMap_append

theorem partials_quiet (h : ∀ c ∈ cs, c.partialOf f = none) :
    partials f cs = [] := filterMap_eq_nil_iff.mpr h

theorem partials_append_quiet (cs : List Callback) {cs' : List Callback}
    (h : ∀ c ∈ cs', c.partialOf f = none) : partials f (cs ++ cs') = partials f cs := by
  rw [partials_append, partials_quiet h, append_nil]

theorem reportDropped_life (streams : Streams) (f : ℕ) (dropped : Option (List ℕ))
    (i : PendingRequest) (s : HardwareInterface) :
    partials f (s.reportDropped streams dropped i).callbacks = partials f s.callbacks := by
  obtain ⟨cs, hcs, hquiet⟩ := (reportDropped_reported streams dropped i s).callbacks
  rw [hcs]
  refine partials_append_quiet _ fun c hc => ?_
  obtain ⟨g, j, rfl⟩ := hquiet c hc
  rfl

theorem sendResult_life (streams : Streams) (f n : ℕ) (τ : ℤ) (first : Bool) (i : PendingRequest)
    (s : HardwareInterface) :
    partials f (s.sendResult streams n τ first i).callbacks = partials f s.callbacks ++
      if i.frameNumber = f then [(true, i.partialResultCnt)] else [] := by
  obtain ⟨c, result, bufs, d, announces, final, -, heq⟩ := sendResult_eq streams n τ first i s
  have hannounced : c.partialOf f = none := by
    cases announces with
    | shutter | errorResult => rfl
  have hresult : result ≠ .null ∧ (result != .urgent) = true := by
    cases result with
    | null | urgent | settings => cases final
    | dummy | hal => exact ⟨nofun, rfl⟩
  rw [heq]
  dsimp only
  rw [partials_append]
  congr 1
  show filterMap _ [c, _] = _
  rw [filterMap_cons_none hannounced]
  by_cases hf : i.frameNumber = f
  · simp [Callback.partialOf, hf, hresult.1, hresult.2]
  · simp [Callback.partialOf, hf]

/-- **The loop that flushes out the requests** gives the request of a frame its final result, if its
turn comes. -/
theorem flushOut_moves (s : HardwareInterface) (nodup : (is.map PendingRequest.frameNumber).Nodup)
    (live : ∀ p ∈ progressOf f is, p.live = true)
    (seen : lossy ∨ ∀ p ∈ progressOf f is, f ≤ n → p.urgent = true) :
    ReflTransGen (Life.Moves lossy) ⟨progressOf f is, partials f s.callbacks⟩
      ⟨progressOf f (flushOut streams n τ dropped first is s).1,
        partials f (flushOut streams n τ dropped first is s).2.callbacks⟩ := by
  -- by induction on the list, of which one entry at most has the frame
  induction is generalizing s with
  | nil => exact .refl
  | cons i is ih =>
    obtain ⟨hi, hnodup⟩ := nodup_cons.mp nodup
    unfold flushOut
    by_cases hle : i.frameNumber ≤ n
    swap
    · rw [if_neg hle]
    rw [if_pos hle]
    dsimp only
    by_cases hpass : i.frameNumber < n ∧ i.inputBuffer.isSome = true
    · -- what is passed over is not live
      have hf : i.frameNumber ≠ f := by
        intro hf
        simp [input_of_live hf live] at hpass
      simp only [if_pos hpass]
      rw [progressOf_cons_ne hf] at live seen ⊢
      generalize hb : ({ i with partialResultCnt := incU32 i.partialResultCnt } :
        PendingRequest) = b
      have hbf : b.frameNumber ≠ f := by rwa [← hb]
      have hrest := ih (s.reportDropped streams dropped b) hnodup live seen
      rw [reportDropped_life] at hrest
      rw [progressOf_cons_ne hbf]
      exact hrest
    · simp only [if_neg hpass]
      generalize hb : ({ i with partialResultCnt := incU32 i.partialResultCnt } :
        PendingRequest) = b
      have hbframe : b.frameNumber = i.frameNumber := by rw [← hb]
      have hbcount : b.partialResultCnt = incU32 i.partialResultCnt := by rw [← hb]
      by_cases hf : i.frameNumber = f
      · -- no other entry has its frame
        have hnone : progressOf f is = none := progressOf_eq_none.mpr (hf ▸ hi)
        have hrest := ih ((s.reportDropped streams dropped b).sendResult streams n τ first b)
          hnodup (by rw [hnone]; rintro _ ⟨⟩)
          (.inr (by rw [hnone]; rintro _ ⟨⟩))
        rw [hnone, sendResult_life, if_pos (hbframe.trans hf), hbcount, reportDropped_life] at hrest
        have hinput := input_of_live hf live
        rw [progressOf_cons_self hf] at seen ⊢
        have hprogress : i.progress = ⟨true, i.partialResultCnt, i.bUrgentReceived⟩ := by
          simp [progress, hinput]
        rw [hprogress] at seen ⊢
        exact .head (.final _ _ _ (seen.imp_right fun h => h _ rfl (hf ▸ hle))) hrest
      · -- the final result of another frame is no move of this life
        rw [progressOf_cons_ne hf] at live seen ⊢
        have hrest := ih ((s.reportDropped streams dropped b).sendResult streams n τ first b)
          hnodup live seen
        rwa [sendResult_life, if_neg fun h => hf (hbframe.symm.trans h), append_nil,
          reportDropped_life] at hrest

/-- **The loop for an urgent frame number** gives the request of the frame its urgent part. -/
theorem urgentResult_moves (lossy : Prop) (urgent : ℕ) (ps : List (Bool × ℕ))
    (nodup : (is.map PendingRequest.frameNumber).Nodup)
    (live : ∀ p ∈ progressOf f is, p.live = true) :
    ReflTransGen (Life.Moves lossy) ⟨progressOf f is, ps⟩
      ⟨progressOf f (urgentResult urgent is).1,
        ps ++ partials f (urgentResult urgent is).2.toList⟩ := by
  induction is with
  | nil =>
    show ReflTransGen _ _ (⟨none, ps ++ []⟩ : Life)
    rw [append_nil]
    exact .refl
  | cons i is ih =>
    obtain ⟨hi, hnodup⟩ := nodup_cons.mp nodup
    unfold urgentResult
    by_cases hfirst : i.frameNumber = urgent ∧ i.bUrgentReceived = false
    · rw [if_pos hfirst]
      dsimp only [Option.toList_some]
      generalize hb : ({ i with
        partialResultCnt := incU32 i.partialResultCnt, bUrgentReceived := true } :
          PendingRequest) = b
      have hbf : b.frameNumber = i.frameNumber := by rw [← hb]
      by_cases hf : i.frameNumber = f
      · have hinput := input_of_live hf live
        rw [progressOf_cons_self hf, progressOf_cons_self (hbf.trans hf)]
        have hprogress : i.progress = ⟨true, i.partialResultCnt, false⟩ := by
          simp [progress, hinput, hfirst.2]
        have hbprogress : b.progress = ⟨true, incU32 i.partialResultCnt, true⟩ := by
          simp [progress, ← hb, hinput]
        have htold : partials f [.captureResult ⟨urgent, .urgent, incU32 i.partialResultCnt, none,
            []⟩] = [(false, incU32 i.partialResultCnt)] := by
          simp [partials, Callback.partialOf, ← hfirst.1, hf]
        rw [hprogress, hbprogress, htold]
        exact .single (.urgent _ ps)
      · rw [progressOf_cons_ne hf, progressOf_cons_ne fun h => hf (hbf.symm.trans h)]
        have htold : partials f [.captureResult ⟨urgent, .urgent, incU32 i.partialResultCnt, none,
            []⟩] = [] := by
          simp [partials, Callback.partialOf, ← hfirst.1, hf]
        rw [htold, append_nil]
    · rw [if_neg hfirst]
      dsimp only
      by_cases hf : i.frameNumber = f
      · -- no later entry has the frame, so nothing is sent for it
        have hnone : progressOf f is = none := progressOf_eq_none.mpr (hf ▸ hi)
        have hrest := ih hnodup (by rw [hnone]; rintro _ ⟨⟩)
        rw [hnone] at hrest
        have htold := congrArg Life.told (Life.eq_of_moves hrest)
        dsimp only at htold
        rw [progressOf_cons_self hf, progressOf_cons_self hf, htold]
      · rw [progressOf_cons_ne hf] at live ⊢
        rw [progressOf_cons_ne hf]
        exact ih hnodup live

theorem urgentResult_urgent (f : ℕ) (is : List PendingRequest) :
    ∀ p ∈ progressOf f (urgentResult f is).1, p.urgent = true := by
  induction is with
  | nil => exact fun _ hp => nomatch hp
  | cons i is ih =>
    unfold urgentResult
    by_cases hfirst : i.frameNumber = f ∧ i.bUrgentReceived = false
    · rw [if_pos hfirst]
      dsimp only
      rw [progressOf_cons_self (by exact hfirst.1)]
      intro p hp
      cases hp
      rfl
    · rw [if_neg hfirst]
      dsimp only
      by_cases hf : i.frameNumber = f
      · rw [progressOf_cons_self hf]
        intro p hp
        cases hp
        simpa [hf, progress] using hfirst
      · rw [progressOf_cons_ne hf]
        exact ih

theorem Life.urgent_of_moves {l l' : Life} (h : ReflTransGen (Life.Moves lossy) l l')
    (hl : ∀ p ∈ l.entry, p.urgent = true) : ∀ p ∈ l'.entry, p.urgent = true := by
  induction h with
  | refl => exact hl
  | tail _ move _ =>
    cases move with
    | dropped | final => exact fun _ hp => nomatch hp
    | urgent n ps =>
      intro p hp
      cases hp
      rfl

theorem doneMetadata_life (f : ℕ) (s : HardwareInterface) : s.doneMetadata.life f = s.life f :=
  congrArg (Life.mk · _) (progressOf_map
    (g := fun i => { i with pipelineDepth := (i.pipelineDepth + 1) % 2 ^ 8 })
    (fun _ => rfl) (fun _ => rfl) f s.mPendingRequestsList)

/-- **Metadata** makes moves of each life; a final result comes with its urgent part under the
condition. -/
theorem handleMetadata_moves (streams : Streams) (timeOffset : ℤ) (first : Bool)
    (md : MetadataBuffer) (s : HardwareInterface) (nodup : s.listFrames.Nodup)
    (live : ∀ p ∈ (s.life f).entry, p.live = true) (seen : lossy ∨ md.UrgentFirst s) :
    ReflTransGen (Life.Moves lossy) (s.life f)
      ((handleMetadataWithLock streams timeOffset first md s).life f) := by
  by_cases hignored : s.ignoresMetadata
  · unfold handleMetadataWithLock
    rw [if_pos (by exact hignored)]
  have hseen : lossy ∨ ∀ m ∈ md.finalFrame, ∀ p ∈ progressOf f s.mPendingRequestsList, f ≤ m →
      p.urgent = true ∨ md.urgentFrame = some f := by
    refine seen.imp_right fun hseen m hm p hp hle => ?_
    obtain ⟨i, hfind, rfl⟩ := Option.map_eq_some_iff.mp hp
    have hframe : i.frameNumber = f := by simpa using find?_some hfind
    have hinput : i.inputBuffer = none := by
      simpa [progress] using live _ hp
    rw [← hframe] at hle ⊢
    exact hseen hignored m hm i (mem_of_find?_eq_some hfind) hle hinput
  unfold handleMetadataWithLock
  rw [if_neg (by exact hignored)]
  split
  · rename_i valid m τ urgentValid urgent hv hm hτ huv hu
    dsimp only
    -- the urgent part, if there is one
    have hurgent : ReflTransGen (Life.Moves lossy) (s.life f)
        ((if urgentValid ≠ 0 then s.sendUrgent urgent else s).life f) := by
      split_ifs
      · have hmoves := urgentResult_moves lossy urgent (partials f s.callbacks) nodup live
        rw [← partials_append] at hmoves
        exact hmoves
      · exact .refl
    have hnodup : (if urgentValid ≠ 0 then s.sendUrgent urgent else s).listFrames.Nodup := by
      split_ifs
      · rw [listFrames_core, (sendUrgent_refreshed urgent s).list, ← listFrames_core]
        exact nodup
      · exact nodup
    have hfinal : md.finalFrame = if valid = 0 then none else some m := by
      simp only [MetadataBuffer.finalFrame, hv, hm, hτ, huv, hu]
    have hseen' : lossy ∨ ∀ p ∈ ((if urgentValid ≠ 0 then s.sendUrgent urgent else s).life f).entry,
        valid ≠ 0 → f ≤ m → p.urgent = true := by
      refine hseen.imp_right fun hseen p hp hvalid hle => ?_
      by_cases hfirst : md.urgentFrame = some f
      · simp only [MetadataBuffer.urgentFrame, hv, hm, hτ, huv, hu] at hfirst
        split_ifs at hfirst with h0
        obtain rfl := Option.some.inj hfirst
        rw [if_pos h0] at hp
        exact urgentResult_urgent urgent s.mPendingRequestsList p hp
      · refine Life.urgent_of_moves hurgent (fun q hq => ?_) p hp
        exact (hseen m (by rw [hfinal, if_neg hvalid]; rfl) q hq hle).resolve_right hfirst
    generalize (if urgentValid ≠ 0 then s.sendUrgent urgent else s) = t at hurgent hnodup hseen' ⊢
    split_ifs with h0
    · rw [doneMetadata_life]
      exact hurgent
    · rw [doneMetadata_life]
      exact hurgent.trans (flushOut_moves t hnodup (Life.live_of_moves hurgent live)
        (hseen'.imp_right fun h p hp hle => h p hp h0 hle))
  · rw [doneMetadata_life]

theorem cacheBuffer_progress (b : StreamBuffer) (n f : ℕ) (is : List PendingRequest) :
    progressOf f (cacheBuffer b n is) = progressOf f is := by
  induction is with
  | nil => rfl
  | cons i is ih =>
    unfold cacheBuffer
    by_cases hf : i.frameNumber = f
    · rw [progressOf_cons_self hf]
      split_ifs
      · exact progressOf_cons_self hf
      · exact progressOf_cons_self hf
    · rw [progressOf_cons_ne hf]
      split_ifs
      · exact progressOf_cons_ne hf
      · exact (progressOf_cons_ne hf).trans ih

theorem ne_of_find_input (found : s.mPendingRequestsList.find? (·.frameNumber == n) = some i)
    (input : i.inputBuffer.isSome = true) (live : ∀ p ∈ (s.life f).entry, p.live = true) :
    n ≠ f := by
  rintro rfl
  have hlive : i.progress.live = true :=
    live _ (congrArg (Option.map progress) found)
  simp only [progress, Option.isNone_iff_eq_none] at hlive
  simp [hlive] at input

theorem reprocess_moves (nodup : s.listFrames.Nodup)
    (list : t.mPendingRequestsList = s.mPendingRequestsList.eraseP (·.frameNumber == n))
    (callbacks : t.callbacks = s.callbacks ++ cs) (quiet : ∀ c ∈ cs, c.partialOf f = none) :
    ReflTransGen (Life.Moves lossy) (s.life f) (t.life f) := by
  unfold life
  rw [callbacks, partials_append_quiet _ quiet, list]
  exact moves_of_sublist lossy _ eraseP_sublist nodup

theorem BufferStep.moves {b : StreamBuffer} (step : BufferStep b n s t) (nodup : s.listFrames.Nodup)
    (live : ∀ p ∈ (s.life f).entry, p.live = true) :
    ReflTransGen (Life.Moves lossy) (s.life f) (t.life f) := by
  cases step with
  | ignored | counted => exact .refl
  | givenBack absent givenBack =>
    obtain ⟨r, hr, hnull, -⟩ := givenBack.callbacks
    have hquiet : ∀ c ∈ [.captureResult r], Callback.partialOf f c = none := by
      intro c hc
      obtain rfl := mem_singleton.mp hc
      exact if_neg fun h => h.2 hnull
    unfold life
    rw [hr, givenBack.list, partials_append_quiet _ hquiet]
  | @reprocessed i now found input =>
    have hne := ne_of_find_input found input live
    have hframe : i.frameNumber = n := by simpa using find?_some found
    refine reprocess_moves nodup rfl rfl fun c hc => ?_
    simp only [mem_cons, not_mem_nil, or_false] at hc
    rcases hc with rfl | rfl
    · rfl
    · exact if_neg fun h => hne (hframe.symm.trans h.1)
  | cached found input =>
    show ReflTransGen _ _ (⟨progressOf f (cacheBuffer b n s.mPendingRequestsList), _⟩ : Life)
    rw [cacheBuffer_progress]
    exact .refl

theorem handleInputBuffer_moves (now : ℤ) (n : ℕ) (s : HardwareInterface)
    (nodup : s.listFrames.Nodup) (live : ∀ p ∈ (s.life f).entry, p.live = true) :
    ReflTransGen (Life.Moves lossy) (s.life f) ((handleInputBufferWithLock now n s).life f) := by
  unfold handleInputBufferWithLock
  split
  · exact .refl
  · rename_i i found
    by_cases input : i.inputBuffer.isSome = true
    · rw [if_pos input]
      have hne := ne_of_find_input found input live
      refine reprocess_moves nodup rfl (append_assoc ..) fun c hc => ?_
      rcases mem_append.mp hc with hc | hc
      · -- the shutter, if it has not been notified
        by_cases hnotified : i.shutterNotified = true
        · rw [if_pos hnotified] at hc
          cases hc
        · rw [if_neg hnotified] at hc
          obtain rfl := mem_singleton.mp hc
          rfl
      · obtain rfl := mem_singleton.mp hc
        exact if_neg fun h => hne h.1
    · rw [if_neg input]

end

/-! ## What a flush and a request do -/

section

variable {streams : Streams} {lossy : Prop} {f : ℕ} {env : RequestEnv} {req : CaptureRequest}
  {s t u : HardwareInterface}

theorem notifyErrorLoop_partials {frameNum : ℕ} {reqs : List PendingBuffersInRequest}
    {input : Option StreamBuffer} {is is' : List PendingRequest} {cs' : List Callback}
    (h : notifyErrorLoop frameNum reqs input is cs = .ok (is', cs')) :
    partials f cs' = partials f cs := by
  induction reqs generalizing input is cs with
  | nil =>
    cases h
    rfl
  | cons req reqs ih =>
    have hresult (input : Option StreamBuffer) : (req.errorResult input).partialOf f = none :=
      if_neg fun h => h.2 rfl
    unfold notifyErrorLoop at h
    split_ifs at h
    · rw [ih h, append_assoc]
      refine partials_append_quiet cs fun c hc => ?_
      rcases mem_append.mp hc with hc | hc
      · obtain ⟨info, -, rfl⟩ := mem_map.mp hc
        rfl
      · obtain rfl := mem_singleton.mp hc
        exact hresult input
    · cases is with
      | nil => cases h
      | cons i is =>
        rw [ih h]
        refine partials_append_quiet cs fun c hc => ?_
        simp only [mem_cons, not_mem_nil, or_false] at hc
        rcases hc with rfl | rfl
        · rfl
        · exact hresult i.inputBuffer

theorem notifyError_moves (lossy : Prop) (f : ℕ) (h : notifyErrorForPendingRequests s = .ok t)
    (nodup : s.listFrames.Nodup) : ReflTransGen (Life.Moves lossy) (s.life f) (t.life f) := by
  have hlist := (notifyError_dropped h).list
  unfold notifyErrorForPendingRequests at h
  obtain ⟨⟨is, cs⟩, hloop, h⟩ := bind_eq_ok.mp h
  cases h
  unfold life
  dsimp only at hlist ⊢
  rw [notifyErrorLoop_partials hloop, hlist]
  exact moves_of_sublist lossy _ (drop_sublist ..) nodup

theorem flushEnd_moves (lossy : Prop) (f : ℕ) {env : FlushEnv} {restart : Bool} {rc : ℤ}
    (h : flushEnd env restart s = .ok (rc, t)) (nodup : s.listFrames.Nodup) :
    ReflTransGen (Life.Moves lossy) (s.life f) (t.life f) := by
  unfold flushEnd at h
  by_cases hunlink : env.unlink.getD noError < 0
  · rw [if_pos hunlink] at h
    cases h
    exact .refl
  rw [if_neg hunlink] at h
  by_cases hbundle : env.setBundleInfo < 0
  · rw [if_pos hbundle] at h
    cases h
    exact .refl
  rw [if_neg hbundle] at h
  obtain ⟨u, hu, h⟩ := bind_eq_ok.mp h
  have hmoves := notifyError_moves lossy f hu nodup
  by_cases hr : restart = true ∧ env.startAllChannels < 0
  · simp only [if_pos hr] at h
    cases h
    exact hmoves
  · simp only [if_neg hr] at h
    cases h
    exact hmoves

theorem flushPerfEnd_moves (lossy : Prop) (f : ℕ) {rc rc' : ℤ}
    (h : flushPerfEnd rc s = .ok (rc', t)) (nodup : s.listFrames.Nodup) :
    ReflTransGen (Life.Moves lossy) (s.life f) (t.life f) := by
  unfold flushPerfEnd at h
  by_cases hrc : rc = 0
  · rw [if_neg (not_not.mpr hrc)] at h
    obtain ⟨u, hu, h⟩ := bind_eq_ok.mp h
    cases h
    have hmoves := notifyError_moves lossy f hu nodup
    exact hmoves
  · rw [if_pos hrc] at h
    cases h
    exact .refl

theorem handleCameraDeviceError_moves (lossy : Prop) (f : ℕ) {env : FlushEnv}
    (h : handleCameraDeviceError env s = .ok t) (nodup : s.listFrames.Nodup) :
    ReflTransGen (Life.Moves lossy) (s.life f) (t.life f) := by
  unfold handleCameraDeviceError at h
  split_ifs at h
  · cases h
    exact .refl
  · obtain ⟨⟨rc, u⟩, hu, h⟩ := bind_eq_ok.mp h
    cases h
    have hmoves := flushEnd_moves lossy f hu nodup
    -- the device error is no partial result
    have hlife : ({ u with mState := .deinit }.call (.error .device 0 none)).life f = u.life f := by
      refine congrArg (Life.mk _) ((partials_append f u.callbacks _).trans ?_)
      exact append_nil _
    rw [hlife]
    exact hmoves

theorem issue_life {rc : ℤ} (h : issue streams env req (record streams env req s) = (rc, t))
    (f : ℕ) : ∃ i : PendingRequest, i.frameNumber = req.frameNumber ∧
      i.progress = ⟨req.inputBuffer.isNone, 0, false⟩ ∧
      t.life f = ⟨progressOf f (s.mPendingRequestsList ++ [i]), partials f s.callbacks⟩ := by
  have hlist : (record streams env req s).mPendingRequestsList =
      s.mPendingRequestsList ++ [pendingRequest streams req _] := rfl
  have hstep := issue_step h hlist
  obtain ⟨flags, ht⟩ := hstep.list hlist
  have hcalls : t.callbacks = s.callbacks := by
    cases hstep with
    | flushed => rfl
    | failed _ _ _ issuing | accepted _ _ issuing => exact issuing.callbacks
  refine ⟨_, ?_, ?_, by rw [life, ht, hcalls]⟩
  · rfl
  · rfl

theorem restart_moves (lossy : Prop) (f : ℕ) {v : HardwareInterface} (prepared : Prepared s u)
    (restart : v = u ∨ ∃ w, notifyErrorForPendingRequests u = .ok w ∧
      v = { w with mNeedSensorRestart := false })
    (nodup : s.listFrames.Nodup) : ReflTransGen (Life.Moves lossy) (s.life f) (v.life f) := by
  have hlife : u.life f = s.life f := by
    rw [life, prepared.list, prepared.callbacks]
    rfl
  rw [← hlife]
  rcases restart with rfl | ⟨w, notified, rfl⟩
  · exact .refl
  · have hnodup : u.listFrames.Nodup := by
      rw [listFrames, prepared.list]
      exact nodup
    have hmoves := notifyError_moves lossy f notified hnodup
    exact hmoves

/-- **A request** makes moves of each other life. -/
theorem request_moves (h : (Op.request env req).Step streams s t) (nodup : s.listFrames.Nodup)
    (other : req.frameNumber ≠ f) : ReflTransGen (Life.Moves lossy) (s.life f) (t.life f) := by
  obtain ⟨⟨rc, u⟩, hu, h⟩ := bind_eq_ok.mp h
  cases h
  cases processCaptureRequest_course hu with
  | ended error ends => exact handleCameraDeviceError_moves lossy f ends nodup
  | refused prepared => exact restart_moves lossy f prepared (.inl rfl) nodup
  | restartFailed prepared notified =>
    have hmoves := restart_moves lossy f prepared (.inr ⟨u, notified, rfl⟩) nodup
    exact hmoves
  | issued prepared restart issued =>
    obtain ⟨i, hframe, -, hlife⟩ := issue_life issued f
    have hmoves := restart_moves lossy f prepared restart nodup
    rw [hlife, progressOf_concat, if_neg (fun h => other (hframe.symm.trans h)), Option.or_none]
    exact hmoves

/-- **A live request** waits for its urgent part, if it is recorded. -/
theorem request_begins (h : (Op.request env req).Step streams s t) (nodup : s.listFrames.Nodup)
    (input : req.inputBuffer = none) (fresh : s.life req.frameNumber = ⟨none, []⟩) :
    (t.life req.frameNumber).Fine lossy := by
  -- up to where it is recorded nothing is known of it
  have hnone : ∀ {u : HardwareInterface},
      ReflTransGen (Life.Moves lossy) (s.life req.frameNumber) (u.life req.frameNumber) →
        u.life req.frameNumber = ⟨none, []⟩ := fun hmoves => Life.eq_of_moves (fresh ▸ hmoves)
  have hunrecorded : ∀ {u : HardwareInterface},
      ReflTransGen (Life.Moves lossy) (s.life req.frameNumber) (u.life req.frameNumber) →
        (u.life req.frameNumber).Fine lossy := fun hmoves => hnone hmoves ▸ .ended .none
  obtain ⟨⟨rc, u⟩, hu, h⟩ := bind_eq_ok.mp h
  cases h
  cases processCaptureRequest_course hu with
  | ended error ends => exact hunrecorded (handleCameraDeviceError_moves _ _ ends nodup)
  | refused prepared => exact hunrecorded (restart_moves _ _ prepared (.inl rfl) nodup)
  | restartFailed prepared notified =>
    have hmoves := restart_moves lossy req.frameNumber prepared (.inr ⟨u, notified, rfl⟩) nodup
    exact hunrecorded hmoves
  | @issued v w _ _ prepared restart issued =>
    obtain ⟨i, hframe, hprogress, hlife⟩ := issue_life issued req.frameNumber
    have hw := hnone (restart_moves lossy req.frameNumber prepared restart nodup)
    obtain ⟨hentry, htold⟩ := Life.mk.inj hw
    rw [hlife, progressOf_concat, hentry, htold, if_pos hframe, hprogress, input]
    exact .waiting

end

section

variable {streams : Streams} {lossy : Prop} {f : ℕ} {op : Op} {ops : List Op}
  {batchSize minInFlight : ℕ} {s t : HardwareInterface}

/-- **Every operation makes moves of each life**, but for the request that begins it. -/
theorem op_moves (step : op.Step streams s t) (nodup : s.listFrames.Nodup)
    (live : ∀ p ∈ (s.life f).entry, p.live = true) (other : op.frame ≠ some f)
    (seen : lossy ∨ ∀ timeOffset first md, op = .metadata timeOffset first md → md.UrgentFirst s) :
    ReflTransGen (Life.Moves lossy) (s.life f) (t.life f) := by
  cases op with
  | request env req => exact request_moves step nodup fun h => other (congrArg some h)
  | metadata timeOffset first md =>
    cases step
    exact handleMetadata_moves streams timeOffset first md s nodup live
      (seen.imp_right fun h => h _ _ _ rfl)
  | buffer now b n =>
    cases step
    exact (handleBuffer_step streams now b n s).moves nodup live
  | inputBuffer now n =>
    cases step
    exact handleInputBuffer_moves now n s nodup live
  -- the flushes end with the same loop over what is pending
  | flushBegin env =>
    change flushDevice env s = .ok t at step
    unfold flushDevice at step
    split at step
    · cases step
      exact .refl
    · exact handleCameraDeviceError_moves lossy f step nodup
    · cases step
      exact .refl
  | flushEnd env =>
    change (if s.mFlush = true then _ else _) = Except.ok t at step
    by_cases hflush : s.mFlush = true
    · rw [if_pos hflush] at step
      obtain ⟨⟨rc, u⟩, hu, hstep⟩ := bind_eq_ok.mp step
      cases hstep
      exact flushEnd_moves lossy f hu nodup
    · rw [if_neg hflush] at step
      cases step
      exact .refl
  | flushPerfBegin rc =>
    cases step
    unfold flushPerfBegin
    dsimp only
    split_ifs
    · exact .refl
    · exact .refl
  | flushPerfEnd rc =>
    change (if _ then _ else _) = Except.ok t at step
    by_cases hflush : s.mFlushPerf = true ∧
        (rc ≠ 0 ∨ s.mPendingBuffersMap.numPendingBufsAtFlush = 0)
    · rw [if_pos hflush] at step
      obtain ⟨⟨rc, u⟩, hu, hstep⟩ := bind_eq_ok.mp step
      cases hstep
      exact flushPerfEnd_moves lossy f hu nodup
    · rw [if_neg hflush] at step
      cases step
      exact .refl
  | daemonDied =>
    cases step
    exact .refl

theorem nodup_of_step (step : op.Step streams s t)
    (nodup : (s.listFrames ++ (op :: ops).filterMap Op.frame).Nodup) :
    s.listFrames.Nodup ∧ (t.listFrames ++ ops.filterMap Op.frame).Nodup := by
  have happend : (op :: ops).filterMap Op.frame = op.frame.toList ++ ops.filterMap Op.frame := by
    cases hf : op.frame with
    | none => rw [filterMap_cons_none hf]; rfl
    | some n => rw [filterMap_cons_some hf]; rfl
  rw [happend, ← append_assoc] at nodup
  exact ⟨(nodup.sublist ((sublist_append_left ..).trans (sublist_append_left ..))),
    nodup.sublist (step.frames.list.append_right _)⟩

theorem run_nodup {post : List Op}
    (steps : ∀ op s t, R op s t → op.Step streams s t) (run : Run R ops s t)
    (nodup : (s.listFrames ++ (ops ++ post).filterMap Op.frame).Nodup) :
    (t.listFrames ++ post.filterMap Op.frame).Nodup := by
  induction run with
  | nil => exact nodup
  | cons step _ ih => exact ih (nodup_of_step (steps _ _ _ step) nodup).2

theorem run_moves (steps : ∀ op s t, R op s t → op.Step streams s t ∧
      (lossy ∨ ∀ timeOffset first md, op = .metadata timeOffset first md → md.UrgentFirst s))
    (run : Run R ops s t) (nodup : (s.listFrames ++ ops.filterMap Op.frame).Nodup)
    (live : ∀ p ∈ (s.life f).entry, p.live = true) (other : f ∉ ops.filterMap Op.frame) :
    ReflTransGen (Life.Moves lossy) (s.life f) (t.life f) := by
  induction run with
  | nil => exact .refl
  | @cons op ops s u t step _ ih =>
    obtain ⟨hstep, hseen⟩ := steps op s u step
    obtain ⟨hs, hu⟩ := nodup_of_step hstep nodup
    have hop : op.frame ≠ some f := fun h =>
      other (mem_filterMap.mpr ⟨op, mem_cons_self, h⟩)
    have hmoves := op_moves hstep hs live hop hseen
    refine hmoves.trans (ih hu (Life.live_of_moves hmoves live) fun hmem => other ?_)
    obtain ⟨op', hmem', hf⟩ := mem_filterMap.mp hmem
    exact mem_filterMap.mpr ⟨op', mem_cons_of_mem _ hmem', hf⟩

theorem Op.frame_of_liveFrame (h : op.liveFrame = some f) :
    ∃ env req, op = .request env req ∧ req.inputBuffer = none ∧ req.frameNumber = f := by
  cases op with
  | request env req =>
    unfold Op.liveFrame at h
    dsimp only at h
    split_ifs at h with hinput
    exact ⟨env, req, rfl, hinput, Option.some.inj h⟩
  | _ => cases h

/-- **The life of each live request**, from its request on, is one of those that there are. -/
theorem run_fine (steps : ∀ op s t, R op s t → op.Step streams s t ∧
      (lossy ∨ ∀ timeOffset first md, op = .metadata timeOffset first md → md.UrgentFirst s))
    (run : Run R ops (.configured batchSize minInFlight) t)
    (frames : (ops.filterMap Op.frame).Pairwise (· < ·)) (mem : f ∈ ops.filterMap Op.liveFrame) :
    (t.life f).Fine lossy := by
  obtain ⟨op, hop, hlive⟩ := mem_filterMap.mp mem
  obtain ⟨env, req, rfl, input, rfl⟩ := Op.frame_of_liveFrame hlive
  obtain ⟨pre, post, rfl⟩ := append_of_mem hop
  have hsplit : (pre ++ Op.request env req :: post).filterMap Op.frame =
      pre.filterMap Op.frame ++ req.frameNumber :: post.filterMap Op.frame := by
    rw [filterMap_append]
    rfl
  have hnodup : ((pre ++ Op.request env req :: post).filterMap Op.frame).Nodup := frames.imp ne_of_lt
  obtain ⟨hpre, hrest, hapart⟩ := nodup_append.mp (hsplit ▸ hnodup)
  obtain ⟨s, before, after⟩ := run.split
  cases after with
  | @cons _ _ _ u _ step after =>
    obtain ⟨hrequest, -⟩ := steps _ s u step
    obtain ⟨hs, hu⟩ := nodup_of_step hrequest
      (run_nodup (fun op s t h => (steps op s t h).1) before hnodup)
    -- before the request nothing is known of its frame
    have hfresh : s.life req.frameNumber = ⟨none, []⟩ := Life.eq_of_moves (run_moves steps before
      hpre (fun _ hp => nomatch hp) fun hmem => hapart _ hmem _ mem_cons_self rfl)
    have hbegun : (u.life req.frameNumber).Fine lossy := request_begins hrequest hs input hfresh
    exact Life.fine_of_moves (run_moves steps after hu hbegun.live (nodup_cons.mp hrest).1) hbegun

/-- **The partial results are numbered as they are to be**, over a run in which each live request
has its urgent part when it is flushed out. -/
theorem partialResults_sound
    (run : Run (Op.UrgentFirstStep streams) ops (.configured batchSize minInFlight) t)
    (frames : (ops.filterMap Op.frame).Pairwise (· < ·)) :
    ∀ f ∈ ops.filterMap Op.liveFrame, PartialsSound (partials f t.callbacks) := by
  intro f mem
  have hfine : (t.life f).Fine False :=
    run_fine (fun _ _ _ step => ⟨step.2, .inr step.1⟩) run frames mem
  exact Ended.sound hfine.told

theorem partialResults_sound_whole : ∃ t : HardwareInterface,
    partials 1 t.callbacks = [(false, 1), (true, 2)] ∧
      ∀ f ∈ [1], PartialsSound (partials f t.callbacks) := by
  have requested : ∃ s, Op.UrgentFirstStep previewStream
      (.request (channelReturns 0) (previewRequest 1)) (.configured 0 6) s ∧
        (reporting 1 1).UrgentFirst s ∧ partials 1 (handleMetadataWithLock previewStream 0 true
          (reporting 1 1) s).callbacks = [(false, 1), (true, 2)] :=
    ⟨_, ⟨fun _ _ _ h => (nomatch h), rfl⟩, by decide, by decide⟩
  obtain ⟨s, request, first, told⟩ := requested
  have metadata : Op.UrgentFirstStep previewStream (.metadata 0 true (reporting 1 1)) s
      (handleMetadataWithLock previewStream 0 true (reporting 1 1) s) := by
    refine ⟨?_, rfl⟩
    rintro _ _ _ ⟨⟩
    exact first
  exact ⟨_, told, partialResults_sound (.cons request (.one metadata)) (by decide)⟩

end

end Hal3
