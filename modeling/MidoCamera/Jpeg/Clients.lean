import MidoCamera.Jpeg.Inversion
import MidoCamera.Library.Tally

/-!
# The clients of the JPEG interface

All clients share one JPEG object. `jpeg_open` makes it for the first of them, and `close` destroys
it when the counter of clients is down to zero. The counter goes up in `mm_jpeg_new_client`, with
the slot that is taken; but it goes down in `mm_jpeg_intf_close`, whatever `mm_jpeg_close` did.

`mm_jpeg_close` takes the slot from the low byte of the handle, and does not look whether the handle
is the one of the slot. So a handle that is closed twice, or was never issued, counts as a client
that goes.
-/

namespace MmJpeg

open Loop Function List Option

namespace JpegObj

def usedClients (s : JpegObj) : ℕ :=
  (List.range maxJpegClientNum).countP fun idx => (s.client idx).isUsed

/-- The handle of a slot in use names the slot. -/
def NamedClients (s : JpegObj) : Prop := ∀ idx < maxJpegClientNum, (s.client idx).isUsed = true →
  getIndexByHandler (s.client idx).clientHandle = idx ∧ (s.client idx).clientHandle ≠ 0

end JpegObj

def JpegOp.ofClients : JpegOp → Bool
  | .newClient _ | .close _ _ => true
  | _ => false

/-! ## The interface -/

/-- `g_jpeg_obj` and `g_handler_history_count`; `concurrent` is that of the build. -/
structure Intf where
  concurrent : ℕ
  obj : Option JpegObj := none
  historyCount : ℕ := 0

namespace Intf

/-- The object for a client that is opened: it is made for the first one, if there is memory and
`mm_jpeg_init` succeeds. -/
def firstOpen (s : Intf) (reuse ok init : Bool) : Option JpegObj :=
  match s.obj with
  | some o => some o
  | none => if ok && init then some (.init s.concurrent reuse) else none

/-- `jpeg_open`: the handle, or 0. -/
def jpegOpen (s : Intf) (reuse ok init : Bool) : ℕ × Intf :=
  match s.firstOpen reuse ok init with
  | none => (0, s)
  | some o =>
    let (clntHdl, o) := o.newClient s.historyCount
    if 0 < clntHdl then
      (clntHdl, { s with
        obj := some o
        historyCount := MmCamera.nextHistoryCount s.historyCount })
    -- no client, close jpeg
    else if o.numClients = 0 then (0, { s with obj := none })
    else (0, { s with obj := some o })

/-- `mm_jpeg_intf_close`: the return code, and what it leaves. `deinit` is what `mm_jpeg_deinit`
returns. -/
def close (s : Intf) (clientHdl : ℕ) (sent : SessionPtr → Bool) (deinit : ℤ) : ℤ × Intf :=
  if clientHdl = 0 then (-1, s)
  else
    match s.obj with
    | none => (-1, s)
    | some o =>
      let (rc, o) := o.close clientHdl sent
      let o := { o with numClients := o.numClients - 1 }
      if rc = 0 ∧ o.numClients = 0 then (deinit, { s with obj := none })
      else (rc, { s with obj := some o })

/-- The call has to wait for `job_lock`, which `mm_jpeg_close` takes for a slot of the table. -/
def CloseWaits (s : Intf) (clientHdl : ℕ) : Prop :=
  clientHdl ≠ 0 ∧ getIndexByHandler clientHdl < maxJpegClientNum ∧ ∃ o ∈ s.obj, o.Locked

instance (s : Intf) (clientHdl : ℕ) : Decidable (s.CloseWaits clientHdl) :=
  inferInstanceAs (Decidable (_ ∧ _ ∧ ∃ o ∈ s.obj, _))

end Intf

/-- `jpeg_open` and `close`; any other call or step on the object; and a handle that is generated
for a client of the decoder. -/
inductive IntfOp
  | jpegOpen (reuse ok init : Bool)
  | close (clientHdl : ℕ) (sent : SessionPtr → Bool) (deinit : ℤ)
  | job (op : JpegOp)
  | decoder

/-- What a step does, if it can be taken. -/
def IntfOp.exec (s : Intf) : IntfOp → Option Intf
  | .jpegOpen reuse ok init => some (s.jpegOpen reuse ok init).2
  | .close clientHdl sent deinit =>
    if s.CloseWaits clientHdl then none else some (s.close clientHdl sent deinit).2
  | .job op => do
    let o ← s.obj
    if op.ofClients then none
    else
      let o ← op.exec o
      some { s with obj := some o }
  | .decoder => some { s with historyCount := MmCamera.nextHistoryCount s.historyCount }

def IntfOp.Step (op : IntfOp) (s t : Intf) : Prop := op.exec s = some t

namespace Intf

/-- A handle that is live: it is the handle of a slot in use. -/
def Live (s : Intf) (clientHdl : ℕ) : Prop :=
  ∃ o, s.obj = some o ∧ ∃ idx < maxJpegClientNum,
    (o.client idx).isUsed = true ∧ (o.client idx).clientHandle = clientHdl

def clients (s : Intf) : Option ((ℕ → JpegClient) × ℤ) := s.obj.map fun o => (o.client, o.numClients)

/-- **The clients are counted**: the counter is the number of slots in use, and there is an object
only as long as there is a client. -/
structure Counted (s : Intf) : Prop where
  number : ∀ o, s.obj = some o → o.numClients = o.usedClients
  client : s.obj ≠ none → ∃ h, s.Live h

def Named (s : Intf) : Prop := ∀ o, s.obj = some o → o.NamedClients

end Intf

/-- **What a step does right**: the clients are still counted. Closing a live handle ends this
client alone, and closing any other handle leaves the clients as they are; the object is destroyed
exactly when the last client is closed. -/
def IntfOp.Right (op : IntfOp) (s t : Intf) : Prop :=
  t.Counted ∧ match op with
    | .jpegOpen _ _ _ => ∀ h, s.Live h → t.Live h
    | .close clientHdl _ _ => (s.Live clientHdl → ∀ h, t.Live h ↔ s.Live h ∧ h ≠ clientHdl) ∧
      (¬s.Live clientHdl → t.clients = s.clients) ∧
      (s.obj ≠ none → (t.obj = none ↔ s.Live clientHdl ∧ ∀ h, s.Live h → h = clientHdl))
    | _ => t.clients = s.clients

/-- **The condition on a step**: a handle that is closed is live, or it is 0, or there is no object.
-/
def IntfOp.Proper (s : Intf) : IntfOp → Prop
  | .close clientHdl _ _ => clientHdl = 0 ∨ s.obj = none ∨ s.Live clientHdl
  | _ => True

namespace JpegObj

variable {s t : JpegObj} {mem : Mem}

/-! ## Steps that leave the clients alone -/

def SameClients (s t : JpegObj) : Prop := t.client = s.client ∧ t.numClients = s.numClients

theorem SameClients.trans {u : JpegObj} (h : SameClients s t) (h' : SameClients t u) :
    SameClients s u := ⟨h'.1.trans h.1, h'.2.trans h.2⟩

theorem SetsUp.sameClients (h : SetsUp s t) : SameClients s t := by
  obtain ⟨_, _, _, _, _, _, _, _, rfl, -⟩ := h
  exact ⟨rfl, rfl⟩

theorem sameClients_abortSessions (s : JpegObj) (c : ℕ) (sent : SessionPtr → Bool) :
    SameClients s (s.abortSessions c sent) := by
  unfold abortSessions
  generalize range maxSession = l
  induction l generalizing s with
  | nil => exact ⟨rfl, rfl⟩
  | cons i l ih =>
    rw [foldl_cons]
    refine SameClients.trans ?_ (ih _)
    split_ifs
    · obtain ⟨f, hf⟩ := sessionAbort_eq sent fuel (s.removeJobs (s.session ⟨c, i⟩).sessionId) ⟨c, i⟩
      rw [destroySessionUnlocked, hf]
      exact ⟨rfl, rfl⟩
    · exact ⟨rfl, rfl⟩

theorem Encoding.sameClients {op : JpegOp} (h : s.Encoding op t) : SameClients s t := by
  rcases h with _ | ⟨f, i, pc, -, -, -, hdone⟩
  · exact ⟨rfl, rfl⟩
  · rw [endJob_eq hdone]
    exact ⟨rfl, rfl⟩

/-- **Sessions and jobs do not touch the clients.** -/
theorem sameClients_step {op : JpegOp} (h : op.exec s = some t) (hop : op.ofClients = false) :
    SameClients s t := by
  cases JpegOp.Step.outcome h with
  | newClient count | close clientHdl sent _ => cases hop
  | createSession _ created => exact (createSession_setsUp created).sameClients
  | startJob job mem =>
    have hcases := startCounted_cases s job mem
    generalize s.startCounted job mem = u at hcases
    rcases hcases with _ | _ | _ | _ <;> exact ⟨rfl, rfl⟩
  | abortJob jobId sent _ =>
    have hcases := abortJob_cases s jobId sent
    generalize s.abortJob jobId sent = u at hcases
    rcases hcases with _ | _ | _ <;> exact ⟨rfl, rfl⟩
  | destroySession _ _ destroyed =>
    obtain ⟨_, _, -, -, -, rfl⟩ := freeQueues_eq destroyed
    obtain ⟨f, g, o, a, i, n, htear⟩ := tearDown_eq s _ _
    rw [htear]
    exact ⟨rfl, rfl⟩
  | unknownSession => exact ⟨rfl, rfl⟩
  | wake woken =>
    dsimp only [JpegObj.wake] at woken
    split_ifs at woken
    cases woken
    exact ⟨rfl, rfl⟩
  | look looked =>
    dsimp only [JpegObj.look] at looked
    split_ifs at looked <;> cases looked <;> exact ⟨rfl, rfl⟩
  | pick picked =>
    obtain ⟨-, hpicked⟩ := pick_cases picked
    rcases hpicked with _ | _ | _ | ⟨-, -, -, -, hplaced⟩
    · exact ⟨rfl, rfl⟩
    · exact ⟨rfl, rfl⟩
    · exact ⟨rfl, rfl⟩
    · rcases hplaced with _ | _ | ⟨-, -, hdone⟩
      · exact ⟨rfl, rfl⟩
      · exact ⟨rfl, rfl⟩
      · rw [jobDone_eq hdone]
        exact ⟨rfl, rfl⟩
  | encoding _ encoding => exact encoding.sameClients

/-! ## Slots that are taken and given up -/

theorem usedClients_gain {idx : ℕ} {c : JpegClient} (valid : idx < maxJpegClientNum)
    (free : (s.client idx).isUsed = false) (used : c.isUsed = true)
    (client : t.client = update s.client idx c) : t.usedClients = s.usedClients + 1 := by
  refine countP_gain nodup_range (mem_range.mpr valid) free ?_ fun i _ hi => ?_
  · rw [client, update_self, used]
  · rw [client, update_of_ne hi]

/-- **A client that is new** takes a slot that is free; or all slots are in use. -/
inductive Opened (s : JpegObj) (count : ℕ) : ℕ × JpegObj → Prop
  | slot {idx clntHdl : ℕ} {t : JpegObj} (valid : idx < maxJpegClientNum)
      (free : (s.client idx).isUsed = false) (named : getIndexByHandler clntHdl = idx)
      (pos : 0 < clntHdl) (client : t.client = update s.client idx ⟨true, clntHdl⟩)
      (number : t.numClients = s.numClients + 1) : Opened s count (clntHdl, t)
  | full (full : (maxJpegClientNum : ℤ) ≤ s.numClients ∨ s.usedClients = maxJpegClientNum) :
      Opened s count (0, s)

theorem newClient_cases (s : JpegObj) (count : ℕ) : Opened s count (s.newClient count) := by
  unfold newClient
  split_ifs with hmax
  · exact .full (.inl hmax)
  · split
    · rename_i idx hidx
      have hmem := mem_range.mp (mem_of_find?_eq_some hidx)
      have hfree : (s.client idx).isUsed = false := by simpa using find?_some hidx
      have hbyte : idx < 256 := hmem.trans (by decide)
      have hnamed : getIndexByHandler (generateHandler idx count).1 = idx :=
        MmCamera.getIndexByHandler_handlerOf _ hbyte
      refine .slot hmem hfree hnamed ?_ rfl rfl
      -- the counter of handles is never zero
      have hpos : 0 < (generateHandler idx count).1 := by
        have hcount : 0 < MmCamera.nextHistoryCount count := by
          unfold MmCamera.nextHistoryCount
          dsimp only
          split_ifs <;> omega
        have hhandler : (generateHandler idx count).1 =
            MmCamera.nextHistoryCount count * 256 + idx := MmCamera.handlerOf_eq _ hbyte
        omega
      exact hpos
    · rename_i hnone
      refine .full (.inr ?_)
      refine (countP_eq_length.mpr fun idx hidx => ?_).trans length_range
      simpa using find?_eq_none.mp hnone idx hidx

theorem Opened.counted {count : ℕ} {res : ℕ × JpegObj} (number : s.numClients = s.usedClients)
    (named : s.NamedClients) (h : Opened s count res) :
    res.2.numClients = res.2.usedClients ∧ res.2.NamedClients ∧ 0 < res.2.usedClients ∧
      ∀ idx, (s.client idx).isUsed = true → res.2.client idx = s.client idx := by
  rcases h with ⟨hvalid, hfree, hname, hpos, hclient, hnumber⟩ | ⟨hfull⟩
  · rename_i idx clntHdl t
    have hgain := usedClients_gain hvalid hfree rfl hclient
    refine ⟨?_, fun i hi hused => ?_, hgain ▸ Nat.succ_pos _, fun i hused => ?_⟩
    · rw [hnumber, hgain, number]
      rfl
    · rw [hclient] at hused ⊢
      by_cases hidx : i = idx
      · rw [hidx, update_self]
        exact ⟨hname, hpos.ne'⟩
      · rw [update_of_ne hidx] at hused ⊢
        exact named i hi hused
    · have hidx : i ≠ idx := by
        intro hidx
        rw [hidx, hfree] at hused
        cases hused
      rw [hclient, update_of_ne hidx]
  · refine ⟨number, named, ?_, fun _ _ => rfl⟩
    have hmax : 0 < maxJpegClientNum := by decide
    dsimp only
    omega

/-- **A client that is closed**: its slot is zeroed, if there is one. -/
theorem close_clients (s : JpegObj) (clientHdl : ℕ) (sent : SessionPtr → Bool) :
    if getIndexByHandler clientHdl < maxJpegClientNum then
      (s.close clientHdl sent).1 = 0 ∧ (s.close clientHdl sent).2.numClients = s.numClients ∧
        (s.close clientHdl sent).2.client =
          update s.client (getIndexByHandler clientHdl) {}
    else s.close clientHdl sent = (-1, s) := by
  unfold close
  dsimp only
  by_cases hidx : getIndexByHandler clientHdl < maxJpegClientNum
  · rw [if_pos hidx, if_neg (not_le.mpr hidx)]
    have hsame := sameClients_abortSessions s (getIndexByHandler clientHdl) sent
    refine ⟨rfl, hsame.2, ?_⟩
    dsimp only [zeroSessions]
    rw [hsame.1]
  · rw [if_neg hidx, if_pos (not_lt.mp hidx)]

end JpegObj

open JpegObj

namespace Intf

variable {s t : Intf} {o : JpegObj} {clientHdl h : ℕ}

/-! ## Live handles -/

theorem live_iff (hobj : s.obj = some o) : s.Live h ↔ ∃ idx < maxJpegClientNum,
    (o.client idx).isUsed = true ∧ (o.client idx).clientHandle = h := by
  constructor
  · rintro ⟨o', ho', hlive⟩
    cases hobj.symm.trans ho'
    exact hlive
  · exact fun hlive => ⟨o, hobj, hlive⟩

theorem not_live (hobj : s.obj = none) : ¬s.Live h := by
  rintro ⟨o, ho, -⟩
  cases hobj.symm.trans ho

instance (s : Intf) (h : ℕ) : Decidable (s.Live h) :=
  match hobj : s.obj with
  | none => .isFalse (not_live hobj)
  | some _ => decidable_of_iff _ (live_iff hobj).symm

theorem usedClients_pos (hobj : s.obj = some o) : 0 < o.usedClients ↔ ∃ h, s.Live h := by
  unfold usedClients
  rw [countP_pos_iff]
  constructor
  · rintro ⟨idx, hidx, hused⟩
    exact ⟨_, (live_iff hobj).mpr ⟨idx, mem_range.mp hidx, hused, rfl⟩⟩
  · rintro ⟨h, hlive⟩
    obtain ⟨idx, hidx, hused, -⟩ := (live_iff hobj).mp hlive
    exact ⟨idx, mem_range.mpr hidx, hused⟩

theorem live_congr (h : t.clients = s.clients) (k : ℕ) : t.Live k ↔ s.Live k := by
  unfold clients at h
  rcases hs : s.obj with _ | o <;> rcases ht : t.obj with _ | o' <;> rw [hs, ht] at h
  · exact ⟨fun hk => absurd hk (not_live ht), fun hk => absurd hk (not_live hs)⟩
  · cases h
  · cases h
  · have hclient : o'.client = o.client := congrArg Prod.fst (some.inj h)
    rw [live_iff hs, live_iff ht, hclient]

theorem Counted.congr (hs : s.Counted) (h : t.clients = s.clients) : t.Counted := by
  refine ⟨fun o' ho' => ?_, fun hne => ?_⟩
  · have hclients := h
    unfold clients at hclients
    rw [ho'] at hclients
    obtain ⟨o, ho, hpair⟩ := map_eq_some_iff.mp hclients.symm
    have hclient : o'.client = o.client := (congrArg Prod.fst hpair).symm
    have hused : o'.usedClients = o.usedClients := by
      unfold usedClients
      rw [hclient]
    rw [hused, ← hs.number o ho]
    exact (congrArg Prod.snd hpair).symm
  · have hobj : s.obj ≠ none := by
      intro hnone
      refine hne (map_eq_none_iff.mp (h.trans ?_))
      rw [clients, hnone]
      rfl
    obtain ⟨k, hk⟩ := hs.client hobj
    exact ⟨k, (live_congr h k).mpr hk⟩

theorem Named.congr (hs : s.Named) (h : t.clients = s.clients) : t.Named := by
  intro o' ho' idx hidx hused
  unfold clients at h
  rw [ho'] at h
  obtain ⟨o, ho, hpair⟩ := map_eq_some_iff.mp h.symm
  have hclient : o'.client = o.client := (congrArg Prod.fst hpair).symm
  rw [hclient] at hused ⊢
  exact hs o ho idx hidx hused

/-! ## Opening -/

theorem firstOpen_counted (hs : s.Counted) (hn : s.Named) {reuse ok init : Bool}
    (h : s.firstOpen reuse ok init = some o) :
    o.numClients = o.usedClients ∧ o.NamedClients ∧ ∀ o', s.obj = some o' → o' = o := by
  unfold firstOpen at h
  split at h
  · rename_i hobj
    cases h
    exact ⟨hs.number o hobj, hn o hobj, fun o' ho' => some.inj (ho'.symm.trans hobj)⟩
  · rename_i hobj
    split_ifs at h
    cases h
    refine ⟨rfl, fun idx _ hused => Bool.noConfusion hused, fun o' ho' => ?_⟩
    cases hobj.symm.trans ho'

/-- **A client is opened**: it is counted, and the others stay. -/
theorem jpegOpen_right (hs : s.Counted) (hn : s.Named) (reuse ok init : Bool) :
    (s.jpegOpen reuse ok init).2.Counted ∧ (s.jpegOpen reuse ok init).2.Named ∧
      ∀ h, s.Live h → (s.jpegOpen reuse ok init).2.Live h := by
  unfold jpegOpen
  split
  · exact ⟨hs, hn, fun _ h => h⟩
  · rename_i o ho
    obtain ⟨hnumber, hnamed, hsame⟩ := firstOpen_counted hs hn ho
    obtain ⟨hnumber', hnamed', hpos, hstay⟩ :=
      (newClient_cases o s.historyCount).counted hnumber hnamed
    -- there is a client now, and so the object stays
    have hright : ∀ t : Intf, t.obj = some (o.newClient s.historyCount).2 →
        t.Counted ∧ t.Named ∧ ∀ h, s.Live h → t.Live h := by
      intro t ht
      refine ⟨⟨fun o' ho' => ?_, fun _ => (usedClients_pos ht).mp hpos⟩, fun o' ho' => ?_, ?_⟩
      · rw [← some.inj (ht.symm.trans ho')]
        exact hnumber'
      · rw [← some.inj (ht.symm.trans ho')]
        exact hnamed'
      · rintro h ⟨o', ho', idx, hidx, hused, hhandle⟩
        rw [hsame o' ho'] at hused hhandle
        refine (live_iff ht).mpr ⟨idx, hidx, ?_⟩
        rw [hstay idx hused]
        exact ⟨hused, hhandle⟩
    dsimp only
    split_ifs with hhdl hzero
    · exact hright _ rfl
    · rw [hnumber'] at hzero
      exact absurd hzero (by omega)
    · exact hright _ rfl

/-! ## Closing -/

/-- **A live handle is closed**: the other clients stay, and without any the object is destroyed. -/
theorem close_live (hs : s.Counted) (hn : s.Named) (hlive : s.Live clientHdl)
    (sent : SessionPtr → Bool) (deinit : ℤ) : (s.close clientHdl sent deinit).2.Counted ∧
      (s.close clientHdl sent deinit).2.Named ∧
      (∀ h, (s.close clientHdl sent deinit).2.Live h ↔ s.Live h ∧ h ≠ clientHdl) ∧
      ((s.close clientHdl sent deinit).2.obj = none ↔ ∀ h, s.Live h → h = clientHdl) := by
  obtain ⟨o, hobj, idx, hidx, hused, hhandle⟩ := hlive
  have hnamed := hn o hobj
  obtain ⟨hindex, hne⟩ := hnamed idx hidx hused
  rw [hhandle] at hindex hne
  have hclose := close_clients o clientHdl sent
  rw [hindex, if_pos hidx] at hclose
  obtain ⟨hrc, hnumber, hclient⟩ := hclose
  -- one slot less is in use
  have hgain : o.usedClients = (o.close clientHdl sent).2.usedClients + 1 := by
    refine usedClients_gain (c := o.client idx) hidx ?_ hused ?_
    · rw [hclient, update_self]
    · rw [hclient, update_idem, update_eq_self]
  have hcount : (o.close clientHdl sent).2.numClients - 1 =
      (o.close clientHdl sent).2.usedClients := by
    rw [hnumber, hs.number o hobj, hgain]
    omega
  have hslots : ∀ h, (∃ i < maxJpegClientNum, ((o.close clientHdl sent).2.client i).isUsed = true ∧
        ((o.close clientHdl sent).2.client i).clientHandle = h) ↔ s.Live h ∧ h ≠ clientHdl := by
    intro h
    rw [live_iff hobj, hclient]
    constructor
    · rintro ⟨i, hi, hiused, hih⟩
      have hiidx : i ≠ idx := by
        intro hiidx
        rw [hiidx, update_self] at hiused
        cases hiused
      rw [update_of_ne hiidx] at hiused hih
      refine ⟨⟨i, hi, hiused, hih⟩, fun heq => hiidx ?_⟩
      rw [← (hnamed i hi hiused).1, hih, heq, hindex]
    · rintro ⟨⟨i, hi, hiused, hih⟩, hdiff⟩
      have hiidx : i ≠ idx := by
        intro hiidx
        rw [hiidx, hhandle] at hih
        exact hdiff hih.symm
      refine ⟨i, hi, ?_⟩
      rw [update_of_ne hiidx]
      exact ⟨hiused, hih⟩
  unfold close
  rw [if_neg hne]
  simp only [hobj]
  generalize hres : (o.close clientHdl sent) = res at *
  obtain ⟨rc, o'⟩ := res
  dsimp only at *
  by_cases hzero : o'.numClients - 1 = 0
  · -- no slot is in use any more
    rw [if_pos ⟨hrc, hzero⟩]
    have hnone : ∀ h, ¬(s.Live h ∧ h ≠ clientHdl) := by
      intro h hlive
      obtain ⟨i, hi, hiused, -⟩ := (hslots h).mpr hlive
      have hpos : 0 < o'.usedClients := countP_pos_iff.mpr ⟨i, mem_range.mpr hi, hiused⟩
      omega
    refine ⟨⟨fun o ho => ?_, fun h => absurd rfl h⟩, fun o ho => ?_, fun h => ?_, ?_⟩
    · cases ho
    · cases ho
    · exact ⟨fun hlive => absurd hlive (not_live rfl), fun hlive => absurd hlive (hnone h)⟩
    · exact ⟨fun _ h hlive => not_not.mp fun hdiff => hnone h ⟨hlive, hdiff⟩, fun _ => rfl⟩
  · rw [if_neg fun h => hzero h.2]
    have hpos : 0 < o'.usedClients := by omega
    obtain ⟨i, hi, hiused⟩ := countP_pos_iff.mp hpos
    rw [mem_range] at hi
    have hmore := (hslots _).mp ⟨i, hi, hiused, rfl⟩
    refine ⟨⟨fun o ho => ?_, fun _ => ⟨_,
      (live_iff (o := { o' with numClients := o'.numClients - 1 }) rfl).mpr ⟨i, hi, hiused, rfl⟩⟩⟩,
      fun o ho => ?_, fun h => ?_, ?_⟩
    · cases ho
      exact hcount
    · cases ho
      intro j hj hjused
      dsimp only at hjused ⊢
      rw [hclient] at hjused ⊢
      by_cases hjidx : j = idx
      · rw [hjidx, update_self] at hjused
        cases hjused
      · rw [update_of_ne hjidx] at hjused ⊢
        exact hnamed j hj hjused
    · exact (live_iff (o := { o' with numClients := o'.numClients - 1 }) rfl).trans (hslots h)
    · constructor
      · intro h
        cases h
      · exact fun hall => absurd (hall _ hmore.1) hmore.2

/-- **A handle that is not live is counted as a client that goes**, whatever its slot. -/
theorem close_not_live (hobj : s.obj = some o) (hne : clientHdl ≠ 0) (sent : SessionPtr → Bool)
    (deinit : ℤ) : (s.close clientHdl sent deinit).2.clients ≠ s.clients := by
  have hnumber : (o.close clientHdl sent).2.numClients = o.numClients := by
    have hclose := close_clients o clientHdl sent
    split_ifs at hclose
    · exact hclose.2.1
    · rw [hclose]
  unfold close clients
  rw [if_neg hne]
  simp only [hobj]
  generalize (o.close clientHdl sent) = res at hnumber
  obtain ⟨rc, o'⟩ := res
  dsimp only at hnumber ⊢
  split_ifs
  · exact nofun
  · intro h
    have hsame : o'.numClients - 1 = o.numClients := congrArg Prod.snd (some.inj h)
    omega

end Intf

open Intf

variable {s t : Intf} {op : IntfOp}

/-- **A proper step is right**, and keeps the handles named. -/
theorem IntfOp.Step.right (h : op.Step s t) (hs : s.Counted) (hn : s.Named) (proper : op.Proper s) :
    op.Right s t ∧ t.Named := by
  unfold IntfOp.Step IntfOp.exec at h
  cases op with
  | jpegOpen reuse ok init =>
    cases h
    obtain ⟨hcounted, hnamed, hstay⟩ := jpegOpen_right hs hn reuse ok init
    exact ⟨⟨hcounted, hstay⟩, hnamed⟩
  | close clientHdl sent deinit =>
    dsimp only at h
    split_ifs at h
    cases h
    by_cases hlive : s.Live clientHdl
    · obtain ⟨hcounted, hnamed, hother, hnone⟩ := close_live hs hn hlive sent deinit
      exact ⟨⟨hcounted, fun _ => hother, fun h => absurd hlive h, fun _ =>
        hnone.trans ⟨fun h => ⟨hlive, h⟩, And.right⟩⟩, hnamed⟩
    · -- without an object, or for 0, nothing is done
      have hsame : (s.close clientHdl sent deinit).2 = s := by
        unfold Intf.close
        rcases proper with hzero | hobj | h
        · rw [if_pos hzero]
        · split_ifs
          · rfl
          · simp only [hobj]
        · exact absurd h hlive
      rw [hsame]
      exact ⟨⟨hs, fun h => absurd h hlive, fun _ => rfl, fun hne =>
        ⟨fun h => absurd h hne, fun h => absurd h.1 hlive⟩⟩, hn⟩
  | job op =>
    simp only [bind_eq_bind, bind_eq_some_iff] at h
    obtain ⟨o, hobj, h⟩ := h
    split_ifs at h with hop
    obtain ⟨o', hstep, h⟩ := bind_eq_some_iff.mp h
    cases h
    have hsame := sameClients_step hstep (Bool.eq_false_iff.mpr hop)
    have hclients : Intf.clients { s with obj := some o' } = s.clients := by
      unfold Intf.clients
      rw [hobj]
      exact congrArg some (Prod.ext hsame.1 hsame.2)
    exact ⟨⟨hs.congr hclients, hclients⟩, hn.congr hclients⟩
  | decoder =>
    cases h
    exact ⟨⟨hs.congr rfl, rfl⟩, hn.congr rfl⟩

theorem IntfOp.Step.proper (h : op.Step s t) (right : op.Right s t) : op.Proper s := by
  cases op with
  | close clientHdl sent deinit =>
    by_contra hproper
    obtain ⟨hzero, hobj, hlive⟩ : clientHdl ≠ 0 ∧ s.obj ≠ none ∧ ¬s.Live clientHdl := by
      unfold IntfOp.Proper at hproper
      push Not at hproper
      exact hproper
    obtain ⟨o, ho⟩ := ne_none_iff_exists'.mp hobj
    unfold IntfOp.Step IntfOp.exec at h
    dsimp only at h
    split_ifs at h
    cases h
    exact close_not_live ho hzero sent deinit (right.2.2.1 hlive)
  | _ => trivial

def IntfOp.ProperStep (op : IntfOp) (s t : Intf) : Prop := op.Step s t ∧ op.Proper s

/-- **Clients are miscounted.** Of two clients, the second closes its handle twice, and the object
is destroyed that the first one uses; and a handle that was never issued leaves an object with one
client and the counter at zero. -/
theorem clients_miscounted :
    let init : Intf := { concurrent := 1 }
    let openOne : IntfOp := .jpegOpen true true true
    let close (clientHdl : ℕ) : IntfOp := .close clientHdl (fun _ => true) 0
    (∃ s t, Run IntfOp.Step [openOne, openOne, close 513] init s ∧ s.Live 256 ∧ ¬s.Live 513 ∧
      (close 513).Step s t ∧ t.obj = none ∧ ¬(close 513).Right s t) ∧
    ∃ s o, Run IntfOp.Step [openOne, close 0x1ff] init s ∧ s.obj = some o ∧ o.numClients = 0 ∧
      o.usedClients = 1 ∧ ¬s.Counted := by
  refine ⟨⟨_, _, .of_execAll rfl, by decide, by decide, rfl, rfl, fun h => ?_⟩,
    ⟨_, _, .of_execAll rfl, rfl, rfl, rfl, fun h => ?_⟩⟩
  · -- the first client would have to be the last one
    obtain ⟨-, hall⟩ := (h.2.2.2 (some_ne_none _)).mp rfl
    exact absurd (hall 256 (by decide)) (by decide)
  · have hnumber := h.number _ rfl
    cases hnumber

/-- **The clients are counted** in every proper run, and a further step is right exactly if it is
proper. -/
theorem clients_counted {concurrent : ℕ} {ops : List IntfOp}
    (h : Run IntfOp.ProperStep ops { concurrent := concurrent } s) :
    s.Counted ∧ ∀ (op : IntfOp) (t : Intf), op.Step s t → (op.Right s t ↔ op.Proper s) := by
  have hinv : s.Counted ∧ s.Named := by
    refine h.invariant (I := fun s => s.Counted ∧ s.Named) (fun op s t hstep hs => ?_)
      ⟨⟨fun o ho => (by cases ho), fun h => absurd rfl h⟩, fun o ho => (by cases ho)⟩
    obtain ⟨hstep, hproper⟩ := hstep
    obtain ⟨hright, hnamed⟩ := hstep.right hs.1 hs.2 hproper
    exact ⟨hright.1, hnamed⟩
  exact ⟨hinv.1, fun op t hstep => ⟨hstep.proper, fun hproper =>
    (hstep.right hinv.1 hinv.2 hproper).1⟩⟩

/-- Two clients are opened and closed, and the object goes with the second. -/
theorem clients_counted_twoClients :
    let openOne : IntfOp := .jpegOpen true true true
    let close (clientHdl : ℕ) : IntfOp := .close clientHdl (fun _ => true) 0
    ∃ s t, Run IntfOp.ProperStep [openOne, openOne, close 513] { concurrent := 1 } s ∧
      s.Counted ∧ s.Live 256 ∧ ¬s.Live 513 ∧ (close 256).Step s t ∧ t.obj = none ∧
        (close 256).Right s t := by
  intro openOne close
  obtain ⟨s, t, h, hlive, hnot, hstep, hnone⟩ : ∃ s t,
      Run IntfOp.ProperStep [openOne, openOne, close 513] { concurrent := 1 } s ∧ s.Live 256 ∧
        ¬s.Live 513 ∧ (close 256).Step s t ∧ t.obj = none := by
    refine ⟨_, _, .cons ⟨rfl, trivial⟩ (.cons ⟨rfl, trivial⟩ (.one ⟨rfl, .inr (.inr ?_)⟩)), ?_, ?_,
      rfl, rfl⟩
    · decide
    · decide
    · decide
  obtain ⟨hcounted, hright⟩ := clients_counted h
  exact ⟨s, t, h, hcounted, hlive, hnot, hstep, hnone, (hright _ _ hstep).mpr (.inr (.inr hlive))⟩

end MmJpeg
