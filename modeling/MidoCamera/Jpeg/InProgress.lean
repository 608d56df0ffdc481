import MidoCamera.Jpeg.Groups

/-!
# The session in progress

One session of all clients at a time is configured, and `p_session_inprogress` points to it. A
session that is encoded takes over from it, and a session that is destroyed gives it up. The number
of sessions goes along with the handles of OMX.

`mm_jpeg_close` zeroes the sessions of a client without destroying them: the pointer and the number
of sessions are left as they were.
-/

namespace MmJpeg

open Loop Function List

namespace JpegObj

def handles (s : JpegObj) : ℕ := table.countP fun r => (s.session r).omxHandle

/-- **The session in progress is valid**: it is active and configured, no other session is
configured, and the number of sessions is that of the OMX handles. -/
structure Current (s : JpegObj) : Prop where
  active : ∀ r, s.inprogress = some r →
    (s.session r).active = true ∧ (s.session r).config = true
  single : ∀ r b, (s.session r).config = true → (s.session b).config = true → r = b
  number : s.numSessions = s.handles

/-- The session in progress is active, and it is the configured one. -/
structure Settled (s : JpegObj) : Prop where
  current : ∀ r, s.inprogress = some r →
    (s.session r).active = true ∧ (s.session r).config = true
  configured : ∀ r, (s.session r).config = true → s.inprogress = some r

/-- **The invariant.** The sessions that are active are those with a handle, and the session that
the manager has entered is one of them. -/
structure Valid (s : JpegObj) : Prop where
  settled : s.Settled
  component : ∀ r, (s.session r).omxHandle = (s.session r).active
  entered : ∀ r, s.pc = .configuring r → (s.session r).active = true
  number : s.numSessions = s.handles

variable {s t u : JpegObj} {r : SessionPtr} {p : JobSession} {mem : Mem} {q : ℕ}

theorem Valid.current (hs : s.Valid) : s.Current where
  active := hs.settled.current
  single := fun r b hr hb => Option.some.inj
    ((hs.settled.configured r hr).symm.trans (hs.settled.configured b hb))
  number := hs.number

/-! ## Steps that leave the sessions as they are -/

theorem handles_congr (omxHandle : ∀ b, (t.session b).omxHandle = (s.session b).omxHandle) :
    t.handles = s.handles := by
  unfold handles
  simp only [omxHandle]

theorem handles_gain (inTable : r.InTable) (was : (s.session r).omxHandle = false)
    (now : (t.session r).omxHandle = true)
    (others : ∀ b ≠ r, (t.session b).omxHandle = (s.session b).omxHandle) :
    t.handles = s.handles + 1 :=
  countP_gain nodup_table (mem_table.mpr inTable) was now fun b _ => others b

theorem handles_lt (s : JpegObj) : s.handles + 1 < 2 ^ 32 := by
  have hle : s.handles ≤ table.length := countP_le_length
  have htable : table.length + 1 < 2 ^ 32 := by decide
  exact (Nat.succ_le_succ hle).trans_lt htable

theorem Valid.reconfigure (hs : s.Valid)
    (active : ∀ b, (t.session b).active = (s.session b).active)
    (omxHandle : ∀ b, (t.session b).omxHandle = (s.session b).omxHandle)
    (numSessions : t.numSessions = s.numSessions) (settled : t.Settled)
    (entered : ∀ r, t.pc = .configuring r → (s.session r).active = true) : t.Valid where
  settled := settled
  component := fun r => by rw [omxHandle, active, hs.component]
  entered := fun r hr => (active r).trans (entered r hr)
  number := by rw [numSessions, handles_congr omxHandle, hs.number]

theorem Settled.congr (hs : s.Settled) (active : ∀ b, (t.session b).active = (s.session b).active)
    (config : ∀ b, (t.session b).config = (s.session b).config)
    (inprogress : t.inprogress = s.inprogress) : t.Settled where
  current := fun b hb => by
    rw [active, config]
    exact hs.current b (inprogress ▸ hb)
  configured := fun b hb => inprogress.trans (hs.configured b (config b ▸ hb))

theorem Valid.congr (hs : s.Valid) (active : ∀ b, (t.session b).active = (s.session b).active)
    (config : ∀ b, (t.session b).config = (s.session b).config)
    (omxHandle : ∀ b, (t.session b).omxHandle = (s.session b).omxHandle)
    (inprogress : t.inprogress = s.inprogress) (numSessions : t.numSessions = s.numSessions)
    (entered : ∀ r, t.pc = .configuring r → (s.session r).active = true) : t.Valid :=
  hs.reconfigure active omxHandle numSessions (hs.settled.congr active config inprogress) entered

theorem Valid.of_session (hs : s.Valid) (session : t.session = s.session)
    (inprogress : t.inprogress = s.inprogress) (numSessions : t.numSessions = s.numSessions)
    (entered : ∀ r, t.pc = .configuring r → (s.session r).active = true) : t.Valid :=
  hs.congr (fun _ => by rw [session]) (fun _ => by rw [session]) (fun _ => by rw [session])
    inprogress numSessions entered

theorem Valid.update (hs : s.Valid) (session : t.session = update s.session r p)
    (active : p.active = (s.session r).active) (config : p.config = (s.session r).config)
    (omxHandle : p.omxHandle = (s.session r).omxHandle)
    (inprogress : t.inprogress = s.inprogress) (numSessions : t.numSessions = s.numSessions)
    (entered : ∀ r, t.pc = .configuring r → (s.session r).active = true) : t.Valid := by
  have hfield : ∀ (f : JobSession → Bool), f p = f (s.session r) →
      ∀ b, f (t.session b) = f (s.session b) := by
    intro f hf b
    rw [session]
    by_cases hb : b = r
    · rw [hb, update_self, hf]
    · rw [update_of_ne hb]
  exact hs.congr (hfield _ active) (hfield _ config) (hfield _ omxHandle) inprogress numSessions
    entered

/-! ## Taking over -/

theorem Settled.configure (hs : s.Settled) (none : s.inprogress = none)
    (active : (s.session r).active = true) : Settled { s.setSession r
      { s.session r with config := true } with inprogress := some r } := by
  have hnone : ∀ b, (s.session b).config = false := by
    intro b
    refine Bool.eq_false_iff.mpr fun hb => ?_
    have hconfigured := hs.configured b hb
    rw [none] at hconfigured
    cases hconfigured
  refine ⟨fun b hb => ?_, fun b hb => ?_⟩
  · cases hb
    dsimp only
    rw [setSession_self]
    exact ⟨active, rfl⟩
  · by_cases hbr : b = r
    · rw [hbr]
    · dsimp only at hb
      rw [setSession_other _ hbr, hnone b] at hb
      cases hb

theorem Settled.stop (hs : s.Settled) (ok : Bool) : (s.stopInprogress ok).2.Settled ∧
    ((s.stopInprogress ok).1 = true → (s.stopInprogress ok).2.inprogress = none) ∧
      ∀ b, ((s.stopInprogress ok).2.session b).active = (s.session b).active := by
  unfold stopInprogress
  split
  · rename_i o ho
    split_ifs
    · refine ⟨⟨nofun, fun b hb => ?_⟩, fun _ => rfl, fun b => ?_⟩
      · -- no other session was configured
        dsimp only at hb
        by_cases hbo : b = o
        · rw [hbo, setSession_self] at hb
          cases hb
        · rw [setSession_other _ hbo] at hb
          have hinprogress := hs.configured b hb
          rw [ho] at hinprogress
          exact absurd (Option.some.inj hinprogress).symm hbo
      · dsimp only
        by_cases hbo : b = o
        · rw [hbo, setSession_self]
        · rw [setSession_other _ hbo]
    · exact ⟨hs, nofun, fun _ => rfl⟩
  · rename_i hnone
    exact ⟨hs, fun _ => hnone, fun _ => rfl⟩

/-- **A session that takes over** is the one in progress; or none is, or the one that was. -/
theorem Settled.takeOver (hs : s.Settled) (active : (s.session r).active = true)
    (out : EncodeOutcome) : (s.takeOver r out).2.Settled := by
  unfold JpegObj.takeOver
  split_ifs
  · exact hs
  · obtain ⟨hstop, hnone, hactive⟩ := hs.stop out.stop
    dsimp only
    split_ifs with hok
    · rw [Bool.and_eq_true] at hok
      exact hstop.configure (hnone hok.1) ((hactive r).trans active)
    · exact hstop

/-- **A job that is encoded** keeps the session in progress valid. -/
theorem Encoding.valid {op : JpegOp} (hs : s.Valid) (h : s.Encoding op t) : t.Valid := by
  have hflags : ∀ {f : SessionPtr → Flags} {i : Option SessionPtr} {pc : MgrPc},
      s.Advance pc → s.Reconfigured f i → (s.setFlags f i pc).Valid := by
    intro f i pc hpc hconf
    refine hs.reconfigure (fun _ => rfl) (fun _ => rfl) rfl ?_ ?_
    · rcases hconf with ⟨hsame, rfl⟩ | ⟨r, hr, hconf⟩
      · exact hs.settled.congr (fun _ => rfl) hsame rfl
      rcases hconf with ⟨hsame, rfl⟩ | ⟨out, hconfig, rfl⟩
      · exact hs.settled.congr (fun _ => rfl) hsame rfl
      · -- the flags are those that taking over leaves
        obtain ⟨g, o, ho⟩ := takeOver_eq s r out
        refine (hs.settled.takeOver (hs.entered r hr) out).congr (fun _ => ?_) hconfig rfl
        rw [ho]
        rfl
    · intro r hr
      rcases hpc with _ | _ | _
      · exact hs.entered r hr
      · cases hr
      · cases hr
  rcases h with ⟨f, i, pc, hpc, hconf, -⟩ | ⟨f, i, pc, hpc, hconf, -, hdone⟩
  · exact hflags hpc hconf
  · rw [endJob_eq hdone]
    exact (hflags hpc hconf).update rfl rfl rfl rfl rfl rfl (hflags hpc hconf).entered

theorem Valid.pick (hs : s.Valid) (ht : s.Tied) (h : s.pick mem = some t) : t.Valid := by
  obtain ⟨-, hpicked⟩ := pick_cases h
  rcases hpicked with _ | _ | _ | ⟨htodo, hnamed, hq, hidle, hplaced⟩
  · exact hs.of_session rfl rfl rfl nofun
  · exact hs.of_session rfl rfl rfl nofun
  · exact hs.of_session rfl rfl rfl nofun
  · rename_i j rest a r q l
    have hactive : (s.session r).active = true :=
      ht.live r q (ht.home q _ r hidle mem_cons_self) (by
        rw [hidle]
        exact Option.some_ne_none _)
    have hsetUp : ∀ b o, ((s.dequeued rest q l).setUp r b o).Valid := fun b o =>
      hs.update rfl rfl rfl rfl rfl rfl nofun
    rcases hplaced with ⟨o, -, -, -, -⟩ | ⟨-, -⟩ | ⟨-, -, hdone⟩
    · exact hsetUp _ o
    · rename_i b o j'
      refine (hsetUp b o).update rfl rfl rfl rfl rfl rfl fun c hc => ?_
      cases hc
      exact ((steady_dequeued _ _ _ hidle).active r).trans hactive
    · rw [jobDone_eq hdone]
      exact (hsetUp _ _).update rfl rfl rfl rfl rfl rfl nofun

section

variable {v : JpegObj} {c i id n : ℕ} {prev : Option SessionPtr} {params : EncodeParams}
  {out : ℕ → SessionOutcome} {res : Bool × ℕ × JpegObj}

theorem Valid.created (hs : s.Valid) (params : EncodeParams) (inTable : r.InTable)
    (inactive : (s.session r).active = false) (hprev : prev ≠ some r) :
    ((s.takeEntry prev r params).sessionCreate r true).Valid ∧
      (((s.takeEntry prev r params).sessionCreate r true).session r).active = true := by
  obtain ⟨f, hf⟩ := created_eq s prev r params true hprev
  rw [hf]
  dsimp only
  rw [update_self]
  refine ⟨?_, rfl⟩
  have hother : ∀ {b}, b ≠ r → ∀ x, Function.update (fun b => { s.session b with
      nextSession := f b }) r x b = { s.session b with nextSession := f b } := fun hb x =>
    update_of_ne hb _ _
  refine ⟨⟨fun b hb => ?_, fun b hb => ?_⟩, fun b => ?_, fun b hb => ?_, ?_⟩
  · have hcurrent := hs.settled.current b hb
    have hbr : b ≠ r := by
      intro hbr
      rw [hbr, inactive] at hcurrent
      cases hcurrent.1
    dsimp only
    rw [hother hbr]
    exact hcurrent
  · by_cases hbr : b = r
    · dsimp only at hb
      rw [hbr, update_self] at hb
      cases hb
    · dsimp only at hb
      rw [hother hbr] at hb
      exact hs.settled.configured b hb
  · by_cases hbr : b = r
    · dsimp only
      rw [hbr, update_self]
    · dsimp only
      rw [hother hbr]
      exact hs.component b
  · by_cases hbr : b = r
    · dsimp only
      rw [hbr, update_self]
    · dsimp only
      rw [hother hbr]
      exact hs.entered b hb
  · have hgain := handles_gain (s := s) (t := { s with
        session := Function.update (fun b => { s.session b with nextSession := f b }) r
          { s.session r with
            active := true
            nextSession := none
            params := params
            abortState := .none
            config := false
            autoOutBuf := false
            omxHandle := true
            filling := false
            job := 0 } }) inTable ((hs.component r).trans inactive) ?_ fun b hb => ?_
    · dsimp only
      rw [if_pos rfl, hs.number, Nat.mod_eq_of_lt (handles_lt s)]
      exact hgain.symm
    · dsimp only
      rw [update_self]
    · dsimp only
      rw [hother hb]

theorem Valid.noHandle (hs : s.Valid) (inactive : (s.session r).active = false)
    (hprev : prev ≠ some r) (created : (s.takeEntry prev r params).sessionCreate r false = v) :
    (v.setSession r { v.session r with active := false }).Valid := by
  obtain ⟨f, hf⟩ := created_eq s prev r params false hprev
  rw [← created, hf]
  simp only [setSession, update_self, update_idem]
  have hconfig : (s.session r).config = false := by
    refine Bool.eq_false_iff.mpr fun hr => ?_
    rw [(hs.settled.current r (hs.settled.configured r hr)).1] at inactive
    cases inactive
  have hstanding : ∀ (f' : JobSession → Bool) (x : JobSession), f' x = f' (s.session r) →
      (∀ b n, f' { s.session b with nextSession := n } = f' (s.session b)) →
      ∀ b, f' (Function.update (fun b => { s.session b with nextSession := f b }) r x b) =
        f' (s.session b) := by
    intro f' x hx hlink b
    by_cases hb : b = r
    · rw [hb, update_self, hx]
    · rw [update_of_ne hb, hlink]
  exact hs.congr (hstanding (·.active) _ inactive.symm fun _ _ => rfl)
    (hstanding (·.config) _ hconfig.symm fun _ _ => rfl)
    (hstanding (·.omxHandle) _ ((hs.component r).trans inactive).symm fun _ _ => rfl) rfl rfl
    hs.entered

theorem Valid.named (hs : s.Valid) (active : (s.session r).active = true)
    (named : s.nameSession r q mem = some t) (ok : Bool) : (t.configureFirst r ok).2.Valid ∧
      ((t.configureFirst r ok).2.session r).active = true := by
  unfold nameSession at named
  have ht := enqHandle_eq named
  have hvalid : t.Valid := by
    rw [ht]
    exact hs.update rfl rfl rfl rfl rfl rfl hs.entered
  have hactive : (t.session r).active = true := by
    rw [ht]
    dsimp only
    rw [setSession_self]
    exact active
  unfold configureFirst
  split_ifs with hfirst
  · have hsettled := hvalid.settled.configure hfirst.2 hactive
    have hset : ∀ (f : JobSession → Bool), f { t.session r with config := true } = f (t.session r) →
        ∀ b, f ((t.setSession r { t.session r with config := true }).session b) =
          f (t.session b) := by
      intro f hf b
      by_cases hb : b = r
      · rw [hb, setSession_self, hf]
      · rw [setSession_other _ hb]
    exact ⟨hvalid.reconfigure (hset (·.active) rfl) (hset (·.omxHandle) rfl) rfl hsettled
      hvalid.entered, (hset (·.active) rfl r).trans hactive⟩
  · exact ⟨hvalid, hactive⟩
  · exact ⟨hvalid, hactive⟩

/-- **The loop that creates a group.** The session before is active, and so it is not the entry that
is taken. -/
theorem Valid.createLoop (hs : s.Valid) (valid : c < maxJpegClientNum)
    (hprev : ∀ p, prev = some p → (s.session p).active = true)
    (h : s.createLoop c params q mem out n i prev id = some res) : res.2.2.Valid := by
  induction n generalizing s i prev id with
  | zero =>
    cases h
    exact hs.of_session rfl rfl rfl hs.entered
  | succ n ih =>
    have hentry : ∀ {r}, s.getNewSessionIdx c = some r → r.InTable ∧
        (s.session r).active = false ∧ prev ≠ some r := by
      intro r hr
      obtain ⟨rfl, hidx, hinactive⟩ := getNewSessionIdx_some hr
      refine ⟨⟨hidx, valid⟩, hinactive, fun hp => ?_⟩
      rw [hprev r hp] at hinactive
      cases hinactive
    rcases createLoop_cases h with _ | ⟨hr, hcreated, -⟩ | ⟨hr, hnamed, -⟩ | ⟨hr, hnamed, -, hrest⟩
    · exact hs
    · obtain ⟨-, hinactive, hne⟩ := hentry hr
      exact hs.noHandle hinactive hne hcreated
    · obtain ⟨hin, hinactive, hne⟩ := hentry hr
      obtain ⟨hcreated, hactive⟩ := hs.created params hin hinactive hne
      exact (hcreated.named hactive hnamed _).1
    · obtain ⟨hin, hinactive, hne⟩ := hentry hr
      obtain ⟨hcreated, hactive⟩ := hs.created params hin hinactive hne
      obtain ⟨hvalid, hactive⟩ := hcreated.named hactive hnamed _
      refine ih hvalid (fun p hp => ?_) hrest
      cases hp
      exact hactive

/-- **A group that is created** leaves the session in progress valid. -/
theorem Valid.createSession {clientHdl : ℕ} (hs : s.Valid)
    (h : s.createSession clientHdl params mem out = some t) : t.Valid := by
  rcases createSession_cases h with w | ⟨hvalid, -, hloop⟩
  · exact hs.of_session rfl rfl rfl hs.entered
  · rename_i ok w id u
    have hnew : ({ s with workBufCnt := w } : JpegObj).newQueues.Valid :=
      hs.of_session rfl rfl rfl hs.entered
    have hu := hnew.createLoop hvalid (fun p hp => by cases hp) hloop
    split_ifs
    · exact hu.of_session rfl rfl rfl hu.entered
    · exact hu

end

/-! ## Sessions that are given up -/

theorem Valid.zeroSessions (hs : s.Valid) {c : ℕ}
    (inactive : ∀ r : SessionPtr, r.clientIdx = c → (s.session r).active = false) :
    (s.zeroSessions c).Valid := by
  have hzero : ∀ (f : JobSession → Bool), f {} = false →
      (∀ b, (s.session b).active = false → f (s.session b) = false) →
        ∀ b, f ((s.zeroSessions c).session b) = f (s.session b) := by
    intro f hf hnot b
    simp only [JpegObj.zeroSessions]
    split_ifs with hb
    · rw [hf, hnot b (inactive b hb.1)]
    · rfl
  have hactive := hzero (·.active) rfl fun b hb => hb
  refine hs.congr hactive (hzero (·.config) rfl fun b hb => ?_)
    (hzero (·.omxHandle) rfl fun b hb => (hs.component b).trans hb) rfl rfl hs.entered
  refine Bool.eq_false_iff.mpr fun hconfig => ?_
  rw [(hs.settled.current b (hs.settled.configured b hconfig)).1] at hb
  cases hb

theorem sessionDestroy_number {l : List SessionPtr} (nodup : l.Nodup)
    (table : ∀ b ∈ l, b.InTable) (handles : ∀ b ∈ l, (s.session b).omxHandle = true)
    (hs : s.numSessions = s.handles) : (s.sessionDestroy l).numSessions =
      (s.sessionDestroy l).handles := by
  induction l generalizing s with
  | nil => exact hs
  | cons r rest ih =>
    rw [nodup_cons] at nodup
    unfold sessionDestroy
    rw [if_pos (handles r mem_cons_self)]
    have hself : ((s.sessionDestroyOne r).session r).omxHandle = false :=
      congrArg (·.omxHandle) (setSession_self s r _)
    have hother : ∀ b ≠ r, ((s.sessionDestroyOne r).session b) = s.session b := fun b hb =>
      setSession_other _ hb
    refine ih nodup.2 (fun b hb => table b (mem_cons_of_mem r hb)) (fun b hb => ?_) ?_
    · rw [hother b fun hbr => nodup.1 (hbr ▸ hb)]
      exact handles b (mem_cons_of_mem r hb)
    · have hgain := handles_gain (s := s.sessionDestroyOne r) (table r mem_cons_self) hself
        (handles r mem_cons_self) fun b hb => by rw [hother b hb]
      have hlt := handles_lt (s.sessionDestroyOne r)
      -- the number is that of one handle more
      have hnumber : (s.sessionDestroyOne r).numSessions = (s.numSessions + 2 ^ 32 - 1) % 2 ^ 32 :=
        rfl
      rw [hnumber, hs, hgain]
      omega

/-- **The sessions of a list that are destroyed**, where each has a handle. -/
theorem sessionDestroy_standing {l : List SessionPtr} (nodup : l.Nodup)
    (handles : ∀ b ∈ l, (s.session b).omxHandle = true) :
    (∀ b, ((s.sessionDestroy l).session b).config =
      if b ∈ l then false else (s.session b).config) ∧
    (∀ b, ((s.sessionDestroy l).session b).omxHandle =
      if b ∈ l then false else (s.session b).omxHandle) ∧
    ∀ b, (s.sessionDestroy l).inprogress = some b ↔ s.inprogress = some b ∧ b ∉ l := by
  induction l generalizing s with
  | nil => exact ⟨fun _ => rfl, fun _ => rfl, fun b => ⟨fun h => ⟨h, not_mem_nil⟩, And.left⟩⟩
  | cons r rest ih =>
    rw [nodup_cons] at nodup
    unfold sessionDestroy
    rw [if_pos (handles r mem_cons_self)]
    have hself : (s.sessionDestroyOne r).session r =
        { s.session r with config := false, omxHandle := false } := setSession_self s r _
    have hother : ∀ b ≠ r, (s.sessionDestroyOne r).session b = s.session b := fun b hb =>
      setSession_other _ hb
    obtain ⟨hconfig, hhandle, hinprogress⟩ := ih (s := s.sessionDestroyOne r) nodup.2 fun b hb => by
      rw [hother b fun hbr => nodup.1 (hbr ▸ hb)]
      exact handles b (mem_cons_of_mem r hb)
    have hfield : ∀ (f : JobSession → Bool) (b : SessionPtr),
        f ((s.sessionDestroyOne r).session r) = false →
        (if b ∈ rest then false else f ((s.sessionDestroyOne r).session b)) =
          if b ∈ r :: rest then false else f (s.session b) := by
      intro f b hf
      by_cases hb : b = r
      · rw [hb, hf, ite_self, if_pos mem_cons_self]
      · rw [hother b hb]
        simp only [mem_cons, hb, false_or]
    refine ⟨fun b => ?_, fun b => ?_, fun b => ?_⟩
    · rw [hconfig, hfield (·.config) b (congrArg (·.config) hself)]
    · rw [hhandle, hfield (·.omxHandle) b (congrArg (·.omxHandle) hself)]
    · rw [hinprogress, mem_cons, not_or]
      have hone : (s.sessionDestroyOne r).inprogress =
          if s.inprogress = some r then none else s.inprogress := rfl
      rw [hone]
      split_ifs with hr
      · rw [hr]
        exact ⟨fun h => h.1.elim, fun h => absurd (Option.some.inj h.1).symm h.2.1⟩
      · constructor
        · exact fun h => ⟨h.1, fun hbr => hr (hbr ▸ h.1), h.2⟩
        · exact fun h => ⟨h.1, h.2.2⟩

/-- **A group that is destroyed** leaves the session in progress valid. -/
theorem Valid.destroySession (hs : s.Valid) (ht : s.Tied) {sent : SessionPtr → Bool}
    (intact : s.Intact r) (unlocked : ∀ b, s.pc ≠ .configuring b)
    (h : s.destroySession r sent = some t) : t.Valid := by
  obtain ⟨q, q', -, -, -, rfl⟩ := freeQueues_eq h
  have hactive := tearDown_active ht.named (fun b hb => (intact.2 b hb).1) sent
  have hpc : (s.tearDown r sent).pc = s.pc := by
    obtain ⟨f, g, o, a, i, n, htear⟩ := tearDown_eq s r sent
    rw [htear]
    rfl
  suffices hvalid : (s.tearDown r sent).Valid from
    hvalid.update rfl rfl rfl rfl rfl rfl hvalid.entered
  -- aborting leaves the sessions and their links
  obtain ⟨a, ha⟩ := sessionAbort_eq sent fuel (s.removeJobs (s.session r).sessionId) r
  have hchain : (s.destroySessionUnlocked sent r).chain fuel r = s.chain fuel r := by
    refine chain_congr (fun b => ?_) fuel r
    rw [destroySessionUnlocked, ha]
    rfl
  have haborted : (s.destroySessionUnlocked sent r).Valid := by
    rw [destroySessionUnlocked, ha]
    exact hs.congr (fun _ => rfl) (fun _ => rfl) (fun _ => rfl) rfl rfl hs.entered
  have hhandles : ∀ b ∈ s.chain fuel r,
      ((s.destroySessionUnlocked sent r).session b).omxHandle = true := by
    intro b hb
    rw [destroySessionUnlocked, ha]
    exact (hs.component b).trans (intact.2 b hb).1
  have hnumber := sessionDestroy_number intact.1
    (fun b hb => (ht.named b (intact.2 b hb).1).2) hhandles haborted.number
  obtain ⟨hconfig, hhandle, hinprogress⟩ := sessionDestroy_standing intact.1 hhandles
  obtain ⟨f, hf⟩ := removeSessionIdx_eq (s.chain fuel r)
    ((s.destroySessionUnlocked sent r).sessionDestroy (s.chain fuel r))
  have htear : s.tearDown r sent = { (s.destroySessionUnlocked sent r).sessionDestroy
      (s.chain fuel r) with session := fun b => { ((s.destroySessionUnlocked sent r).sessionDestroy
        (s.chain fuel r)).session b with active := f b } } := by
    unfold tearDown
    dsimp only
    rw [hchain, hf]
  have hsame : ∀ b, ((s.destroySessionUnlocked sent r).session b).active = (s.session b).active := by
    intro b
    rw [destroySessionUnlocked, ha]
    rfl
  rw [htear] at hactive hpc ⊢
  refine ⟨⟨fun b hb => ?_, fun b hb => ?_⟩, fun b => ?_, fun b hb => ?_, hnumber⟩
  · obtain ⟨hb, hnot⟩ := (hinprogress b).mp hb
    obtain ⟨hact, hconf⟩ := haborted.settled.current b hb
    refine ⟨?_, ?_⟩
    · rw [hactive, if_neg hnot, ← hsame]
      exact hact
    · dsimp only
      rw [hconfig, if_neg hnot]
      exact hconf
  · dsimp only at hb
    rw [hconfig] at hb
    split_ifs at hb with hmem
    exact (hinprogress b).mpr ⟨haborted.settled.configured b hb, hmem⟩
  · rw [hactive]
    dsimp only
    rw [hhandle, haborted.component, hsame]
  · exact absurd (hpc.symm.trans hb) (unlocked b)

end JpegObj

open JpegObj

variable {s t : JpegObj} {op : JpegOp}

/-- **Orderly steps keep the session in progress valid.** -/
theorem JpegOp.Step.valid (h : op.Step s t) (hs : s.Valid) (ht : s.Tied) (orderly : op.Orderly s) :
    t.Valid := by
  have hunlocked : ¬s.Locked → ∀ b, s.pc ≠ .configuring b := fun hnot b hb =>
    hnot (locked_of_configuring hb)
  cases h.outcome with
  | newClient count =>
    unfold JpegObj.newClient
    split_ifs
    · exact hs
    · split
      · rename_i idx hidx
        have hzero := hs.zeroSessions (c := idx) fun r hr => orderly r (hr ▸ hidx)
        exact hzero.of_session rfl rfl rfl hzero.entered
      · exact hs
  | createSession _ created => exact hs.createSession created
  | startJob job mem =>
    have hcases := startCounted_cases s job mem
    generalize s.startCounted job mem = u at hcases
    rcases hcases with ⟨w, _⟩ | ⟨w, _, _, _⟩ | ⟨w, _⟩ | ⟨w, _, _⟩
    · exact hs.of_session rfl rfl rfl hs.entered
    · exact hs.of_session rfl rfl rfl hs.entered
    · exact hs.update rfl rfl rfl rfl rfl rfl hs.entered
    · exact hs.update rfl rfl rfl rfl rfl rfl hs.entered
  | abortJob jobId sent _ =>
    have hcases := abortJob_cases s jobId sent
    generalize s.abortJob jobId sent = u at hcases
    rcases hcases with _ | _ | _
    · exact hs.of_session rfl rfl rfl hs.entered
    · exact hs.congr (fun _ => rfl) (fun _ => rfl) (fun _ => rfl) rfl rfl hs.entered
    · exact hs
  | destroySession unlocked named destroyed =>
    exact hs.destroySession ht (orderly _ named) (hunlocked unlocked) destroyed
  | unknownSession => exact hs
  | close clientHdl sent _ =>
    rcases close_eq orderly with heq | heq <;> rw [heq]
    · exact hs
    · have hzero := hs.zeroSessions orderly
      exact hzero.of_session rfl rfl rfl hzero.entered
  | wake woken =>
    dsimp only [JpegObj.wake] at woken
    split_ifs at woken
    cases woken
    exact hs.of_session rfl rfl rfl nofun
  | look looked =>
    dsimp only [JpegObj.look] at looked
    split_ifs at looked <;> cases looked <;> exact hs.of_session rfl rfl rfl nofun
  | pick picked => exact hs.pick ht picked
  | encoding _ encoding => exact encoding.valid hs

theorem valid_init (concurrent : ℕ) (reuse : Bool) :
    Valid (.init concurrent reuse) where
  settled := ⟨nofun, nofun⟩
  component := fun _ => rfl
  entered := fun r hr => by cases hr
  number := by
    refine (countP_eq_zero.mpr fun r _ => ?_).symm
    exact Bool.false_ne_true

def JpegOp.OrderlyStep (op : JpegOp) (s t : JpegObj) : Prop := op.Step s t ∧ op.Orderly s

/-- **The session in progress dangles.** A client is closed whose session is in progress: the
session is zeroed, and neither the pointer nor the number of sessions is. Or the second session of a
group gets no handle: it stays linked, and when the group is destroyed, it is the session at the id
that it had before which is not active any more. -/
theorem inprogress_dangling :
    let params : EncodeParams := { numSrcBufs := 1, numDstBufs := 1, jpegCb := true }
    (∃ s, Run JpegOp.Step [.newClient 1, .createSession 512 params {} fun _ => {},
        .close 512 fun _ => true] (.init 1 false) s ∧
      s.inprogress = some ⟨0, 0⟩ ∧ (s.session ⟨0, 0⟩).active = false ∧ s.numSessions = 1 ∧
        s.handles = 0 ∧ ¬s.Current) ∧
    ∃ s, Run JpegOp.Step [.newClient 1, .createSession 512 params {} fun _ => {}, .newClient 2,
        .createSession 769 { params with burstMode := true } {} fun i => { handle := i == 0 },
        .destroySession 0x1000001 fun _ => true] (.init 2 false) s ∧
      s.inprogress = some ⟨0, 0⟩ ∧ (s.session ⟨0, 0⟩).active = false ∧ ¬s.Current := by
  refine ⟨⟨_, .of_execAll rfl, rfl, rfl, rfl, rfl, fun h => ?_⟩,
    ⟨_, .of_execAll rfl, rfl, rfl, fun h => ?_⟩⟩
  · have hactive := (h.active ⟨0, 0⟩ rfl).1
    cases hactive
  · have hactive := (h.active ⟨0, 0⟩ rfl).1
    cases hactive

/-- **The session in progress is valid** in every orderly run. -/
theorem inprogress_valid {concurrent : ℕ} {reuse : Bool} {ops : List JpegOp}
    (h : Run JpegOp.OrderlyStep ops (.init concurrent reuse) s) :
    s.Current := by
  have hinv : s.Valid ∧ s.Tied := by
    refine h.invariant (I := fun s => s.Valid ∧ s.Tied) (fun op s t hstep hs => ?_)
      ⟨valid_init _ _, tied_init _ _⟩
    obtain ⟨hstep, horderly⟩ := hstep
    exact ⟨hstep.valid hs.1 hs.2 horderly, hstep.tied hs.2 horderly⟩
  exact hinv.1.current

/-- The second of two sessions takes over, and is then destroyed. -/
theorem inprogress_valid_takesOver :
    let create : JpegOp := .createSession 512 ⟨1, 1, false, true⟩ {} fun _ => {}
    let encode : List JpegOp := [.newClient 1, create, create,
      .startJob { sessionId := 0x1000100, dstIndex := -1 } {}, .wake, .look, .pick {},
      .configure {} {}]
    (∃ s, Run JpegOp.OrderlyStep encode (.init 1 false) s ∧ s.inprogress = some ⟨0, 1⟩ ∧
      s.numSessions = 2 ∧ s.Current) ∧
    ∃ s, Run JpegOp.OrderlyStep (encode ++ [.submit true {},
        .destroySession 0x1000100 fun _ => true]) (.init 1 false) s ∧
      s.inprogress = none ∧ s.numSessions = 1 ∧ s.Current := by
  intro create encode
  obtain ⟨s, h, hinprogress, hnumber, t, h', hnone, hone⟩ : ∃ s, Run JpegOp.OrderlyStep encode
      (.init 1 false) s ∧ s.inprogress = some ⟨0, 1⟩ ∧ s.numSessions = 2 ∧
        ∃ t, Run JpegOp.OrderlyStep [.submit true {}, .destroySession 0x1000100 fun _ => true] s t ∧
          t.inprogress = none ∧ t.numSessions = 1 := by
    refine ⟨_, .cons ⟨rfl, fun _ _ => rfl⟩ (.cons ⟨rfl, trivial⟩ (.cons ⟨rfl, trivial⟩
      (.cons ⟨rfl, trivial⟩ (.cons ⟨rfl, trivial⟩ (.cons ⟨rfl, trivial⟩ (.cons ⟨rfl, trivial⟩
      (.one ⟨rfl, trivial⟩))))))), rfl, rfl, _, .cons ⟨rfl, trivial⟩ (.one ⟨rfl, ?_⟩), rfl, rfl⟩
    intro r hr
    cases hr
    refine ⟨nodup_singleton _, fun b hb => ?_⟩
    rw [mem_singleton.mp hb]
    exact ⟨rfl, rfl⟩
  have happend := h.append h'
  exact ⟨⟨s, h, hinprogress, hnumber, inprogress_valid h⟩,
    ⟨t, happend, hnone, hone, inprogress_valid happend⟩⟩

end MmJpeg
