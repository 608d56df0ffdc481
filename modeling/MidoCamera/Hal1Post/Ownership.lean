import MidoCamera.Hal1Post.Processor

/-!
# Who owns the super buffers of the HAL1 post-processor

A queue owns its jobs, and a job its super buffers. A thread that works on a job has it in its
hands: what is in hand is counted with what is in the queues, so that taking a job, releasing it and
queueing it again are each one rule. The buffers of the source of a regular capture are not
returned, as its channel is deleted before it is released.
-/

namespace Hal1Post

open Loop List
open PostProc (Queue)

/-- What the queues have, and the threads between two steps, each with its own. -/
def PostProcessor.owners (s : PostProcessor) : List Owner :=
  s.inputPPQ.items.map .pp ++ s.ongoingPPQ.items.map .pp ++ s.inputJpegQ.items.map .jpeg ++
    s.ongoingJpegQ.items.map .jpeg ++ s.inputRawQ.items.map .buf ++ s.landing ++
    s.pc.image?.toList.map .buf ++ s.notifications.map .buf

/-- Each super buffer that came in is owned once or was freed once, and its buffers were returned
once if it was freed, or not at all if it is the source of a regular capture. No job is in two
places, none that is in a queue was freed, and none was freed twice. -/
structure Conserved (s : PostProcessor) : Prop where
  owned : ∀ b ∈ s.handed, (s.owners.flatMap Owner.bufs).count b + s.freed.count b = 1
  returned : ∀ b ∈ s.handed, s.returned.count b = if b ∈ s.regular then 0 else s.freed.count b
  queued : (s.owners.flatMap Owner.jobs).Nodup
  live : ∀ addr ∈ s.owners.flatMap Owner.jobs, addr ∉ s.freedJobs
  once : s.freedJobs.Nodup

/-- The source of a regular capture that an owner has. -/
def Owner.sources : Owner → List SuperBuf
  | .pp job => if job.reprocFrameRelease then job.srcReprocFrame.toList else []
  | .jpeg job => if job.reprocFrameRelease then job.srcReprocFrame.toList else []
  | .buf _ => []

/-- An owner knows which of its super buffers is the source of a regular capture. -/
def Owner.Sound (regular : List SuperBuf) (o : Owner) : Prop :=
  ∀ b ∈ o.bufs, b ∈ regular ↔ b ∈ o.sources

def Owner.Known (s : PostProcessor) (o : Owner) : Prop :=
  ∀ b ∈ o.bufs, b ∈ s.regular ∨ b.chId ∈ s.channels

/-- The invariant, with owners in hand: super buffers and jobs are owned or freed, each once, and
buffers were returned with what was freed. -/
structure Accounted (hand : List Owner) (s : PostProcessor) : Prop where
  bufs : Owned Owner.bufs s.handed s.freed (hand ++ s.owners)
  jobs : Owned Owner.jobs s.mallocs s.freedJobs (hand ++ s.owners)
  handed : (s.handed.map SuperBuf.addr).Nodup
  mallocs : s.mallocs.Nodup
  returned : ∀ b, s.returned.count b = if b ∈ s.regular then 0 else s.freed.count b
  regular : s.regular ⊆ s.handed
  sound : ∀ o ∈ hand ++ s.owners, o.Sound s.regular
  known : ∀ o ∈ hand ++ s.owners, o.Known s

/-- Nothing is recorded, and no channel comes or goes. -/
structure SameRecord (s t : PostProcessor) : Prop where
  handed : t.handed = s.handed
  regular : t.regular = s.regular
  returned : t.returned = s.returned
  freed : t.freed = s.freed
  mallocs : t.mallocs = s.mallocs
  freedJobs : t.freedJobs = s.freedJobs
  channels : t.channels = s.channels

/-- `releaseOngoingPPData` returns what it has to: of a regular capture's job only before its first
pass is done. -/
def PpData.Releasable (job : PpData) : Prop :=
  job.reprocFrameRelease = true → job.srcFrame = job.srcReprocFrame

def PostProcessor.drop (s : PostProcessor) : Owner → PostProcessor
  | .pp job => s.dropPP job
  | .jpeg job => s.dropJpeg job
  | .buf b => s.dropBuf b

def Owner.Releasable : Owner → Prop
  | .pp job => job.Releasable
  | .jpeg _ | .buf _ => True

/-- An owner is released: what it owns is freed, and returned unless it is the source of a regular
capture; if it is a job, it is freed. -/
def PostProcessor.gone (s : PostProcessor) (o : Owner) : PostProcessor :=
  { s with
    returned := s.returned ++ o.bufs.filter fun b => b ∉ s.regular
    freed := s.freed ++ o.bufs
    freedJobs := s.freedJobs ++ o.jobs }

variable {s t : PostProcessor} {hand hand' : List Owner} {o : Owner} {b : SuperBuf}

theorem PostProcessor.count_owners (s : PostProcessor) (o : Owner) : s.owners.count o =
    (s.inputPPQ.items.map Owner.pp).count o + (s.ongoingPPQ.items.map Owner.pp).count o +
      (s.inputJpegQ.items.map Owner.jpeg).count o + (s.ongoingJpegQ.items.map Owner.jpeg).count o +
      (s.inputRawQ.items.map Owner.buf).count o + s.landing.count o +
      (s.pc.image?.toList.map Owner.buf).count o + (s.notifications.map Owner.buf).count o := by
  simp only [owners, count_append]

namespace Accounted

theorem conserved (hs : Accounted [] s) : Conserved s where
  owned _ hb := hs.bufs.one hs.handed.of_map hb
  returned b _ := hs.returned b
  queued := hs.jobs.nodup_owned hs.mallocs
  live addr h := by
    obtain ⟨o, ho, haddr⟩ := mem_flatMap.mp h
    exact hs.jobs.not_gone hs.mallocs ho haddr
  once := hs.jobs.nodup_gone hs.mallocs

/-- **Owners move** between the hand and the queues. -/
theorem move (hs : Accounted hand s) (same : SameRecord s t)
    (count : ∀ o, (hand ++ s.owners).count o = (hand' ++ t.owners).count o) :
    Accounted hand' t := by
  have perm : (hand ++ s.owners).Perm (hand' ++ t.owners) := perm_iff_count.mpr count
  refine ⟨?_, ?_, ?_, ?_, fun b => ?_, ?_, fun o ho => ?_, fun o ho b hb => ?_⟩
  · rw [same.handed, same.freed]
    exact hs.bufs.perm perm
  · rw [same.mallocs, same.freedJobs]
    exact hs.jobs.perm perm
  · rw [same.handed]
    exact hs.handed
  · rw [same.mallocs]
    exact hs.mallocs
  · rw [same.returned, same.regular, same.freed, hs.returned]
  · rw [same.regular, same.handed]
    exact hs.regular
  · rw [same.regular]
    exact hs.sound o (perm.mem_iff.mpr ho)
  · rw [same.regular, same.channels]
    exact hs.known o (perm.mem_iff.mpr ho) b hb

theorem trade (hs : Accounted (hand ++ hand') s) {os : List Owner}
    (bufs : ∀ b, tally Owner.bufs b os = tally Owner.bufs b hand)
    (jobs : ∀ addr, tally Owner.jobs addr os = tally Owner.jobs addr hand)
    (sound : ∀ o ∈ os, o.Sound s.regular) : Accounted (os ++ hand') s := by
  obtain ⟨hbufs, hjobs, handed, mallocs, returned, regular, hsound, hknown⟩ := hs
  rw [append_assoc] at hbufs hjobs hsound hknown
  refine ⟨?_, ?_, handed, mallocs, returned, regular, ?_, ?_⟩ <;> rw [append_assoc]
  · exact hbufs.trade bufs
  · exact hjobs.trade jobs
  · intro o ho
    rcases mem_append.mp ho with ho | ho
    · exact sound o ho
    · exact hsound o (mem_append_right _ ho)
  · intro o ho b hb
    rcases mem_append.mp ho with ho | ho
    · -- another owner had the super buffer before
      have hpos : 0 < tally Owner.bufs b os := tally_pos_iff.mpr ⟨o, ho, hb⟩
      rw [bufs] at hpos
      obtain ⟨o', ho', hb'⟩ := tally_pos_iff.mp hpos
      exact hknown o' (mem_append_left _ ho') b hb'
    · exact hknown o (mem_append_right _ ho) b hb

theorem come (hs : Accounted hand s) (o : Owner)
    (bufs : ((s.handed ++ o.bufs).map SuperBuf.addr).Nodup) (jobs : (s.mallocs ++ o.jobs).Nodup)
    (sources : o.sources ⊆ o.bufs) (known : ∀ b ∈ o.bufs, b ∈ o.sources ∨ b.chId ∈ s.channels) :
    Accounted (o :: hand) { s with
      handed := s.handed ++ o.bufs
      mallocs := s.mallocs ++ o.jobs
      regular := s.regular ++ o.sources } := by
  have hnew : ∀ b ∈ o.bufs, b ∉ s.handed := fun b hb hmem =>
    disjoint_of_nodup_append bufs.of_map hmem hb
  have hold : ∀ o' ∈ hand ++ s.owners, ∀ b ∈ o'.bufs, b ∉ o.sources := fun o' ho' b hb hsource =>
    hnew b (sources hsource) (hs.bufs.came_of_mem ho' hb)
  refine ⟨hs.bufs.come o, hs.jobs.come o, bufs, jobs, fun b => ?_, ?_, fun o' ho' b hb => ?_,
    fun o' ho' b hb => ?_⟩
  · have hreturned := hs.returned b
    by_cases hsource : b ∈ o.sources
    · -- what is new was neither freed nor returned
      have hfreed : s.freed.count b = 0 := count_eq_zero.mpr fun hfreed =>
        hnew b (sources hsource) (hs.bufs.came_of_gone hfreed)
      simp only [hfreed, ite_self] at hreturned
      simp [hreturned, hsource]
    · simp only [mem_append, hsource, or_false]
      exact hreturned
  · exact append_subset.mpr ⟨fun _ hb => mem_append_left _ (hs.regular hb),
      fun _ hb => mem_append_right _ (sources hb)⟩
  · rcases mem_cons.mp ho' with rfl | ho'
    · rw [mem_append, or_iff_right fun hregular => hnew b hb (hs.regular hregular)]
    · rw [mem_append, or_iff_left (hold o' ho' b hb)]
      exact hs.sound o' ho' b hb
  · rcases mem_cons.mp ho' with rfl | ho'
    · exact (known b hb).imp_left fun h => mem_append_right _ h
    · exact (hs.known o' ho' b hb).imp_left fun h => mem_append_left _ h

theorem gone (hs : Accounted (o :: hand) s) : Accounted hand (s.gone o) where
  bufs := hs.bufs.go
  jobs := hs.jobs.go
  handed := hs.handed
  mallocs := hs.mallocs
  returned b := by
    have hreturned := hs.returned b
    simp only [PostProcessor.gone, count_append, hreturned]
    by_cases hregular : b ∈ s.regular
    · have hnone : (o.bufs.filter fun b => b ∉ s.regular).count b = 0 :=
        count_eq_zero.mpr fun hmem => by simp [hregular] at hmem
      rw [if_pos hregular, if_pos hregular, hnone]
    · rw [if_neg hregular, if_neg hregular, count_filter (by simpa using hregular)]
  regular := hs.regular
  sound o' ho' := hs.sound o' (mem_cons_of_mem _ ho')
  known o' ho' := hs.known o' (mem_cons_of_mem _ ho')

end Accounted

/-! ## What the releases do -/

theorem PostProcessor.dropBuf_eq (hknown : b.chId ∈ s.channels) : s.dropBuf b = { s with
    returned := s.returned ++ [b]
    freed := s.freed ++ [b] } := by
  simp [dropBuf, releaseSuperBuf, free, hknown]

theorem Owner.Sound.returned (hsound : o.Sound s.regular) (hknown : o.Known s) (b : SuperBuf)
    (hb : b ∈ o.bufs) (hsource : b ∉ o.sources) : b ∉ s.regular ∧ b.chId ∈ s.channels :=
  have hregular := (hsound b hb).not.mpr hsource
  ⟨hregular, (hknown b hb).resolve_left hregular⟩

theorem PostProcessor.dropPP_eq {job : PpData} (hsound : (Owner.pp job).Sound s.regular)
    (hknown : (Owner.pp job).Known s) (hjob : job.Releasable) :
    s.dropPP job = s.gone (.pp job) := by
  have hreturned := hsound.returned hknown
  rcases job with ⟨addr, _, _, src, _ | _, reproc⟩
  · -- all is returned
    have hall : ∀ b ∈ PpData.owns ⟨addr, ‹_›, ‹_›, src, false, reproc⟩,
        b ∉ s.regular ∧ b.chId ∈ s.channels := fun b hb => hreturned b hb not_mem_nil
    rcases src with _ | b <;> rcases reproc with _ | c
    case some.some =>
      by_cases hsame : c = b
      · subst hsame
        simp [PpData.owns] at hall
        simp [dropPP, releaseOngoingPPData, gone, freeJob, Owner.bufs, Owner.jobs, PpData.owns,
          releaseSuperBuf, free, hall]
      · simp [PpData.owns, hsame] at hall
        simp [dropPP, releaseOngoingPPData, gone, freeJob, Owner.bufs, Owner.jobs, PpData.owns,
          releaseSuperBuf, free, hall, hsame, Ne.symm hsame]
    all_goals
      simp [PpData.owns] at hall
      simp [dropPP, releaseOngoingPPData, gone, freeJob, Owner.bufs, Owner.jobs, PpData.owns,
        releaseSuperBuf, free, hall]
  · -- the source of a regular capture is freed and not returned
    obtain rfl : src = reproc := hjob rfl
    rcases src with _ | b
    · simp [dropPP, releaseOngoingPPData, gone, freeJob, Owner.bufs, Owner.jobs, PpData.owns]
    · have hregular : b ∈ s.regular := by
        simpa [Owner.Sound, Owner.bufs, Owner.sources, PpData.owns] using hsound
      simp [dropPP, releaseOngoingPPData, gone, freeJob, Owner.bufs, Owner.jobs, PpData.owns, free,
        hregular]

theorem PostProcessor.dropJpeg_eq {job : JpegData} (hsound : (Owner.jpeg job).Sound s.regular)
    (hknown : (Owner.jpeg job).Known s) (hone : job.owns.Nodup) :
    s.dropJpeg job = s.gone (.jpeg job) := by
  have hreturned := hsound.returned hknown
  rcases job with ⟨addr, src, _ | b, release⟩
  · have hsrc : ∀ c ∈ src, c ∉ s.regular ∧ c.chId ∈ s.channels := fun c hc =>
      hreturned c (by simpa [Owner.bufs, JpegData.owns] using hc) (by simp [Owner.sources])
    cases src <;> simp_all [dropJpeg, releaseJpegJobData, gone, freeJob, Owner.bufs, Owner.jobs,
      JpegData.owns, releaseSuperBuf, free]
  · have hb : b ∈ (Owner.jpeg ⟨addr, src, some b, release⟩).bufs := by
      simp [Owner.bufs, JpegData.owns]
    have hsrc : ∀ c ∈ src, c ∉ s.regular ∧ c.chId ∈ s.channels := fun c hc => by
      obtain rfl : src = some c := hc
      have hne : c ≠ b := by simpa [JpegData.owns, eq_comm] using hone
      exact hreturned c (by simp [Owner.bufs, JpegData.owns]) (by simp [Owner.sources, hne])
    -- the source of a regular capture is freed and not returned
    have hregular : b ∈ s.regular ↔ release = true := by simpa [Owner.sources] using hsound b hb
    have hch : release = false → b.chId ∈ s.channels := fun h =>
      (hreturned b hb (by simp [Owner.sources, h])).2
    cases src <;> cases release <;> simp_all [dropJpeg, releaseJpegJobData, gone, freeJob,
      Owner.bufs, Owner.jobs, JpegData.owns, releaseSuperBuf, free]

namespace Accounted

theorem nodup_bufs (hs : Accounted hand s) (ho : o ∈ hand ++ s.owners) : o.bufs.Nodup :=
  (nodup_flatMap.mp (hs.bufs.nodup_owned hs.handed.of_map)).1 o ho

theorem buf (hs : Accounted hand s) (hb : .buf b ∈ hand ++ s.owners) :
    b ∉ s.regular ∧ b.chId ∈ s.channels := by
  have hregular : b ∉ s.regular := by
    simpa [Owner.Sound, Owner.bufs, Owner.sources] using hs.sound _ hb
  exact ⟨hregular, by simpa [Owner.Known, Owner.bufs, hregular] using hs.known _ hb⟩

theorem drop_eq (hs : Accounted hand s) (ho : o ∈ hand ++ s.owners) (hrelease : o.Releasable) :
    s.drop o = s.gone o := by
  have hsound := hs.sound o ho
  have hknown := hs.known o ho
  cases o with
  | pp job => exact PostProcessor.dropPP_eq hsound hknown hrelease
  | jpeg job => exact PostProcessor.dropJpeg_eq hsound hknown (hs.nodup_bufs ho)
  | buf b =>
    obtain ⟨hregular, hch⟩ := hs.buf ho
    rw [PostProcessor.drop, PostProcessor.dropBuf_eq hch]
    simp [PostProcessor.gone, Owner.bufs, Owner.jobs, hregular]

theorem drop (hs : Accounted (o :: hand) s) (hrelease : o.Releasable) :
    Accounted hand (s.drop o) := by
  rw [hs.drop_eq (mem_cons_self ..) hrelease]
  exact hs.gone

theorem drops {os : List Owner} (hs : Accounted (os ++ hand) s) (hrelease : ∀ o ∈ os, o.Releasable) :
    Accounted hand (os.foldl PostProcessor.drop s) := by
  induction os generalizing s with
  | nil => exact hs
  | cons o os ih =>
    exact ih (hs.drop (hrelease o (mem_cons_self ..))) fun o' ho' =>
      hrelease o' (mem_cons_of_mem _ ho')

end Accounted

/-! ## What the releases leave as it is -/

def Released (s t : PostProcessor) : Prop :=
  ∃ returned freed freedJobs,
    t = { s with returned := returned, freed := freed, freedJobs := freedJobs }

namespace Released

theorem refl (s : PostProcessor) : Released s s := ⟨_, _, _, rfl⟩

theorem trans {u : PostProcessor} : Released s t → Released t u → Released s u := by
  rintro ⟨_, _, _, rfl⟩ ⟨_, _, _, rfl⟩
  exact ⟨_, _, _, rfl⟩

theorem releaseSuperBuf (s : PostProcessor) (b : SuperBuf) : Released s (s.releaseSuperBuf b) := by
  unfold PostProcessor.releaseSuperBuf
  split
  · exact ⟨_, _, _, rfl⟩
  · exact refl s

theorem free (s : PostProcessor) (b : SuperBuf) : Released s (s.free b) := ⟨_, _, _, rfl⟩

theorem dropBuf (s : PostProcessor) (b : SuperBuf) : Released s (s.dropBuf b) :=
  (releaseSuperBuf s b).trans (free _ b)

theorem orLeave {f : SuperBuf → PostProcessor} (hf : ∀ b, Released s (f b)) :
    (frame : Option SuperBuf) → Released s (match frame with | some b => f b | none => s)
  | some b => hf b
  | none => refl s

theorem freeUnless (s : PostProcessor) (release : Bool) (b : SuperBuf) :
    Released s ((if release then s else s.releaseSuperBuf b).free b) := by
  refine Released.trans ?_ (free _ b)
  split
  · exact refl s
  · exact releaseSuperBuf s b

theorem dropPP (s : PostProcessor) (job : PpData) : Released s (s.dropPP job) :=
  ((orLeave (freeUnless s _) job.srcFrame).trans (orLeave (dropBuf _) _)).trans ⟨_, _, _, rfl⟩

theorem dropJpeg (s : PostProcessor) (job : JpegData) : Released s (s.dropJpeg job) :=
  ((orLeave (freeUnless s _) job.srcReprocFrame).trans (orLeave (dropBuf _) job.srcFrame)).trans
    ⟨_, _, _, rfl⟩

theorem drop (s : PostProcessor) : (o : Owner) → Released s (s.drop o)
  | .pp job => dropPP s job
  | .jpeg job => dropJpeg s job
  | .buf b => dropBuf s b

theorem foldl {α : Type} {f : PostProcessor → α → PostProcessor} (hf : ∀ s a, Released s (f s a))
    (l : List α) (s : PostProcessor) : Released s (l.foldl f s) := by
  induction l generalizing s with
  | nil => exact refl s
  | cons a l ih => exact (hf s a).trans (ih _)

theorem inputPPQ : Released s t → t.inputPPQ = s.inputPPQ := by
  rintro ⟨_, _, _, rfl⟩
  rfl

theorem ongoingPPQ : Released s t → t.ongoingPPQ = s.ongoingPPQ := by
  rintro ⟨_, _, _, rfl⟩
  rfl

theorem channels : Released s t → t.channels = s.channels := by
  rintro ⟨_, _, _, rfl⟩
  rfl

theorem mallocs : Released s t → t.mallocs = s.mallocs := by
  rintro ⟨_, _, _, rfl⟩
  rfl

theorem pc : Released s t → t.pc = s.pc := by
  rintro ⟨_, _, _, rfl⟩
  rfl

end Released

end Hal1Post
