import MidoCamera.Qomx.Core

/-!
# The libraries of the components

A component is loaded by the first `OMX_GetHandle` and unloaded by the `OMX_FreeHandle` of its last
instance. Where something fails behind the `dlopen` of a first instance, the library is closed again
and the handle cleared; but the entry stays open, with the functions of the library that is gone.
The next `OMX_GetHandle` then calls them.

As long as this does not happen, the five fields of an entry say the same. `OMX_Deinit` may drop the
table with instances in it; they keep their library loaded, since the new table counts its own.
-/

namespace Qomx

open Loop Function List Option

variable {c' : CoreComponent} {closeHandle : Bool} {comp : ℕ} {i : Fin compMaxNum}
    {inst : Fin compMaxInstances} {l' : Loader String} {out : GetOutcome}

/-! ## Searches -/

namespace CoreComponent

variable {c : CoreComponent}

theorem getFreeInstIdx_some (h : c.getFreeInstIdx = some inst) :
    c.handle inst = none := by
  simpa using find?_some h

theorem getFreeInstIdx_none (h : c.getFreeInstIdx = none) (inst : Fin compMaxInstances) :
    c.handle inst ≠ none := by
  have := find?_eq_none.mp h inst (mem_finRange inst)
  simpa using this

theorem isCompActive_iff : c.isCompActive = true ↔ ∃ inst h, c.handle inst = some h := by
  simp [isCompActive, isSome_iff_exists]

end CoreComponent

theorem OmxCore.getIdxFromHandle_some {core : OmxCore} {h : ℕ}
    (hi : core.getIdxFromHandle h = some (i, inst)) :
    (core.component i).handle inst = some h := by
  have := find?_some hi
  rw [Bool.and_eq_true, beq_iff_eq] at this
  exact this.2

/-! ## Entries -/

namespace CoreComponent

/-- An entry whose library is not loaded. -/
structure Idle (c : CoreComponent) : Prop where
  isOpen : c.isOpen = false
  libHandle : c.libHandle = none
  getInstance : c.getInstance = none
  createCompFunc : c.createCompFunc = none
  handle : ∀ inst, c.handle inst = none

/-- An entry whose library is loaded: the functions are those of the library, and there is an
instance. -/
structure Running (c : CoreComponent) (l : Loader String) (lib : Loader.Lib String) : Prop where
  isOpen : c.isOpen = true
  libHandle : c.libHandle = some lib
  getInstance : c.getInstance = some ⟨lib, "getInstance"⟩
  createCompFunc : c.createCompFunc = some ⟨lib, "create_component_fns"⟩
  name : lib.name = c.libName
  loaded : l.Loaded lib
  handle : ∃ inst h, c.handle inst = some h

/-- What holds of an entry. Beside the table that is there, tables that were dropped may keep the
library open: `counted` says how often. -/
structure Sound (c : CoreComponent) (info : CompInfo) (l : Loader String)
    (instances : List (ℕ × String)) : Prop where
  libName : c.libName = info.libName
  form : c.Idle ∨ ∃ lib, c.Running l lib
  held : ∀ inst h, c.handle inst = some h → (h, info.libName) ∈ instances
  apart : ∀ inst inst' h, c.handle inst = some h → c.handle inst' = some h → inst = inst'
  counted : ∃ dropped, l.refs info.libName = c.isOpen.toNat + dropped ∧
    (0 < dropped ↔ ∃ h, (h, info.libName) ∈ instances ∧ ∀ inst, c.handle inst ≠ some h)

variable {c : CoreComponent} {info : CompInfo} {l : Loader String}
  {instances instances' : List (ℕ × String)} {lib : Loader.Lib String}

theorem Sound.opened (hs : c.Sound info l instances) :
    c.isOpen = true ↔ ∃ lib, c.libHandle = some lib ∧ l.Loaded lib := by
  rcases hs.form with idle | ⟨lib, running⟩
  · simp [idle.isOpen, idle.libHandle]
  · simp [running.isOpen, running.libHandle, running.loaded]

/-- A library is mapped exactly as long as it has an instance. -/
theorem Sound.mapped_iff (hs : c.Sound info l instances) :
    l.Mapped info.libName ↔ ∃ h, (h, info.libName) ∈ instances := by
  obtain ⟨dropped, hrefs, hdropped⟩ := hs.counted
  unfold Loader.Mapped
  constructor
  · intro hpos
    rcases hs.form with idle | ⟨lib, running⟩
    · -- not by the table, so by one that was dropped
      rw [idle.isOpen, Bool.toNat_false] at hrefs
      obtain ⟨h, hmem, -⟩ := hdropped.mp (by omega)
      exact ⟨h, hmem⟩
    · obtain ⟨inst, h, hinst⟩ := running.handle
      exact ⟨h, hs.held inst h hinst⟩
  · rintro ⟨h, hmem⟩
    by_cases hinst : ∃ inst, c.handle inst = some h
    · rcases hs.form with idle | ⟨lib, running⟩
      · obtain ⟨inst, hinst⟩ := hinst
        exact absurd ((idle.handle inst).symm.trans hinst) (some_ne_none h).symm
      · rw [hrefs, running.isOpen, Bool.toNat_true]
        omega
    · have := hdropped.mpr ⟨h, hmem, fun inst hi => hinst ⟨inst, hi⟩⟩
      omega

/-- An entry is as it was when another one changes: its own library is as open as before, and has
the same instances. -/
theorem Sound.frame (hs : c.Sound info l instances) (l' : Loader String)
    (hloaded : ∀ lib : Loader.Lib String, lib.name = info.libName → l.Loaded lib → l'.Loaded lib)
    (hrefs : l'.refs info.libName = l.refs info.libName)
    (hinst : ∀ h, (h, info.libName) ∈ instances' ↔ (h, info.libName) ∈ instances) :
    c.Sound info l' instances' where
  libName := hs.libName
  form := by
    rcases hs.form with idle | ⟨lib, running⟩
    · exact .inl idle
    · have hname : lib.name = info.libName := running.name.trans hs.libName
      exact .inr ⟨lib, { running with loaded := hloaded lib hname running.loaded }⟩
  held := fun inst h hi => (hinst h).mpr (hs.held inst h hi)
  apart := hs.apart
  counted := by
    simpa only [hrefs, hinst] using hs.counted

/-- A zeroed entry is sound where the library is as open as the entry before says: its instances
count as those of a dropped table from now on. -/
theorem Sound.zeroed (hs : c.Sound (compInfo i) l instances) :
    (CoreComponent.zeroed i).Sound (compInfo i) l instances where
  libName := rfl
  form := .inl ⟨rfl, rfl, rfl, rfl, fun _ => rfl⟩
  held := nofun
  apart := nofun
  counted := by
    refine ⟨l.refs (compInfo i).libName, (Nat.zero_add _).symm, ?_⟩
    have := hs.mapped_iff
    unfold Loader.Mapped at this
    simpa [CoreComponent.zeroed] using this

end CoreComponent

/-! ## `OMX_GetHandle` on an entry -/

def GetOutcome.Complete (out : GetOutcome) : Prop :=
  out.createSym = true ∧ out.instanceSym = true ∧ out.obj ≠ none ∧ out.comp ≠ none

def Call.Safe (call : Call) : Prop := ∃ fn, call.fn = some fn ∧ call.loader.Loaded fn.lib

namespace CoreComponent

variable {c : CoreComponent} {l : Loader String} {lib : Loader.Lib String}

theorem create_safe (hget : c.getInstance = some ⟨lib, "getInstance"⟩)
    (hcreate : c.createCompFunc = some ⟨lib, "create_component_fns"⟩) (hl : l.Loaded lib) :
    ∀ call ∈ (c.create l out).2, call.Safe := by
  intro call hcall
  have : call = ⟨c.getInstance, l⟩ ∨ call = ⟨c.createCompFunc, l⟩ := by
    unfold create at hcall
    split at hcall <;> simp_all
  rcases this with rfl | rfl
  · exact ⟨_, hget, hl⟩
  · exact ⟨_, hcreate, hl⟩

theorem create_some (h : (c.create l out).1 = some comp) :
    out.obj ≠ none ∧ out.comp = some comp := by
  rcases hobj : out.obj with _ | obj
  · simp [create, hobj] at h
  · simp only [create, hobj] at h
    exact ⟨some_ne_none _, h⟩

theorem get_of_made (hinst : c.getFreeInstIdx = some inst)
    (hload : c.load l out = (true, closeHandle, c', l'))
    (hcomp : (c'.create l' out).1 = some comp) :
    c.get l out = (some comp, (c'.create l' out).2,
      { c' with handle := update c'.handle inst (some comp) }, l') := by
  simp only [CoreComponent.get, hinst, hload, if_true, hcomp]

theorem get_of_unmade (hinst : c.getFreeInstIdx = some inst)
    (hload : c.load l out = (true, closeHandle, c', l')) (hcomp : (c'.create l' out).1 = none) :
    c.get l out = (none, (c'.create l' out).2, c'.fail l' closeHandle) := by
  simp only [CoreComponent.get, hinst, hload, if_true, hcomp]

theorem get_of_unloaded (hinst : c.getFreeInstIdx = some inst)
    (hload : c.load l out = (false, closeHandle, c', l')) :
    c.get l out = (none, [], c'.fail l' closeHandle) := by
  simp only [CoreComponent.get, hinst, hload]
  rfl

/-- The entry with its library opened, as a load with both symbols leaves it. -/
def opened (c : CoreComponent) (lib : Loader.Lib String) : CoreComponent :=
  { c with
    isOpen := true
    libHandle := some lib
    createCompFunc := some ⟨lib, "create_component_fns"⟩
    getInstance := some ⟨lib, "getInstance"⟩ }

theorem Running.get (running : c.Running l lib) (out : GetOutcome) :
    ∃ calls : List Call, (∀ call ∈ calls, call.Safe) ∧
      (c.get l out = (none, calls, c, l) ∨
       ∃ inst comp, c.handle inst = none ∧ out.comp = some comp ∧
         c.get l out =
           (some comp, calls, { c with handle := update c.handle inst (some comp) }, l)) := by
  rcases hinst : c.getFreeInstIdx with _ | inst
  · exact ⟨[], nofun, .inl (by simp only [CoreComponent.get, hinst])⟩
  · have hload : c.load l out = (true, false, c, l) := if_pos running.isOpen
    refine ⟨(c.create l out).2,
      create_safe running.getInstance running.createCompFunc running.loaded, ?_⟩
    rcases hcomp : (c.create l out).1 with _ | comp
    · exact .inl (get_of_unmade hinst hload hcomp)
    · exact .inr ⟨inst, comp, getFreeInstIdx_some hinst, (create_some hcomp).2,
        get_of_made hinst hload hcomp⟩

/-- An entry that is not open: the library is not found; or it is opened and something else fails,
which leaves the entry open without a library; or an instance is handed out. -/
theorem Idle.get (idle : c.Idle) (l : Loader String) (out : GetOutcome) :
    (out.dlopen = false ∧ c.get l out = (none, [], c, l)) ∨
    (out.dlopen = true ∧ ¬out.Complete ∧ (c.get l out).1 = none ∧
      (c.get l out).2.2.1.isOpen = true ∧ (c.get l out).2.2.1.libHandle = none) ∨
    (out.dlopen = true ∧ out.Complete ∧
      ∃ inst comp calls, (∀ call ∈ calls, Call.Safe call) ∧ out.comp = some comp ∧
        c.get l out = (some comp, calls, { c.opened (l.dlopen c.libName).1 with
          handle := update c.handle inst (some comp) }, (l.dlopen c.libName).2)) := by
  -- there is a free place, as all are
  obtain ⟨inst, hinst⟩ : ∃ inst, c.getFreeInstIdx = some inst := by
    rcases hfree : c.getFreeInstIdx with _ | inst
    · exact (getFreeInstIdx_none hfree ⟨0, by decide⟩ (idle.handle _)).elim
    · exact ⟨inst, rfl⟩
  have hclosed : ¬c.isOpen = true := by simp [idle.isOpen]
  rcases hdl : out.dlopen with _ | _
  · have hc : { c with libHandle := none } = c := by
      rw [← idle.libHandle]
    have hload : c.load l out = (false, false, c, l) := by
      rw [load, if_neg hclosed, hdl, hc]
      rfl
    exact .inl ⟨rfl, get_of_unloaded hinst hload⟩
  · refine .inr ?_
    by_cases hsyms : out.createSym = true ∧ out.instanceSym = true
    · have hload : c.load l out =
          (true, true, c.opened (l.dlopen c.libName).1, (l.dlopen c.libName).2) := by
        simp [load, hclosed, hdl, hsyms, opened]
      rcases hcomp : ((c.opened (l.dlopen c.libName).1).create (l.dlopen c.libName).2 out).1
        with _ | comp
      · -- one of the two functions returned nothing
        refine .inl ⟨rfl, fun hcomplete => ?_, ?_⟩
        · rcases hobj : out.obj with _ | obj
          · exact hcomplete.2.2.1 hobj
          · simp only [create, hobj] at hcomp
            exact hcomplete.2.2.2 hcomp
        · rw [get_of_unmade hinst hload hcomp]
          exact ⟨rfl, rfl, rfl⟩
      · obtain ⟨hobj, hout⟩ := create_some hcomp
        have hcomplete : out.Complete :=
          ⟨hsyms.1, hsyms.2, hobj, by rw [hout]; exact some_ne_none _⟩
        exact .inr ⟨rfl, hcomplete, inst, comp, _,
          create_safe rfl rfl (Loader.loaded_dlopen l c.libName), hout,
          get_of_made hinst hload hcomp⟩
    · -- a symbol is missing
      refine .inl ⟨rfl, fun hcomplete => hsyms ⟨hcomplete.1, hcomplete.2.1⟩, ?_⟩
      have hsyms' : (out.createSym && out.instanceSym) = false := by
        rw [← Bool.not_eq_true, Bool.and_eq_true]
        exact hsyms
      rw [get_of_unloaded hinst (show c.load l out = (false, true, _, _) by
        rw [load, if_neg hclosed, hdl, hsyms']
        rfl)]
      exact ⟨rfl, rfl, rfl⟩

/-! ## The entry that changes -/

variable {info : CompInfo} {instances : List (ℕ × String)}

/-- An entry that hands out an instance is sound: it counts itself in the loader now, and the
instances of tables that were dropped are the same. -/
theorem Sound.handed (hs : c.Sound info l instances) (c' : CoreComponent) (l' : Loader String)
    (fresh : ∀ n, (comp, n) ∉ instances)
    (hname : c'.libName = c.libName) (hfree : c.handle inst = none)
    (hhandle : c'.handle = update c.handle inst (some comp)) (running : c'.Running l' lib)
    (hrefs : l'.refs info.libName + c.isOpen.toNat = l.refs info.libName + 1) :
    c'.Sound info l' ((comp, info.libName) :: instances) := by
  -- the instances it holds are the ones of before, and the new one
  have hholds : ∀ inst' h, c'.handle inst' = some h ↔
      (inst' = inst ∧ h = comp) ∨ c.handle inst' = some h := by
    intro inst' h
    rw [hhandle]
    by_cases hinst : inst' = inst
    · subst hinst
      simp [hfree, eq_comm]
    · simp [hinst]
  have hnew : ∀ inst', c.handle inst' ≠ some comp :=
    fun inst' hheld => fresh _ (hs.held inst' comp hheld)
  refine ⟨hname.trans hs.libName, .inr ⟨lib, running⟩, ?_, ?_, ?_⟩
  · intro inst' h hheld
    rcases (hholds inst' h).mp hheld with ⟨-, rfl⟩ | hheld
    · exact mem_cons_self
    · exact mem_cons_of_mem _ (hs.held inst' h hheld)
  · intro inst₁ inst₂ h h₁ h₂
    rcases (hholds inst₁ h).mp h₁ with ⟨rfl, rfl⟩ | h₁
    · rcases (hholds inst₂ h).mp h₂ with ⟨rfl, -⟩ | h₂
      · rfl
      · exact (hnew inst₂ h₂).elim
    · rcases (hholds inst₂ h).mp h₂ with ⟨rfl, rfl⟩ | h₂
      · exact (hnew inst₁ h₁).elim
      · exact hs.apart inst₁ inst₂ h h₁ h₂
  · obtain ⟨dropped, hcount, hdropped⟩ := hs.counted
    refine ⟨dropped, by rw [running.isOpen, Bool.toNat_true]; omega, hdropped.trans ?_⟩
    constructor
    · rintro ⟨h, hmem, hnot⟩
      refine ⟨h, mem_cons_of_mem _ hmem, fun inst' hheld => ?_⟩
      rcases (hholds inst' h).mp hheld with ⟨-, rfl⟩ | hheld
      · exact fresh _ hmem
      · exact hnot inst' hheld
    · rintro ⟨h, hmem, hnot⟩
      rcases mem_cons.mp hmem with heq | hmem
      · -- the new one is held by the entry
        have hh : h = comp := congrArg Prod.fst heq
        exact (hnot inst ((hholds inst h).mpr (.inl ⟨rfl, hh⟩))).elim
      · exact ⟨h, hmem, fun inst' hheld => hnot inst' ((hholds inst' h).mpr (.inr hheld))⟩

theorem Sound.freed (hs : c.Sound info l instances) {h : ℕ} (hinst : c.handle inst = some h) :
    (c.free l inst).2.1.Sound info (c.free l inst).2.2 (instances.filter fun x => x.1 ≠ h) := by
  obtain ⟨lib, running⟩ : ∃ lib, c.Running l lib := by
    rcases hs.form with idle | running
    · exact absurd ((idle.handle inst).symm.trans hinst) (some_ne_none h).symm
    · exact running
  -- the instances it holds are the ones of before, without that one
  have hholds : ∀ inst' h', (c.remove inst).handle inst' = some h' ↔
      c.handle inst' = some h' ∧ h' ≠ h := by
    intro inst' h'
    simp only [remove]
    by_cases heq : inst' = inst
    · subst heq
      simp only [update_self, hinst, some.injEq]
      constructor
      · exact nofun
      · rintro ⟨rfl, hne⟩
        exact (hne rfl).elim
    · rw [update_of_ne heq]
      constructor
      · rintro hheld
        exact ⟨hheld, fun hh => heq (hs.apart _ _ h (hh ▸ hheld) hinst)⟩
      · exact And.left
  have hheld : ∀ inst' h', (c.remove inst).handle inst' = some h' →
      (h', info.libName) ∈ instances.filter fun x => x.1 ≠ h := by
    intro inst' h' hh
    rcases (hholds inst' h').mp hh with ⟨hh, hne⟩
    exact mem_filter.mpr ⟨hs.held inst' h' hh, by simpa using hne⟩
  have hapart : ∀ inst₁ inst₂ h', (c.remove inst).handle inst₁ = some h' →
      (c.remove inst).handle inst₂ = some h' → inst₁ = inst₂ := fun _ _ h' h₁ h₂ =>
    hs.apart _ _ h' ((hholds _ h').mp h₁).1 ((hholds _ h').mp h₂).1
  have hdrop : (∃ h', (h', info.libName) ∈ instances ∧ ∀ inst', c.handle inst' ≠ some h') ↔
      ∃ h', (h', info.libName) ∈ (instances.filter fun x => x.1 ≠ h) ∧
        ∀ inst', (c.remove inst).handle inst' ≠ some h' := by
    constructor
    · rintro ⟨h', hmem, hnot⟩
      have hne : h' ≠ h := fun hh => hnot inst (hh ▸ hinst)
      exact ⟨h', mem_filter.mpr ⟨hmem, by simpa using hne⟩,
        fun inst' hh => hnot inst' ((hholds inst' h').mp hh).1⟩
    · rintro ⟨h', hmem, hnot⟩
      rcases mem_filter.mp hmem with ⟨hmem, hne⟩
      exact ⟨h', hmem, fun inst' hh => hnot inst' ((hholds inst' h').mpr ⟨hh, by simpa using hne⟩)⟩
  obtain ⟨dropped, hcount, hdropped⟩ := hs.counted
  rw [running.isOpen, Bool.toNat_true] at hcount
  unfold CoreComponent.free
  split
  · next hactive =>
    rcases isCompActive_iff.mp hactive with ⟨inst', h', hh⟩
    refine ⟨hs.libName, .inr ⟨lib, ?_⟩, hheld, hapart, dropped, ?_, hdropped.trans hdrop⟩
    · exact ⟨running.isOpen, running.libHandle, running.getInstance, running.createCompFunc,
        running.name, running.loaded, inst', h', hh⟩
    · exact hcount.trans (by rw [remove, running.isOpen, Bool.toNat_true])
  · next hactive =>
    have hidle : ∀ inst', (c.remove inst).handle inst' = none := by
      intro inst'
      rcases hh : (c.remove inst).handle inst' with _ | h'
      · rfl
      · exact (hactive (isCompActive_iff.mpr ⟨inst', h', hh⟩)).elim
    refine ⟨hs.libName, .inl ⟨rfl, rfl, rfl, rfl, hidle⟩, hheld, hapart, dropped, ?_,
      hdropped.trans hdrop⟩
    have hlib : lib.name = info.libName := running.name.trans hs.libName
    simp only [closeLib, running.libHandle, Loader.refs_dlclose running.loaded, hlib,
      update_self, Bool.toNat_false]
    omega

theorem free_loader (inst : Fin compMaxInstances) (hlib : ∀ lib, c.libHandle = some lib →
    lib.name = c.libName) : (∀ k : Loader.Lib String, k.name ≠ c.libName →
      l.Loaded k → (c.free l inst).2.2.Loaded k) ∧
    (∀ n, n ≠ c.libName → (c.free l inst).2.2.refs n = l.refs n) := by
  unfold CoreComponent.free
  split
  · exact ⟨fun _ _ => id, fun _ _ => rfl⟩
  · rcases hh : c.libHandle with _ | lib
    · have hclose : c.closeLib l = (-1, l) := by rw [closeLib, hh]
      rw [hclose]
      exact ⟨fun _ _ => id, fun _ _ => rfl⟩
    · have hname := hlib lib hh
      simp only [closeLib, hh]
      constructor
      · intro k hk
        exact (Loader.loaded_dlclose_of_ne (hname ▸ hk)).mpr
      · intro n hn
        unfold Loader.dlclose
        split
        · exact update_of_ne (hname ▸ hn) _ _
        · rfl

end CoreComponent

/-- The entry of a component: of the table, or as `OMX_Init` would make it. -/
def Omx.entry (s : Omx) (i : Fin compMaxNum) : CoreComponent :=
  match s.core with
  | some core => core.component i
  | none => .zeroed i

def Omx.Live (s : Omx) (n : String) : Prop := ∃ h, (h, n) ∈ s.instances

/-- `open` is TRUE exactly where `lib_handle` is a loaded library. -/
def Omx.Opened (s : Omx) : Prop := ∀ core, s.core = some core → ∀ i,
  (core.component i).isOpen = true ↔
    ∃ lib, (core.component i).libHandle = some lib ∧ s.loader.Loaded lib

/-- What holds of the table. -/
structure Omx.Sound (s : Omx) : Prop where
  entries : ∀ i, (s.entry i).Sound (compInfo i) s.loader s.instances
  distinct : (s.instances.map Prod.fst).Nodup
  known : ∀ h n, (h, n) ∈ s.instances → ∃ i, n = (compInfo i).libName
  mapped : ∀ n, s.loader.Mapped n → ∃ i, n = (compInfo i).libName

theorem compInfo_libName_injective {j : Fin compMaxNum}
    (h : (compInfo i).libName = (compInfo j).libName) : i = j := by
  revert i j
  decide

namespace Omx

variable {s : Omx} {core : OmxCore} {i : Fin compMaxNum} {c : CoreComponent} {l : Loader String}
  {instances : List (ℕ × String)}

theorem Sound.init : (⟨none, 0, .empty, []⟩ : Omx).Sound where
  entries := fun _ => ⟨rfl, .inl ⟨rfl, rfl, rfl, rfl, fun _ => rfl⟩, nofun, nofun, 0, rfl, by simp⟩
  distinct := nodup_nil
  known := nofun
  mapped := fun _ h => absurd h (Nat.lt_irrefl 0)

/-- A library is mapped exactly as long as it has an instance. -/
theorem Sound.mapped_iff (hs : s.Sound) (n : String) : s.loader.Mapped n ↔ s.Live n := by
  constructor
  · intro h
    obtain ⟨i, rfl⟩ := hs.mapped n h
    exact (hs.entries i).mapped_iff.mp h
  · rintro ⟨h, hmem⟩
    obtain ⟨i, rfl⟩ := hs.known h n hmem
    exact (hs.entries i).mapped_iff.mpr ⟨h, hmem⟩

theorem Sound.opened (hs : s.Sound) : s.Opened := by
  intro core hcore i
  have := (hs.entries i).opened
  simpa only [entry, hcore] using this

theorem Sound.set (hs : s.Sound) (hcore : s.core = some core)
    (hc : c.Sound (compInfo i) l instances)
    (hloaded : ∀ k : Loader.Lib String, k.name ≠ (compInfo i).libName →
      s.loader.Loaded k → l.Loaded k)
    (hrefs : ∀ n, n ≠ (compInfo i).libName → l.refs n = s.loader.refs n)
    (hinst : ∀ h n, n ≠ (compInfo i).libName → ((h, n) ∈ instances ↔ (h, n) ∈ s.instances))
    (hdistinct : (instances.map Prod.fst).Nodup) :
    ({ s with core := some (core.set i c), loader := l, instances := instances } : Omx).Sound where
  entries := by
    intro j
    by_cases hj : j = i
    · subst hj
      simpa [entry, OmxCore.set] using hc
    · have hne : (compInfo j).libName ≠ (compInfo i).libName :=
        fun h => hj (compInfo_libName_injective h)
      have hentry := (hs.entries j).frame l
        (fun lib hlib => hloaded lib (hlib ▸ hne)) (hrefs _ hne) (fun h => hinst h _ hne)
      simpa [entry, hcore, OmxCore.set, hj] using hentry
  distinct := hdistinct
  known := by
    intro h n hmem
    by_cases hn : n = (compInfo i).libName
    · exact ⟨i, hn⟩
    · exact hs.known h n ((hinst h n hn).mp hmem)
  mapped := by
    intro n hn
    by_cases hne : n = (compInfo i).libName
    · exact ⟨i, hne⟩
    · exact hs.mapped n (by simpa only [Loader.Mapped, hrefs n hne] using hn)

theorem Sound.nodup_of_fresh (hs : s.Sound) {n : String}
    (fresh : ∀ n, (comp, n) ∉ s.instances) : (((comp, n) :: s.instances).map Prod.fst).Nodup := by
  rw [map_cons, nodup_cons]
  refine ⟨fun hmem => ?_, hs.distinct⟩
  rcases mem_map.mp hmem with ⟨⟨h, m⟩, hx, rfl⟩
  exact fresh m hx

theorem Sound.same_lib (hs : s.Sound) {h : ℕ} {m n : String} (hm : (h, m) ∈ s.instances)
    (hn : (h, n) ∈ s.instances) : m = n :=
  congrArg Prod.snd (inj_on_of_nodup_map hs.distinct hm hn rfl)

theorem Sound.initCall (hs : s.Sound) (malloc : Bool) : (s.init malloc).2.Sound := by
  unfold Omx.init
  rcases hcore : s.core with _ | core
  · simp only
    split
    · exact hs
    · split
      · refine { hs with entries := fun i => ?_ }
        simpa only [entry, hcore] using hs.entries i
      · exact hs
  · refine { hs with entries := fun i => ?_ }
    simpa only [entry, hcore] using hs.entries i

theorem Sound.deinitCall (hs : s.Sound) : s.deinit.Sound := by
  refine { hs with entries := fun i => ?_ }
  by_cases hcnt : s.coreCnt = 1
  · have hentry : s.deinit.entry i = .zeroed i := by simp [entry, Omx.deinit, hcnt]
    rw [hentry]
    exact (hs.entries i).zeroed
  · have hentry : s.deinit.entry i = s.entry i := by simp [entry, Omx.deinit, hcnt]
    rw [hentry]
    exact hs.entries i

theorem Sound.freeCall (hs : s.Sound) {hComp : Option ℕ} {compDeInit : OmxError} {a : Answer}
    {t : Omx} (h : s.freeHandle hComp compDeInit = some (a, t)) : t.Sound ∧ a.calls = [] := by
  rcases hComp with _ | hComp
  · cases h
    exact ⟨hs, rfl⟩
  · obtain ⟨core, hcore, h⟩ := bind_eq_some_iff.mp h
    rcases hidx : core.getIdxFromHandle hComp with _ | ⟨i, inst⟩
    · simp only [hidx] at h
      cases h
      exact ⟨hs, rfl⟩
    · simp only [hidx] at h
      split at h
      · cases h
        refine ⟨?_, rfl⟩
        have hentry : s.entry i = core.component i := by simp [entry, hcore]
        have hi := hentry ▸ hs.entries i
        have hheld := core.getIdxFromHandle_some hidx
        have hlib : ∀ lib, (core.component i).libHandle = some lib →
            lib.name = (core.component i).libName := by
          intro lib hlib
          rcases hi.form with idle | ⟨lib', running⟩
          · exact absurd (idle.libHandle.symm.trans hlib) (some_ne_none lib).symm
          · rw [← some.inj (running.libHandle.symm.trans hlib), running.name]
        rcases CoreComponent.free_loader (l := s.loader) inst hlib with ⟨hloaded, hrefs⟩
        rw [hi.libName] at hloaded hrefs
        refine hs.set hcore (hi.freed hheld) hloaded hrefs ?_ ?_
        · -- the address that is freed is one of this library only
          intro h' n hn
          simp only [mem_filter, and_iff_left_iff_imp, decide_eq_true_eq]
          rintro hmem rfl
          exact hn (hs.same_lib hmem (hi.held inst h' hheld))
        · exact hs.distinct.sublist (filter_sublist.map Prod.fst)
      · cases h
        exact ⟨hs, rfl⟩

end Omx

/-- A first instance of a component, once the library is found, is made. -/
def OmxOp.Completes (s : Omx) : OmxOp → Prop
  | .getHandle true (some name) out => ∀ core, s.core = some core → ∀ i,
      core.getCompFromList name = some i → (core.component i).isOpen = false →
      out.dlopen = true → out.Complete
  | _ => True

def OmxOp.Proper (op : OmxOp) (s t : Omx) : Prop := op.Step s t ∧ op.Completes s

theorem OmxOp.completes_iff {s : Omx} {core : OmxCore} (hcore : s.core = some core) {name : String}
    (hi : core.getCompFromList name = some i) (out : GetOutcome) :
    (OmxOp.getHandle true (some name) out).Completes s ↔
      ((core.component i).isOpen = false → out.dlopen = true → out.Complete) := by
  constructor
  · intro h
    exact h core hcore i hi
  · intro h core' hcore' i' hi'
    cases hcore.symm.trans hcore'
    cases hi.symm.trans hi'
    exact h

/-- Whether a call is an `OMX_GetHandle`. -/
def OmxOp.gets : OmxOp → Bool
  | .getHandle .. => true
  | _ => false

/-- What a call is to do. -/
structure OmxOp.Right (op : OmxOp) (a : Answer) (s t : Omx) : Prop where
  /-- The functions are called while the library they came from is loaded. -/
  called : ∀ call ∈ a.calls, call.Safe
  /-- An `OMX_GetHandle` that fails leaves the table. -/
  failed : op.gets = true → a.rc ≠ .none → t.core = s.core
  /-- `open` is TRUE exactly where `lib_handle` is a loaded library. -/
  opened : t.Opened
  /-- A library is unloaded exactly when its last instance is freed. -/
  unloaded : ∀ n, (s.loader.Mapped n ∧ ¬t.loader.Mapped n) ↔ (s.Live n ∧ ¬t.Live n)

namespace Omx

variable {s t : Omx} {op : OmxOp} {a : Answer}

theorem set_component (core : OmxCore) (i : Fin compMaxNum) :
    core.set i (core.component i) = core := by
  rw [OmxCore.set, update_eq_self]

/-- An `OMX_GetHandle` on a sound table either makes the instance, or leaves the table; or it is the
one that does not complete, and leaves an entry that is open without a library. -/
theorem Sound.getCall (hs : s.Sound) {handle : Bool} {componentName : Option String}
    (fresh : (OmxOp.getHandle handle componentName out).Fresh s)
    (h : s.getHandle handle componentName out = some (a, t)) :
    (t.Sound ∧ (∀ call ∈ a.calls, call.Safe) ∧ (a.rc ≠ .none → t.core = s.core) ∧
      (OmxOp.getHandle handle componentName out).Completes s) ∨
    (¬t.Opened ∧ ¬(OmxOp.getHandle handle componentName out).Completes s) := by
  -- the calls that are refused before the table is read
  rcases handle with _ | _
  · cases h
    exact .inl ⟨hs, nofun, fun _ => rfl, trivial⟩
  rcases componentName with _ | name
  · cases h
    exact .inl ⟨hs, nofun, fun _ => rfl, trivial⟩
  obtain ⟨core, hcore, h⟩ := bind_eq_some_iff.mp h
  rcases hi : core.getCompFromList name with _ | i
  · simp only [hi] at h
    cases h
    refine .inl ⟨hs, nofun, fun _ => rfl, fun core' hcore' i' hi' => ?_⟩
    cases hcore.symm.trans hcore'
    exact absurd (hi.symm.trans hi') (some_ne_none i').symm
  simp only [hi] at h
  rw [OmxOp.completes_iff hcore hi]
  have hentry : s.entry i = core.component i := by simp [entry, hcore]
  have hsi := hentry ▸ hs.entries i
  have hother : ∀ comp h n, n ≠ (compInfo i).libName →
      ((h, n) ∈ (comp, (compInfo i).libName) :: s.instances ↔ (h, n) ∈ s.instances) := by
    intro comp h n hn
    simp [hn]
  rcases hsi.form with idle | ⟨lib, running⟩
  · rcases idle.get s.loader out with ⟨hdl, hget⟩ | ⟨hdl, hnot, hnone, hopen, hlib⟩ |
      ⟨-, hcomplete, inst, comp, calls, hsafe, hcomp, hget⟩
    · -- the library is not found
      simp only [hget] at h
      cases h
      refine .inl ⟨?_, nofun, fun _ => ?_, fun _ hfound => ?_⟩
      · rw [set_component, ← hcore]
        exact hs
      · rw [set_component, ← hcore]
      · exact absurd (hdl.symm.trans hfound) Bool.false_ne_true
    · -- it is found, and the rest fails
      rcases hget : (core.component i).get s.loader out with ⟨comp, calls, c, l⟩
      rw [hget] at hnone hopen hlib
      subst hnone
      simp only [hget] at h
      cases h
      refine .inr ⟨fun hopened => ?_, fun hcompletes => ?_⟩
      · have := (hopened _ rfl i).mp (by simpa [OmxCore.set] using hopen)
        rcases this with ⟨lib, heq, -⟩
        simp only [OmxCore.set, update_self] at heq
        exact absurd (hlib.symm.trans heq) (some_ne_none lib).symm
      · exact hnot (hcompletes idle.isOpen hdl)
    · simp only [hget] at h
      cases h
      have hnew : ∀ n, (comp, n) ∉ s.instances := fresh comp hcomp
      have hname := hsi.libName
      have hsound := hsi.handed
        ({ (core.component i).opened (s.loader.dlopen (core.component i).libName).1 with
          handle := update (core.component i).handle inst (some comp) })
        (s.loader.dlopen (core.component i).libName).2 hnew rfl (idle.handle inst) rfl
        ⟨rfl, rfl, rfl, rfl, rfl, Loader.loaded_dlopen _ _, inst, comp, by simp⟩
        (by simp [idle.isOpen, hname])
      refine .inl ⟨?_, hsafe, fun hrc => (hrc rfl).elim, fun _ _ => hcomplete⟩
      simp only [CoreComponent.opened, hname] at hsound ⊢
      refine hs.set hcore hsound (fun k _ hk => Loader.loaded_dlopen_of_loaded hk _)
        (fun n hn => ?_) (hother comp) (hs.nodup_of_fresh hnew)
      simp [hn]
  · have hopen : ¬(core.component i).isOpen = false := by simp [running.isOpen]
    rcases running.get out with ⟨calls, hsafe, hget | ⟨inst, comp, hfree, hcomp, hget⟩⟩
    · -- no place, or one of the functions returns nothing: the entry is as it was
      simp only [hget] at h
      cases h
      refine .inl ⟨?_, hsafe, fun _ => ?_, fun hclosed => (hopen hclosed).elim⟩
      · rw [set_component, ← hcore]
        exact hs
      · rw [set_component, ← hcore]
    · simp only [hget] at h
      cases h
      have hnew : ∀ n, (comp, n) ∉ s.instances := fresh comp hcomp
      have hsound := hsi.handed ({ core.component i with
          handle := update (core.component i).handle inst (some comp) })
        s.loader hnew rfl hfree rfl
        ⟨running.isOpen, running.libHandle, running.getInstance, running.createCompFunc,
          running.name, running.loaded, inst, comp, by simp⟩
        (by rw [running.isOpen, Bool.toNat_true])
      refine .inl ⟨?_, hsafe, fun hrc => (hrc rfl).elim, fun hclosed => (hopen hclosed).elim⟩
      simp only [hsi.libName] at hsound ⊢
      exact hs.set hcore hsound (fun _ _ => id) (fun _ _ => rfl) (hother comp)
        (hs.nodup_of_fresh hnew)

/-- What a call does to a sound table: it keeps it, and does what it is to do; or it is the one that
does not complete. -/
theorem Sound.call (hs : s.Sound) (fresh : op.Fresh s) (h : op.exec s = some (a, t)) :
    (t.Sound ∧ op.Right a s t ∧ op.Completes s) ∨ (¬t.Opened ∧ ¬op.Completes s) := by
  -- a sound table before and after the call is all that the libraries take
  have hright : t.Sound → (∀ call ∈ a.calls, call.Safe) →
      (op.gets = true → a.rc ≠ .none → t.core = s.core) → op.Right a s t := by
    intro ht hsafe hfailed
    refine ⟨hsafe, hfailed, ht.opened, fun n => ?_⟩
    rw [hs.mapped_iff, ht.mapped_iff]
  cases op with
  | init malloc =>
    cases h
    have ht := hs.initCall malloc
    exact .inl ⟨ht, hright ht nofun nofun, trivial⟩
  | deinit =>
    cases h
    exact .inl ⟨hs.deinitCall, hright hs.deinitCall nofun nofun, trivial⟩
  | getHandle handle componentName out =>
    rcases hs.getCall fresh h with ⟨ht, hsafe, hfailed, hcompletes⟩ | hbroken
    · exact .inl ⟨ht, hright ht hsafe fun _ => hfailed, hcompletes⟩
    · exact .inr hbroken
  | freeHandle hComp compDeInit =>
    rcases hs.freeCall h with ⟨ht, hcalls⟩
    exact .inl ⟨ht, hright ht (by rw [hcalls]; exact nofun) nofun, trivial⟩

theorem Sound.right_iff (hs : s.Sound) (fresh : op.Fresh s) (h : op.exec s = some (a, t)) :
    op.Right a s t ↔ op.Completes s := by
  rcases hs.call fresh h with ⟨-, hright, hcompletes⟩ | ⟨hbroken, hnot⟩
  · exact ⟨fun _ => hcompletes, fun _ => hright⟩
  · constructor
    · intro hright
      exact (hbroken hright.opened).elim
    · intro hcompletes
      exact (hnot hcompletes).elim

theorem Sound.run {ops : List OmxOp} (hs : s.Sound)
    (h : Run OmxOp.Proper ops s t) : t.Sound := by
  refine h.invariant ?_ hs
  rintro op s t ⟨⟨fresh, a, hexec⟩, hcompletes⟩ hs
  rcases hs.call fresh hexec with ⟨ht, -⟩ | ⟨-, hnot⟩
  · exact ht
  · exact (hnot hcompletes).elim

end Omx

/-- An `OMX_GetHandle` of the encoder, where `getInstance` returns NULL. -/
def failingLoad : OmxOp :=
  .getHandle true (some "OMX.qcom.image.jpeg.encoder") ⟨true, true, true, none, none⟩

/-- A first instance that cannot be made: `OMX_GetHandle` fails and unloads the library, and the
entry stays open without it. The next `OMX_GetHandle` calls a function of the library that is
gone. -/
theorem components_dangling : ∃ s t u a b,
    Run OmxOp.Step [.init true] {} s ∧
    failingLoad.Fresh s ∧ failingLoad.exec s = some (a, t) ∧ a.rc = .invalidComponent ∧
    (s.entry ⟨0, by decide⟩).isOpen = false ∧ (t.entry ⟨0, by decide⟩).isOpen = true ∧
    (t.entry ⟨0, by decide⟩).libHandle = none ∧
    failingLoad.Fresh t ∧ failingLoad.exec t = some (b, u) ∧ ∃ call ∈ b.calls, ¬call.Safe := by
  refine ⟨_, _, _, _, _, .one ⟨trivial, _, rfl⟩, nofun, rfl, rfl, rfl, rfl, rfl, nofun, rfl,
    _, mem_cons_self, ?_⟩
  rintro ⟨fn, hfn, hloaded⟩
  cases hfn
  exact absurd hloaded.1 (by decide)

/-- **The component table.** After any calls, with any outcome of the loader and of the components,
in which a first instance of a component is made once its library is found: `open` is TRUE exactly
where `lib_handle` is a loaded library, and a library is loaded exactly as long as it has an
instance. A further call calls the functions only while their library is loaded, leaves the table if
it is an `OMX_GetHandle` that fails, and unloads a library exactly if it frees its last instance, if
and only if it is such a call. -/
theorem components_loaded {ops : List OmxOp} {s : Omx}
    (h : Run OmxOp.Proper ops {} s) :
    s.Opened ∧ (∀ n, s.loader.Mapped n ↔ s.Live n) ∧
      ∀ (op : OmxOp) a t, op.Fresh s → op.exec s = some (a, t) →
        (op.Right a s t ↔ op.Completes s) := by
  have hs : s.Sound := Omx.Sound.init.run h
  exact ⟨hs.opened, hs.mapped_iff, fun op a t fresh hexec => hs.right_iff fresh hexec⟩

/-- The decoder is not found, and an instance of the encoder is made and freed. Then the encoder is
loaded and has no instance to give. -/
theorem components_loaded_encoder :
    let getEncoder : OmxOp := .getHandle true (some "OMX.qcom.image.jpeg.encoder")
      ⟨true, true, true, some 7, some 100⟩
    let getDecoder : OmxOp := .getHandle true (some "OMX.qcom.image.jpeg.decoder")
      ⟨false, true, true, none, none⟩
    ∃ s t a, Run OmxOp.Proper [.init true, getDecoder, getEncoder, .freeHandle (some 100) .none] {} s ∧
      s.loader.maps "libqomx_jpegenc.so" = 1 ∧ s.Opened ∧ (∀ n, s.loader.Mapped n ↔ s.Live n) ∧
      failingLoad.exec s = some (a, t) ∧ ¬failingLoad.Right a s t := by
  intro getEncoder getDecoder
  obtain ⟨s, t, a, h, hmaps, hexec, hnot⟩ : ∃ s t a,
      Run OmxOp.Proper [.init true, getDecoder, getEncoder, .freeHandle (some 100) .none] {} s ∧
      s.loader.maps "libqomx_jpegenc.so" = 1 ∧ failingLoad.exec s = some (a, t) ∧
      ¬failingLoad.Completes s := by
    refine ⟨_, _, _, .cons ⟨⟨trivial, _, rfl⟩, trivial⟩ (.cons ⟨⟨nofun, _, rfl⟩, ?_⟩
      (.cons ⟨⟨?_, _, rfl⟩, ?_⟩ (.one ⟨⟨trivial, _, rfl⟩, trivial⟩))), rfl, rfl, ?_⟩
    · exact fun _ _ _ _ _ hfound => absurd hfound Bool.false_ne_true
    · exact fun _ _ _ => not_mem_nil
    · exact fun _ _ _ _ _ _ => ⟨rfl, rfl, nofun, nofun⟩
    · intro hcompletes
      exact (hcompletes _ rfl ⟨0, by decide⟩ rfl rfl rfl).2.2.1 rfl
  obtain ⟨hopened, hmapped, hright⟩ := components_loaded h
  exact ⟨s, t, a, h, hmaps, hopened, hmapped, hexec,
    fun hr => hnot ((hright failingLoad _ _ nofun hexec).mp hr)⟩

end Qomx
