import MidoCamera.Library.Loader
import MidoCamera.Library.Run
import Mathlib.Data.Fin.VecNotation
import Mathlib.Data.List.FinRange
import Mathlib.Data.List.ProdSigma

/-!
# The OpenMAX core

The JPEG interface gets its encoders from a core with a table of three components. Each component is
a library that is loaded for the first instance and unloaded with the last one. Whether it is loaded
is told by five fields of the entry: the flag `open`, the handle of the library, the two functions
that were looked up in it, and the instances.

The components themselves are in the libraries, and not here: what their functions return is an
outcome of the call. What the loader does is `Loop.Loader`.
-/

namespace Qomx

open Loop

def compMaxInstances : ℕ := 3

def compMaxNum : ℕ := 3

/-- `OMX_ERRORTYPE`; `code` is any value that a component or `dlclose` returns beside them. -/
inductive OmxError
  | none
  | insufficientResources
  | undefined
  | invalidComponent
  | badParameter
  | code (n : ℤ)
  deriving DecidableEq, Repr

/-- `OMX_ErrorNone` is 0. -/
def OmxError.ofInt (n : ℤ) : OmxError := if n = 0 then .none else .code n

/-- `comp_info_t`. -/
structure CompInfo where
  compName : String
  libName : String
  deriving DecidableEq, Repr

/-- `g_comp_info`: the library of each component. -/
def gCompInfo : Vector CompInfo 3 := #v[
  ⟨"OMX.qcom.image.jpeg.encoder", "libqomx_jpegenc.so"⟩,
  ⟨"OMX.qcom.image.jpeg.decoder", "libqomx_jpegdec.so"⟩,
  ⟨"OMX.qcom.image.jpeg.encoder_pipeline", "libqomx_jpegenc_pipe.so"⟩]

def compInfo (i : Fin compMaxNum) : CompInfo := gCompInfo.get i

/-- `omx_core_component_t`; an instance is named by its address, and NULL is `none`. -/
structure CoreComponent where
  handle : Fin compMaxInstances → Option ℕ := fun _ => none
  isOpen : Bool := false
  libHandle : Option (Loader.Lib String) := none
  getInstance : Option (Loader.Sym String) := none
  createCompFunc : Option (Loader.Sym String) := none
  compName : String
  libName : String

/-- `omx_core_t`. -/
structure OmxCore where
  component : Fin compMaxNum → CoreComponent
  compCnt : ℕ

/-- `g_omxcore` and `g_omxcore_cnt`, with the libraries of the process and the components that were
created and not deinitialised, each with the library it is from. -/
structure Omx where
  core : Option OmxCore := none
  coreCnt : ℕ := 0
  loader : Loader String := .empty
  instances : List (ℕ × String) := []

/-- A call through one of the two function pointers, and the loader at that time. -/
structure Call where
  fn : Option (Loader.Sym String)
  loader : Loader String

/-- What a call returns: the code, what it sets the caller's handle to, if it sets it, and the calls
it makes through the two function pointers. -/
structure Answer where
  rc : OmxError
  handle : Option (Option ℕ) := none
  calls : List Call := []

/-! ## `OMX_Init` and `OMX_Deinit` -/

def CoreComponent.zeroed (i : Fin compMaxNum) : CoreComponent :=
  { compName := (compInfo i).compName, libName := (compInfo i).libName }

/-- `OMX_Init`; `malloc` tells whether there is memory. -/
def Omx.init (s : Omx) (malloc : Bool) : OmxError × Omx :=
  match s.core with
  | some _ => (.none, { s with coreCnt := s.coreCnt + 1 })
  | none =>
    if compMaxNum < gCompInfo.size then (.undefined, s)
    else if malloc then
      (.none, { s with
        core := some { component := .zeroed, compCnt := gCompInfo.size }
        coreCnt := s.coreCnt + 1 })
    else (.insufficientResources, s)

/-- `OMX_Deinit`: the table goes with the last call, whatever is in it. -/
def Omx.deinit (s : Omx) : Omx :=
  { s with
    core := if s.coreCnt = 1 then none else s.core
    coreCnt := s.coreCnt - 1 }

/-! ## `OMX_GetHandle` -/

/-- `get_comp_from_list`, for a name that is not NULL. -/
def OmxCore.getCompFromList (core : OmxCore) (compName : String) : Option (Fin compMaxNum) :=
  (List.finRange compMaxNum).find? fun i =>
    i < core.compCnt && (core.component i).compName == compName

/-- What the loader and the library do in `OMX_GetHandle`: whether the library and the two symbols
are found, and what the two functions return. -/
structure GetOutcome where
  dlopen : Bool
  createSym : Bool
  instanceSym : Bool
  obj : Option ℕ
  comp : Option ℕ

namespace CoreComponent

def getFreeInstIdx (c : CoreComponent) : Option (Fin compMaxInstances) :=
  (List.finRange compMaxInstances).find? fun i => (c.handle i).isNone

/-- The library is loaded if the component is not open. Whether to go on, and `close_handle`. -/
def load (c : CoreComponent) (l : Loader String) (out : GetOutcome) :
    Bool × Bool × CoreComponent × Loader String :=
  if c.isOpen then (true, false, c, l)
  else if out.dlopen then
    let (lib, l) := l.dlopen c.libName
    (out.createSym && out.instanceSym, true, { c with
      isOpen := true
      libHandle := some lib
      createCompFunc := if out.createSym then some ⟨lib, "create_component_fns"⟩ else none
      getInstance := if out.instanceSym then some ⟨lib, "getInstance"⟩ else none }, l)
  else (false, false, { c with libHandle := none }, l)

/-- The object and the component are made, through the two function pointers. -/
def create (c : CoreComponent) (l : Loader String) (out : GetOutcome) : Option ℕ × List Call :=
  match out.obj with
  | none => (none, [⟨c.getInstance, l⟩])
  | some _ => (out.comp, [⟨c.getInstance, l⟩, ⟨c.createCompFunc, l⟩])

/-- `dlclose` of a handle that may be NULL. -/
def closeLib (c : CoreComponent) (l : Loader String) : ℤ × Loader String :=
  match c.libHandle with
  | none => (-1, l)
  | some lib => l.dlclose lib

/-- The label `error`: the library is closed if this call opened it. -/
def fail (c : CoreComponent) (l : Loader String) (closeHandle : Bool) :
    CoreComponent × Loader String :=
  if closeHandle then ({ c with libHandle := none }, (c.closeLib l).2) else (c, l)

/-- `OMX_GetHandle` from the component on: the instance, and the calls that are made. -/
def get (c : CoreComponent) (l : Loader String) (out : GetOutcome) :
    Option ℕ × List Call × CoreComponent × Loader String :=
  match c.getFreeInstIdx with
  | none => (none, [], c, l)
  | some inst =>
    let (ok, closeHandle, c, l) := c.load l out
    let (comp, calls) := if ok then c.create l out else (none, [])
    match comp with
    | some comp => (some comp, calls,
        { c with handle := Function.update c.handle inst (some comp) }, l)
    | none => (none, calls, c.fail l closeHandle)

end CoreComponent

def OmxCore.set (core : OmxCore) (i : Fin compMaxNum) (c : CoreComponent) : OmxCore :=
  { core with component := Function.update core.component i c }

/-- `OMX_GetHandle`; `handle` tells that the caller's pointer is not NULL. Without a core it faults,
as it reads the table. -/
def Omx.getHandle (s : Omx) (handle : Bool) (componentName : Option String) (out : GetOutcome) :
    Option (Answer × Omx) :=
  if !handle then some ({ rc := .badParameter }, s)
  else match componentName with
  | none => some ({ rc := .invalidComponent }, s)
  | some name => s.core.bind fun core =>
    match core.getCompFromList name with
    | none => some ({ rc := .invalidComponent }, s)
    | some i =>
      match (core.component i).get s.loader out with
      | (none, calls, c, l) =>
        some ({ rc := .invalidComponent, handle := some none, calls := calls },
          { s with core := some (core.set i c), loader := l })
      | (some comp, calls, c, l) =>
        some ({ rc := .none, handle := some (some comp), calls := calls },
          { s with
            core := some (core.set i c)
            loader := l
            instances := (comp, c.libName) :: s.instances })

/-! ## `OMX_FreeHandle` -/

def OmxCore.getIdxFromHandle (core : OmxCore) (hComp : ℕ) :
    Option (Fin compMaxNum × Fin compMaxInstances) :=
  (List.finRange compMaxNum ×ˢ List.finRange compMaxInstances).find? fun idx =>
    idx.1 < core.compCnt && (core.component idx.1).handle idx.2 == some hComp

def CoreComponent.isCompActive (c : CoreComponent) : Bool :=
  (List.finRange compMaxInstances).any fun i => (c.handle i).isSome

def CoreComponent.remove (c : CoreComponent) (inst : Fin compMaxInstances) : CoreComponent :=
  { c with handle := Function.update c.handle inst none }

/-- `OMX_FreeHandle` from the instance on: the library is closed with the last one. -/
def CoreComponent.free (c : CoreComponent) (l : Loader String) (inst : Fin compMaxInstances) :
    OmxError × CoreComponent × Loader String :=
  if (c.remove inst).isCompActive then (.none, c.remove inst, l)
  else (.ofInt (c.closeLib l).1, { c.remove inst with
    libHandle := none
    getInstance := none
    createCompFunc := none
    isOpen := false }, (c.closeLib l).2)

/-- `OMX_FreeHandle`; `compDeInit` is what the component's `ComponentDeInit` returns. -/
def Omx.freeHandle (s : Omx) (hComp : Option ℕ) (compDeInit : OmxError) : Option (Answer × Omx) :=
  match hComp with
  | none => some ({ rc := .badParameter }, s)
  | some h => s.core.bind fun core =>
    match core.getIdxFromHandle h with
    | none => some ({ rc := .invalidComponent }, s)
    | some (i, inst) =>
      if compDeInit = .none then
        let (rc, c, l) := (core.component i).free s.loader inst
        some ({ rc := rc },
          { s with
            core := some (core.set i c)
            loader := l
            instances := s.instances.filter fun x => x.1 ≠ h })
      else some ({ rc := .invalidComponent }, s)

/-- The calls on the core, with what the world outside answers. -/
inductive OmxOp
  | init (malloc : Bool)
  | deinit
  | getHandle (handle : Bool) (componentName : Option String) (out : GetOutcome)
  | freeHandle (hComp : Option ℕ) (compDeInit : OmxError)

namespace OmxOp

/-- What a call answers and leaves; none where it reads the table of a core that is not there. -/
def exec (s : Omx) : OmxOp → Option (Answer × Omx)
  | .init malloc => some ({ rc := (s.init malloc).1 }, (s.init malloc).2)
  | .deinit => some ({ rc := .none }, s.deinit)
  | .getHandle handle componentName out => s.getHandle handle componentName out
  | .freeHandle hComp compDeInit => s.freeHandle hComp compDeInit

def Fresh (s : Omx) : OmxOp → Prop
  | .getHandle _ _ out => ∀ comp, out.comp = some comp → ∀ n, (comp, n) ∉ s.instances
  | _ => True

def Step (op : OmxOp) (s t : Omx) : Prop := op.Fresh s ∧ ∃ a, op.exec s = some (a, t)

end OmxOp

end Qomx
