import Mathlib.Data.List.Perm.Basic

/-!
# The memory of a JPEG

The camera memory of a JPEG comes with the event of its encoding, or is a copy that is made then; a
thread that saves the JPEG makes one for the name of the file. It goes to the application with a
notification, after which `releaseNotifyData` releases it. A notification that cannot be made leaves
it to the caller, one that is refused releases it.
-/

namespace Hal1Post

/-- The memory that comes with the event, the copy, and that of the file name. -/
inductive JpegMem
  | output
  | copy
  | name
  deriving DecidableEq

/-- What decides on the memory after an event of status DONE: whether the post-processor is
initialized, the JPEG is saved by the thread (`mUseSaveProc` in a longshot), the output buffer
carries a memory; whether a JPEG is waited for within the HAL, and the application takes one; what
`malloc` and the queue of the thread say, and whether the thread is active; whether memory is
given, and the notification is made and accepted. -/
structure JpegEvt where
  mBInited : Bool := true
  saveProc : Bool := false
  mJpegMemOpt : Bool := true
  memHdl : Bool := true
  intJpegEvtPending : Bool := false
  mDataCb : Bool := true
  msgTypeEnabled : Bool := true
  saveMalloc : Bool := true
  inputSaveQ : Bool := true
  isActive : Bool := true
  getMemory : Bool := true
  notifyMalloc : Bool := true
  notified : Bool := true

namespace JpegEvt

/-- `sendDataNotify`, and what `releaseNotifyData` releases, after the callback or where the
notification is refused. -/
def sendDataNotify (evt : JpegEvt) (mem : Option JpegMem) : Bool × List JpegMem :=
  if !evt.notifyMalloc then (false, [])
  else (evt.notified, mem.toList)

end JpegEvt

end Hal1Post
