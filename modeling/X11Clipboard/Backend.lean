import X11Clipboard.FromX11
import X11Clipboard.ToX11

/-! The backend as a state machine: the fields of `CLIPBACKEND` its handlers use, the workers
queued to the event thread, the `XtGetSelectionValue` calls whose callbacks are owed, and
a log of what the frontend and the X server see. Each event is one handler run to its end,
as the single event thread runs them; the host thread only queues workers. -/
namespace X11Clipboard.Backend

open Formats Unicode FromX11 ToX11

/-! ## State -/

/-- The fields of `CLIPBACKEND` the handlers read and write. -/
structure ClipBackend where
  fHaveX11 : Bool
  fBusy : Bool
  fUpdateNeeded : Bool
  x11TextFormat : Nat
  vboxFormats : Nat
  pvUnicodeCache : Option (List UInt8)
  deriving DecidableEq, Repr

/-- `CLIPREADX11CBREQ`; its `mCtx` is the one backend. -/
structure ReadX11CBReq where
  mFormat : Nat
  mTextFormat : Nat
  mReq : Nat
  deriving DecidableEq, Repr

/-- A worker queued to the event thread with `clipQueueToEventThread`. -/
inductive Worker
  /-- `vboxClipboardReadX11Worker`. -/
  | readX11 (req : ReadX11CBReq)
  /-- `clipNewVBoxFormatsWorker`. -/
  | newVBoxFormats (u32Formats : Nat)
  deriving DecidableEq, Repr

/-- An `XtGetSelectionValue` on `CLIPBOARD` whose callback has not run. -/
inductive Transfer
  /-- For `TARGETS`, answered by `clipConvertX11Targets`. -/
  | targets
  /-- For text, answered by `clipConvertX11CB`. -/
  | data (req : ReadX11CBReq)
  deriving DecidableEq, Repr

/-- The owner an XFixes selection event names: none, the backend's own window, or another
client's. -/
inductive SelectionOwner
  | none
  | self
  | foreign
  deriving DecidableEq, Repr

/-- What the frontend and the X server see, in order: the events the loop handled, the
calls the backend made, and what it returned. -/
inductive Obs
  | requestDataFromX11 (pReq : Nat) (rc : Status)
  | completeDataRequestFromX11 (rc : Status) (pReq : Nat) (pv : Option (List UInt16)) (cb : Nat)
  | reportX11Formats (u32Formats : Nat)
  | getSelectionValue (target : Atom)
  | requestDataForX11 (u32Format : Nat) (reply : FrontendReply)
  | convertSelection (atomSelection atomTarget : Atom) (value : Option SelectionValue)
  /-- `clipNewVBoxFormatsWorker` ran; `fOwned` is what `XtOwnSelection` of `CLIPBOARD`
  returned. -/
  | newVBoxFormats (u32Formats : Nat) (fOwned : Bool)
  | xfixesSelectionNotify (owner : SelectionOwner) (subtype : Nat)
  deriving DecidableEq, Repr

structure World where
  ctx : ClipBackend
  workers : List Worker
  transfers : List Transfer
  log : List Obs
  deriving DecidableEq, Repr

namespace World

def emit (w : World) (o : Obs) : World := { w with log := w.log ++ [o] }

def setBusy (w : World) (b : Bool) : World := { w with ctx := { w.ctx with fBusy := b } }

def setUpdateNeeded (w : World) (b : Bool) : World :=
  { w with ctx := { w.ctx with fUpdateNeeded := b } }

def setX11TextFormat (w : World) (format : Nat) : World :=
  { w with ctx := { w.ctx with x11TextFormat := format } }

/-- `XtGetSelectionValue` on `CLIPBOARD` for `target`: the toolkit owes the callback `t`. -/
def getSelectionValue (w : World) (t : Transfer) (target : Atom) : World :=
  { w with transfers := w.transfers ++ [t], log := w.log ++ [.getSelectionValue target] }

def deliver (w : World) (t : Transfer) : World := { w with transfers := w.transfers.erase t }

def enqueue (w : World) (wk : Worker) : World := { w with workers := w.workers ++ [wk] }

def dequeue (w : World) (wk : Worker) : World := { w with workers := w.workers.erase wk }

@[simp] theorem emit_ctx (w : World) (o : Obs) : (w.emit o).ctx = w.ctx := rfl
@[simp] theorem emit_workers (w : World) (o : Obs) : (w.emit o).workers = w.workers := rfl
@[simp] theorem emit_transfers (w : World) (o : Obs) : (w.emit o).transfers = w.transfers := rfl
@[simp] theorem emit_log (w : World) (o : Obs) : (w.emit o).log = w.log ++ [o] := rfl
@[simp] theorem setBusy_ctx (w : World) (b : Bool) : (w.setBusy b).ctx = { w.ctx with fBusy := b } := rfl
@[simp] theorem setBusy_workers (w : World) (b : Bool) : (w.setBusy b).workers = w.workers := rfl
@[simp] theorem setBusy_transfers (w : World) (b : Bool) : (w.setBusy b).transfers = w.transfers := rfl
@[simp] theorem setBusy_log (w : World) (b : Bool) : (w.setBusy b).log = w.log := rfl
@[simp] theorem setUpdateNeeded_ctx (w : World) (b : Bool) :
    (w.setUpdateNeeded b).ctx = { w.ctx with fUpdateNeeded := b } := rfl
@[simp] theorem setUpdateNeeded_workers (w : World) (b : Bool) :
    (w.setUpdateNeeded b).workers = w.workers := rfl
@[simp] theorem setUpdateNeeded_transfers (w : World) (b : Bool) :
    (w.setUpdateNeeded b).transfers = w.transfers := rfl
@[simp] theorem setUpdateNeeded_log (w : World) (b : Bool) : (w.setUpdateNeeded b).log = w.log := rfl
@[simp] theorem setX11TextFormat_ctx (w : World) (format : Nat) :
    (w.setX11TextFormat format).ctx = { w.ctx with x11TextFormat := format } := rfl
@[simp] theorem setX11TextFormat_workers (w : World) (format : Nat) :
    (w.setX11TextFormat format).workers = w.workers := rfl
@[simp] theorem setX11TextFormat_transfers (w : World) (format : Nat) :
    (w.setX11TextFormat format).transfers = w.transfers := rfl
@[simp] theorem setX11TextFormat_log (w : World) (format : Nat) :
    (w.setX11TextFormat format).log = w.log := rfl
@[simp] theorem getSelectionValue_ctx (w : World) (t : Transfer) (target : Atom) :
    (w.getSelectionValue t target).ctx = w.ctx := rfl
@[simp] theorem getSelectionValue_workers (w : World) (t : Transfer) (target : Atom) :
    (w.getSelectionValue t target).workers = w.workers := rfl
@[simp] theorem getSelectionValue_transfers (w : World) (t : Transfer) (target : Atom) :
    (w.getSelectionValue t target).transfers = w.transfers ++ [t] := rfl
@[simp] theorem getSelectionValue_log (w : World) (t : Transfer) (target : Atom) :
    (w.getSelectionValue t target).log = w.log ++ [.getSelectionValue target] := rfl
@[simp] theorem deliver_ctx (w : World) (t : Transfer) : (w.deliver t).ctx = w.ctx := rfl
@[simp] theorem deliver_workers (w : World) (t : Transfer) : (w.deliver t).workers = w.workers := rfl
@[simp] theorem deliver_transfers (w : World) (t : Transfer) :
    (w.deliver t).transfers = w.transfers.erase t := rfl
@[simp] theorem deliver_log (w : World) (t : Transfer) : (w.deliver t).log = w.log := rfl
@[simp] theorem enqueue_ctx (w : World) (wk : Worker) : (w.enqueue wk).ctx = w.ctx := rfl
@[simp] theorem enqueue_workers (w : World) (wk : Worker) :
    (w.enqueue wk).workers = w.workers ++ [wk] := rfl
@[simp] theorem enqueue_transfers (w : World) (wk : Worker) :
    (w.enqueue wk).transfers = w.transfers := rfl
@[simp] theorem enqueue_log (w : World) (wk : Worker) : (w.enqueue wk).log = w.log := rfl
@[simp] theorem dequeue_ctx (w : World) (wk : Worker) : (w.dequeue wk).ctx = w.ctx := rfl
@[simp] theorem dequeue_workers (w : World) (wk : Worker) :
    (w.dequeue wk).workers = w.workers.erase wk := rfl
@[simp] theorem dequeue_transfers (w : World) (wk : Worker) :
    (w.dequeue wk).transfers = w.transfers := rfl
@[simp] theorem dequeue_log (w : World) (wk : Worker) : (w.dequeue wk).log = w.log := rfl

end World

/-! ## Handlers -/

section Handlers

variable (w : World)

def clipReportFormatsToVBox : World :=
  w.emit (.reportX11Formats (clipVBoxFormatForX11Format w.ctx.x11TextFormat))

/-- `clipResetX11Formats`; the bitmap format it also resets is read nowhere. -/
def clipResetX11Formats : World := w.setX11TextFormat ClipFormat.invalid.toNat

def clipReportEmptyX11CB : World := clipReportFormatsToVBox (clipResetX11Formats w)

/-- `clipUpdateX11Targets`, with `clipGetFormatsFromTargets`. -/
def clipUpdateX11Targets (pTargets : List Atom) : World :=
  clipReportFormatsToVBox (w.setX11TextFormat (clipGetTextFormatFromTargets pTargets))

def clipQueryX11CBFormats : World :=
  if w.ctx.fBusy then w.setUpdateNeeded true
  else (w.setBusy true).getSelectionValue .targets (clipGetAtom "TARGETS")

/-- `clipConvertX11Targets` on the reply's type and value. -/
def clipConvertX11Targets (atomType : Atom) (pValue : Option (List Atom)) : World :=
  let w := w.setBusy false
  if w.ctx.fUpdateNeeded then clipQueryX11CBFormats (w.setUpdateNeeded false)
  else match pValue with
    | some pTargets =>
      if atomType = .xtConvertFail then clipReportEmptyX11CB w else clipUpdateX11Targets w pTargets
    | none => clipReportEmptyX11CB w

/-- `clipConvertX11CB` for `pReq` on the reply's type and value. Unlike
`clipConvertX11Targets` it leaves `fUpdateNeeded` set when it queries the targets again. -/
def clipConvertX11CB (xlib : Xlib) (pReq : ReadX11CBReq) (atomType : Atom)
    (pvSrc : Option (List UInt8)) : World :=
  let w := w.setBusy false
  let w := if w.ctx.fUpdateNeeded then clipQueryX11CBFormats w else w
  match clipConvertX11CBData xlib pReq.mFormat pReq.mTextFormat atomType pvSrc with
  | .ok (pvDest, cbDest) => w.emit (.completeDataRequestFromX11 .vinfSuccess pReq.mReq (some pvDest) cbDest)
  | .error rc => w.emit (.completeDataRequestFromX11 rc pReq.mReq none 0)

def vboxClipboardReadX11Worker (pReq : ReadX11CBReq) : World :=
  let fBusy := w.ctx.fBusy
  let w := w.setBusy true
  if fBusy then w.emit (.completeDataRequestFromX11 .verrTryAgain pReq.mReq none 0)
  else if pReq.mFormat = vboxSharedClipboardFmtUnicodeText then
    if w.ctx.x11TextFormat = ClipFormat.invalid.toNat then
      w.emit (.completeDataRequestFromX11 .verrNoData pReq.mReq none 0)
    else
      w.getSelectionValue (.data { pReq with mTextFormat := w.ctx.x11TextFormat })
        (clipAtomForX11Format w.ctx.x11TextFormat)
  else w.emit (.completeDataRequestFromX11 .verrNotImplemented pReq.mReq none 0)

def clipInvalidateVBoxCBCache : World := { w with ctx := { w.ctx with pvUnicodeCache := none } }

/-- `clipGrabX11CB`; `fOwned` is what `XtOwnSelection` of `CLIPBOARD` returns. -/
def clipGrabX11CB (u32Formats : Nat) (fOwned : Bool) : World :=
  if fOwned then { w with ctx := { w.ctx with vboxFormats := u32Formats } } else w

def clipNewVBoxFormatsWorker (u32Formats : Nat) (fOwned : Bool) : World :=
  clipResetX11Formats
    (clipGrabX11CB ((clipInvalidateVBoxCBCache w).emit (.newVBoxFormats u32Formats fOwned))
      u32Formats fOwned)

/-- `clipPeekEventAndDoXFixesHandling` on an XFixes selection event. -/
def clipPeekEventAndDoXFixesHandling (owner : SelectionOwner) (subtype : Nat) : World :=
  if owner = .self then w
  else
    let w := w.emit (.xfixesSelectionNotify owner subtype)
    if subtype = 0 ∧ owner ≠ .none then clipQueryX11CBFormats w else clipReportEmptyX11CB w

/-- An X11 peer's conversion request, answered by `clipXtConvertSelectionProc`. -/
def convertSelection (xlib : Xlib) (atomSelection atomTarget : Atom) (reply : FrontendReply) : World :=
  let (value, cache, asked) := clipXtConvertSelectionProc xlib w.ctx.vboxFormats
    w.ctx.pvUnicodeCache atomSelection atomTarget reply
  let w := { w with ctx := { w.ctx with pvUnicodeCache := cache } }
  let w := match asked with
    | some reply => w.emit (.requestDataForX11 vboxSharedClipboardFmtUnicodeText reply)
    | none => w
  w.emit (.convertSelection atomSelection atomTarget value)

/-- `ClipRequestDataFromX11`; allocating the request is taken to succeed. -/
def clipRequestDataFromX11 (u32Format : Nat) (pReq : Nat) : World :=
  if !w.ctx.fHaveX11 then w.emit (.requestDataFromX11 pReq .verrNoData)
  else (w.enqueue (.readX11 ⟨u32Format, 0, pReq⟩)).emit (.requestDataFromX11 pReq .vinfSuccess)

/-- `ClipAnnounceFormatToX11`; allocating the message is taken to succeed. -/
def clipAnnounceFormatToX11 (u32Formats : Nat) : World :=
  if !w.ctx.fHaveX11 then w else w.enqueue (.newVBoxFormats u32Formats)

end Handlers

/-! ## Runs -/

/-- What can happen next: a call from the host thread, a queued worker run, an XFixes
event, the callback of an outstanding transfer, or a conversion request from an X11 peer.
Each carries what the environment decides: the X server's answers and the frontend's. -/
inductive Event
  | requestDataFromX11 (u32Format pReq : Nat)
  | announceFormatToX11 (u32Formats : Nat)
  | readX11Worker (req : ReadX11CBReq)
  | newVBoxFormatsWorker (u32Formats : Nat) (fOwned : Bool)
  | xfixesSelectionNotify (owner : SelectionOwner) (subtype : Nat)
  | convertX11Targets (atomType : Atom) (pValue : Option (List Atom))
  | convertX11CB (req : ReadX11CBReq) (atomType : Atom) (pvSrc : Option (List UInt8))
  | convertSelection (atomSelection atomTarget : Atom) (reply : FrontendReply)
  deriving DecidableEq, Repr

/-- One event, when it can happen. The event thread runs only with an X11 connection;
a worker runs only once queued, a callback only once owed. -/
def World.step (xlib : Xlib) (w : World) : Event → Option World
  | .requestDataFromX11 u32Format pReq => some (clipRequestDataFromX11 w u32Format pReq)
  | .announceFormatToX11 u32Formats => some (clipAnnounceFormatToX11 w u32Formats)
  | .readX11Worker req =>
    if Worker.readX11 req ∈ w.workers then
      some (vboxClipboardReadX11Worker (w.dequeue (.readX11 req)) req)
    else none
  | .newVBoxFormatsWorker u32Formats fOwned =>
    if Worker.newVBoxFormats u32Formats ∈ w.workers then
      some (clipNewVBoxFormatsWorker (w.dequeue (.newVBoxFormats u32Formats)) u32Formats fOwned)
    else none
  | .xfixesSelectionNotify owner subtype =>
    if w.ctx.fHaveX11 then some (clipPeekEventAndDoXFixesHandling w owner subtype) else none
  | .convertX11Targets atomType pValue =>
    if Transfer.targets ∈ w.transfers then
      some (clipConvertX11Targets (w.deliver .targets) atomType pValue)
    else none
  | .convertX11CB req atomType pvSrc =>
    if Transfer.data req ∈ w.transfers then
      some (clipConvertX11CB (w.deliver (.data req)) xlib req atomType pvSrc)
    else none
  | .convertSelection atomSelection atomTarget reply =>
    if w.ctx.fHaveX11 then some (convertSelection w xlib atomSelection atomTarget reply) else none

/-- The backend after `ClipConstructX11` and `ClipStartX11`, with its event thread started:
`clipInit` is taken to succeed, and the thread first queries the targets if asked to grab. -/
def clipStart (fHeadless fGrabClipboardOnStart : Bool) : World :=
  let w : World := ⟨⟨!fHeadless, false, false, ClipFormat.invalid.toNat, 0, none⟩, [], [], []⟩
  if !fHeadless ∧ fGrabClipboardOnStart then clipQueryX11CBFormats w else w

inductive Reachable (xlib : Xlib) : World → Prop
  | start (fHeadless fGrabClipboardOnStart : Bool) : Reachable xlib (clipStart fHeadless fGrabClipboardOnStart)
  | step {w w' : World} (e : Event) : Reachable xlib w → w.step xlib e = some w' → Reachable xlib w'

def World.run (xlib : Xlib) (w : World) : List Event → Option World
  | [] => some w
  | e :: es => (w.step xlib e).bind fun w' => w'.run xlib es

theorem World.run_append (xlib : Xlib) (w : World) (es es' : List Event) :
    w.run xlib (es ++ es') = (w.run xlib es).bind fun w' => w'.run xlib es' := by
  induction es generalizing w with
  | nil => rfl
  | cons e es ih => simp only [List.cons_append, World.run, List.append_eq, ih, Option.bind_assoc]

theorem Reachable.run {xlib : Xlib} {w w' : World} {es : List Event} (hw : Reachable xlib w)
    (h : w.run xlib es = some w') : Reachable xlib w' := by
  induction es generalizing w with
  | nil => cases h; exact hw
  | cons e es ih =>
    obtain ⟨w₁, h₁, h₂⟩ := Option.bind_eq_some.1 h
    exact ih (hw.step e h₁) h₂

/-- A property every step keeps holds along every run. -/
theorem run_preserves {xlib : Xlib} {P : World → Prop}
    (hstep : ∀ {w w'} (e : Event), P w → w.step xlib e = some w' → P w') {w w' : World}
    {es : List Event} (hw : P w) (h : w.run xlib es = some w') : P w' := by
  induction es generalizing w with
  | nil => cases h; exact hw
  | cons e es ih =>
    obtain ⟨w₁, h₁, h₂⟩ := Option.bind_eq_some.1 h
    exact ih (hstep e hw h₁) h₂

/-! ## Late `TARGETS` replies

`clipConvertX11Targets` applies a reply without checking whether the backend has since
grabbed the clipboard or seen it emptied. -/

/-- A `TARGETS` conversion issued before the backend grabs the clipboard, answered after
the grab with the backend's own targets, sets a text format and reports Unicode text to the
host, with no owner change in between. -/
theorem own_text_reported_after_grab (xlib : Xlib) :
    ∃ w, (clipStart false false).run xlib
        [.xfixesSelectionNotify .foreign 0,
          .announceFormatToX11 vboxSharedClipboardFmtUnicodeText,
          .newVBoxFormatsWorker vboxSharedClipboardFmtUnicodeText true,
          .convertX11Targets (clipGetAtom "ATOM")
            (some (clipCreateX11Targets vboxSharedClipboardFmtUnicodeText).atoms)] = some w ∧
      w.ctx.x11TextFormat = clipFindX11FormatByAtom (clipGetAtom "UTF8_STRING") ∧
      w.log = [.xfixesSelectionNotify .foreign 0, .getSelectionValue (clipGetAtom "TARGETS"),
        .newVBoxFormats vboxSharedClipboardFmtUnicodeText true,
        .reportX11Formats vboxSharedClipboardFmtUnicodeText] :=
  ⟨_, rfl, rfl, rfl⟩

/-- A `TARGETS` conversion issued for a new owner, answered after the owner has gone and the
backend has reported an empty clipboard, sets a text format and reports Unicode text. -/
theorem stale_targets_reported_after_owner_gone (xlib : Xlib) :
    ∃ w, (clipStart false false).run xlib
        [.xfixesSelectionNotify .foreign 0, .xfixesSelectionNotify .none 0,
          .convertX11Targets (clipGetAtom "ATOM") (some [clipGetAtom "UTF8_STRING"])] = some w ∧
      w.ctx.x11TextFormat = clipFindX11FormatByAtom (clipGetAtom "UTF8_STRING") ∧
      w.log = [.xfixesSelectionNotify .foreign 0, .getSelectionValue (clipGetAtom "TARGETS"),
        .xfixesSelectionNotify .none 0, .reportX11Formats 0,
        .reportX11Formats vboxSharedClipboardFmtUnicodeText] :=
  ⟨_, rfl, rfl, rfl⟩

end X11Clipboard.Backend
