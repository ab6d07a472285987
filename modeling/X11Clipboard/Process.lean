import X11Clipboard.Lifecycle
import X11Clipboard.Negotiation
import X11Clipboard.Cache
import X11Clipboard.Transfers
import X11Clipboard.Requests

/-! The process: backends constructed, started and stopped as in `Lifecycle`, each with the
event-level state of `Backend`, all sharing `g_contexts`. A conversion request of an X11 peer
reaches the backend `clipLookupContext` finds for its widget, as `clipXtConvertSelectionProc`
has it. A stop ends the event thread and destroys the application context and the widget, and
with them the selection requests still outstanding; it resets neither `fBusy` nor the formats,
the cache or the log, and a restart resets only the X11 text format. So every backend keeps its
invariants across stops and restarts, while one stopped with a conversion outstanding stays
busy for good and never completes the host read that conversion was for. -/
namespace X11Clipboard.Process

open Formats Registry Lifecycle Backend ToX11

/-! ## A backend's event-level state across its lifecycle -/

/-- The event-level state `ClipConstructX11` leaves: every field zero but `fHaveX11`. -/
def constructWorld (fHeadless : Bool) : World :=
  ⟨⟨!fHeadless, false, false, ClipFormat.invalid.toNat, 0, none⟩, [], [], []⟩

/-- What `ClipStartX11` does to it, on what `clipInit` and `RTThreadCreate` return: once
`clipInit` succeeds, `clipResetX11Formats`; then, the event thread running and asked to grab,
the thread's first `clipQueryX11CBFormats`. -/
def startWorld (w : World) (g : List Slot) (pCtx : Nat) (b : Instance) (grab : Bool)
    (env : InitEnv) (rcThread : Status) : World :=
  if !b.fHaveX11 then w
  else if (clipInit g pCtx b env).1.isSuccess then
    if rcThread.isSuccess ∧ grab then clipQueryX11CBFormats (clipResetX11Formats w)
    else clipResetX11Formats w
  else w

/-- What `ClipStopX11` does to it: `clipUninit` destroys the application context and the
widget, and with them the timeouts still queued and the selection requests still outstanding.
Nothing else is reset. -/
def stopWorld (w : World) (b : Instance) : World :=
  if !b.fHaveX11 then w else { w with workers := [], transfers := [] }

theorem startWorld_cases (w : World) (g : List Slot) (pCtx : Nat) (b : Instance) (grab : Bool)
    (env : InitEnv) (rcThread : Status) :
    startWorld w g pCtx b grab env rcThread = w ∨
      startWorld w g pCtx b grab env rcThread = clipResetX11Formats w ∨
      startWorld w g pCtx b grab env rcThread = clipQueryX11CBFormats (clipResetX11Formats w) := by
  unfold startWorld; split_ifs <;> simp

theorem clipQueryX11CBFormats_fHaveX11 (w : World) :
    (clipQueryX11CBFormats w).ctx.fHaveX11 = w.ctx.fHaveX11 := by
  unfold clipQueryX11CBFormats; split_ifs <;> rfl

theorem step_fHaveX11 {xlib : Xlib} {w w' : World} {e : Event} (h : w.step xlib e = some w') :
    w'.ctx.fHaveX11 = w.ctx.fHaveX11 := by
  cases e <;> simp only [World.step, Option.ite_none_right_eq_some, Option.some.injEq] at h
  all_goals first | subst h | obtain ⟨-, rfl⟩ := h
  all_goals simp only [clipRequestDataFromX11, clipAnnounceFormatToX11, vboxClipboardReadX11Worker,
    clipNewVBoxFormatsWorker, clipGrabX11CB, clipPeekEventAndDoXFixesHandling, clipConvertX11Targets,
    clipConvertX11CB, convertSelection, clipResetX11Formats, clipReportEmptyX11CB, clipUpdateX11Targets,
    clipReportFormatsToVBox, clipInvalidateVBoxCBCache]
  all_goals (repeat' split) <;> first | rfl | exact clipQueryX11CBFormats_fHaveX11 _

/-- What a backend keeps over every run of the process: its event-level state agrees with its
lifecycle fields on the X server, and keeps what every run of one backend keeps. -/
structure BackendInv (b : Instance) (w : World) : Prop where
  x11 : w.ctx.fHaveX11 = b.fHaveX11
  negotiation : NegotiationInv w
  cache : CacheInv w
  transfer : TransferInv w
  requests : ∃ ps, Dropped ps w

namespace BackendInv

variable {b b' : Instance} {w : World}

theorem of_fHaveX11_eq (hb : b'.fHaveX11 = b.fHaveX11) (h : BackendInv b w) : BackendInv b' w :=
  ⟨h.x11.trans hb.symm, h.negotiation, h.cache, h.transfer, h.requests⟩

theorem construct (fHeadless : Bool) :
    BackendInv (clipConstructX11 fHeadless) (constructWorld fHeadless) :=
  ⟨rfl, ⟨.inl rfl, by simp [constructWorld], by simp [constructWorld], rfl⟩, rfl, .of_nil rfl,
    [], fun _ => rfl⟩

theorem step {xlib : Xlib} {e : Event} {w' : World} (h : BackendInv b w)
    (hs : w.step xlib e = some w') : BackendInv b w' :=
  ⟨(step_fHaveX11 hs).trans h.x11, h.negotiation.step e hs, h.cache.step e hs, h.transfer.step e hs,
    h.requests.imp fun _ hd => hd.step e hs⟩

theorem query (h : BackendInv b w) : BackendInv b (clipQueryX11CBFormats w) :=
  ⟨(clipQueryX11CBFormats_fHaveX11 w).trans h.x11, h.negotiation.query, h.cache.query,
    h.transfer.query, h.requests.imp fun _ hd => hd.query⟩

theorem resetX11Formats (h : BackendInv b w) : BackendInv b (clipResetX11Formats w) :=
  ⟨h.x11, h.negotiation.congr (.inl rfl) rfl (fun _ => id) [] (by simp [clipResetX11Formats])
    (by simp), h.cache.congr rfl rfl, h.transfer.congr rfl rfl, h.requests⟩

theorem start (h : BackendInv b w) (g : List Slot) (pCtx : Nat) (grab : Bool) (env : InitEnv)
    (rcThread : Status) :
    BackendInv (clipStartX11 g pCtx b grab env rcThread).2.2
      (startWorld w g pCtx b grab env rcThread) := by
  refine of_fHaveX11_eq (clipStartX11_fHaveX11 grab env rcThread) ?_
  rcases startWorld_cases w g pCtx b grab env rcThread with h' | h' | h' <;> rw [h']
  exacts [h, h.resetX11Formats, h.resetX11Formats.query]

theorem stop (h : BackendInv b w) (hw : w.workers = []) (g : List Slot) (pCtx : Nat)
    (rcWait : Status) : BackendInv (clipStopX11 g pCtx b rcWait).2.2 (stopWorld w b) := by
  refine of_fHaveX11_eq (clipStopX11_fHaveX11 rcWait) ?_
  unfold stopWorld
  split_ifs
  · exact h
  · obtain ⟨ps, hd⟩ := h.requests
    exact ⟨h.x11, h.negotiation.congr h.negotiation.textFormat rfl (List.nil_subset _) []
      (by simp) (by simp), h.cache.congr rfl rfl, .of_nil rfl, _, hd.drop hw⟩

end BackendInv

/-! ## The process -/

/-- The backends constructed so far, by context pointer, each with its lifecycle fields and its
event-level state; and `g_contexts`. -/
structure State where
  gContexts : List Slot
  backends : List (Nat × Instance × World)

def State.init : State := ⟨gContextsInit, []⟩

def State.system (s : State) : System := ⟨s.gContexts, s.backends.map fun q => (q.1, q.2.1)⟩

/-- What happens in the process: a lifecycle call; a host call, a worker or an X11 event of the
backend at a context; or an X11 peer's request to convert the selection a widget owns. -/
inductive Action
  | call (c : Call)
  | backend (pCtx : Nat) (e : Event)
  | convertSelection (widget : Nat) (atomSelection atomTarget : Atom) (reply : FrontendReply)

/-- The events that reach a backend through its widget rather than its context. -/
def viaWidget : Event → Bool
  | .convertSelection .. => true
  | _ => false

/-- One action, when it can happen. Lifecycle calls are allowed as in `System.call`, a stop
once the event thread has run the workers queued before its stop worker. A backend's own events
happen while it is started, or at any time if it is headless. A conversion request is made
only to a widget some backend holds, and `clipXtConvertSelectionProc` finds its backend with
`clipLookupContext`. -/
def State.step (xlib : Xlib) (s : State) : Action → Option State
  | .call (.construct pCtx fHeadless) =>
    if pCtx ≠ 0 ∧ pCtx ∉ s.backends.map Prod.fst then
      some ⟨s.gContexts, (pCtx, clipConstructX11 fHeadless, constructWorld fHeadless) :: s.backends⟩
    else none
  | .call (.start pCtx grab env rcThread) =>
    match findBackend s.backends pCtx with
    | some (b, w) =>
      if b.widget = 0 ∧ (env.widget ≠ 0 → ∀ q ∈ s.backends, q.2.1.widget ≠ env.widget) then
        let r := clipStartX11 s.gContexts pCtx b grab env rcThread
        some ⟨r.2.1, setBackend s.backends pCtx
          (r.2.2, startWorld w s.gContexts pCtx b grab env rcThread)⟩
      else none
    | none => none
  | .call (.stop pCtx rcWait) =>
    match findBackend s.backends pCtx with
    | some (b, w) =>
      if (b.widget ≠ 0 ∨ b.fHaveX11 = false) ∧ w.workers = [] then
        let r := clipStopX11 s.gContexts pCtx b rcWait
        some ⟨r.2.1, setBackend s.backends pCtx (r.2.2, stopWorld w b)⟩
      else none
    | none => none
  | .backend pCtx e =>
    match findBackend s.backends pCtx with
    | some (b, w) =>
      if (b.widget ≠ 0 ∨ b.fHaveX11 = false) ∧ viaWidget e = false then
        (w.step xlib e).map fun w' => ⟨s.gContexts, setBackend s.backends pCtx (b, w')⟩
      else none
    | none => none
  | .convertSelection widget atomSelection atomTarget reply =>
    if widget ≠ 0 ∧ ∃ q ∈ s.backends, q.2.1.widget = widget then
      let pCtx := clipLookupContext s.gContexts widget
      match findBackend s.backends pCtx with
      | some (b, w) =>
        (w.step xlib (.convertSelection atomSelection atomTarget reply)).map fun w' =>
          ⟨s.gContexts, setBackend s.backends pCtx (b, w')⟩
      | none => none
    else none

def State.run (xlib : Xlib) (s : State) : List Action → Option State
  | [] => some s
  | a :: as => (s.step xlib a).bind fun s' => s'.run xlib as

inductive State.Reachable (xlib : Xlib) : State → Prop
  | init : State.Reachable xlib State.init
  | step {s s' : State} (a : Action) : s.Reachable xlib → s.step xlib a = some s' → s'.Reachable xlib

theorem State.run_preserves {xlib : Xlib} {P : State → Prop}
    (hP : ∀ {s s' : State} (a : Action), P s → s.step xlib a = some s' → P s') :
    ∀ {as : List Action} {s s' : State}, P s → s.run xlib as = some s' → P s'
  | [], _, _, hs, h => by cases h; exact hs
  | a :: _, _, _, hs, h => by
    obtain ⟨s₁, h₁, h⟩ := Option.bind_eq_some.1 h
    exact State.run_preserves hP (hP a hs h₁) h

theorem State.Reachable.run {xlib : Xlib} {s s' : State} (hs : s.Reachable xlib)
    {as : List Action} (h : s.run xlib as = some s') : s'.Reachable xlib :=
  State.run_preserves (fun a hs h => hs.step a h) hs h

/-- Everything a step does: it constructs a backend at a new context, or starts, stops or runs
an event of the backend at one context, every other left as it was. -/
theorem step_cases {xlib : Xlib} {s s' : State} {a : Action} (h : s.step xlib a = some s') :
    (∃ pCtx fHeadless, a = .call (.construct pCtx fHeadless) ∧ pCtx ≠ 0 ∧
      pCtx ∉ s.backends.map Prod.fst ∧
      s' = ⟨s.gContexts, (pCtx, clipConstructX11 fHeadless, constructWorld fHeadless) :: s.backends⟩) ∨
    (∃ pCtx b w grab env rcThread, a = .call (.start pCtx grab env rcThread) ∧
      findBackend s.backends pCtx = some (b, w) ∧ b.widget = 0 ∧
      (env.widget ≠ 0 → ∀ q ∈ s.backends, q.2.1.widget ≠ env.widget) ∧
      s' = ⟨(clipStartX11 s.gContexts pCtx b grab env rcThread).2.1, setBackend s.backends pCtx
        ((clipStartX11 s.gContexts pCtx b grab env rcThread).2.2,
          startWorld w s.gContexts pCtx b grab env rcThread)⟩) ∨
    (∃ pCtx b w rcWait, a = .call (.stop pCtx rcWait) ∧ findBackend s.backends pCtx = some (b, w) ∧
      (b.widget ≠ 0 ∨ b.fHaveX11 = false) ∧ w.workers = [] ∧
      s' = ⟨(clipStopX11 s.gContexts pCtx b rcWait).2.1, setBackend s.backends pCtx
        ((clipStopX11 s.gContexts pCtx b rcWait).2.2, stopWorld w b)⟩) ∨
    (∃ pCtx b w e w', findBackend s.backends pCtx = some (b, w) ∧ w.step xlib e = some w' ∧
      s' = ⟨s.gContexts, setBackend s.backends pCtx (b, w')⟩) := by
  cases a with
  | call c =>
    cases c with
    | construct pCtx fHeadless =>
      simp only [State.step] at h
      split_ifs at h with hg
      cases h
      exact .inl ⟨pCtx, fHeadless, rfl, hg.1, hg.2, rfl⟩
    | start pCtx grab env rcThread =>
      simp only [State.step] at h
      split at h
      · rename_i b w hf
        split_ifs at h with hg
        cases h
        exact .inr (.inl ⟨pCtx, b, w, grab, env, rcThread, rfl, hf, hg.1, hg.2, rfl⟩)
      · cases h
    | stop pCtx rcWait =>
      simp only [State.step] at h
      split at h
      · rename_i b w hf
        split_ifs at h with hg
        cases h
        exact .inr (.inr (.inl ⟨pCtx, b, w, rcWait, rfl, hf, hg.1, hg.2, rfl⟩))
      · cases h
  | backend pCtx e =>
    simp only [State.step] at h
    split at h
    · rename_i b w hf
      split_ifs at h
      obtain ⟨w', hw', rfl⟩ := Option.map_eq_some'.1 h
      exact .inr (.inr (.inr ⟨pCtx, b, w, e, w', hf, hw', rfl⟩))
    · cases h
  | convertSelection widget atomSelection atomTarget reply =>
    simp only [State.step] at h
    split_ifs at h
    split at h
    · rename_i b w hf
      obtain ⟨w', hw', rfl⟩ := Option.map_eq_some'.1 h
      exact .inr (.inr (.inr ⟨_, b, w, _, w', hf, hw', rfl⟩))
    · cases h

/-! ## The lifecycle view -/

section System

variable {s : State} {pCtx : Nat} {b : Instance} {w : World}

theorem mem_system (hq : (pCtx, b, w) ∈ s.backends) : (pCtx, b) ∈ s.system.backends :=
  List.mem_map.2 ⟨_, hq, rfl⟩

theorem map_fst_system (s : State) : s.system.backends.map Prod.fst = s.backends.map Prod.fst := by
  simp only [State.system, List.map_map]; rfl

theorem system_setBackend (g : List Slot) (b' : Instance) (w' : World) :
    State.system ⟨g, setBackend s.backends pCtx (b', w')⟩ =
      ⟨g, setBackend s.system.backends pCtx b'⟩ := by
  simp only [State.system]; rw [map_setBackend Prod.fst]

theorem findBackend_system (hf : findBackend s.backends pCtx = some (b, w)) :
    findBackend s.system.backends pCtx = some b := by
  rw [State.system, findBackend_map Prod.fst, hf]; rfl

theorem system_construct (hp : pCtx ≠ 0) (hnew : pCtx ∉ s.backends.map Prod.fst) (fHeadless : Bool) :
    s.system.call (.construct pCtx fHeadless) =
      some (State.system ⟨s.gContexts,
        (pCtx, clipConstructX11 fHeadless, constructWorld fHeadless) :: s.backends⟩) := by
  rw [System.call, map_fst_system, if_pos ⟨hp, hnew⟩]; rfl

theorem system_start (hf : findBackend s.backends pCtx = some (b, w)) (hb0 : b.widget = 0)
    {grab : Bool} {env : InitEnv} {rcThread : Status}
    (hfresh : env.widget ≠ 0 → ∀ q ∈ s.backends, q.2.1.widget ≠ env.widget) :
    s.system.call (.start pCtx grab env rcThread) =
      some ⟨(clipStartX11 s.gContexts pCtx b grab env rcThread).2.1,
        setBackend s.system.backends pCtx (clipStartX11 s.gContexts pCtx b grab env rcThread).2.2⟩ := by
  have hfresh' : env.widget ≠ 0 → ∀ q ∈ s.system.backends, q.2.widget ≠ env.widget := by
    intro hw q hq
    obtain ⟨r, hr, rfl⟩ := List.mem_map.1 hq
    exact hfresh hw r hr
  simp only [System.call, findBackend_system hf]
  rw [if_pos ⟨hb0, hfresh'⟩]
  rfl

theorem system_stop (hf : findBackend s.backends pCtx = some (b, w))
    (hstarted : b.widget ≠ 0 ∨ b.fHaveX11 = false) (rcWait : Status) :
    s.system.call (.stop pCtx rcWait) =
      some ⟨(clipStopX11 s.gContexts pCtx b rcWait).2.1,
        setBackend s.system.backends pCtx (clipStopX11 s.gContexts pCtx b rcWait).2.2⟩ := by
  simp only [System.call, findBackend_system hf]
  rw [if_pos hstarted]
  rfl

end System

/-! ## The invariant -/

/-- What every reachable state of the process satisfies: its lifecycle view is a state the
lifecycle calls reach, and every backend keeps `BackendInv`. -/
structure Inv (s : State) : Prop where
  system : s.system.Reachable
  backends : ∀ q ∈ s.backends, BackendInv q.2.1 q.2.2

namespace Inv

variable {s : State} {pCtx : Nat} {b : Instance} {w : World}

theorem keys (h : Inv s) : (s.backends.map Prod.fst).Nodup :=
  map_fst_system s ▸ h.system.inv.keys

theorem lookup (h : Inv s) (hb : (pCtx, b, w) ∈ s.backends) (hw : b.widget ≠ 0) :
    clipLookupContext s.gContexts b.widget = pCtx := by
  obtain ⟨a, hr, ha⟩ := h.system.inv.registry
  exact hr.inv.lookup_registered ((ha _ _).2 ⟨hw, b, mem_system hb, rfl⟩)

theorem fHaveX11 (h : Inv s) (hb : (pCtx, b, w) ∈ s.backends) (hw : b.widget ≠ 0) :
    w.ctx.fHaveX11 = true :=
  (h.backends _ hb).x11.trans (h.system.inv.x11 _ (mem_system hb) hw)

theorem update (h : Inv s) (hf : findBackend s.backends pCtx = some (b, w)) {g : List Slot}
    {b' : Instance} {w' : World} (hsys : System.Reachable ⟨g, setBackend s.system.backends pCtx b'⟩)
    (hb' : BackendInv b' w') : Inv ⟨g, setBackend s.backends pCtx (b', w')⟩ where
  system := system_setBackend g b' w' ▸ hsys
  backends q hq := by
    rcases (mem_setBackend (mem_of_findBackend hf)).1 hq with rfl | ⟨hq, -⟩
    · exact hb'
    · exact h.backends q hq

theorem step {xlib : Xlib} {s' : State} {a : Action} (h : Inv s) (hs : s.step xlib a = some s') :
    Inv s' := by
  rcases step_cases hs with ⟨pCtx, fHeadless, -, hp, hnew, rfl⟩ |
      ⟨pCtx, b, w, grab, env, rcThread, -, hf, hb0, hfresh, rfl⟩ |
      ⟨pCtx, b, w, rcWait, -, hf, hstarted, hw, rfl⟩ | ⟨pCtx, b, w, e, w', hf, hw', rfl⟩
  · refine ⟨h.system.call _ (system_construct hp hnew fHeadless), fun q hq => ?_⟩
    rcases List.mem_cons.1 hq with rfl | hq
    · exact .construct fHeadless
    · exact h.backends q hq
  · exact h.update hf (h.system.call _ (system_start hf hb0 hfresh))
      ((h.backends _ (mem_of_findBackend hf)).start _ _ _ _ _)
  · exact h.update hf (h.system.call _ (system_stop hf hstarted rcWait))
      ((h.backends _ (mem_of_findBackend hf)).stop hw _ _ _)
  · have hsys : setBackend s.system.backends pCtx b = s.system.backends :=
      setBackend_of_mem h.system.inv.keys (mem_system (mem_of_findBackend hf))
    exact h.update hf (by rw [hsys]; exact h.system) ((h.backends _ (mem_of_findBackend hf)).step hw')

end Inv

theorem State.Reachable.inv {xlib : Xlib} {s : State} (hs : s.Reachable xlib) : Inv s := by
  induction hs with
  | init => exact ⟨.init, by simp [State.init]⟩
  | step a _ h ih => exact ih.step h

/-! ## Every backend keeps its invariants across its lifecycle -/

/-- Over every run of the process, across any number of constructions, starts, stops and
restarts of any number of backends: the lifecycle fields and `g_contexts` are a state the
lifecycle calls reach, and every backend keeps what every run of one backend keeps. X11 has
been asked only for `TARGETS` or Unicode text and the frontend only for announced text, the
cache is the one the log tells of, and at most one conversion is outstanding, only while
`fBusy` is set. -/
theorem backends_keep_invariants {xlib : Xlib} {s : State} (hs : s.Reachable xlib) :
    s.system.Reachable ∧ ∀ q ∈ s.backends, q.2.2.ctx.fHaveX11 = q.2.1.fHaveX11 ∧
      NegotiationInv q.2.2 ∧ CacheInv q.2.2 ∧ TransferInv q.2.2 :=
  ⟨hs.inv.system, fun q hq =>
    let h := hs.inv.backends q hq
    ⟨h.x11, h.negotiation, h.cache, h.transfer⟩⟩

theorem backends_keep_invariants_after_restart :
    ∃ s, State.init.run emptyXlib [.call (.construct 1 false), .call (.construct 2 true),
        .call (.start 1 true ⟨7, true, true, true, true, 64, 5, .ok (3, 4), true, none⟩ .vinfSuccess),
        .call (.stop 1 .vinfSuccess),
        .call (.start 1 true ⟨8, true, true, true, true, 64, 6, .ok (9, 10), true, none⟩ .vinfSuccess)] =
        some s ∧
      s.system.Reachable ∧ ∀ q ∈ s.backends, q.2.2.ctx.fHaveX11 = q.2.1.fHaveX11 ∧
        NegotiationInv q.2.2 ∧ CacheInv q.2.2 ∧ TransferInv q.2.2 := by
  obtain ⟨s, hs⟩ : ∃ s, State.init.run emptyXlib [.call (.construct 1 false), .call (.construct 2 true),
      .call (.start 1 true ⟨7, true, true, true, true, 64, 5, .ok (3, 4), true, none⟩ .vinfSuccess),
      .call (.stop 1 .vinfSuccess),
      .call (.start 1 true ⟨8, true, true, true, true, 64, 6, .ok (9, 10), true, none⟩ .vinfSuccess)] =
      some s := ⟨_, rfl⟩
  exact ⟨s, hs, backends_keep_invariants (State.Reachable.init.run hs)⟩

/-! ## Routing of conversion requests -/

/-- Over every run of the process, a conversion request an X11 peer makes to the widget of a
started backend is answered by that backend's `clipXtConvertSelectionProc`, on that backend's
own state; `g_contexts` and every other backend are left as they were. -/
theorem convertSelection_reaches_owner {xlib : Xlib} {s : State} (hs : s.Reachable xlib)
    {pCtx : Nat} {b : Instance} {w : World} (hb : (pCtx, b, w) ∈ s.backends) (hw : b.widget ≠ 0)
    (atomSelection atomTarget : Atom) (reply : FrontendReply) :
    s.step xlib (.convertSelection b.widget atomSelection atomTarget reply) =
      some ⟨s.gContexts,
        setBackend s.backends pCtx (b, convertSelection w xlib atomSelection atomTarget reply)⟩ := by
  have h := hs.inv
  simp only [State.step]
  rw [if_pos ⟨hw, _, hb, rfl⟩]
  simp only [h.lookup hb hw, findBackend_of_mem h.keys hb, World.step, h.fHaveX11 hb hw, if_true,
    Option.map_some']

theorem convertSelection_reaches_owner_of_two :
    ∃ s b w, State.init.run emptyXlib [.call (.construct 1 false), .call (.construct 2 false),
        .call (.start 1 false ⟨7, true, true, true, true, 64, 5, .ok (3, 4), true, none⟩ .vinfSuccess),
        .call (.start 2 false ⟨8, true, true, true, true, 64, 6, .ok (9, 10), true, none⟩
          .vinfSuccess)] = some s ∧
      (2, b, w) ∈ s.backends ∧ b.widget ≠ 0 ∧
      s.step emptyXlib (.convertSelection b.widget (clipGetAtom "CLIPBOARD") (clipGetAtom "TARGETS")
          ⟨.vinfSuccess, none⟩) =
        some ⟨s.gContexts, setBackend s.backends 2 (b, convertSelection w emptyXlib
          (clipGetAtom "CLIPBOARD") (clipGetAtom "TARGETS") ⟨.vinfSuccess, none⟩)⟩ := by
  have hrun : State.init.run emptyXlib [.call (.construct 1 false), .call (.construct 2 false),
      .call (.start 1 false ⟨7, true, true, true, true, 64, 5, .ok (3, 4), true, none⟩ .vinfSuccess),
      .call (.start 2 false ⟨8, true, true, true, true, 64, 6, .ok (9, 10), true, none⟩
        .vinfSuccess)] = some _ := rfl
  exact ⟨_, _, _, hrun, List.mem_cons_self _ _, by decide,
    convertSelection_reaches_owner (State.Reachable.init.run hrun) (List.mem_cons_self _ _)
      (by decide) _ _ _⟩

/-! ## What the backend at one context keeps -/

/-- A property of a backend that every start, stop and event of it keeps. -/
structure Kept (xlib : Xlib) (Q : Instance × World → Prop) : Prop where
  start : ∀ b w g pCtx grab env rcThread, Q (b, w) →
    Q ((clipStartX11 g pCtx b grab env rcThread).2.2, startWorld w g pCtx b grab env rcThread)
  stop : ∀ b w g pCtx rcWait, w.workers = [] → Q (b, w) →
    Q ((clipStopX11 g pCtx b rcWait).2.2, stopWorld w b)
  event : ∀ b w w' e, w.step xlib e = some w' → Q (b, w) → Q (b, w')

theorem exists_findBackend_setBackend {β : Type} {P : β → Prop} {l : List (Nat × β)} {pCtx p : Nat}
    {c c₁ c' : β} (hk : (l.map Prod.fst).Nodup) (hf : findBackend l pCtx = some c) (hc : P c)
    (hf₁ : findBackend l p = some c₁) (hc' : P c₁ → P c') :
    ∃ d, findBackend (setBackend l p c') pCtx = some d ∧ P d := by
  rw [findBackend_setBackend hk (mem_of_findBackend hf₁)]
  split_ifs with hp
  · subst hp
    exact ⟨c', rfl, hc' (Option.some.inj (hf₁.symm.trans hf) ▸ hc)⟩
  · exact ⟨c, hf, hc⟩

namespace Kept

variable {xlib : Xlib} {Q : Instance × World → Prop}

theorem step (hK : Kept xlib Q) {s s' : State} {a : Action} (h : Inv s) {pCtx : Nat}
    {d : Instance × World} (hf : findBackend s.backends pCtx = some d) (hQ : Q d)
    (hs : s.step xlib a = some s') : ∃ d', findBackend s'.backends pCtx = some d' ∧ Q d' := by
  rcases step_cases hs with ⟨p, fHeadless, -, -, hnew, rfl⟩ |
      ⟨p, b, w, grab, env, rcThread, -, hf₁, -, -, rfl⟩ |
      ⟨p, b, w, rcWait, -, hf₁, -, hw, rfl⟩ | ⟨p, b, w, e, w', hf₁, hw', rfl⟩
  · have hp : p ≠ pCtx := by
      rintro rfl
      exact hnew (List.mem_map.2 ⟨_, mem_of_findBackend hf, rfl⟩)
    exact ⟨d, by rw [findBackend_cons, if_neg hp]; exact hf, hQ⟩
  · exact exists_findBackend_setBackend h.keys hf hQ hf₁ (hK.start b w _ _ _ _ _)
  · exact exists_findBackend_setBackend h.keys hf hQ hf₁ (hK.stop b w _ _ _ hw)
  · exact exists_findBackend_setBackend h.keys hf hQ hf₁ (hK.event b w w' e hw')

/-- A kept property of the backend at `pCtx` holds over every run from a reachable state. -/
theorem run (hK : Kept xlib Q) {s s' : State} (hs : s.Reachable xlib) {pCtx : Nat}
    {d : Instance × World} (hf : findBackend s.backends pCtx = some d) (hQ : Q d)
    {as : List Action} (hrun : s.run xlib as = some s') :
    ∃ d', findBackend s'.backends pCtx = some d' ∧ Q d' :=
  (State.run_preserves
    (P := fun s => s.Reachable xlib ∧ ∃ d, findBackend s.backends pCtx = some d ∧ Q d)
    (fun a hs ha => ⟨hs.1.step a ha, let ⟨_, hf, hQ⟩ := hs.2; hK.step hs.1.inv hf hQ ha⟩)
    ⟨hs, d, hf, hQ⟩ hrun).2

end Kept

theorem step_stop {xlib : Xlib} {s s₁ : State} (h : Inv s) {pCtx : Nat} {b : Instance} {w : World}
    (hb : (pCtx, b, w) ∈ s.backends) {rcWait : Status}
    (hstop : s.step xlib (.call (.stop pCtx rcWait)) = some s₁) :
    w.workers = [] ∧
      findBackend s₁.backends pCtx = some ((clipStopX11 s.gContexts pCtx b rcWait).2.2, stopWorld w b) := by
  simp only [State.step, findBackend_of_mem h.keys hb] at hstop
  split_ifs at hstop with hg
  cases hstop
  exact ⟨hg.2, by rw [findBackend_setBackend h.keys hb, if_pos rfl]⟩

/-! ## A stop with a conversion outstanding -/

section Stuck

variable {w : World}

theorem stuck_startWorld (hS : Stuck w) (g : List Slot) (pCtx : Nat) (b : Instance) (grab : Bool)
    (env : InitEnv) (rcThread : Status) : Stuck (startWorld w g pCtx b grab env rcThread) := by
  have hr : Stuck (clipResetX11Formats w) := hS.congr rfl rfl rfl
  rcases startWorld_cases w g pCtx b grab env rcThread with h | h | h <;> rw [h]
  exacts [hS, hr, hr.query ▸ hr.congr rfl rfl rfl]

theorem stuck_stopWorld (hS : Stuck w) (b : Instance) : Stuck (stopWorld w b) := by
  unfold stopWorld
  split_ifs
  · exact hS
  · exact hS.congr rfl rfl hS.2.2.symm

theorem stuck_kept (xlib : Xlib) : Kept xlib fun d => Stuck d.2 :=
  ⟨fun _ _ _ _ _ _ _ hS => stuck_startWorld hS _ _ _ _ _ _, fun _ _ _ _ _ _ hS => stuck_stopWorld hS _,
    fun _ _ _ e hs hS => hS.step e hs⟩

end Stuck

/-- A backend stopped while one of its conversions is outstanding never gets that conversion's
callback, and neither `ClipStopX11` nor a later `ClipStartX11` clears `fBusy`. Over every run
from there, restarted or not, the backend stays busy with nothing outstanding: each host read
its worker handles is answered `VERR_TRY_AGAIN`, and each owner change only sets
`fUpdateNeeded`. -/
theorem stop_with_conversion_outstanding_sticks {xlib : Xlib} {s s₁ s' : State}
    (hs : s.Reachable xlib) {pCtx : Nat} {b : Instance} {w : World} (hb : (pCtx, b, w) ∈ s.backends)
    (hw : b.widget ≠ 0) (ht : w.transfers ≠ []) {rcWait : Status}
    (hstop : s.step xlib (.call (.stop pCtx rcWait)) = some s₁) {as : List Action}
    (hrun : s₁.run xlib as = some s') :
    ∃ b' w', findBackend s'.backends pCtx = some (b', w') ∧ w'.ctx.fBusy = true ∧
      w'.transfers = [] ∧
      (∀ req, vboxClipboardReadX11Worker w' req =
        (w'.setBusy true).emit (.completeDataRequestFromX11 .verrTryAgain req.mReq none 0)) ∧
      clipQueryX11CBFormats w' = w'.setUpdateNeeded true := by
  have h := hs.inv
  have hx : w.ctx.fHaveX11 = true := h.fHaveX11 hb hw
  have hbx : b.fHaveX11 = true := (h.backends _ hb).x11 ▸ hx
  have hS : Stuck (stopWorld w b) := by
    rw [stopWorld, if_neg (by simp [hbx])]
    exact ⟨hx, (h.backends _ hb).transfer.busy ht, rfl⟩
  obtain ⟨⟨b', w'⟩, hf, hS'⟩ :=
    (stuck_kept xlib).run (hs.step _ hstop) (step_stop h hb hstop).2 hS hrun
  exact ⟨b', w', hf, hS'.2.1, hS'.2.2, hS'.readX11Worker, hS'.query⟩

theorem stop_with_conversion_outstanding_sticks_on_restart :
    ∃ s s₁ s' b w, State.init.run emptyXlib [.call (.construct 1 false),
        .call (.start 1 false ⟨7, true, true, true, true, 64, 5, .ok (3, 4), true, none⟩ .vinfSuccess),
        .backend 1 (.xfixesSelectionNotify .foreign 0)] = some s ∧
      (1, b, w) ∈ s.backends ∧ b.widget ≠ 0 ∧ w.transfers ≠ [] ∧
      s.step emptyXlib (.call (.stop 1 .vinfSuccess)) = some s₁ ∧
      s₁.run emptyXlib [
        .call (.start 1 true ⟨7, true, true, true, true, 64, 5, .ok (3, 4), true, none⟩ .vinfSuccess),
        .backend 1 (.xfixesSelectionNotify .foreign 0)] = some s' ∧
      ∃ b' w', findBackend s'.backends 1 = some (b', w') ∧ w'.ctx.fBusy = true ∧
        w'.transfers = [] ∧
        (∀ req, vboxClipboardReadX11Worker w' req =
          (w'.setBusy true).emit (.completeDataRequestFromX11 .verrTryAgain req.mReq none 0)) ∧
        clipQueryX11CBFormats w' = w'.setUpdateNeeded true := by
  have hrun : State.init.run emptyXlib [.call (.construct 1 false),
      .call (.start 1 false ⟨7, true, true, true, true, 64, 5, .ok (3, 4), true, none⟩ .vinfSuccess),
      .backend 1 (.xfixesSelectionNotify .foreign 0)] = some _ := rfl
  exact ⟨_, _, _, _, _, hrun, List.mem_cons_self _ _, by decide, by decide, rfl, rfl,
    @stop_with_conversion_outstanding_sticks _ _ _ _ (State.Reachable.init.run hrun) _ _ _
      (List.mem_cons_self _ _) (by decide) (by decide) _ rfl
      [.call (.start 1 true ⟨7, true, true, true, true, 64, 5, .ok (3, 4), true, none⟩ .vinfSuccess),
        .backend 1 (.xfixesSelectionNotify .foreign 0)] rfl⟩

/-! ## Host reads across stops -/

section Reads

variable {ps : List Nat} {w : World}

theorem dropped_startWorld (h : Dropped ps w) (g : List Slot) (pCtx : Nat) (b : Instance)
    (grab : Bool) (env : InitEnv) (rcThread : Status) :
    Dropped ps (startWorld w g pCtx b grab env rcThread) := by
  have hr : Dropped ps (clipResetX11Formats w) := h
  rcases startWorld_cases w g pCtx b grab env rcThread with h' | h' | h' <;> rw [h']
  exacts [h, hr, hr.query]

theorem dropped_stopWorld (h : Dropped ps w) (hw : w.workers = []) (b : Instance) :
    Dropped (ps ++ if b.fHaveX11 then w.transfers.filterMap Transfer.mReq? else []) (stopWorld w b) := by
  cases hb : b.fHaveX11
  · simpa [stopWorld, hb] using h
  · simpa [stopWorld, hb] using h.drop hw

theorem lost_kept (xlib : Xlib) (pReq : Nat) :
    Kept xlib fun d => ∃ ps, Dropped ps d.2 ∧ 0 < ps.count pReq :=
  ⟨fun _ _ _ _ _ _ _ ⟨ps, hd, hp⟩ => ⟨ps, dropped_startWorld hd _ _ _ _ _ _, hp⟩,
    fun _ _ _ _ _ hw ⟨_, hd, hp⟩ => ⟨_, dropped_stopWorld hd hw _, by rw [List.count_append]; omega⟩,
    fun _ _ _ e hs ⟨ps, hd, hp⟩ => ⟨ps, hd.step e hs, hp⟩⟩

end Reads

/-- Over every run of the process, across stops and restarts, no backend completes a host read
more often than `ClipRequestDataFromX11` accepted it: for every request pointer, a backend's
completions of it and its requests for it still queued or waiting for their conversion number
at most its acceptances of it. -/
theorem host_reads_completed_at_most_once {xlib : Xlib} {s : State} (hs : s.Reachable xlib) :
    ∀ q ∈ s.backends, ∀ pReq, q.2.2.log.countP (Obs.completes pReq) + q.2.2.pending pReq ≤
      q.2.2.log.countP (Obs.accepts pReq) := fun q hq pReq =>
  let ⟨_, hd⟩ := (hs.inv.backends q hq).requests
  hd.le pReq

theorem host_reads_completed_at_most_once_after_restart :
    ∃ s, State.init.run emptyXlib [.call (.construct 1 false),
        .call (.start 1 false ⟨7, true, true, true, true, 64, 5, .ok (3, 4), true, none⟩ .vinfSuccess),
        .backend 1 (.xfixesSelectionNotify .foreign 0),
        .backend 1 (.convertX11Targets (clipGetAtom "ATOM") (some [clipGetAtom "UTF8_STRING"])),
        .backend 1 (.requestDataFromX11 vboxSharedClipboardFmtUnicodeText 1),
        .backend 1 (.readX11Worker ⟨vboxSharedClipboardFmtUnicodeText, 0, 1⟩),
        .call (.stop 1 .vinfSuccess),
        .call (.start 1 false ⟨7, true, true, true, true, 64, 5, .ok (3, 4), true, none⟩ .vinfSuccess)] =
        some s ∧
      ∀ q ∈ s.backends, ∀ pReq, q.2.2.log.countP (Obs.completes pReq) + q.2.2.pending pReq ≤
        q.2.2.log.countP (Obs.accepts pReq) := by
  obtain ⟨s, hs⟩ : ∃ s, State.init.run emptyXlib [.call (.construct 1 false),
      .call (.start 1 false ⟨7, true, true, true, true, 64, 5, .ok (3, 4), true, none⟩ .vinfSuccess),
      .backend 1 (.xfixesSelectionNotify .foreign 0),
      .backend 1 (.convertX11Targets (clipGetAtom "ATOM") (some [clipGetAtom "UTF8_STRING"])),
      .backend 1 (.requestDataFromX11 vboxSharedClipboardFmtUnicodeText 1),
      .backend 1 (.readX11Worker ⟨vboxSharedClipboardFmtUnicodeText, 0, 1⟩),
      .call (.stop 1 .vinfSuccess),
      .call (.start 1 false ⟨7, true, true, true, true, 64, 5, .ok (3, 4), true, none⟩ .vinfSuccess)] =
      some s := ⟨_, rfl⟩
  exact ⟨s, hs, host_reads_completed_at_most_once (State.Reachable.init.run hs)⟩

/-- A host read whose conversion is outstanding when its backend is stopped is lost: over every
run from there, restarted or not, the backend's completions of it and its requests for it still
in the backend stay fewer than its acceptances of it. -/
theorem stop_loses_waiting_read {xlib : Xlib} {s s₁ s' : State} (hs : s.Reachable xlib)
    {pCtx : Nat} {b : Instance} {w : World} (hb : (pCtx, b, w) ∈ s.backends) (hw : b.widget ≠ 0)
    {req : ReadX11CBReq} (hreq : Transfer.data req ∈ w.transfers) {rcWait : Status}
    (hstop : s.step xlib (.call (.stop pCtx rcWait)) = some s₁) {as : List Action}
    (hrun : s₁.run xlib as = some s') :
    ∃ b' w', findBackend s'.backends pCtx = some (b', w') ∧
      w'.log.countP (Obs.completes req.mReq) + w'.pending req.mReq <
        w'.log.countP (Obs.accepts req.mReq) := by
  have h := hs.inv
  obtain ⟨hwk, hf⟩ := step_stop h hb hstop
  obtain ⟨ps, hd⟩ := (h.backends _ hb).requests
  have hbx : b.fHaveX11 = true := (h.backends _ hb).x11 ▸ h.fHaveX11 hb hw
  have hlost : 0 < (ps ++ if b.fHaveX11 then w.transfers.filterMap Transfer.mReq? else []).count
      req.mReq := by
    have : 0 < w.transfers.countP (Transfer.serves req.mReq) :=
      List.countP_pos_iff.2 ⟨_, hreq, by simp [Transfer.serves]⟩
    rw [hbx, if_pos rfl, List.count_append, count_filterMap_mReq]
    omega
  obtain ⟨⟨b', w'⟩, hf', ps', hd', hp'⟩ :=
    (lost_kept xlib req.mReq).run (hs.step _ hstop) hf ⟨_, dropped_stopWorld hd hwk b, hlost⟩ hrun
  exact ⟨b', w', hf', hd'.lt hp'⟩

theorem stop_loses_waiting_read_on_restart :
    ∃ s s₁ s' b w req, State.init.run emptyXlib [.call (.construct 1 false),
        .call (.start 1 false ⟨7, true, true, true, true, 64, 5, .ok (3, 4), true, none⟩ .vinfSuccess),
        .backend 1 (.xfixesSelectionNotify .foreign 0),
        .backend 1 (.convertX11Targets (clipGetAtom "ATOM") (some [clipGetAtom "UTF8_STRING"])),
        .backend 1 (.requestDataFromX11 vboxSharedClipboardFmtUnicodeText 1),
        .backend 1 (.readX11Worker ⟨vboxSharedClipboardFmtUnicodeText, 0, 1⟩)] = some s ∧
      (1, b, w) ∈ s.backends ∧ b.widget ≠ 0 ∧ Transfer.data req ∈ w.transfers ∧
      s.step emptyXlib (.call (.stop 1 .vinfSuccess)) = some s₁ ∧
      s₁.run emptyXlib [
        .call (.start 1 false ⟨7, true, true, true, true, 64, 5, .ok (3, 4), true, none⟩ .vinfSuccess),
        .backend 1 (.requestDataFromX11 vboxSharedClipboardFmtUnicodeText 1),
        .backend 1 (.readX11Worker ⟨vboxSharedClipboardFmtUnicodeText, 0, 1⟩)] = some s' ∧
      ∃ b' w', findBackend s'.backends 1 = some (b', w') ∧
        w'.log.countP (Obs.completes req.mReq) + w'.pending req.mReq <
          w'.log.countP (Obs.accepts req.mReq) := by
  have hrun : State.init.run emptyXlib [.call (.construct 1 false),
      .call (.start 1 false ⟨7, true, true, true, true, 64, 5, .ok (3, 4), true, none⟩ .vinfSuccess),
      .backend 1 (.xfixesSelectionNotify .foreign 0),
      .backend 1 (.convertX11Targets (clipGetAtom "ATOM") (some [clipGetAtom "UTF8_STRING"])),
      .backend 1 (.requestDataFromX11 vboxSharedClipboardFmtUnicodeText 1),
      .backend 1 (.readX11Worker ⟨vboxSharedClipboardFmtUnicodeText, 0, 1⟩)] = some _ := rfl
  exact ⟨_, _, _, _, _, _, hrun, List.mem_cons_self _ _, by decide, List.mem_cons_self _ _, rfl, rfl,
    @stop_loses_waiting_read _ _ _ _ (State.Reachable.init.run hrun) _ _ _ (List.mem_cons_self _ _)
      (by decide) _ (List.mem_cons_self _ _) _ rfl
      [.call (.start 1 false ⟨7, true, true, true, true, 64, 5, .ok (3, 4), true, none⟩ .vinfSuccess),
        .backend 1 (.requestDataFromX11 vboxSharedClipboardFmtUnicodeText 1),
        .backend 1 (.readX11Worker ⟨vboxSharedClipboardFmtUnicodeText, 0, 1⟩)] rfl⟩

end X11Clipboard.Process
