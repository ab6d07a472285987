import X11Clipboard.Registry

/-! The backends' lifecycle: `ClipConstructX11`, `ClipStartX11` with `clipInit`, and
`ClipStopX11` with `clipUninit`, for any number of backends sharing `g_contexts`. Every start
is undone, a failed one at once and a successful one by its stop; over every sequence of calls
the table is one the registration protocol reaches, holding exactly the started backends. -/
namespace X11Clipboard.Lifecycle

open Formats Registry

/-! ## One backend -/

/-- The fields of `CLIPBACKEND` the lifecycle functions use; pointers and file descriptors are
numbers, `0` for `NULL` or none. -/
structure Instance where
  fHaveX11 : Bool
  appContext : Nat
  widget : Nat
  wakeupPipeRead : Nat
  wakeupPipeWrite : Nat
  fGrabClipboardOnStart : Bool
  /-- `RTThreadCreate` started the event thread, and it has not been seen to end. -/
  thread : Bool
  deriving DecidableEq, Repr

/-- A backend that holds no widget, application context or pipe. -/
structure Instance.Idle (b : Instance) : Prop where
  widget : b.widget = 0
  appContext : b.appContext = 0
  wakeupPipeRead : b.wakeupPipeRead = 0
  wakeupPipeWrite : b.wakeupPipeWrite = 0

/-- What `RTErrConvertFromErrno` gives for the `errno` of a failed `pipe` or `fcntl`: an error. -/
def FailStatus : Type := {rc : Status // rc.isSuccess = false}

/-- What `clipInit` gets from the toolkit, the dynamic linker and the system. -/
structure InitEnv where
  /-- `XtCreateApplicationContext`. -/
  appContext : Nat
  /-- `XtOpenDisplay` returned a display. -/
  fDisplay : Bool
  /-- One of the `dlopen` calls for `libXfixes` succeeded. -/
  fFixesLib : Bool
  /-- `dlsym` found `XFixesSelectSelectionInput`. -/
  fFixesSelectInput : Bool
  /-- `XQueryExtension` found `XFIXES`, with this event base. -/
  fXFixes : Bool
  fixesEventBase : Int
  /-- `XtVaAppCreateShell`, `0` for `NULL`. -/
  widget : Nat
  /-- `pipe`: the read and write ends, or the error for its `errno`. -/
  pipes : Except FailStatus (Nat × Nat)
  /-- `XtAppAddInput` returned an input id. -/
  fAddInput : Bool
  /-- `fcntl(O_NONBLOCK)`: `none` on success, or the error for its `errno`. -/
  fcntl : Option FailStatus

def clipLoadXFixes (env : InitEnv) : Status :=
  let rc : Status := if !env.fFixesLib || !env.fFixesSelectInput then .verrNotSupported else .vinfSuccess
  let rc := if rc.isSuccess && !env.fXFixes then .verrNotSupported else rc
  if rc.isSuccess && decide (env.fixesEventBase < 0) then .verrNotSupported else rc

/-- `clipUninit`: the widget's registration is removed and the four handles are zeroed. The
model tracks no descriptors, so the `XtDestroyWidget`, `XtDestroyApplicationContext` and
`close` calls leave no trace here; 0 stands both for no pipe and for descriptor 0, which the
source does not close. -/
def clipUninit (g : List Slot) (pCtx : Nat) (b : Instance) : List Slot × Instance :=
  (if b.widget ≠ 0 then clipUnregisterContext g pCtx b.widget else g,
    { b with widget := 0, appContext := 0, wakeupPipeRead := 0, wakeupPipeWrite := 0 })

/-- The widget block of `clipInit`: the shell widget, and the context registered under it. -/
def clipInitWidget (g : List Slot) (pCtx : Nat) (b : Instance) (widget : Nat) :
    Status × List Slot × Instance :=
  if widget = 0 then (.verrNoMemory, g, { b with widget := 0 })
  else
    let r := clipRegisterContext g pCtx widget
    (r.1, r.2, { b with widget := widget })

/-- `clipInit` up to its pipe: the display and XFixes, then the widget block if both are there. -/
def clipInitShell (g : List Slot) (pCtx : Nat) (b : Instance) (env : InitEnv) :
    Status × List Slot × Instance :=
  let rc : Status := if env.fDisplay then clipLoadXFixes env else .verrNotSupported
  if rc.isSuccess then clipInitWidget g pCtx b env.widget else (rc, g, b)

/-- The pipe block of `clipInit`, run whatever happened before it: the wakeup pipe, watched
by the application context and made non-blocking. -/
def clipInitPipes (rc : Status) (b : Instance) (env : InitEnv) : Status × Instance :=
  match env.pipes with
  | .ok (rd, wr) =>
    let rc := if env.fAddInput then rc else .verrNoMemory
    (match env.fcntl with
      | some e => if rc.isSuccess then e.1 else rc
      | none => rc,
      { b with wakeupPipeRead := rd, wakeupPipeWrite := wr })
  | .error e => (e.1, b)

/-- `clipInit`; on failure it runs `clipUninit`. -/
def clipInit (g : List Slot) (pCtx : Nat) (b : Instance) (env : InitEnv) :
    Status × List Slot × Instance :=
  let (rc, g, b) := clipInitShell g pCtx { b with appContext := env.appContext } env
  let (rc, b) := clipInitPipes rc b env
  if rc.isSuccess then (rc, g, b)
  else
    let r := clipUninit g pCtx b
    (rc, r.1, r.2)

/-- `ClipConstructX11`: the zeroed allocation, taken to succeed, with an X server unless
headless. -/
def clipConstructX11 (fHeadless : Bool) : Instance := ⟨!fHeadless, 0, 0, 0, 0, false, false⟩

/-- `ClipStartX11`; `rcThread` is what `RTThreadCreate` returns. What it does to the formats,
and the event thread's first query, is on the backend's event-level state
(`Process.startWorld`). -/
def clipStartX11 (g : List Slot) (pCtx : Nat) (b : Instance) (grab : Bool) (env : InitEnv)
    (rcThread : Status) : Status × List Slot × Instance :=
  if !b.fHaveX11 then (.vinfSuccess, g, b)
  else
    let (rc, g, b) := clipInit g pCtx b env
    if rc.isSuccess then
      let b := { b with fGrabClipboardOnStart := grab }
      if rcThread.isSuccess then (rcThread, g, { b with thread := true })
      else
        let r := clipUninit g pCtx b
        (rcThread, r.1, r.2)
    else (rc, g, b)

/-- `ClipStopX11`; `rcWait` is what the last `RTThreadWait` returned. The stop worker ends the
thread, or the waits time out; `clipUninit` runs either way. -/
def clipStopX11 (g : List Slot) (pCtx : Nat) (b : Instance) (rcWait : Status) :
    Status × List Slot × Instance :=
  if !b.fHaveX11 then (.vinfSuccess, g, b)
  else
    let r := clipUninit g pCtx { b with thread := b.thread && !rcWait.isSuccess }
    (rcWait, r.1, r.2)

/-! ## What a start does to the table -/

section Start

variable {g : List Slot} {pCtx : Nat} {b : Instance}

theorem clipUnregisterContext_of_fresh {widget : Nat} (hfresh : ∀ s ∈ g, s.widget ≠ widget) :
    clipUnregisterContext g pCtx widget = g := by
  unfold clipUnregisterContext
  split_ifs
  · rfl
  · exact (List.map_congr_left fun s hs => if_neg (hfresh s hs)).trans (List.map_id g)

theorem clipUnregisterContext_fillFirst {widget : Nat} (hnull : ∀ s ∈ g, s.widget = 0 → s.pCtx = 0)
    (hp : pCtx ≠ 0) (hw : widget ≠ 0) (hfresh : ∀ s ∈ g, s.widget ≠ widget) :
    clipUnregisterContext (fillFirst ⟨widget, pCtx⟩ g) pCtx widget = g := by
  simp only [clipUnregisterContext, hp, hw, or_self, if_false]
  induction g with
  | nil => rfl
  | cons s rest ih =>
    have hrest : ∀ t ∈ rest, t.widget ≠ widget := fun t ht => hfresh t (by simp [ht])
    by_cases h0 : s.widget = 0
    · have hs : s = emptySlot := by
        cases s; simp_all [emptySlot, hnull _ (List.mem_cons_self _ _) h0]
      rw [fillFirst, if_pos h0, List.map_cons, if_pos rfl, hs]
      exact congrArg _ ((List.map_congr_left fun t ht => if_neg (hrest t ht)).trans (List.map_id rest))
    · simp only [fillFirst, h0, if_false, List.map_cons, hfresh s (by simp),
        ih (fun t ht => hnull t (by simp [ht])) hrest]

theorem clipInitWidget_cases (hwf : Wf g) (hp : pCtx ≠ 0) (b : Instance) {widget : Nat}
    (hfresh : ∀ s ∈ g, s.pCtx ≠ pCtx ∧ (widget ≠ 0 → s.widget ≠ widget)) :
    let r := clipInitWidget g pCtx b widget
    r.2.2 = { b with widget := widget } ∧
      (r.1.isSuccess ∧ widget ≠ 0 ∧ g.any (·.widget = 0) ∧ r.2.1 = fillFirst ⟨widget, pCtx⟩ g ∨
        r.1.isSuccess = false ∧ r.2.1 = g) := by
  unfold clipInitWidget
  split_ifs with hw
  · exact ⟨by rw [hw], .inr ⟨rfl, rfl⟩⟩
  · rw [clipRegisterContext_fresh g hp hw (fun s hs => ⟨(hfresh s hs).2 hw, (hfresh s hs).1⟩)
      fun s hs => (hwf.null_iff s hs).1]
    split_ifs with he
    · exact ⟨rfl, .inl ⟨rfl, hw, he, rfl⟩⟩
    · exact ⟨rfl, .inr ⟨rfl, rfl⟩⟩

theorem clipInitShell_cases (hwf : Wf g) (hp : pCtx ≠ 0) (hb : b.widget = 0) (env : InitEnv)
    (hfresh : ∀ s ∈ g, s.pCtx ≠ pCtx ∧ (env.widget ≠ 0 → s.widget ≠ env.widget)) :
    let r := clipInitShell g pCtx b env
    r.2.2 = { b with widget := r.2.2.widget } ∧
      (r.1.isSuccess ∧ env.widget ≠ 0 ∧ g.any (·.widget = 0) ∧ r.2.1 = fillFirst ⟨env.widget, pCtx⟩ g ∧
          r.2.2.widget = env.widget ∨
        r.1.isSuccess = false ∧ r.2.1 = g ∧ (r.2.2.widget = 0 ∨ r.2.2.widget = env.widget)) := by
  by_cases hrc : (if env.fDisplay then clipLoadXFixes env else Status.verrNotSupported).isSuccess
  · obtain ⟨hb', hcases⟩ := clipInitWidget_cases hwf hp b hfresh
    dsimp only [clipInitShell]
    rw [if_pos hrc, hb']
    rcases hcases with ⟨hs, hw, he, hg⟩ | ⟨hf, hg⟩
    · exact ⟨rfl, .inl ⟨hs, hw, he, hg, rfl⟩⟩
    · exact ⟨rfl, .inr ⟨hf, hg, .inr rfl⟩⟩
  · dsimp only [clipInitShell]
    rw [if_neg hrc]
    exact ⟨rfl, .inr ⟨by simpa using hrc, rfl, .inl hb⟩⟩

theorem clipInitPipes_isSuccess (rc : Status) (b : Instance) (env : InitEnv)
    (h : (clipInitPipes rc b env).1.isSuccess) : rc.isSuccess := by
  unfold clipInitPipes at h
  by_contra hr
  split at h
  · cases ha : env.fAddInput <;> rcases hf : env.fcntl with _ | ⟨e, he⟩ <;> simp_all [Status.isSuccess]
  · rename_i e _
    simp [e.2] at h

theorem clipInitPipes_shape (rc : Status) (b : Instance) (env : InitEnv) :
    ∃ rd wr, (clipInitPipes rc b env).2 = { b with wakeupPipeRead := rd, wakeupPipeWrite := wr } := by
  unfold clipInitPipes
  split
  · exact ⟨_, _, rfl⟩
  · exact ⟨b.wakeupPipeRead, b.wakeupPipeWrite, rfl⟩

theorem clipInit_fHaveX11 (env : InitEnv) : (clipInit g pCtx b env).2.2.fHaveX11 = b.fHaveX11 := by
  have hs : (clipInitShell g pCtx { b with appContext := env.appContext } env).2.2.fHaveX11 =
      b.fHaveX11 := by
    unfold clipInitShell clipInitWidget; dsimp only; split_ifs <;> rfl
  unfold clipInit
  generalize clipInitShell g pCtx { b with appContext := env.appContext } env = r at hs ⊢
  obtain ⟨rc, g₁, b₁⟩ := r
  obtain ⟨rd, wr, hp⟩ := clipInitPipes_shape rc b₁ env
  dsimp only at hs ⊢
  generalize clipInitPipes rc b₁ env = r at hp ⊢
  obtain ⟨rc₂, b₂⟩ := r
  dsimp only at hp ⊢
  subst hp
  split_ifs <;> exact hs

theorem clipStartX11_fHaveX11 (grab : Bool) (env : InitEnv) (rcThread : Status) :
    (clipStartX11 g pCtx b grab env rcThread).2.2.fHaveX11 = b.fHaveX11 := by
  have hi := @clipInit_fHaveX11 g pCtx b env
  unfold clipStartX11
  generalize clipInit g pCtx b env = r at hi ⊢
  obtain ⟨rc, g₁, b₁⟩ := r
  dsimp only at hi ⊢
  split_ifs <;> first | rfl | exact hi

theorem clipStopX11_fHaveX11 (rcWait : Status) :
    (clipStopX11 g pCtx b rcWait).2.2.fHaveX11 = b.fHaveX11 := by
  unfold clipStopX11; split_ifs <;> rfl

theorem clipInit_cases (hwf : Wf g) (hp : pCtx ≠ 0) (hb : b.widget = 0) (env : InitEnv)
    (hfresh : ∀ s ∈ g, s.pCtx ≠ pCtx ∧ (env.widget ≠ 0 → s.widget ≠ env.widget)) :
    let r := clipInit g pCtx b env
    r.2.2.fHaveX11 = b.fHaveX11 ∧
      (r.1.isSuccess ∧ env.widget ≠ 0 ∧ g.any (·.widget = 0) ∧ r.2.1 = fillFirst ⟨env.widget, pCtx⟩ g ∧
          r.2.2.widget = env.widget ∨
        r.1.isSuccess = false ∧ r.2.1 = g ∧ r.2.2.Idle) := by
  have hnull : ∀ s ∈ g, s.widget = 0 → s.pCtx = 0 := fun s hs => (hwf.null_iff s hs).1
  have hfreshW : env.widget ≠ 0 → ∀ s ∈ g, s.widget ≠ env.widget := fun hw s hs => (hfresh s hs).2 hw
  obtain ⟨hshape, hcases⟩ := clipInitShell_cases (b := { b with appContext := env.appContext }) hwf hp
    hb env hfresh
  unfold clipInit
  generalize clipInitShell g pCtx { b with appContext := env.appContext } env = r₁ at hshape hcases ⊢
  obtain ⟨rc₁, g₁, b₁⟩ := r₁
  dsimp only
  have hs₂ := clipInitPipes_isSuccess rc₁ b₁ env
  obtain ⟨rd, wr, hb₂⟩ := clipInitPipes_shape rc₁ b₁ env
  generalize clipInitPipes rc₁ b₁ env = r₂ at hs₂ hb₂ ⊢
  obtain ⟨rc₂, b₂⟩ := r₂
  dsimp only at hshape hcases hs₂ hb₂ ⊢
  subst hb₂
  have hx : b₁.fHaveX11 = b.fHaveX11 := by rw [hshape]
  split_ifs with hrc
  · rcases hcases with ⟨-, hw, he, rfl, hwb⟩ | ⟨hf, -, -⟩
    · exact ⟨hx, .inl ⟨hrc, hw, he, rfl, hwb⟩⟩
    · exact absurd (hs₂ hrc) (by simp [hf])
  · refine ⟨hx, .inr ⟨by simpa using hrc, ?_, ⟨rfl, rfl, rfl, rfl⟩⟩⟩
    simp only [clipUninit]
    rcases hcases with ⟨-, hw, -, rfl, hwb⟩ | ⟨-, rfl, hwb | hwb⟩
    · rw [hwb, if_pos hw]
      exact clipUnregisterContext_fillFirst hnull hp hw (hfreshW hw)
    · rw [hwb, if_neg (by simp)]
    · split_ifs with hw0
      · rw [hwb] at hw0 ⊢
        exact clipUnregisterContext_of_fresh (hfreshW hw0)
      · rfl

/-- `ClipStartX11` for an X11 backend holding nothing, whose context and new widget the table
does not hold: it succeeds having registered the widget in the first empty slot, or fails,
whichever step failed, with the table as it was and the backend holding nothing. -/
theorem clipStartX11_cases (hwf : Wf g) (hp : pCtx ≠ 0) (hb : b.widget = 0) (hhave : b.fHaveX11)
    (grab : Bool) (env : InitEnv) (rcThread : Status)
    (hfresh : ∀ s ∈ g, s.pCtx ≠ pCtx ∧ (env.widget ≠ 0 → s.widget ≠ env.widget)) :
    let r := clipStartX11 g pCtx b grab env rcThread
    r.1.isSuccess ∧ env.widget ≠ 0 ∧ g.any (·.widget = 0) ∧ r.2.1 = fillFirst ⟨env.widget, pCtx⟩ g ∧
        r.2.2.widget = env.widget ∧ r.2.2.fHaveX11 ∨
      r.1.isSuccess = false ∧ r.2.1 = g ∧ r.2.2.Idle := by
  obtain ⟨hx, hcases⟩ := clipInit_cases hwf hp hb env hfresh
  simp only [clipStartX11, hhave, Bool.not_true, Bool.false_eq_true, if_false]
  generalize clipInit g pCtx b env = r at hx hcases ⊢
  obtain ⟨rc, g₁, b₁⟩ := r
  dsimp only at hx hcases ⊢
  rcases hcases with ⟨hs, hw, he, rfl, hwb⟩ | ⟨hf, rfl, hi⟩
  · rw [if_pos hs]
    split_ifs with ht
    · exact .inl ⟨ht, hw, he, rfl, hwb, hx.trans hhave⟩
    · refine .inr ⟨by simpa using ht, ?_, ⟨rfl, rfl, rfl, rfl⟩⟩
      simp only [clipUninit, hwb, if_pos hw]
      exact clipUnregisterContext_fillFirst (fun s hs => (hwf.null_iff s hs).1) hp hw
        fun s hs => (hfresh s hs).2 hw
  · rw [if_neg (by simp [hf])]
    exact .inr ⟨hf, rfl, hi⟩

/-- Every `ClipStartX11` of an X11 backend holding nothing, over every well-formed table and
every outcome of the toolkit and system calls, is undone: a failed one at once, whichever step
failed, with `g_contexts` exactly as it was and the backend holding no widget, application
context or pipe; a successful one, which took the first empty slot, by `ClipStopX11`, which
gives the table back exactly, however the wait for the event thread ends. -/
theorem clipStartX11_undone (hwf : Wf g) (hp : pCtx ≠ 0) (hb : b.widget = 0) (hhave : b.fHaveX11)
    (grab : Bool) (env : InitEnv) (rcThread : Status)
    (hfresh : ∀ s ∈ g, s.pCtx ≠ pCtx ∧ (env.widget ≠ 0 → s.widget ≠ env.widget)) :
    let r := clipStartX11 g pCtx b grab env rcThread
    r.1.isSuccess = false ∧ r.2.1 = g ∧ r.2.2.Idle ∨
      r.1.isSuccess ∧ r.2.1 = fillFirst ⟨env.widget, pCtx⟩ g ∧
        ∀ rcWait, (clipStopX11 r.2.1 pCtx r.2.2 rcWait).2.1 = g ∧
          (clipStopX11 r.2.1 pCtx r.2.2 rcWait).2.2.Idle := by
  rcases clipStartX11_cases hwf hp hb hhave grab env rcThread hfresh with
    ⟨hs, hw, -, hg, hwb, hx⟩ | hfail
  · refine .inr ⟨hs, hg, fun rcWait => ?_⟩
    simp only [clipStopX11, hx, Bool.not_true, Bool.false_eq_true, if_false, clipUninit, hwb,
      if_pos hw, hg]
    exact ⟨clipUnregisterContext_fillFirst (fun s hs => (hwf.null_iff s hs).1) hp hw
      fun s hs => (hfresh s hs).2 hw, ⟨rfl, rfl, rfl, rfl⟩⟩
  · exact .inl hfail

end Start

theorem clipStartX11_undone_on_init :
    (Wf gContextsInit ∧ (1 : Nat) ≠ 0 ∧ (clipConstructX11 false).widget = 0 ∧
      (clipConstructX11 false).fHaveX11 = true ∧
      ∀ s ∈ gContextsInit, s.pCtx ≠ 1 ∧ ((5 : Nat) ≠ 0 → s.widget ≠ 5)) ∧
    let r := clipStartX11 gContextsInit 1 (clipConstructX11 false) false
      ⟨7, true, true, true, true, 64, 5, .ok (3, 4), true, none⟩ .vinfSuccess
    r.1.isSuccess = false ∧ r.2.1 = gContextsInit ∧ r.2.2.Idle ∨
      r.1.isSuccess ∧ r.2.1 = fillFirst ⟨5, 1⟩ gContextsInit ∧
        ∀ rcWait, (clipStopX11 r.2.1 1 r.2.2 rcWait).2.1 = gContextsInit ∧
          (clipStopX11 r.2.1 1 r.2.2 rcWait).2.2.Idle :=
  have hwf : Wf gContextsInit := Registry.Reachable.init.inv.1
  have hfresh : ∀ s ∈ gContextsInit, s.pCtx ≠ 1 ∧ ((5 : Nat) ≠ 0 → s.widget ≠ 5) := by decide
  ⟨⟨hwf, by decide, rfl, rfl, hfresh⟩,
    clipStartX11_undone hwf (by decide) rfl rfl false ⟨7, true, true, true, true, 64, 5, .ok (3, 4), true, none⟩
      .vinfSuccess hfresh⟩

/-! ## Any number of backends -/

/-- The process: the shared `g_contexts` table and every backend constructed so far, by its
context pointer. `ClipDestructX11` frees nothing, so a backend, once there, stays. -/
structure System where
  gContexts : List Slot
  backends : List (Nat × Instance)

def System.init : System := ⟨gContextsInit, []⟩

/-- A call of the backends' API, with what its toolkit and system calls return. -/
inductive Call
  | construct (pCtx : Nat) (fHeadless : Bool)
  | start (pCtx : Nat) (grab : Bool) (env : InitEnv) (rcThread : Status)
  | stop (pCtx : Nat) (rcWait : Status)

def findBackend {β : Type} (l : List (Nat × β)) (pCtx : Nat) : Option β :=
  (l.find? (·.1 = pCtx)).map Prod.snd

def setBackend {β : Type} (l : List (Nat × β)) (pCtx : Nat) (b : β) : List (Nat × β) :=
  l.map fun q => if q.1 = pCtx then (pCtx, b) else q

/-- A call, when its caller may make it: a context is allocated where no backend is; a backend
is started only while it holds no widget, the toolkit creating a widget no backend holds; and
stopped only while started, or headless. -/
def System.call (s : System) : Call → Option System
  | .construct pCtx fHeadless =>
    if pCtx ≠ 0 ∧ pCtx ∉ s.backends.map Prod.fst then
      some ⟨s.gContexts, (pCtx, clipConstructX11 fHeadless) :: s.backends⟩
    else none
  | .start pCtx grab env rcThread =>
    match findBackend s.backends pCtx with
    | some b =>
      if b.widget = 0 ∧ (env.widget ≠ 0 → ∀ q ∈ s.backends, q.2.widget ≠ env.widget) then
        let r := clipStartX11 s.gContexts pCtx b grab env rcThread
        some ⟨r.2.1, setBackend s.backends pCtx r.2.2⟩
      else none
    | none => none
  | .stop pCtx rcWait =>
    match findBackend s.backends pCtx with
    | some b =>
      if b.widget ≠ 0 ∨ b.fHaveX11 = false then
        let r := clipStopX11 s.gContexts pCtx b rcWait
        some ⟨r.2.1, setBackend s.backends pCtx r.2.2⟩
      else none
    | none => none

def System.run (s : System) : List Call → Option System
  | [] => some s
  | c :: cs => (s.call c).bind fun s' => s'.run cs

inductive System.Reachable : System → Prop
  | init : System.Reachable System.init
  | call {s s' : System} (c : Call) : s.Reachable → s.call c = some s' → s'.Reachable

theorem System.Reachable.run {s s' : System} (hs : s.Reachable) :
    ∀ {cs : List Call}, s.run cs = some s' → s'.Reachable
  | [], h => by cases h; exact hs
  | c :: _, h => by
    obtain ⟨s₁, h₁, h⟩ := Option.bind_eq_some.1 h
    exact (hs.call c h₁).run h

/-- `widget` is the widget of the started backend at `pCtx`. -/
def System.Started (s : System) (widget pCtx : Nat) : Prop :=
  widget ≠ 0 ∧ ∃ b, (pCtx, b) ∈ s.backends ∧ b.widget = widget

section Backends

variable {β : Type} {l : List (Nat × β)} {pCtx : Nat} {b b' : β}

theorem mem_of_findBackend (h : findBackend l pCtx = some b) : (pCtx, b) ∈ l := by
  obtain ⟨⟨p, c⟩, hq, hc⟩ := Option.map_eq_some'.1 h
  have hp : p = pCtx := by simpa using List.find?_some hq
  subst hp hc
  exact List.mem_of_find?_eq_some hq

theorem key_unique (hk : (l.map Prod.fst).Nodup) {c c' : β} (hc : (pCtx, c) ∈ l)
    (hc' : (pCtx, c') ∈ l) : c = c' :=
  (Prod.mk.inj (List.inj_on_of_nodup_map hk hc hc' rfl)).2

theorem findBackend_of_mem (hk : (l.map Prod.fst).Nodup) (hb : (pCtx, b) ∈ l) :
    findBackend l pCtx = some b := by
  cases hf : findBackend l pCtx with
  | none =>
    simp only [findBackend, Option.map_eq_none', List.find?_eq_none, decide_eq_true_eq] at hf
    exact absurd rfl (hf _ hb)
  | some c => rw [key_unique hk (mem_of_findBackend hf) hb]

theorem map_fst_setBackend : (setBackend l pCtx b').map Prod.fst = l.map Prod.fst := by
  simp only [setBackend, List.map_map]
  exact List.map_congr_left fun q _ => by by_cases h : q.1 = pCtx <;> simp [h]

theorem mem_setBackend (hb : (pCtx, b) ∈ l) {q : Nat × β} :
    q ∈ setBackend l pCtx b' ↔ q = (pCtx, b') ∨ q ∈ l ∧ q.1 ≠ pCtx := by
  simp only [setBackend, List.mem_map]
  constructor
  · rintro ⟨r, hr, rfl⟩
    by_cases h : r.1 = pCtx
    · exact .inl (if_pos h)
    · simp only [if_neg h]
      exact .inr ⟨hr, h⟩
  · rintro (rfl | ⟨hq, hne⟩)
    · exact ⟨_, hb, if_pos rfl⟩
    · exact ⟨q, hq, if_neg hne⟩

theorem findBackend_cons {p : Nat} {c : β} :
    findBackend ((p, c) :: l) pCtx = if p = pCtx then some c else findBackend l pCtx := by
  by_cases h : p = pCtx <;> simp [findBackend, h]

theorem findBackend_setBackend_ne {p : Nat} (hp : p ≠ pCtx) :
    findBackend (setBackend l p b') pCtx = findBackend l pCtx := by
  induction l with
  | nil => rfl
  | cons q l ih =>
    obtain ⟨k, c⟩ := q
    have hl : setBackend ((k, c) :: l) p b' = (if k = p then (p, b') else (k, c)) :: setBackend l p b' :=
      rfl
    by_cases hk : k = p
    · subst hk; rw [hl, if_pos rfl, findBackend_cons, findBackend_cons, if_neg hp, if_neg hp, ih]
    · rw [hl, if_neg hk, findBackend_cons, findBackend_cons, ih]

theorem findBackend_setBackend (hk : (l.map Prod.fst).Nodup) {p : Nat} (hb : (p, b) ∈ l) :
    findBackend (setBackend l p b') pCtx = if p = pCtx then some b' else findBackend l pCtx := by
  split_ifs with hp
  · subst hp
    exact findBackend_of_mem (by rwa [map_fst_setBackend]) ((mem_setBackend hb).2 (.inl rfl))
  · exact findBackend_setBackend_ne hp

theorem setBackend_of_mem (hk : (l.map Prod.fst).Nodup) (hb : (pCtx, b) ∈ l) :
    setBackend l pCtx b = l := by
  conv_rhs => rw [← List.map_id l]
  refine List.map_congr_left fun q hq => ?_
  split_ifs with h
  · obtain ⟨k, c⟩ := q
    dsimp only at h
    subst h
    rw [key_unique hk hb hq]; rfl
  · rfl

section Map

variable {γ : Type} (f : β → γ)

theorem map_setBackend :
    (setBackend l pCtx b').map (fun q => (q.1, f q.2)) =
      setBackend (l.map fun q => (q.1, f q.2)) pCtx (f b') := by
  simp only [setBackend, List.map_map]
  exact List.map_congr_left fun q _ => by by_cases h : q.1 = pCtx <;> simp [h]

theorem findBackend_map :
    findBackend (l.map fun q => (q.1, f q.2)) pCtx = (findBackend l pCtx).map f := by
  simp only [findBackend, List.find?_map, Option.map_map]; rfl

end Map

theorem started_setBackend {s : System} {b b' : Instance} (hb : (pCtx, b) ∈ s.backends) (g : List Slot)
    {widget p : Nat} :
    System.Started ⟨g, setBackend s.backends pCtx b'⟩ widget p ↔
      p = pCtx ∧ widget ≠ 0 ∧ b'.widget = widget ∨ p ≠ pCtx ∧ s.Started widget p := by
  simp only [System.Started, mem_setBackend hb, Prod.mk.injEq]
  constructor
  · rintro ⟨hw, c, ⟨rfl, rfl⟩ | ⟨hc, hne⟩, rfl⟩
    · exact .inl ⟨rfl, hw, rfl⟩
    · exact .inr ⟨hne, hw, c, hc, rfl⟩
  · rintro (⟨rfl, hw, rfl⟩ | ⟨hne, hw, c, hc, rfl⟩)
    · exact ⟨hw, b', .inl ⟨rfl, rfl⟩, rfl⟩
    · exact ⟨hw, c, .inr ⟨hc, hne⟩, rfl⟩

end Backends

/-- What every reachable state satisfies: one backend per context, none at `NULL`; a backend
holding no widget holds nothing, and one holding a widget has an X server; and the table is one
the registration protocol reaches, with exactly the started backends registered. -/
structure SystemInv (s : System) : Prop where
  keys : (s.backends.map Prod.fst).Nodup
  nonNull : ∀ q ∈ s.backends, q.1 ≠ 0
  idle : ∀ q ∈ s.backends, q.2.widget = 0 → q.2.Idle
  x11 : ∀ q ∈ s.backends, q.2.widget ≠ 0 → q.2.fHaveX11
  registry : ∃ a, Registry.Reachable s.gContexts a ∧
    ∀ widget pCtx, (widget, pCtx) ∈ a ↔ s.Started widget pCtx

namespace SystemInv

variable {s : System} {pCtx : Nat} {b b' : Instance}

theorem ne_zero (h : SystemInv s) (hb : (pCtx, b) ∈ s.backends) : pCtx ≠ 0 := h.nonNull (pCtx, b) hb

theorem started_backend (h : SystemInv s) (hb : (pCtx, b) ∈ s.backends) {widget p : Nat}
    (hs : s.Started widget p) (hp : p = pCtx) : b.widget = widget := by
  obtain ⟨-, c, hc, rfl⟩ := hs
  subst hp
  exact congrArg Instance.widget (key_unique h.keys hb hc)

theorem congr (h : SystemInv s) (hb : (pCtx, b) ∈ s.backends) (g : List Slot)
    (hidle : b'.widget = 0 → b'.Idle) (hx : b'.widget ≠ 0 → b'.fHaveX11)
    (hreg : ∃ a, Registry.Reachable g a ∧ ∀ widget p, (widget, p) ∈ a ↔
      p = pCtx ∧ widget ≠ 0 ∧ b'.widget = widget ∨ p ≠ pCtx ∧ s.Started widget p) :
    SystemInv ⟨g, setBackend s.backends pCtx b'⟩ where
  keys := by rw [map_fst_setBackend]; exact h.keys
  nonNull q hq := by
    rcases (mem_setBackend hb).1 hq with rfl | ⟨hq, -⟩
    · exact h.nonNull (pCtx, b) hb
    · exact h.nonNull q hq
  idle q hq := by
    rcases (mem_setBackend hb).1 hq with rfl | ⟨hq, -⟩
    · exact hidle
    · exact h.idle q hq
  x11 q hq := by
    rcases (mem_setBackend hb).1 hq with rfl | ⟨hq, -⟩
    · exact hx
    · exact h.x11 q hq
  registry := by
    obtain ⟨a, hr, ha⟩ := hreg
    exact ⟨a, hr, fun widget p => (ha widget p).trans (started_setBackend hb g).symm⟩

theorem idle_update (h : SystemInv s) (hb : (pCtx, b) ∈ s.backends) (hb0 : b.widget = 0)
    (hi : b'.Idle) : SystemInv ⟨s.gContexts, setBackend s.backends pCtx b'⟩ := by
  obtain ⟨a, hr, ha⟩ := h.registry
  refine h.congr hb _ (fun _ => hi) (fun hw => absurd hi.widget hw) ⟨a, hr, fun widget p => ?_⟩
  rw [ha, hi.widget]
  constructor
  · intro hs
    exact .inr ⟨fun hp => hs.1 ((h.started_backend hb hs hp).symm.trans hb0), hs⟩
  · rintro (⟨-, hw, h0⟩ | ⟨-, hs⟩)
    · exact absurd h0.symm hw
    · exact hs

theorem register (h : SystemInv s) (hb : (pCtx, b) ∈ s.backends) (hb0 : b.widget = 0)
    (hw : b'.widget ≠ 0) (hx : b'.fHaveX11)
    (hfresh : ∀ q ∈ s.backends, q.2.widget ≠ b'.widget) (he : s.gContexts.any (·.widget = 0)) :
    SystemInv ⟨fillFirst ⟨b'.widget, pCtx⟩ s.gContexts, setBackend s.backends pCtx b'⟩ := by
  obtain ⟨a, hr, ha⟩ := h.registry
  have hinv := hr.inv
  have hp := h.ne_zero hb
  -- the call is one the protocol allows: neither the widget nor the context is registered
  have hallowed : (Op.register pCtx b'.widget).Allowed a := fun q hq => by
    have hs := (ha q.1 q.2).1 hq
    obtain ⟨c, hc, hcw⟩ := hs.2
    exact ⟨hcw ▸ hfresh _ hc, fun hp' => hs.1 ((h.started_backend hb hs hp').symm.trans hb0)⟩
  have hstep := hr.step _ hallowed
  have hlen : ¬clipMaxContexts ≤ a.length := by
    have := (any_empty_iff _).1 he; have := hinv.1.length; have := hinv.2.length_eq; omega
  simp only [Op.apply, Op.absApply, clipRegisterContext_fresh _ hp hw (hinv.fresh hp hw hallowed)
    fun t ht => (hinv.1.null_iff t ht).1, he, if_true, hp, hw, hlen, or_self, if_false] at hstep
  refine h.congr hb _ (fun h0 => absurd h0 hw) (fun _ => hx) ⟨_, hstep, fun widget p => ?_⟩
  rw [List.mem_cons, Prod.mk.injEq, ha]
  constructor
  · rintro (⟨rfl, rfl⟩ | hs)
    · exact .inl ⟨rfl, hw, rfl⟩
    · exact .inr ⟨fun hp' => hs.1 ((h.started_backend hb hs hp').symm.trans hb0), hs⟩
  · rintro (⟨rfl, -, rfl⟩ | ⟨-, hs⟩)
    · exact .inl ⟨rfl, rfl⟩
    · exact .inr hs

theorem unregister (h : SystemInv s) (hb : (pCtx, b) ∈ s.backends) (hw : b.widget ≠ 0)
    (hi : b'.Idle) :
    SystemInv ⟨clipUnregisterContext s.gContexts pCtx b.widget, setBackend s.backends pCtx b'⟩ := by
  obtain ⟨a, hr, ha⟩ := h.registry
  have hinv := hr.inv
  have hp := h.ne_zero hb
  have hallowed : (Op.unregister pCtx b.widget).Allowed a := (ha _ _).2 ⟨hw, b, hb, rfl⟩
  have hstep := hr.step _ hallowed
  simp only [Op.apply, Op.absApply, hp, hw, or_self, if_false] at hstep
  -- a widget is registered for one context only
  have hnodup : (a.map Prod.fst).Nodup := (hinv.2.map Prod.fst).nodup_iff.1 hinv.1.widgets_nodup
  refine h.congr hb _ (fun _ => hi) (fun hw' => absurd hi.widget hw') ⟨_, hstep, fun widget p => ?_⟩
  rw [List.mem_filter, ha, hi.widget, decide_eq_true_iff]
  constructor
  · rintro ⟨hs, hne⟩
    exact .inr ⟨fun hp' => hne (h.started_backend hb hs hp').symm, hs⟩
  · rintro (⟨-, hw0, h0⟩ | ⟨hne, hs⟩)
    · exact absurd h0.symm hw0
    · refine ⟨hs, fun hwb => hne ?_⟩
      have := List.inj_on_of_nodup_map hnodup ((ha _ _).2 hs) hallowed hwb
      exact (Prod.mk.inj this).2

theorem construct (h : SystemInv s) (hp : pCtx ≠ 0) (hnew : pCtx ∉ s.backends.map Prod.fst)
    (fHeadless : Bool) : SystemInv ⟨s.gContexts, (pCtx, clipConstructX11 fHeadless) :: s.backends⟩ where
  keys := List.nodup_cons.2 ⟨hnew, h.keys⟩
  nonNull := List.forall_mem_cons.2 ⟨hp, h.nonNull⟩
  idle := List.forall_mem_cons.2 ⟨fun _ => ⟨rfl, rfl, rfl, rfl⟩, h.idle⟩
  x11 := List.forall_mem_cons.2 ⟨fun h0 => absurd rfl h0, h.x11⟩
  registry := by
    obtain ⟨a, hr, ha⟩ := h.registry
    refine ⟨a, hr, fun widget p => (ha widget p).trans ?_⟩
    simp only [System.Started, List.mem_cons, Prod.mk.injEq]
    constructor
    · rintro ⟨hw, c, hc, rfl⟩; exact ⟨hw, c, .inr hc, rfl⟩
    · rintro ⟨hw, c, ⟨rfl, rfl⟩ | hc, rfl⟩
      · exact absurd rfl hw
      · exact ⟨hw, c, hc, rfl⟩

theorem start (h : SystemInv s) (hb : (pCtx, b) ∈ s.backends) (hb0 : b.widget = 0)
    (grab : Bool) (env : InitEnv) (rcThread : Status)
    (hfresh : env.widget ≠ 0 → ∀ q ∈ s.backends, q.2.widget ≠ env.widget) :
    let r := clipStartX11 s.gContexts pCtx b grab env rcThread
    SystemInv ⟨r.2.1, setBackend s.backends pCtx r.2.2⟩ := by
  obtain ⟨a, hr, ha⟩ := h.registry
  have hinv := hr.inv
  cases hhave : b.fHaveX11 with
  | false =>
    simp only [clipStartX11, hhave, Bool.not_false, if_true]
    exact h.idle_update hb hb0 (h.idle _ hb hb0)
  | true =>
    -- the table holds neither this backend's context nor the new widget
    have hslots : ∀ t ∈ s.gContexts, t.pCtx ≠ pCtx ∧ (env.widget ≠ 0 → t.widget ≠ env.widget) := by
      intro t ht
      by_cases h0 : t.widget = 0
      · exact ⟨fun hp => h.ne_zero hb (hp ▸ (hinv.1.null_iff t ht).1 h0), fun hw => h0 ▸ hw.symm⟩
      · have hs := (ha _ _).1 (hinv.2.mem_iff.1 (mem_registered.2 ⟨t, ht, h0, rfl⟩))
        obtain ⟨c, hc, hcw⟩ := hs.2
        exact ⟨fun hp => h0 ((h.started_backend hb hs hp).symm.trans hb0),
          fun hw => hcw ▸ hfresh hw _ hc⟩
    dsimp only
    rcases clipStartX11_cases hinv.1 (h.ne_zero hb) hb0 hhave grab env rcThread hslots with
      ⟨-, hw, he, hg, hwb, hx⟩ | ⟨-, hg, hi⟩
    · rw [hg, ← hwb]
      exact h.register hb hb0 (hwb ▸ hw) hx (hwb ▸ hfresh hw) he
    · rw [hg]
      exact h.idle_update hb hb0 hi

theorem stop (h : SystemInv s) (hb : (pCtx, b) ∈ s.backends) (hstarted : b.widget ≠ 0 ∨ b.fHaveX11 = false)
    (rcWait : Status) :
    let r := clipStopX11 s.gContexts pCtx b rcWait
    SystemInv ⟨r.2.1, setBackend s.backends pCtx r.2.2⟩ := by
  by_cases hw : b.widget = 0
  · have hhave : b.fHaveX11 = false := hstarted.resolve_left (not_not.2 hw)
    simp only [clipStopX11, hhave, Bool.not_false, if_true]
    exact h.idle_update hb hw (h.idle _ hb hw)
  · have hx : b.fHaveX11 := h.x11 (pCtx, b) hb hw
    simp only [clipStopX11, hx, Bool.not_true, Bool.false_eq_true, if_false, clipUninit]
    rw [if_pos hw]
    refine h.unregister hb hw ?_
    exact ⟨rfl, rfl, rfl, rfl⟩

theorem call (h : SystemInv s) {c : Call} {s' : System} (hc : s.call c = some s') : SystemInv s' := by
  cases c with
  | construct pCtx fHeadless =>
    simp only [System.call] at hc
    split_ifs at hc with hg
    cases hc
    exact h.construct hg.1 hg.2 fHeadless
  | start pCtx grab env rcThread =>
    simp only [System.call] at hc
    split at hc
    · rename_i b hfind
      split_ifs at hc with hg
      cases hc
      exact h.start (mem_of_findBackend hfind) hg.1 grab env rcThread hg.2
    · cases hc
  | stop pCtx rcWait =>
    simp only [System.call] at hc
    split at hc
    · rename_i b hfind
      split_ifs at hc with hg
      cases hc
      exact h.stop (mem_of_findBackend hfind) hg rcWait
    · cases hc

end SystemInv

theorem System.Reachable.inv {s : System} (hs : s.Reachable) : SystemInv s := by
  induction hs with
  | init =>
    refine ⟨List.nodup_nil, by simp [System.init], by simp [System.init], by simp [System.init],
      ⟨[], .init, fun widget p => ?_⟩⟩
    simp [System.Started, System.init]
  | call c _ hc ih => exact ih.call hc

/-- Over every sequence of lifecycle calls of any number of backends, made as their callers
may: `g_contexts` is a table the registration protocol reaches, with exactly the started
backends' (widget, context) pairs registered; each started backend's widget looks up to its
context, so its callbacks find it, and a widget of no started backend to `NULL`; and a backend
not started holds no widget, application context or pipe. -/
theorem started_backends_registered {s : System} (hs : s.Reachable) :
    (∃ a, Registry.Reachable s.gContexts a ∧ ∀ widget pCtx, (widget, pCtx) ∈ a ↔ s.Started widget pCtx) ∧
    (∀ widget pCtx, s.Started widget pCtx → clipLookupContext s.gContexts widget = pCtx) ∧
    (∀ widget, (∀ pCtx, ¬s.Started widget pCtx) → clipLookupContext s.gContexts widget = 0) ∧
    ∀ q ∈ s.backends, q.2.widget = 0 → q.2.Idle := by
  have h := hs.inv
  obtain ⟨a, hr, ha⟩ := h.registry
  exact ⟨⟨a, hr, ha⟩, fun widget pCtx hst => hr.inv.lookup_registered ((ha _ _).2 hst),
    fun widget hn => hr.inv.lookup_unregistered fun pCtx hm => hn pCtx ((ha _ _).1 hm), h.idle⟩

theorem started_backends_registered_after_start :
    ∃ s, System.init.run [.construct 1 false, .construct 2 true,
        .start 1 false ⟨7, true, true, true, true, 64, 5, .ok (3, 4), true, none⟩ .vinfSuccess,
        .start 2 false ⟨8, true, true, true, true, 64, 6, .ok (9, 10), true, none⟩ .vinfSuccess] = some s ∧
      (∃ a, Registry.Reachable s.gContexts a ∧ ∀ widget pCtx, (widget, pCtx) ∈ a ↔ s.Started widget pCtx) ∧
      (∀ widget pCtx, s.Started widget pCtx → clipLookupContext s.gContexts widget = pCtx) ∧
      (∀ widget, (∀ pCtx, ¬s.Started widget pCtx) → clipLookupContext s.gContexts widget = 0) ∧
      ∀ q ∈ s.backends, q.2.widget = 0 → q.2.Idle := by
  obtain ⟨s, hs⟩ : ∃ s, System.init.run [.construct 1 false, .construct 2 true,
      .start 1 false ⟨7, true, true, true, true, 64, 5, .ok (3, 4), true, none⟩ .vinfSuccess,
      .start 2 false ⟨8, true, true, true, true, 64, 6, .ok (9, 10), true, none⟩ .vinfSuccess] = some s :=
    ⟨_, rfl⟩
  exact ⟨s, hs, started_backends_registered (System.Reachable.init.run hs)⟩

end X11Clipboard.Lifecycle
