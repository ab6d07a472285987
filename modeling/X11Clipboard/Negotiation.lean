import Mathlib.Data.List.GetD
import Mathlib.Tactic.IntervalCases
import X11Clipboard.Targets

/-! Format negotiation over whole runs. On the X11 side `X11TextFormat` is only ever `NIL` or
a Unicode-text entry of `g_aFormats`, so the backend asks X11 for `TARGETS` or a text target
and nothing else, and every text conversion it waits for is one `clipConvertX11CB` reads. On
the host side `vboxFormats` is the formats of the last announcement whose grab succeeded, and
the frontend is asked for text only under a grab that offered it. -/
namespace X11Clipboard.Backend

open Formats ToX11 Targets

/-! ## Text formats -/

/-- What `X11TextFormat` may hold: `NIL_CLIPX11FORMAT` (which `INVALID` also is), or the index
of an entry of `g_aFormats` for Unicode text. -/
def TextFormatOk (format : Nat) : Prop :=
  format = nilClipX11Format ∨ clipVBoxFormatForX11Format format = vboxSharedClipboardFmtUnicodeText

theorem lt_maxClipX11Formats_of_unicode {format : Nat}
    (h : clipVBoxFormatForX11Format format = vboxSharedClipboardFmtUnicodeText) :
    format < maxClipX11Formats := by
  by_contra hge
  rw [clipVBoxFormatForX11Format, formatEntry, List.getD_eq_default _ _ (Nat.le_of_not_lt hge)] at h
  exact absurd h (by decide)

theorem realFormat_of_unicode {format : Nat}
    (h : clipVBoxFormatForX11Format format = vboxSharedClipboardFmtUnicodeText) :
    clipRealFormatForX11Format format = .utf8 ∨ clipRealFormatForX11Format format = .text ∨
      clipRealFormatForX11Format format = .ctext := by
  have hlt : format < 8 := lt_maxClipX11Formats_of_unicode h
  revert h
  interval_cases format <;> decide

theorem isTextTarget_clipAtomForX11Format {format : Nat}
    (h : clipVBoxFormatForX11Format format = vboxSharedClipboardFmtUnicodeText) :
    IsTextTarget (clipAtomForX11Format format) :=
  have hlt := lt_maxClipX11Formats_of_unicode h
  ⟨formatEntry format, by rw [formatEntry, List.getD_eq_getElem _ _ hlt]; exact List.getElem_mem hlt,
    rfl, h⟩

theorem textFormatOk_clipGetTextFormatFromTargets (pTargets : List Atom) :
    TextFormatOk (clipGetTextFormatFromTargets pTargets) := by
  rcases clipGetTextFormatFromTargets_cases pTargets with ⟨-, heq⟩ | ⟨-, a, -, -, ha, -, -, heq⟩
  · exact .inl heq
  · exact .inr (heq ▸ ((isTextTarget_iff a).1 ha).2)

/-! ## What the log records -/

/-- An `XtGetSelectionValue` the backend may make: for `TARGETS`, or for a target of a
Unicode-text entry. -/
def Obs.AsksTextOrTargets : Obs → Prop
  | .getSelectionValue target => target = clipGetAtom "TARGETS" ∨ IsTextTarget target
  | _ => True

/-- One log entry's effect on the formats of the last announcement whose grab succeeded, and
on whether every fetch from the frontend so far was for Unicode text under a grab that
offered it. -/
def grabStep (s : Nat × Bool) : Obs → Nat × Bool
  | .newVBoxFormats u32Formats fOwned => (if fOwned then u32Formats else s.1, s.2)
  | .requestDataForX11 u32Format _ =>
    (s.1, s.2 && decide (u32Format = vboxSharedClipboardFmtUnicodeText ∧
      s.1 &&& vboxSharedClipboardFmtUnicodeText ≠ 0))
  | _ => s

def grabTrace (log : List Obs) : Nat × Bool := log.foldl grabStep (0, true)

@[simp] theorem grabTrace_append (log os : List Obs) :
    grabTrace (log ++ os) = os.foldl grabStep (grabTrace log) := List.foldl_append ..

theorem foldl_grabStep_snd {s : Nat × Bool} (hs : s.2 = false) (os : List Obs) :
    (os.foldl grabStep s).2 = false := by
  induction os generalizing s with
  | nil => exact hs
  | cons o os ih => exact ih (by cases o <;> simp [grabStep, hs])

/-- A log entry that asks neither X11 nor the frontend for anything and grabs nothing. -/
def Obs.Neutral : Obs → Prop
  | .requestDataFromX11 _ _ | .completeDataRequestFromX11 _ _ _ _ | .reportX11Formats _
  | .convertSelection _ _ _ | .xfixesSelectionNotify _ _ => True
  | _ => False

theorem Obs.Neutral.asks {o : Obs} (h : o.Neutral) : o.AsksTextOrTargets := by
  cases o <;> trivial

theorem foldl_grabStep_neutral {os : List Obs} (hos : ∀ o ∈ os, o.Neutral) (s : Nat × Bool) :
    os.foldl grabStep s = s := by
  induction os with
  | nil => rfl
  | cons o os ih =>
    have ho : grabStep s o = s := by
      have := hos o (by simp)
      cases o <;> first | rfl | exact absurd this id
    rw [List.foldl_cons, ho, ih fun o' h' => hos o' (by simp [h'])]

/-! ## The invariant -/

/-- `X11TextFormat` is `NIL` or a Unicode-text entry, every text conversion outstanding is for
a Unicode request in such an entry, X11 has been asked only for `TARGETS` or text targets,
and `vboxFormats` is the last successful grab's formats, under which every fetch from the
frontend was made. -/
structure NegotiationInv (w : World) : Prop where
  textFormat : TextFormatOk w.ctx.x11TextFormat
  transfers : ∀ req, Transfer.data req ∈ w.transfers →
    req.mFormat = vboxSharedClipboardFmtUnicodeText ∧
      clipVBoxFormatForX11Format req.mTextFormat = vboxSharedClipboardFmtUnicodeText
  asks : ∀ o ∈ w.log, o.AsksTextOrTargets
  grab : grabTrace w.log = (w.ctx.vboxFormats, true)

namespace NegotiationInv

variable {w w' : World}

theorem congr (h : NegotiationInv w) (hf : TextFormatOk w'.ctx.x11TextFormat)
    (hv : w'.ctx.vboxFormats = w.ctx.vboxFormats) (ht : w'.transfers ⊆ w.transfers) (os : List Obs)
    (hl : w'.log = w.log ++ os) (hos : ∀ o ∈ os, o.Neutral) : NegotiationInv w' where
  textFormat := hf
  transfers req hr := h.transfers req (ht hr)
  asks := by
    rw [hl]
    exact List.forall_mem_append.2 ⟨h.asks, fun o ho => (hos o ho).asks⟩
  grab := by rw [hl, grabTrace_append, h.grab, foldl_grabStep_neutral hos, hv]

theorem query (h : NegotiationInv w) : NegotiationInv (clipQueryX11CBFormats w) := by
  unfold clipQueryX11CBFormats
  split_ifs
  · exact h.congr h.textFormat rfl (fun _ => id) [] (by simp) (by simp)
  · refine ⟨h.textFormat, fun req hr => h.transfers req (by simpa using hr), ?_, ?_⟩
    · show ∀ o ∈ w.log ++ [_], _
      exact List.forall_mem_append.2 ⟨h.asks, by simp [Obs.AsksTextOrTargets]⟩
    · simp [grabStep, h.grab]

theorem reportEmpty (h : NegotiationInv w) : NegotiationInv (clipReportEmptyX11CB w) :=
  h.congr (.inl rfl) rfl (fun _ => id) [_] rfl (by simp [Obs.Neutral])

theorem updateTargets (h : NegotiationInv w) (pTargets : List Atom) :
    NegotiationInv (clipUpdateX11Targets w pTargets) :=
  h.congr (textFormatOk_clipGetTextFormatFromTargets pTargets) rfl (fun _ => id) [_] rfl
    (by simp [Obs.Neutral])

theorem convertX11Targets (h : NegotiationInv w) (atomType : Atom) (pValue : Option (List Atom)) :
    NegotiationInv (clipConvertX11Targets (w.deliver .targets) atomType pValue) := by
  have hb : NegotiationInv ((w.deliver .targets).setBusy false) :=
    h.congr h.textFormat rfl (List.erase_subset _ _) [] (by simp) (by simp)
  unfold clipConvertX11Targets
  dsimp only
  split_ifs
  · have hu : NegotiationInv (((w.deliver .targets).setBusy false).setUpdateNeeded false) :=
      hb.congr hb.textFormat rfl (fun _ => id) [] (by simp) (by simp)
    exact hu.query
  all_goals split
  all_goals first | exact hb.reportEmpty | exact hb.updateTargets _

theorem convertX11CB (h : NegotiationInv w) (xlib : Xlib) (req : ReadX11CBReq) (atomType : Atom)
    (pvSrc : Option (List UInt8)) :
    NegotiationInv (clipConvertX11CB (w.deliver (.data req)) xlib req atomType pvSrc) := by
  have hb : NegotiationInv ((w.deliver (.data req)).setBusy false) :=
    h.congr h.textFormat rfl (List.erase_subset _ _) [] (by simp) (by simp)
  have hq : NegotiationInv (if ((w.deliver (.data req)).setBusy false).ctx.fUpdateNeeded then
      clipQueryX11CBFormats ((w.deliver (.data req)).setBusy false)
      else (w.deliver (.data req)).setBusy false) := by
    split_ifs
    · exact hb.query
    · exact hb
  unfold clipConvertX11CB
  dsimp only
  split <;> exact hq.congr hq.textFormat rfl (fun _ => id) [_] rfl (by simp [Obs.Neutral])

theorem readX11Worker (h : NegotiationInv w) (req : ReadX11CBReq) (wk : Worker) :
    NegotiationInv (vboxClipboardReadX11Worker (w.dequeue wk) req) := by
  have hd : NegotiationInv ((w.dequeue wk).setBusy true) :=
    h.congr h.textFormat rfl (fun _ => id) [] (by simp) (by simp)
  unfold vboxClipboardReadX11Worker
  dsimp only
  split_ifs with hbusy hfmt hinv
  · exact hd.congr hd.textFormat rfl (fun _ => id) [_] rfl (by simp [Obs.Neutral])
  · exact hd.congr hd.textFormat rfl (fun _ => id) [_] rfl (by simp [Obs.Neutral])
  · have hu : clipVBoxFormatForX11Format w.ctx.x11TextFormat = vboxSharedClipboardFmtUnicodeText :=
      h.textFormat.resolve_left hinv
    refine ⟨hd.textFormat, fun r hr => ?_, ?_, ?_⟩
    · rcases List.mem_append.1 hr with hr | hr
      · exact h.transfers r hr
      · simp only [List.mem_singleton, Transfer.data.injEq] at hr
        subst hr
        exact ⟨hfmt, hu⟩
    · show ∀ o ∈ w.log ++ [_], _
      exact List.forall_mem_append.2 ⟨h.asks, by simp [Obs.AsksTextOrTargets, isTextTarget_clipAtomForX11Format hu]⟩
    · simp [grabStep, h.grab]
  · exact hd.congr hd.textFormat rfl (fun _ => id) [_] rfl (by simp [Obs.Neutral])

theorem newVBoxFormatsWorker (h : NegotiationInv w) (wk : Worker) (u32Formats : Nat) (fOwned : Bool) :
    NegotiationInv (clipNewVBoxFormatsWorker (w.dequeue wk) u32Formats fOwned) := by
  cases fOwned <;>
    exact ⟨.inl rfl, h.transfers, List.forall_mem_append.2 ⟨h.asks, by simp [Obs.AsksTextOrTargets]⟩,
      by simp [clipNewVBoxFormatsWorker, clipGrabX11CB, clipResetX11Formats, clipInvalidateVBoxCBCache,
        grabStep, h.grab]⟩

theorem xfixes (h : NegotiationInv w) (owner : SelectionOwner) (subtype : Nat) :
    NegotiationInv (clipPeekEventAndDoXFixesHandling w owner subtype) := by
  have he : NegotiationInv (w.emit (.xfixesSelectionNotify owner subtype)) :=
    h.congr h.textFormat rfl (fun _ => id) [_] rfl (by simp [Obs.Neutral])
  unfold clipPeekEventAndDoXFixesHandling
  split_ifs
  · exact h
  · exact he.query
  · exact he.reportEmpty

theorem convertSelection (h : NegotiationInv w) (xlib : Xlib) (atomSelection atomTarget : Atom)
    (reply : FrontendReply) : NegotiationInv (convertSelection w xlib atomSelection atomTarget reply) := by
  unfold Backend.convertSelection
  dsimp only
  generalize hp : clipXtConvertSelectionProc xlib w.ctx.vboxFormats w.ctx.pvUnicodeCache atomSelection
    atomTarget reply = p
  obtain ⟨value, cache, asked⟩ := p
  cases asked with
  | none =>
    exact h.congr h.textFormat rfl (fun _ => id) [_] rfl (by simp [Obs.Neutral])
  | some r =>
    have hu := clipXtConvertSelectionProc_asked (by rw [hp])
    refine ⟨h.textFormat, h.transfers, ?_, ?_⟩
    · show ∀ o ∈ w.log ++ [_] ++ [_], _
      exact List.forall_mem_append.2 ⟨List.forall_mem_append.2 ⟨h.asks, by simp [Obs.AsksTextOrTargets]⟩,
        by simp [Obs.AsksTextOrTargets]⟩
    · simp [grabStep, h.grab, hu]

theorem step {xlib : Xlib} (e : Event) (h : NegotiationInv w) (hs : w.step xlib e = some w') :
    NegotiationInv w' := by
  cases e <;> simp only [World.step, Option.ite_none_right_eq_some, Option.some.injEq] at hs
  case requestDataFromX11 =>
    subst hs; unfold clipRequestDataFromX11
    split <;> exact h.congr h.textFormat rfl (fun _ => id) [_] rfl (by simp [Obs.Neutral])
  case announceFormatToX11 =>
    subst hs; unfold clipAnnounceFormatToX11
    split
    · exact h
    · exact h.congr h.textFormat rfl (fun _ => id) [] (by simp) (by simp)
  case readX11Worker req => obtain ⟨-, rfl⟩ := hs; exact h.readX11Worker req _
  case newVBoxFormatsWorker => obtain ⟨-, rfl⟩ := hs; exact h.newVBoxFormatsWorker _ _ _
  case xfixesSelectionNotify => obtain ⟨-, rfl⟩ := hs; exact h.xfixes _ _
  case convertX11Targets => obtain ⟨-, rfl⟩ := hs; exact h.convertX11Targets _ _
  case convertX11CB => obtain ⟨-, rfl⟩ := hs; exact h.convertX11CB _ _ _ _
  case convertSelection => obtain ⟨-, rfl⟩ := hs; exact h.convertSelection _ _ _ _

theorem start (fHeadless fGrabClipboardOnStart : Bool) :
    NegotiationInv (clipStart fHeadless fGrabClipboardOnStart) := by
  have h0 : NegotiationInv ⟨⟨!fHeadless, false, false, ClipFormat.invalid.toNat, 0, none⟩, [], [], []⟩ :=
    ⟨.inl rfl, by simp, by simp, rfl⟩
  unfold clipStart
  split_ifs
  · exact h0.query
  · exact h0

end NegotiationInv

theorem Reachable.negotiationInv {xlib : Xlib} {w : World} (hw : Reachable xlib w) :
    NegotiationInv w := by
  induction hw with
  | start fHeadless fGrabClipboardOnStart => exact .start fHeadless fGrabClipboardOnStart
  | step e _ h ih => exact ih.step e h

theorem grabTrace_fetch {pre post : List Obs} {u32Format : Nat} {reply : FrontendReply}
    (h : (grabTrace (pre ++ .requestDataForX11 u32Format reply :: post)).2) :
    u32Format = vboxSharedClipboardFmtUnicodeText ∧
      (grabTrace pre).1 &&& vboxSharedClipboardFmtUnicodeText ≠ 0 := by
  by_contra hne
  rw [grabTrace_append, List.foldl_cons, foldl_grabStep_snd] at h
  · cases h
  · simp [grabStep, hne]

/-- Over every run, `X11TextFormat` is `NIL` or a Unicode-text entry of `g_aFormats`; every text
conversion the backend waits for is a Unicode request in a UTF-8, Latin-1 or compound-text
format, so for it `clipConvertX11CB` never reaches `VERR_NOT_IMPLEMENTED` or the default of its
format switch; and every `XtGetSelectionValue` the backend made asked for `TARGETS` or for a
Unicode-text target. -/
theorem x11_side_asks_only_text {xlib : Xlib} {w : World} (hw : Reachable xlib w) :
    TextFormatOk w.ctx.x11TextFormat ∧
      (∀ req, Transfer.data req ∈ w.transfers → req.mFormat = vboxSharedClipboardFmtUnicodeText ∧
        (clipRealFormatForX11Format req.mTextFormat = .utf8 ∨
          clipRealFormatForX11Format req.mTextFormat = .text ∨
          clipRealFormatForX11Format req.mTextFormat = .ctext)) ∧
      ∀ target, Obs.getSelectionValue target ∈ w.log →
        target = clipGetAtom "TARGETS" ∨ IsTextTarget target :=
  have h := hw.negotiationInv
  ⟨h.textFormat, fun req hr => ⟨(h.transfers req hr).1, realFormat_of_unicode (h.transfers req hr).2⟩,
    fun _ ht => h.asks _ ht⟩

theorem x11_side_asks_only_text_after_read :
    ∃ w, (clipStart false false).run emptyXlib
        [.xfixesSelectionNotify .foreign 0,
          .convertX11Targets (clipGetAtom "ATOM") (some [clipGetAtom "UTF8_STRING"]),
          .requestDataFromX11 vboxSharedClipboardFmtUnicodeText 1,
          .readX11Worker ⟨vboxSharedClipboardFmtUnicodeText, 0, 1⟩] = some w ∧
      TextFormatOk w.ctx.x11TextFormat ∧
      (∀ req, Transfer.data req ∈ w.transfers → req.mFormat = vboxSharedClipboardFmtUnicodeText ∧
        (clipRealFormatForX11Format req.mTextFormat = .utf8 ∨
          clipRealFormatForX11Format req.mTextFormat = .text ∨
          clipRealFormatForX11Format req.mTextFormat = .ctext)) ∧
      ∀ target, Obs.getSelectionValue target ∈ w.log →
        target = clipGetAtom "TARGETS" ∨ IsTextTarget target := by
  obtain ⟨w, hw⟩ : ∃ w, (clipStart false false).run emptyXlib
      [.xfixesSelectionNotify .foreign 0,
        .convertX11Targets (clipGetAtom "ATOM") (some [clipGetAtom "UTF8_STRING"]),
        .requestDataFromX11 vboxSharedClipboardFmtUnicodeText 1,
        .readX11Worker ⟨vboxSharedClipboardFmtUnicodeText, 0, 1⟩] = some w := ⟨_, rfl⟩
  exact ⟨w, hw, x11_side_asks_only_text ((Reachable.start false false).run hw)⟩

/-- Over every run, `vboxFormats` is the formats of the last announcement whose grab of
`CLIPBOARD` succeeded (`0` before any), and every `ClipRequestDataForX11` the backend made was
for Unicode text, under a grab whose formats include it. -/
theorem frontend_asked_only_for_announced_text {xlib : Xlib} {w : World} (hw : Reachable xlib w) :
    w.ctx.vboxFormats = (grabTrace w.log).1 ∧
      ∀ pre u32Format reply post, w.log = pre ++ .requestDataForX11 u32Format reply :: post →
        u32Format = vboxSharedClipboardFmtUnicodeText ∧
          (grabTrace pre).1 &&& vboxSharedClipboardFmtUnicodeText ≠ 0 := by
  have h := hw.negotiationInv.grab
  exact ⟨by rw [h], fun pre u32Format reply post hlog => grabTrace_fetch
    (show (grabTrace (pre ++ .requestDataForX11 u32Format reply :: post)).2 by rw [← hlog, h])⟩

theorem frontend_asked_only_for_announced_text_after_fetch :
    ∃ w, (clipStart false false).run emptyXlib
        [.announceFormatToX11 vboxSharedClipboardFmtUnicodeText,
          .newVBoxFormatsWorker vboxSharedClipboardFmtUnicodeText true,
          .convertSelection (clipGetAtom "CLIPBOARD") (clipGetAtom "UTF8_STRING")
            ⟨.vinfSuccess, some (bytesOfUnits [0x61, 0])⟩] = some w ∧
      w.ctx.vboxFormats = (grabTrace w.log).1 ∧
      ∀ pre u32Format reply post, w.log = pre ++ .requestDataForX11 u32Format reply :: post →
        u32Format = vboxSharedClipboardFmtUnicodeText ∧
          (grabTrace pre).1 &&& vboxSharedClipboardFmtUnicodeText ≠ 0 := by
  obtain ⟨w, hw⟩ : ∃ w, (clipStart false false).run emptyXlib
      [.announceFormatToX11 vboxSharedClipboardFmtUnicodeText,
        .newVBoxFormatsWorker vboxSharedClipboardFmtUnicodeText true,
        .convertSelection (clipGetAtom "CLIPBOARD") (clipGetAtom "UTF8_STRING")
          ⟨.vinfSuccess, some (bytesOfUnits [0x61, 0])⟩] = some w := ⟨_, rfl⟩
  exact ⟨w, hw, frontend_asked_only_for_announced_text ((Reachable.start false false).run hw)⟩

end X11Clipboard.Backend
