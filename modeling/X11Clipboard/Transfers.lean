import X11Clipboard.Backend

/-! `fBusy` and the conversions the backend has outstanding: at most one at a time, and
`fBusy` set while it is; `fBusy` left set with none outstanding; and `fUpdateNeeded`
around a data transfer. -/
namespace X11Clipboard.Backend

open Formats ToX11

/-! ## At most one conversion outstanding -/

/-- At most one conversion is outstanding, and only while `fBusy` is set. -/
structure TransferInv (w : World) : Prop where
  length_le : w.transfers.length ≤ 1
  busy : w.transfers ≠ [] → w.ctx.fBusy = true

namespace TransferInv

variable {w w' : World}

theorem of_nil (h : w.transfers = []) : TransferInv w := ⟨by simp [h], fun h' => absurd h h'⟩

theorem congr (hw : TransferInv w) (ht : w'.transfers = w.transfers)
    (hb : w'.ctx.fBusy = w.ctx.fBusy) : TransferInv w' :=
  ⟨ht ▸ hw.length_le, fun h => hb ▸ hw.busy (ht ▸ h)⟩

theorem nil_of_not_busy (hw : TransferInv w) (hb : w.ctx.fBusy = false) : w.transfers = [] :=
  Decidable.byContradiction fun h => Bool.false_ne_true (hb ▸ hw.busy h)

theorem deliver (hw : TransferInv w) {t : Transfer} (ht : t ∈ w.transfers) :
    (w.deliver t).transfers = [] := by
  have hlen := hw.length_le
  rcases h : w.transfers with _ | ⟨t', _ | ⟨t'', rest⟩⟩
  · rw [h] at ht; cases ht
  · rw [h, List.mem_singleton] at ht; simp [h, ht]
  · rw [h] at hlen; simp at hlen

theorem query (hw : TransferInv w) : TransferInv (clipQueryX11CBFormats w) := by
  unfold clipQueryX11CBFormats
  split_ifs with hb
  · exact hw.congr rfl rfl
  · have hnil := hw.nil_of_not_busy (by simpa using hb)
    exact ⟨by simp [hnil], fun _ => rfl⟩

theorem convertX11Targets (h : w.transfers = []) (atomType : Atom) (pValue : Option (List Atom)) :
    TransferInv (clipConvertX11Targets w atomType pValue) := by
  unfold clipConvertX11Targets
  dsimp only
  split_ifs
  · exact (of_nil (w := (w.setBusy false).setUpdateNeeded false) h).query
  all_goals split <;> exact of_nil h

theorem convertX11CB (h : w.transfers = []) (xlib : Xlib) (req : ReadX11CBReq) (atomType : Atom)
    (pvSrc : Option (List UInt8)) : TransferInv (clipConvertX11CB w xlib req atomType pvSrc) := by
  have hq : TransferInv (if (w.setBusy false).ctx.fUpdateNeeded then
      clipQueryX11CBFormats (w.setBusy false) else w.setBusy false) := by
    split_ifs
    · exact (of_nil (w := w.setBusy false) h).query
    · exact of_nil h
  unfold clipConvertX11CB
  dsimp only
  split <;> exact hq.congr rfl rfl

theorem readX11Worker (hw : TransferInv w) (req : ReadX11CBReq) :
    TransferInv (vboxClipboardReadX11Worker w req) := by
  unfold vboxClipboardReadX11Worker
  cases hb : w.ctx.fBusy
  · have hnil := hw.nil_of_not_busy hb
    simp only [Bool.false_eq_true, if_false]
    split_ifs
    · exact of_nil hnil
    · exact ⟨by simp [hnil], fun _ => rfl⟩
    · exact of_nil hnil
  · simp only [if_true]
    exact ⟨hw.length_le, fun _ => rfl⟩

theorem start (fHeadless fGrabClipboardOnStart : Bool) :
    TransferInv (clipStart fHeadless fGrabClipboardOnStart) := by
  unfold clipStart
  split_ifs
  · exact (of_nil rfl).query
  · exact of_nil rfl

theorem step {xlib : Xlib} (e : Event) (hw : TransferInv w) (h : w.step xlib e = some w') :
    TransferInv w' := by
  cases e <;> simp only [World.step, Option.ite_none_right_eq_some, Option.some.injEq] at h
  case requestDataFromX11 =>
    subst h; unfold clipRequestDataFromX11; split <;> exact hw.congr rfl rfl
  case announceFormatToX11 =>
    subst h; unfold clipAnnounceFormatToX11; split <;> exact hw.congr rfl rfl
  case readX11Worker req =>
    obtain ⟨-, rfl⟩ := h
    have hd : TransferInv (w.dequeue (.readX11 req)) := hw.congr rfl rfl
    exact hd.readX11Worker req
  case newVBoxFormatsWorker =>
    obtain ⟨-, rfl⟩ := h; unfold clipNewVBoxFormatsWorker clipGrabX11CB
    split <;> exact hw.congr rfl rfl
  case xfixesSelectionNotify owner subtype =>
    obtain ⟨-, rfl⟩ := h; unfold clipPeekEventAndDoXFixesHandling
    split_ifs
    · exact hw
    · have he : TransferInv (w.emit (.xfixesSelectionNotify owner subtype)) := hw.congr rfl rfl
      exact he.query
    · exact hw.congr rfl rfl
  case convertX11Targets =>
    obtain ⟨ht, rfl⟩ := h; exact convertX11Targets (hw.deliver ht) _ _
  case convertX11CB req _ _ =>
    obtain ⟨ht, rfl⟩ := h; exact convertX11CB (hw.deliver ht) _ req _ _
  case convertSelection =>
    obtain ⟨-, rfl⟩ := h; unfold convertSelection
    split; split <;> exact hw.congr rfl rfl

end TransferInv

theorem Reachable.transferInv {xlib : Xlib} {w : World} (hw : Reachable xlib w) : TransferInv w := by
  induction hw with
  | start fHeadless fGrabClipboardOnStart => exact .start fHeadless fGrabClipboardOnStart
  | step e _ h ih => exact ih.step e h

/-- Over every run, the backend has at most one `XtGetSelectionValue` outstanding, and
`fBusy` is set while it has one. -/
theorem one_conversion_outstanding {xlib : Xlib} {w : World} (hw : Reachable xlib w) :
    w.transfers.length ≤ 1 ∧ (w.transfers ≠ [] → w.ctx.fBusy = true) :=
  ⟨hw.transferInv.length_le, hw.transferInv.busy⟩

theorem one_conversion_outstanding_at_start :
    (clipStart false true).transfers.length ≤ 1 ∧
      ((clipStart false true).transfers ≠ [] → (clipStart false true).ctx.fBusy = true) :=
  one_conversion_outstanding (Reachable.start false true : Reachable emptyXlib _)

/-! ## `fBusy` with nothing outstanding -/

/-- `fBusy` set while no conversion is outstanding: no callback is owed that would clear it. -/
def Stuck (w : World) : Prop := w.ctx.fHaveX11 = true ∧ w.ctx.fBusy = true ∧ w.transfers = []

namespace Stuck

variable {w w' : World}

theorem congr (hs : Stuck w) (hx : w'.ctx.fHaveX11 = w.ctx.fHaveX11)
    (hb : w'.ctx.fBusy = w.ctx.fBusy) (ht : w'.transfers = w.transfers) : Stuck w' :=
  ⟨hx ▸ hs.1, hb ▸ hs.2.1, ht ▸ hs.2.2⟩

theorem readX11Worker (hs : Stuck w) (req : ReadX11CBReq) :
    vboxClipboardReadX11Worker w req =
      (w.setBusy true).emit (.completeDataRequestFromX11 .verrTryAgain req.mReq none 0) := by
  simp [vboxClipboardReadX11Worker, hs.2.1]

theorem query (hs : Stuck w) : clipQueryX11CBFormats w = w.setUpdateNeeded true := by
  simp [clipQueryX11CBFormats, hs.2.1]

theorem step {xlib : Xlib} (e : Event) (hs : Stuck w) (h : w.step xlib e = some w') : Stuck w' := by
  cases e <;> simp only [World.step, Option.ite_none_right_eq_some, Option.some.injEq] at h
  case requestDataFromX11 =>
    subst h; unfold clipRequestDataFromX11; split <;> exact hs.congr rfl rfl rfl
  case announceFormatToX11 =>
    subst h; unfold clipAnnounceFormatToX11; split <;> exact hs.congr rfl rfl rfl
  case readX11Worker req =>
    obtain ⟨-, rfl⟩ := h
    have hd : Stuck (w.dequeue (.readX11 req)) := hs.congr rfl rfl rfl
    rw [hd.readX11Worker]
    exact ⟨hs.1, rfl, hs.2.2⟩
  case newVBoxFormatsWorker =>
    obtain ⟨-, rfl⟩ := h; unfold clipNewVBoxFormatsWorker clipGrabX11CB
    split <;> exact hs.congr rfl rfl rfl
  case xfixesSelectionNotify owner subtype =>
    obtain ⟨-, rfl⟩ := h; unfold clipPeekEventAndDoXFixesHandling
    split_ifs
    · exact hs
    · have he : Stuck (w.emit (.xfixesSelectionNotify owner subtype)) := hs.congr rfl rfl rfl
      rw [he.query]
      exact hs.congr rfl rfl rfl
    · exact hs.congr rfl rfl rfl
  case convertX11Targets => exact absurd h.1 (by simp [hs.2.2])
  case convertX11CB => exact absurd h.1 (by simp [hs.2.2])
  case convertSelection =>
    obtain ⟨-, rfl⟩ := h; unfold convertSelection
    split; split <;> exact hs.congr rfl rfl rfl

end Stuck

/-- A request for Unicode text while X11 offers none is answered at once with
`VERR_NO_DATA` and leaves `fBusy` set with no conversion outstanding. From then on, over
every run, `fBusy` stays set, every host request is answered `VERR_TRY_AGAIN` and every
owner change only sets `fUpdateNeeded`. -/
theorem fBusy_left_set_by_immediate_completion (xlib : Xlib) :
    ∃ w, (clipStart false false).run xlib
        [.requestDataFromX11 vboxSharedClipboardFmtUnicodeText 1,
          .readX11Worker ⟨vboxSharedClipboardFmtUnicodeText, 0, 1⟩] = some w ∧
      w.log.getLast? = some (.completeDataRequestFromX11 .verrNoData 1 none 0) ∧
      w.ctx.fBusy = true ∧ w.transfers = [] ∧
      ∀ es w', w.run xlib es = some w' → w'.ctx.fBusy = true ∧ w'.transfers = [] ∧
        (∀ req, vboxClipboardReadX11Worker w' req =
          (w'.setBusy true).emit (.completeDataRequestFromX11 .verrTryAgain req.mReq none 0)) ∧
        clipQueryX11CBFormats w' = w'.setUpdateNeeded true := by
  refine ⟨_, rfl, rfl, rfl, rfl, fun es w' h => ?_⟩
  have hs : Stuck w' := run_preserves (fun e hs h => Stuck.step e hs h) ⟨rfl, rfl, rfl⟩ h
  exact ⟨hs.2.1, hs.2.2, hs.readX11Worker, hs.query⟩

/-! ## `fUpdateNeeded` -/

/-- An owner change during a data transfer makes its callback query the targets with
`fUpdateNeeded` still set; the reply to that query is then dropped and the targets are
queried once more. -/
theorem fUpdateNeeded_kept_by_data_callback (xlib : Xlib) :
    ∃ w w', (clipStart false false).run xlib
        [.xfixesSelectionNotify .foreign 0,
          .convertX11Targets (clipGetAtom "ATOM") (some [clipGetAtom "UTF8_STRING"]),
          .requestDataFromX11 vboxSharedClipboardFmtUnicodeText 1,
          .readX11Worker ⟨vboxSharedClipboardFmtUnicodeText, 0, 1⟩,
          .xfixesSelectionNotify .foreign 0,
          .convertX11CB ⟨vboxSharedClipboardFmtUnicodeText, 1, 1⟩ (clipGetAtom "UTF8_STRING") none] =
        some w ∧
      w.transfers = [.targets] ∧ w.ctx.fUpdateNeeded = true ∧
      w.step xlib (.convertX11Targets (clipGetAtom "ATOM") (some [clipGetAtom "UTF8_STRING"])) =
        some w' ∧
      w'.transfers = [.targets] ∧ w'.log = w.log ++ [.getSelectionValue (clipGetAtom "TARGETS")] :=
  ⟨_, _, rfl, rfl, rfl, rfl, rfl, rfl⟩

end X11Clipboard.Backend
