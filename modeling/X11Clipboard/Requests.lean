import Mathlib.Data.List.Count
import X11Clipboard.Backend

/-! The host's data requests: each one `ClipRequestDataFromX11` accepts is, at every point of a
run, queued, waiting for its conversion, or completed, and only once. -/
namespace X11Clipboard.Backend

open Formats ToX11

/-- `ClipRequestDataFromX11` accepted `pReq`. -/
def Obs.accepts (pReq : Nat) : Obs → Bool
  | .requestDataFromX11 p rc => p == pReq && rc == .vinfSuccess
  | _ => false

/-- `ClipCompleteDataRequestFromX11` for `pReq`. -/
def Obs.completes (pReq : Nat) : Obs → Bool
  | .completeDataRequestFromX11 _ p _ _ => p == pReq
  | _ => false

def Worker.serves (pReq : Nat) : Worker → Bool
  | .readX11 req => req.mReq == pReq
  | .newVBoxFormats _ => false

def Transfer.serves (pReq : Nat) : Transfer → Bool
  | .data req => req.mReq == pReq
  | .targets => false

/-- The requests for `pReq` still in the backend: queued workers and outstanding conversions. -/
def World.pending (w : World) (pReq : Nat) : Nat :=
  w.workers.countP (Worker.serves pReq) + w.transfers.countP (Transfer.serves pReq)

/-- Every accepted request is either still in the backend or completed, once. -/
def Balanced (w : World) : Prop :=
  ∀ pReq, w.log.countP (Obs.accepts pReq) = w.log.countP (Obs.completes pReq) + w.pending pReq

theorem countP_eq_erase {α : Type} [DecidableEq α] (p : α → Bool) {a : α} {l : List α} (h : a ∈ l) :
    l.countP p = (l.erase a).countP p + if p a then 1 else 0 := by
  rw [(List.perm_cons_erase h).countP_eq p, List.countP_cons]

theorem counts_query (w : World) (pReq : Nat) :
    (clipQueryX11CBFormats w).log.countP (Obs.accepts pReq) = w.log.countP (Obs.accepts pReq) ∧
      (clipQueryX11CBFormats w).log.countP (Obs.completes pReq) = w.log.countP (Obs.completes pReq) ∧
      (clipQueryX11CBFormats w).pending pReq = w.pending pReq := by
  unfold clipQueryX11CBFormats
  split_ifs <;> simp [World.pending, Obs.accepts, Obs.completes, Transfer.serves]

namespace Balanced

variable {w w' : World}

theorem congr (hb : Balanced w) (hp : ∀ pReq, w'.pending pReq = w.pending pReq)
    (hl : ∀ pReq, w'.log.countP (Obs.accepts pReq) = w.log.countP (Obs.accepts pReq) ∧
      w'.log.countP (Obs.completes pReq) = w.log.countP (Obs.completes pReq)) : Balanced w' :=
  fun pReq => by rw [(hl pReq).1, (hl pReq).2, hp, hb pReq]

theorem query (hb : Balanced w) : Balanced (clipQueryX11CBFormats w) := fun pReq => by
  rw [(counts_query w pReq).1, (counts_query w pReq).2.1, (counts_query w pReq).2.2, hb pReq]

theorem reportEmpty (hb : Balanced w) : Balanced (clipReportEmptyX11CB w) :=
  hb.congr (fun _ => rfl) fun _ => by
    simp [clipReportEmptyX11CB, clipReportFormatsToVBox, clipResetX11Formats, Obs.accepts,
      Obs.completes]

theorem updateTargets (hb : Balanced w) (pTargets : List Atom) :
    Balanced (clipUpdateX11Targets w pTargets) :=
  hb.congr (fun _ => rfl) fun _ => by
    simp [clipUpdateX11Targets, clipReportFormatsToVBox, Obs.accepts, Obs.completes]

theorem convertX11Targets (hb : Balanced w) (ht : Transfer.targets ∈ w.transfers) (atomType : Atom)
    (pValue : Option (List Atom)) : Balanced (clipConvertX11Targets (w.deliver .targets) atomType pValue) := by
  have hd : Balanced (w.deliver .targets) := hb.congr (fun pReq => by
    simp [World.pending, countP_eq_erase (Transfer.serves pReq) ht, Transfer.serves]) fun _ => ⟨rfl, rfl⟩
  have hd' : Balanced ((w.deliver .targets).setBusy false) := hd.congr (fun _ => rfl) fun _ => ⟨rfl, rfl⟩
  unfold clipConvertX11Targets
  dsimp only
  split_ifs
  · have hu : Balanced (((w.deliver .targets).setBusy false).setUpdateNeeded false) :=
      hd'.congr (fun _ => rfl) fun _ => ⟨rfl, rfl⟩
    exact hu.query
  all_goals split
  all_goals first
    | exact hd'.reportEmpty
    | exact hd'.updateTargets _

theorem readX11Worker (hb : Balanced w) {req : ReadX11CBReq} (hreq : Worker.readX11 req ∈ w.workers) :
    Balanced (vboxClipboardReadX11Worker (w.dequeue (.readX11 req)) req) := by
  intro pReq
  have hw := countP_eq_erase (Worker.serves pReq) hreq
  have h := hb pReq
  unfold vboxClipboardReadX11Worker
  simp only [World.pending, Worker.serves] at h hw ⊢
  by_cases hp : req.mReq = pReq <;>
    split_ifs <;> simp [Obs.accepts, Obs.completes, Transfer.serves, hp] at hw ⊢ <;> omega

theorem convertX11CB (hb : Balanced w) {req : ReadX11CBReq} (ht : Transfer.data req ∈ w.transfers)
    (xlib : Xlib) (atomType : Atom) (pvSrc : Option (List UInt8)) :
    Balanced (clipConvertX11CB (w.deliver (.data req)) xlib req atomType pvSrc) := by
  intro pReq
  have htr := countP_eq_erase (Transfer.serves pReq) ht
  have h := hb pReq
  have hq := counts_query ((w.deliver (.data req)).setBusy false) pReq
  unfold clipConvertX11CB
  dsimp only
  simp only [World.pending, Transfer.serves] at h htr hq ⊢
  by_cases hp : req.mReq = pReq <;> split_ifs <;> split <;>
    simp [Obs.accepts, Obs.completes, hp, hq] at htr ⊢ <;> omega

theorem requestDataFromX11 (hb : Balanced w) (u32Format pReq : Nat) :
    Balanced (clipRequestDataFromX11 w u32Format pReq) := by
  intro p
  have h := hb p
  unfold clipRequestDataFromX11
  simp only [World.pending] at h ⊢
  by_cases hp : pReq = p <;> split_ifs <;>
    simp [Obs.accepts, Obs.completes, Worker.serves, hp] <;> omega

theorem step {xlib : Xlib} (e : Event) (hb : Balanced w) (h : w.step xlib e = some w') :
    Balanced w' := by
  cases e <;> simp only [World.step, Option.ite_none_right_eq_some, Option.some.injEq] at h
  case requestDataFromX11 => subst h; exact hb.requestDataFromX11 _ _
  case announceFormatToX11 =>
    subst h; unfold clipAnnounceFormatToX11
    split
    · exact hb
    · exact hb.congr (by simp [World.pending, Worker.serves]) fun _ => ⟨rfl, rfl⟩
  case readX11Worker => obtain ⟨hreq, rfl⟩ := h; exact hb.readX11Worker hreq
  case newVBoxFormatsWorker u32Formats _ =>
    obtain ⟨hreq, rfl⟩ := h
    have hd : ∀ pReq, (w.dequeue (.newVBoxFormats u32Formats)).pending pReq = w.pending pReq := by
      simp [World.pending, countP_eq_erase (Worker.serves _) hreq, Worker.serves]
    unfold clipNewVBoxFormatsWorker clipGrabX11CB clipResetX11Formats clipInvalidateVBoxCBCache
    split <;> exact hb.congr hd fun _ => by simp [Obs.accepts, Obs.completes]
  case xfixesSelectionNotify owner subtype =>
    obtain ⟨-, rfl⟩ := h
    have he : Balanced (w.emit (.xfixesSelectionNotify owner subtype)) :=
      hb.congr (fun _ => rfl) fun _ => by simp [Obs.accepts, Obs.completes]
    unfold clipPeekEventAndDoXFixesHandling
    split_ifs
    · exact hb
    · exact he.query
    · exact he.reportEmpty
  case convertX11Targets => obtain ⟨ht, rfl⟩ := h; exact hb.convertX11Targets ht _ _
  case convertX11CB => obtain ⟨ht, rfl⟩ := h; exact hb.convertX11CB ht _ _ _
  case convertSelection =>
    obtain ⟨-, rfl⟩ := h; unfold convertSelection
    split; split <;> exact hb.congr (fun _ => rfl) fun _ => by simp [Obs.accepts, Obs.completes]

theorem start (fHeadless fGrabClipboardOnStart : Bool) :
    Balanced (clipStart fHeadless fGrabClipboardOnStart) := by
  have h0 : Balanced ⟨⟨!fHeadless, false, false, ClipFormat.invalid.toNat, 0, none⟩, [], [], []⟩ :=
    fun _ => rfl
  unfold clipStart
  split_ifs
  · exact h0.query
  · exact h0

end Balanced

theorem Reachable.balanced {xlib : Xlib} {w : World} (hw : Reachable xlib w) : Balanced w := by
  induction hw with
  | start fHeadless fGrabClipboardOnStart => exact .start fHeadless fGrabClipboardOnStart
  | step e _ h ih => exact ih.step e h

/-- Over every run, the requests `ClipRequestDataFromX11` accepted for `pReq` number the
completions carrying `pReq` plus those still queued or waiting for their conversion. So a
request is completed at most once, with its own `pReq`, and exactly once when its worker
has run and its conversion, if any, has called back; a pointer never accepted is never
completed. -/
theorem request_completed_once {xlib : Xlib} {w : World} (hw : Reachable xlib w) (pReq : Nat) :
    w.log.countP (Obs.accepts pReq) = w.log.countP (Obs.completes pReq) +
      (w.workers.countP (Worker.serves pReq) + w.transfers.countP (Transfer.serves pReq)) :=
  hw.balanced pReq

theorem request_completed_once_after_worker :
    ∃ w, (clipStart false false).run emptyXlib [.requestDataFromX11 vboxSharedClipboardFmtUnicodeText 1,
        .readX11Worker ⟨vboxSharedClipboardFmtUnicodeText, 0, 1⟩] = some w ∧
      w.log.countP (Obs.accepts 1) = w.log.countP (Obs.completes 1) +
        (w.workers.countP (Worker.serves 1) + w.transfers.countP (Transfer.serves 1)) := by
  obtain ⟨w, hw⟩ : ∃ w, (clipStart false false).run emptyXlib
      [.requestDataFromX11 vboxSharedClipboardFmtUnicodeText 1,
        .readX11Worker ⟨vboxSharedClipboardFmtUnicodeText, 0, 1⟩] = some w := ⟨_, rfl⟩
  exact ⟨w, hw, request_completed_once ((Reachable.start false false).run hw) 1⟩

/-! ## Requests dropped with the queues that held them -/

/-- Every request accepted for `pReq` is completed, still in the backend, or one of `ps`, the
requests dropped with the queues that held them. -/
def Dropped (ps : List Nat) (w : World) : Prop :=
  ∀ pReq, w.log.countP (Obs.accepts pReq) =
    w.log.countP (Obs.completes pReq) + w.pending pReq + ps.count pReq

/-- `w` with `L` put before its log. -/
def World.shiftLog (L : List Obs) (w : World) : World := { w with log := L ++ w.log }

@[simp] theorem World.shiftLog_ctx (L : List Obs) (w : World) : (w.shiftLog L).ctx = w.ctx := rfl
@[simp] theorem World.shiftLog_workers (L : List Obs) (w : World) :
    (w.shiftLog L).workers = w.workers := rfl
@[simp] theorem World.shiftLog_transfers (L : List Obs) (w : World) :
    (w.shiftLog L).transfers = w.transfers := rfl
@[simp] theorem World.shiftLog_log (L : List Obs) (w : World) : (w.shiftLog L).log = L ++ w.log := rfl

theorem step_shiftLog {xlib : Xlib} {w w' : World} {e : Event} (h : w.step xlib e = some w')
    (L : List Obs) : (w.shiftLog L).step xlib e = some (w'.shiftLog L) := by
  cases e <;> simp only [World.step, Option.ite_none_right_eq_some, Option.some.injEq] at h ⊢
  all_goals first
    | subst h
    | obtain ⟨hg, rfl⟩ := h
      simp only [World.shiftLog_workers, World.shiftLog_transfers, World.shiftLog_ctx, hg, true_and]
  all_goals simp only [clipRequestDataFromX11, clipAnnounceFormatToX11, vboxClipboardReadX11Worker,
    clipNewVBoxFormatsWorker, clipGrabX11CB, clipPeekEventAndDoXFixesHandling, clipConvertX11Targets,
    clipConvertX11CB, convertSelection, clipResetX11Formats, clipReportEmptyX11CB, clipUpdateX11Targets,
    clipReportFormatsToVBox, clipInvalidateVBoxCBCache, clipQueryX11CBFormats, World.shiftLog_ctx,
    World.dequeue_ctx, World.setBusy_ctx, World.emit_ctx, World.deliver_ctx, World.setUpdateNeeded_ctx,
    World.enqueue_ctx]
  all_goals (repeat' split) <;> simp_all [World.shiftLog, World.emit, World.setBusy,
    World.setUpdateNeeded, World.setX11TextFormat, World.getSelectionValue, World.deliver, World.enqueue,
    World.dequeue]

/-- A completion standing for a dropped request. -/
def dropMark (pReq : Nat) : Obs := .completeDataRequestFromX11 .verrTryAgain pReq none 0

theorem dropped_iff (ps : List Nat) (w : World) :
    Dropped ps w ↔ Balanced (w.shiftLog (ps.map dropMark)) := by
  refine forall_congr' fun pReq => ?_
  have ha : (ps.map dropMark).countP (Obs.accepts pReq) = 0 := by
    simp [List.countP_map, Function.comp_def, dropMark, Obs.accepts]
  have hc : (ps.map dropMark).countP (Obs.completes pReq) = ps.count pReq := by
    simp [List.countP_map, List.count_eq_countP, Function.comp_def, dropMark, Obs.completes]
  simp only [World.pending, World.shiftLog_log, World.shiftLog_workers, World.shiftLog_transfers,
    List.countP_append, ha, hc]
  omega

/-- The request a conversion serves, if it serves one. -/
def Transfer.mReq? : Transfer → Option Nat
  | .data req => some req.mReq
  | .targets => none

theorem count_filterMap_mReq (l : List Transfer) (pReq : Nat) :
    (l.filterMap Transfer.mReq?).count pReq = l.countP (Transfer.serves pReq) := by
  induction l with
  | nil => rfl
  | cons t l ih =>
    cases t <;> simp [Transfer.mReq?, Transfer.serves, List.filterMap_cons, List.count_cons,
      List.countP_cons, ih]

namespace Dropped

variable {ps : List Nat} {w w' : World}

theorem step {xlib : Xlib} (e : Event) (h : Dropped ps w) (hs : w.step xlib e = some w') :
    Dropped ps w' :=
  (dropped_iff ps w').2 (((dropped_iff ps w).1 h).step e (step_shiftLog hs _))

theorem query (h : Dropped ps w) : Dropped ps (clipQueryX11CBFormats w) := fun pReq => by
  rw [(counts_query w pReq).1, (counts_query w pReq).2.1, (counts_query w pReq).2.2, h pReq]

theorem drop (h : Dropped ps w) (hw : w.workers = []) :
    Dropped (ps ++ w.transfers.filterMap Transfer.mReq?) { w with workers := [], transfers := [] } :=
  fun pReq => by
    have hp := h pReq
    simp only [World.pending, hw, List.countP_nil, List.count_append, count_filterMap_mReq] at hp ⊢
    omega

theorem le (h : Dropped ps w) (pReq : Nat) :
    w.log.countP (Obs.completes pReq) + w.pending pReq ≤ w.log.countP (Obs.accepts pReq) := by
  rw [h pReq]; omega

theorem lt (h : Dropped ps w) {pReq : Nat} (hp : 0 < ps.count pReq) :
    w.log.countP (Obs.completes pReq) + w.pending pReq < w.log.countP (Obs.accepts pReq) := by
  rw [h pReq]; omega

end Dropped

end X11Clipboard.Backend
