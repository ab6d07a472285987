import X11Clipboard.Backend

/-! The cache of the host's Unicode text, `pvUnicodeCache`: filled through the frontend's
out parameters by `clipReadVBoxClipboard`, emptied by each announcement. Over every run it
is the cache the log tells of, and the frontend is asked for the text only while it is
empty. -/
namespace X11Clipboard.Backend

open Formats ToX11

/-! ## The cache the log tells of -/

/-- One observation's effect on the cache, and on whether every fetch so far found it empty:
an announcement empties the cache, and a fetch of Unicode text leaves in it what the
frontend wrote, whatever status it returned. -/
def cacheStep (s : Option (List UInt8) × Bool) : Obs → Option (List UInt8) × Bool
  | .newVBoxFormats _ _ => (none, s.2)
  | .requestDataForX11 u32Format reply =>
    if u32Format = vboxSharedClipboardFmtUnicodeText then (reply.pv, s.2 && s.1.isNone) else s
  | _ => s

def cacheTrace (log : List Obs) : Option (List UInt8) × Bool := log.foldl cacheStep (none, true)

@[simp] theorem cacheTrace_append (log os : List Obs) :
    cacheTrace (log ++ os) = os.foldl cacheStep (cacheTrace log) := List.foldl_append ..

theorem foldl_cacheStep_snd {s : Option (List UInt8) × Bool} (hs : s.2 = false) (os : List Obs) :
    (os.foldl cacheStep s).2 = false := by
  induction os generalizing s with
  | nil => exact hs
  | cons o os ih =>
    apply ih
    cases o <;> simp only [cacheStep, hs]
    split_ifs <;> simp [hs]

theorem cacheTrace_fetch_on_empty {pre post : List Obs} {reply : FrontendReply}
    (h : (cacheTrace (pre ++ .requestDataForX11 vboxSharedClipboardFmtUnicodeText reply :: post)).2) :
    (cacheTrace pre).1 = none := by
  by_contra hne
  obtain ⟨pv, hpv⟩ := Option.ne_none_iff_exists'.1 hne
  rw [cacheTrace_append, List.foldl_cons, foldl_cacheStep_snd] at h
  · cases h
  · simp [cacheStep, hpv]

/-- The cache is the one the log tells of, and every fetch so far found it empty. -/
def CacheInv (w : World) : Prop := cacheTrace w.log = (w.ctx.pvUnicodeCache, true)

namespace CacheInv

variable {w w' : World}

theorem congr (h : CacheInv w) (hc : w'.ctx.pvUnicodeCache = w.ctx.pvUnicodeCache)
    (hl : cacheTrace w'.log = cacheTrace w.log) : CacheInv w' := by
  rw [CacheInv, hl, hc]; exact h

theorem query (h : CacheInv w) : CacheInv (clipQueryX11CBFormats w) := by
  unfold clipQueryX11CBFormats
  split_ifs <;> exact h.congr rfl (by simp [cacheStep])

theorem reportEmpty (h : CacheInv w) : CacheInv (clipReportEmptyX11CB w) :=
  h.congr rfl (by simp [clipReportEmptyX11CB, clipReportFormatsToVBox, clipResetX11Formats, cacheStep])

theorem convertX11Targets (h : CacheInv w) (atomType : Atom) (pValue : Option (List Atom)) :
    CacheInv (clipConvertX11Targets w atomType pValue) := by
  have hb : CacheInv (w.setBusy false) := h.congr rfl rfl
  unfold clipConvertX11Targets
  dsimp only
  split_ifs
  · exact (hb.congr rfl rfl).query
  all_goals split
  all_goals first
    | exact hb.reportEmpty
    | exact hb.congr rfl (by simp [clipUpdateX11Targets, clipReportFormatsToVBox, cacheStep])

theorem convertX11CB (h : CacheInv w) (xlib : Xlib) (req : ReadX11CBReq) (atomType : Atom)
    (pvSrc : Option (List UInt8)) : CacheInv (clipConvertX11CB w xlib req atomType pvSrc) := by
  have hb : CacheInv (w.setBusy false) := h.congr rfl rfl
  have hq : CacheInv (if (w.setBusy false).ctx.fUpdateNeeded then
      clipQueryX11CBFormats (w.setBusy false) else w.setBusy false) := by
    split_ifs
    · exact hb.query
    · exact hb
  unfold clipConvertX11CB
  dsimp only
  split <;> exact hq.congr rfl (by simp [cacheStep])

theorem newVBoxFormatsWorker (h : CacheInv w) (u32Formats : Nat) (fOwned : Bool) :
    CacheInv (clipNewVBoxFormatsWorker w u32Formats fOwned) := by
  unfold CacheInv at h
  unfold clipNewVBoxFormatsWorker clipGrabX11CB clipResetX11Formats clipInvalidateVBoxCBCache
  split <;> simp [CacheInv, cacheStep, h]

theorem convertSelectionProc (h : CacheInv w) (xlib : Xlib) (atomSelection atomTarget : Atom)
    (reply : FrontendReply) : CacheInv (convertSelection w xlib atomSelection atomTarget reply) := by
  unfold CacheInv at h
  unfold convertSelection
  dsimp only
  rcases clipXtConvertSelectionProc_cache xlib w.ctx.vboxFormats w.ctx.pvUnicodeCache atomSelection
    atomTarget reply with hp | ⟨h0, hp⟩
  · simp [hp, CacheInv, cacheStep, h]
  · rw [h0] at hp h
    simp [hp, CacheInv, cacheStep, h, h0]

theorem step {xlib : Xlib} (e : Event) (h : CacheInv w) (hs : w.step xlib e = some w') :
    CacheInv w' := by
  cases e <;> simp only [World.step, Option.ite_none_right_eq_some, Option.some.injEq] at hs
  case requestDataFromX11 =>
    subst hs; unfold clipRequestDataFromX11
    split <;> exact h.congr rfl (by simp [cacheStep])
  case announceFormatToX11 =>
    subst hs; unfold clipAnnounceFormatToX11
    split
    · exact h
    · exact h.congr rfl rfl
  case readX11Worker req =>
    obtain ⟨-, rfl⟩ := hs
    have hd : CacheInv (w.dequeue (.readX11 req)) := h.congr rfl rfl
    unfold vboxClipboardReadX11Worker
    dsimp only
    split_ifs <;> exact hd.congr rfl (by simp [cacheStep])
  case newVBoxFormatsWorker u32Formats fOwned =>
    obtain ⟨-, rfl⟩ := hs
    have hd : CacheInv (w.dequeue (.newVBoxFormats u32Formats)) := h.congr rfl rfl
    exact hd.newVBoxFormatsWorker u32Formats fOwned
  case xfixesSelectionNotify owner subtype =>
    obtain ⟨-, rfl⟩ := hs
    have he : CacheInv (w.emit (.xfixesSelectionNotify owner subtype)) :=
      h.congr rfl (by simp [cacheStep])
    unfold clipPeekEventAndDoXFixesHandling
    split_ifs
    · exact h
    · exact he.query
    · exact he.reportEmpty
  case convertX11Targets =>
    obtain ⟨-, rfl⟩ := hs
    have hd : CacheInv (w.deliver .targets) := h.congr rfl rfl
    exact hd.convertX11Targets _ _
  case convertX11CB req _ _ =>
    obtain ⟨-, rfl⟩ := hs
    have hd : CacheInv (w.deliver (.data req)) := h.congr rfl rfl
    exact hd.convertX11CB _ _ _ _
  case convertSelection => obtain ⟨-, rfl⟩ := hs; exact h.convertSelectionProc _ _ _ _

theorem start (fHeadless fGrabClipboardOnStart : Bool) :
    CacheInv (clipStart fHeadless fGrabClipboardOnStart) := by
  have h0 : CacheInv ⟨⟨!fHeadless, false, false, ClipFormat.invalid.toNat, 0, none⟩, [], [], []⟩ :=
    rfl
  unfold clipStart
  split_ifs
  · exact h0.query
  · exact h0

end CacheInv

theorem Reachable.cacheInv {xlib : Xlib} {w : World} (hw : Reachable xlib w) : CacheInv w := by
  induction hw with
  | start fHeadless fGrabClipboardOnStart => exact .start fHeadless fGrabClipboardOnStart
  | step e _ h ih => exact ih.step e h

/-- Over every run the cache is the one the log tells of: emptied by each announcement, and
holding what the frontend wrote in the last fetch of Unicode text since. The frontend is
asked for the text only while that cache is empty, so once a fetch has left a buffer, every
conversion until the next announcement is served from it. -/
theorem cache_holds_last_fetch {xlib : Xlib} {w : World} (hw : Reachable xlib w) :
    w.ctx.pvUnicodeCache = (cacheTrace w.log).1 ∧
      ∀ pre reply post,
        w.log = pre ++ .requestDataForX11 vboxSharedClipboardFmtUnicodeText reply :: post →
        (cacheTrace pre).1 = none := by
  have h : cacheTrace w.log = (w.ctx.pvUnicodeCache, true) := hw.cacheInv
  refine ⟨by rw [h], fun pre reply post hlog => ?_⟩
  have hfetch :
      (cacheTrace (pre ++ .requestDataForX11 vboxSharedClipboardFmtUnicodeText reply :: post)).2 := by
    rw [← hlog, h]
  exact cacheTrace_fetch_on_empty hfetch

theorem cache_holds_last_fetch_after_fetch :
    ∃ w, (clipStart false false).run emptyXlib
        [.announceFormatToX11 vboxSharedClipboardFmtUnicodeText,
          .newVBoxFormatsWorker vboxSharedClipboardFmtUnicodeText true,
          .convertSelection (clipGetAtom "CLIPBOARD") (clipGetAtom "UTF8_STRING")
            ⟨.vinfSuccess, some (bytesOfUnits [0x61, 0])⟩] = some w ∧
      w.ctx.pvUnicodeCache = (cacheTrace w.log).1 ∧
      ∀ pre reply post,
        w.log = pre ++ .requestDataForX11 vboxSharedClipboardFmtUnicodeText reply :: post →
        (cacheTrace pre).1 = none := by
  obtain ⟨w, hw⟩ : ∃ w, (clipStart false false).run emptyXlib
      [.announceFormatToX11 vboxSharedClipboardFmtUnicodeText,
        .newVBoxFormatsWorker vboxSharedClipboardFmtUnicodeText true,
        .convertSelection (clipGetAtom "CLIPBOARD") (clipGetAtom "UTF8_STRING")
          ⟨.vinfSuccess, some (bytesOfUnits [0x61, 0])⟩] = some w := ⟨_, rfl⟩
  exact ⟨w, hw, cache_holds_last_fetch ((Reachable.start false false).run hw)⟩

/-- A fetch the frontend fails still fills the cache when the frontend wrote a buffer, and
the next conversion serves that buffer as the clipboard's text. -/
theorem failed_fetch_served_from_cache (xlib : Xlib) :
    ∃ w, (clipStart false false).run xlib
        [.announceFormatToX11 vboxSharedClipboardFmtUnicodeText,
          .newVBoxFormatsWorker vboxSharedClipboardFmtUnicodeText true,
          .convertSelection (clipGetAtom "CLIPBOARD") (clipGetAtom "UTF8_STRING")
            ⟨.verrTryAgain, some (bytesOfUnits [0x61, 0])⟩,
          .convertSelection (clipGetAtom "CLIPBOARD") (clipGetAtom "UTF8_STRING")
            ⟨.verrTryAgain, none⟩] = some w ∧
      w.log = [.newVBoxFormats vboxSharedClipboardFmtUnicodeText true,
        .requestDataForX11 vboxSharedClipboardFmtUnicodeText
          ⟨.verrTryAgain, some (bytesOfUnits [0x61, 0])⟩,
        .convertSelection (clipGetAtom "CLIPBOARD") (clipGetAtom "UTF8_STRING") none,
        .convertSelection (clipGetAtom "CLIPBOARD") (clipGetAtom "UTF8_STRING")
          (some ⟨clipGetAtom "UTF8_STRING", .bytes [0x61, 0], 1, 8⟩)] :=
  -- the first fetch fails but fills the cache
  have hfetch : (clipStart false false).run xlib
      [.announceFormatToX11 vboxSharedClipboardFmtUnicodeText,
        .newVBoxFormatsWorker vboxSharedClipboardFmtUnicodeText true,
        .convertSelection (clipGetAtom "CLIPBOARD") (clipGetAtom "UTF8_STRING")
          ⟨.verrTryAgain, some (bytesOfUnits [0x61, 0])⟩] =
      some ⟨⟨true, false, false, 0, vboxSharedClipboardFmtUnicodeText,
        some (bytesOfUnits [0x61, 0])⟩, [], [],
        [.newVBoxFormats vboxSharedClipboardFmtUnicodeText true,
          .requestDataForX11 vboxSharedClipboardFmtUnicodeText
            ⟨.verrTryAgain, some (bytesOfUnits [0x61, 0])⟩,
          .convertSelection (clipGetAtom "CLIPBOARD") (clipGetAtom "UTF8_STRING") none]⟩ := rfl
  ⟨_, by rw [← List.singleton_append (l := [_]), ← List.cons_append, ← List.cons_append,
    World.run_append, hfetch]; rfl, rfl⟩

end X11Clipboard.Backend
