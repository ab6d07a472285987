import X11Clipboard.FromX11
import X11Clipboard.ToX11

/-! The two UTF-8 conversions against each other: host text served to an X11 peer and read
back, and an X11 peer's text taken to the host and served back. -/
namespace X11Clipboard.RoundTrip

open Formats Unicode LineEndings FromX11 ToX11

theorem head?_utf16Encode_ne {cs : List Char} {n : Nat} (hn : 0xDBFF < n ∧ n < 0x10000)
    (h : ¬ utf8EncodeChar (Char.ofNat n) <+: utf8Encode cs) :
    (utf16Encode cs).head? ≠ some (UInt16.ofNat n) := by
  cases cs with
  | nil => simp
  | cons c cs =>
    obtain ⟨v, vs, hv⟩ := List.exists_cons_of_ne_nil (utf16EncodeChar_ne_nil c)
    intro hhead
    have hc : c.toNat = n := (head?_utf16EncodeChar (.inr hn)).1 (by
      rw [utf16Encode_cons, hv, List.cons_append] at hhead; rw [hv]; exact hhead)
    exact h ⟨utf8Encode cs, by rw [← hc, Char.ofNat_toNat, utf8Encode_cons]⟩

theorem utf8EncodeChar_leMarker : utf8EncodeChar (Char.ofNat 0xFEFF) = [0xEF, 0xBB, 0xBF] := by
  decide

theorem utf8EncodeChar_beMarker : utf8EncodeChar (Char.ofNat 0xFFFE) = [0xEF, 0xBF, 0xBE] := by
  decide

theorem untilNul_hostBuffer {s host : List UInt16} (hnul : 0 ∉ s)
    (hhost : host = s ∧ s ≠ [] ∨ host = s ++ [0]) :
    untilNul ((unitsOfBytes (bytesOfUnits host)).take ((bytesOfUnits host).length / 2)) = s ∧
      (bytesOfUnits host).length / 2 ≠ 0 ∧
      ∀ m : UInt16, m ≠ 0 → s.head? ≠ some m → (unitsOfBytes (bytesOfUnits host)).head? ≠ some m := by
  rw [unitsOfBytes_bytesOfUnits, length_bytesOfUnits, Nat.mul_div_cancel_left _ (by decide)]
  rcases hhost with ⟨rfl, hne⟩ | rfl
  · exact ⟨by rw [List.take_length, untilNul_eq_self hnul], by simpa using hne, fun _ _ h => h⟩
  · refine ⟨by rw [List.length_append, List.length_singleton, untilNul_take_append_nul hnul], by simp,
      fun m hm h => by rwa [Ne, head?_append_nul hm]⟩

theorem host_text_round_trip {s host : List UInt16} (hs : (utf16Decode s).isSome) (hnul : 0 ∉ s)
    (hle : s.head? ≠ some utf16LeMarker) (hbe : s.head? ≠ some utf16BeMarker)
    (hcr : CrBeforeLf carriageReturn linefeed s) (hhost : host = s ∧ s ≠ [] ∨ host = s ++ [0])
    (xlib : Xlib) {vboxFormats : Nat} (hfmt : vboxFormats &&& vboxSharedClipboardFmtUnicodeText ≠ 0)
    (pvUnicodeCache : Option (List UInt8)) (reply : FrontendReply)
    (hread : (clipReadVBoxClipboard pvUnicodeCache vboxSharedClipboardFmtUnicodeText reply).1 =
      .ok (bytesOfUnits host)) :
    ∃ v, (clipConvertVBoxCBForX11 xlib vboxFormats pvUnicodeCache (clipGetAtom "UTF8_STRING") reply).1 =
        .ok v ∧
      clipConvertX11CBData xlib vboxSharedClipboardFmtUnicodeText
        (clipFindX11FormatByAtom (clipGetAtom "UTF8_STRING")) v.atomType (some v.received) =
          .ok (s ++ [0], (s.length + 1) * 2) := by
  obtain ⟨cs, hcs⟩ := Option.isSome_iff_exists.1 hs
  have henc : utf16Encode cs = s := utf16Encode_of_decode hcs
  obtain ⟨htext, hcw, hhead⟩ := untilNul_hostBuffer hnul hhost
  -- the value served: the folded text, its terminator not counted
  have hfold : utf16Encode (crlfToLf crChar lfChar cs) = crlfToLf carriageReturn linefeed s := by
    rw [← henc, crlfToLf_utf16Encode]
  have hfhead : ∀ m : UInt16, m ≠ linefeed → s.head? ≠ some m →
      (utf16Encode (crlfToLf crChar lfChar cs)).head? ≠ some m := fun m hm h hf =>
    (head?_crlfToLf (hfold ▸ hf)).elim hm h
  have hfnul : (0 : UInt8) ∉ utf8Encode (crlfToLf crChar lfChar cs) := by
    rw [zero_mem_utf8Encode, ← zero_mem_utf16Encode, hfold]
    exact fun h => hnul ((crlfToLf_sublist _ _ s).subset h)
  refine ⟨_, clipConvertVBoxCBForX11_utf8 xlib hfmt hread (htext ▸ hcs) hcw (hhead _ (by decide) hle)
    (hhead _ (by decide) hbe), ?_⟩
  -- read back: every LF expanded again, which gives the host text
  simp only [SelectionValue.received, List.take_left]
  rw [clipConvertX11CBData_utf8 xlib (utf8Decode_utf8Encode _) hfnul (hfhead _ (by decide) hbe)
    (hfhead _ (by decide) hle), lfToCrlf_crlfToLf_utf16Encode henc hcr]

theorem x11_text_round_trip {u : List UInt8} (hu : (utf8Decode u).isSome) (hnul : 0 ∉ u)
    (hbom : ¬ [0xEF, 0xBB, 0xBF] <+: u) (hbom' : ¬ [0xEF, 0xBF, 0xBE] <+: u) (xlib : Xlib) :
    ∃ pvDest cbDest, clipConvertX11CBData xlib vboxSharedClipboardFmtUnicodeText
        (clipFindX11FormatByAtom (clipGetAtom "UTF8_STRING")) (clipGetAtom "UTF8_STRING") (some u) =
        .ok (pvDest, cbDest) ∧ cbDest = (bytesOfUnits pvDest).length ∧
      ∀ vboxFormats pvUnicodeCache reply, vboxFormats &&& vboxSharedClipboardFmtUnicodeText ≠ 0 →
        (clipReadVBoxClipboard pvUnicodeCache vboxSharedClipboardFmtUnicodeText reply).1 =
          .ok (bytesOfUnits pvDest) →
        ∃ v, (clipConvertVBoxCBForX11 xlib vboxFormats pvUnicodeCache (clipGetAtom "UTF8_STRING")
          reply).1 = .ok v ∧ v.received = u := by
  obtain ⟨cs, hcs⟩ := Option.isSome_iff_exists.1 hu
  have henc : utf8Encode cs = u := utf8Encode_of_decode hcs
  have hle : (utf16Encode cs).head? ≠ some utf16LeMarker :=
    head?_utf16Encode_ne (n := 0xFEFF) (by omega) (by rwa [utf8EncodeChar_leMarker, henc])
  have hbe : (utf16Encode cs).head? ≠ some utf16BeMarker :=
    head?_utf16Encode_ne (n := 0xFFFE) (by omega) (by rwa [utf8EncodeChar_beMarker, henc])
  refine ⟨_, _, clipConvertX11CBData_utf8 xlib hcs hnul hbe hle, by simp; omega, ?_⟩
  intro vboxFormats pvUnicodeCache reply hfmt hread
  -- the host text: the UTF-16 with every LF expanded, and a terminator
  have hexp : utf16Encode (lfToCrlf crChar lfChar cs) = lfToCrlf carriageReturn linefeed (utf16Encode cs) :=
    (lfToCrlf_utf16Encode cs).symm
  have hcs' : utf8Decode (untilNul u) = some cs := by rwa [untilNul_eq_self hnul]
  have hnul16 : (0 : UInt16) ∉ utf16Encode (lfToCrlf crChar lfChar cs) := fun h =>
    (mem_lfToCrlf (hexp ▸ h)).elim (by decide) (zero_not_mem_utf16Encode_of_decode hcs')
  have hhead : ∀ m : UInt16, m ≠ 0 → m ≠ carriageReturn → (utf16Encode cs).head? ≠ some m →
      (unitsOfBytes (bytesOfUnits (utf16Encode (lfToCrlf crChar lfChar cs) ++ [0]))).head? ≠ some m := by
    intro m h0 hcr h hm
    rw [unitsOfBytes_bytesOfUnits, head?_append_nul h0, hexp] at hm
    exact (head?_lfToCrlf hm).elim hcr h
  have htext : utf16Decode (untilNul ((unitsOfBytes (bytesOfUnits
      (utf16Encode (lfToCrlf crChar lfChar cs) ++ [0]))).take
      ((bytesOfUnits (utf16Encode (lfToCrlf crChar lfChar cs) ++ [0])).length / 2))) =
      some (lfToCrlf crChar lfChar cs) := by
    rw [unitsOfBytes_bytesOfUnits, length_bytesOfUnits, Nat.mul_div_cancel_left _ (by decide),
      List.length_append, List.length_singleton, untilNul_take_append_nul hnul16, utf16Decode_utf16Encode]
  refine ⟨_, clipConvertVBoxCBForX11_utf8 xlib hfmt hread htext (by simp)
    (hhead _ (by decide) (by decide) hle) (hhead _ (by decide) (by decide) hbe), ?_⟩
  have hne : crChar ≠ lfChar := by decide
  simp only [SelectionValue.received, List.take_left, crlfToLf_lfToCrlf hne, henc]

/-- Host text served as `UTF8_STRING` and read back is itself with one terminator, when the
host's buffer is not empty; `UTF8_STRING` taken to the host and served back is itself. -/
theorem utf8_conversions_round_trip (xlib : Xlib) :
    (∀ {s host : List UInt16}, (utf16Decode s).isSome → 0 ∉ s → s.head? ≠ some utf16LeMarker →
      s.head? ≠ some utf16BeMarker → CrBeforeLf carriageReturn linefeed s →
      (host = s ∧ s ≠ [] ∨ host = s ++ [0]) →
      ∀ {vboxFormats : Nat}, vboxFormats &&& vboxSharedClipboardFmtUnicodeText ≠ 0 →
      ∀ pvUnicodeCache reply,
        (clipReadVBoxClipboard pvUnicodeCache vboxSharedClipboardFmtUnicodeText reply).1 =
          .ok (bytesOfUnits host) →
        ∃ v, (clipConvertVBoxCBForX11 xlib vboxFormats pvUnicodeCache (clipGetAtom "UTF8_STRING")
            reply).1 = .ok v ∧
          clipConvertX11CBData xlib vboxSharedClipboardFmtUnicodeText
            (clipFindX11FormatByAtom (clipGetAtom "UTF8_STRING")) v.atomType (some v.received) =
              .ok (s ++ [0], (s.length + 1) * 2)) ∧
    (∀ {u : List UInt8}, (utf8Decode u).isSome → 0 ∉ u → ¬ [0xEF, 0xBB, 0xBF] <+: u →
      ¬ [0xEF, 0xBF, 0xBE] <+: u →
      ∃ pvDest cbDest, clipConvertX11CBData xlib vboxSharedClipboardFmtUnicodeText
          (clipFindX11FormatByAtom (clipGetAtom "UTF8_STRING")) (clipGetAtom "UTF8_STRING") (some u) =
          .ok (pvDest, cbDest) ∧ cbDest = (bytesOfUnits pvDest).length ∧
        ∀ vboxFormats pvUnicodeCache reply, vboxFormats &&& vboxSharedClipboardFmtUnicodeText ≠ 0 →
          (clipReadVBoxClipboard pvUnicodeCache vboxSharedClipboardFmtUnicodeText reply).1 =
            .ok (bytesOfUnits pvDest) →
          ∃ v, (clipConvertVBoxCBForX11 xlib vboxFormats pvUnicodeCache (clipGetAtom "UTF8_STRING")
            reply).1 = .ok v ∧ v.received = u) :=
  ⟨fun hs hnul hle hbe hcr hhost _ hfmt pvUnicodeCache reply hread =>
    host_text_round_trip hs hnul hle hbe hcr hhost xlib hfmt pvUnicodeCache reply hread,
   fun hu hnul hbom hbom' => x11_text_round_trip hu hnul hbom hbom' xlib⟩

theorem utf8_conversions_round_trip_on_crlf :
    (∃ v, (clipConvertVBoxCBForX11 emptyXlib vboxSharedClipboardFmtUnicodeText none
        (clipGetAtom "UTF8_STRING") ⟨.vinfSuccess, some (bytesOfUnits [0x61, 0x0D, 0x0A])⟩).1 = .ok v ∧
      clipConvertX11CBData emptyXlib vboxSharedClipboardFmtUnicodeText
        (clipFindX11FormatByAtom (clipGetAtom "UTF8_STRING")) v.atomType (some v.received) =
          .ok ([0x61, 0x0D, 0x0A] ++ [0], ([0x61, 0x0D, 0x0A].length + 1) * 2)) ∧
    ∃ pvDest cbDest, clipConvertX11CBData emptyXlib vboxSharedClipboardFmtUnicodeText
        (clipFindX11FormatByAtom (clipGetAtom "UTF8_STRING")) (clipGetAtom "UTF8_STRING")
        (some [0x61, 0x0A]) = .ok (pvDest, cbDest) ∧ cbDest = (bytesOfUnits pvDest).length ∧
      ∀ vboxFormats pvUnicodeCache reply, vboxFormats &&& vboxSharedClipboardFmtUnicodeText ≠ 0 →
        (clipReadVBoxClipboard pvUnicodeCache vboxSharedClipboardFmtUnicodeText reply).1 =
          .ok (bytesOfUnits pvDest) →
        ∃ v, (clipConvertVBoxCBForX11 emptyXlib vboxFormats pvUnicodeCache (clipGetAtom "UTF8_STRING")
          reply).1 = .ok v ∧ v.received = [0x61, 0x0A] :=
  ⟨(utf8_conversions_round_trip emptyXlib).1 (s := [0x61, 0x0D, 0x0A]) (by decide) (by decide)
      (by decide) (by decide)
      ⟨by decide, List.chain'_cons.2 ⟨fun h => absurd h (by decide), List.chain'_cons.2 ⟨fun _ => rfl,
        List.chain'_singleton _⟩⟩⟩
      (.inl ⟨rfl, by decide⟩) (by decide) none _ rfl,
    (utf8_conversions_round_trip emptyXlib).2 (u := [0x61, 0x0A])
      (by rw [show [(0x61 : UInt8), 0x0A] = utf8Encode ['a', '\n'] by decide, utf8Decode_utf8Encode]; rfl)
      (by decide) (by decide) (by decide)⟩

/-- The empty host text without a terminator is refused with `VERR_NO_DATA`. -/
theorem utf8_round_trip_empty_unterminated :
    (clipConvertVBoxCBForX11 emptyXlib vboxSharedClipboardFmtUnicodeText none (clipGetAtom "UTF8_STRING")
      ⟨.vinfSuccess, some (bytesOfUnits [])⟩).1 = .error .verrNoData := rfl

/-! ## Compound text on ASCII -/

/-- Modelled from the spec: Xlib's compound-text conversions as the identity on ASCII text
without NUL; the property holds the text and a terminator, which `nitems` does not count. -/
def AsciiIdentity (xlib : Xlib) : Prop :=
  ∀ t : List UInt8, (∀ b ∈ t, 0 < b.toNat ∧ b.toNat < 0x80) →
    xlib.xmbTextListToTextProperty t = (0, ⟨t ++ [0], clipGetAtom "COMPOUND_TEXT", 8, t.length⟩) ∧
      xlib.xmbTextPropertyToTextList t = (0, t)

/-- An Xlib that is the identity on all text. -/
def asciiXlib : Xlib :=
  ⟨fun t => (0, t), fun t => (0, ⟨t ++ [0], clipGetAtom "COMPOUND_TEXT", 8, t.length⟩)⟩

theorem asciiIdentity_asciiXlib : AsciiIdentity asciiXlib := fun _ _ => ⟨rfl, rfl⟩

theorem utf16EncodeChar_of_lt {c : Char} (h : c.toNat < 0x80) :
    utf16EncodeChar c = [UInt16.ofNat c.toNat] :=
  if_pos (by omega)

theorem utf8EncodeChar_of_lt {c : Char} (h : c.toNat < 0x80) : utf8EncodeChar c = [UInt8.ofNat c.toNat] :=
  if_pos h

theorem utf16Encode_map_ofNat {s : List UInt16} (h : ∀ u ∈ s, u.toNat < 0x80) :
    utf16Encode (s.map fun u => Char.ofNat u.toNat) = s := by
  induction s with
  | nil => rfl
  | cons u s ih =>
    have hu : (Char.ofNat u.toNat).toNat = u.toNat :=
      toNat_charOfNat (.inl (by have := h u (by simp); omega))
    rw [List.map_cons, utf16Encode_cons, ih fun v hv => h v (List.mem_cons_of_mem _ hv),
      utf16EncodeChar_of_lt (by rw [hu]; exact h u (by simp)), hu, unit_eq rfl]
    rfl

theorem utf8Encode_of_lt {cs : List Char} (h : ∀ c ∈ cs, c.toNat < 0x80) :
    utf8Encode cs = (utf16Encode cs).map fun u => UInt8.ofNat u.toNat := by
  induction cs with
  | nil => rfl
  | cons c cs ih =>
    have hc := h c (by simp)
    rw [utf8Encode_cons, utf16Encode_cons, utf8EncodeChar_of_lt hc, utf16EncodeChar_of_lt hc,
      ih fun d hd => h d (List.mem_cons_of_mem _ hd), List.map_append]
    simp [toNat_unit (show c.toNat < 65536 by omega)]

theorem utf8Encode_ascii {cs : List Char} (h : ∀ c ∈ cs, 0 < c.toNat ∧ c.toNat < 0x80) :
    ∀ b ∈ utf8Encode cs, 0 < b.toNat ∧ b.toNat < 0x80 := by
  intro b hb
  obtain ⟨c, hc, hb⟩ := List.mem_flatMap.1 hb
  rw [utf8EncodeChar_of_lt (h c hc).2, List.mem_singleton] at hb
  rw [hb, toNat_byte (by have := (h c hc).2; omega)]
  exact h c hc

theorem clipConvertX11CBData_ctext_ascii {xlib : Xlib} (hxlib : AsciiIdentity xlib) {cs : List Char}
    (hcs : ∀ c ∈ cs, 0 < c.toNat ∧ c.toNat < 0x80) :
    clipConvertX11CBData xlib vboxSharedClipboardFmtUnicodeText
        (clipFindX11FormatByAtom (clipGetAtom "COMPOUND_TEXT")) (clipGetAtom "COMPOUND_TEXT")
        (some (utf8Encode cs)) =
      .ok (utf16Encode (lfToCrlf crChar lfChar cs) ++ [0],
        ((utf16Encode (lfToCrlf crChar lfChar cs)).length + 1) * 2) := by
  have hct : clipRealFormatForX11Format (clipFindX11FormatByAtom (clipGetAtom "COMPOUND_TEXT")) =
      .ctext := by decide
  simp only [clipConvertX11CBData, clipGetAtom, reduceCtorEq, if_false, if_true, hct]
  cases cs with
  | nil => rfl
  | cons c cs =>
    have hc := (hcs c (by simp)).2
    have hhead : ∀ m : UInt16, 0x80 ≤ m.toNat → (utf16Encode (c :: cs)).head? ≠ some m := by
      intro m hm h
      rw [utf16Encode_cons, utf16EncodeChar_of_lt hc, List.singleton_append, List.head?_cons,
        Option.some.injEq] at h
      rw [← h, toNat_unit (by omega)] at hm
      omega
    have hascii := utf8Encode_ascii hcs
    refine clipCTextToWinTxt_of_decode (by simp [utf8EncodeChar_of_lt hc])
      (show xlib.xmbTextPropertyToTextList ((utf8Encode (c :: cs)).take (utf8Encode (c :: cs)).length) =
        (0, utf8Encode (c :: cs)) by rw [List.take_length]; exact (hxlib _ hascii).2)
      (Int.le_refl 0) ?_ (hhead _ (by decide)) (hhead _ (by decide))
    rw [untilNul_eq_self fun h0 => by simpa using (hascii 0 h0).1, utf8Decode_utf8Encode]

/-- ASCII host text without NUL whose every LF follows a CR, held with its terminator or, when
not empty, without: over an Xlib that is the identity on ASCII, the `COMPOUND_TEXT` reply is
the text with CR LF folded, in 8-bit items with no NUL counted, and read back as compound
text it is the host text with one terminator. -/
theorem ctext_round_trip {s host : List UInt16} (hascii : ∀ u ∈ s, 0 < u.toNat ∧ u.toNat < 0x80)
    (hcr : CrBeforeLf carriageReturn linefeed s) (hhost : host = s ∧ s ≠ [] ∨ host = s ++ [0])
    {xlib : Xlib} (hxlib : AsciiIdentity xlib) {vboxFormats : Nat}
    (hfmt : vboxFormats &&& vboxSharedClipboardFmtUnicodeText ≠ 0)
    (pvUnicodeCache : Option (List UInt8)) (reply : FrontendReply)
    (hread : (clipReadVBoxClipboard pvUnicodeCache vboxSharedClipboardFmtUnicodeText reply).1 =
      .ok (bytesOfUnits host)) :
    ∃ v, (clipConvertVBoxCBForX11 xlib vboxFormats pvUnicodeCache (clipGetAtom "COMPOUND_TEXT")
        reply).1 = .ok v ∧ v.format = 8 ∧ v.cLen = (crlfToLf carriageReturn linefeed s).length ∧
      v.received = (crlfToLf carriageReturn linefeed s).map (fun u => UInt8.ofNat u.toNat) ∧
      0 ∉ v.received ∧
      clipConvertX11CBData xlib vboxSharedClipboardFmtUnicodeText
        (clipFindX11FormatByAtom (clipGetAtom "COMPOUND_TEXT")) v.atomType (some v.received) =
          .ok (s ++ [0], (s.length + 1) * 2) := by
  have hnul : (0 : UInt16) ∉ s := fun h => by simpa using (hascii 0 h).1
  have henc : utf16Encode (s.map fun u => Char.ofNat u.toNat) = s :=
    utf16Encode_map_ofNat fun u hu => (hascii u hu).2
  obtain ⟨htext, hcw, hhead⟩ := untilNul_hostBuffer hnul hhost
  have hshead : ∀ m : UInt16, 0x80 ≤ m.toNat → s.head? ≠ some m := fun m hm h => by
    have := (hascii m (List.mem_of_mem_head? h)).2
    omega
  -- the reply: the folded text, one byte a character
  have hfold : utf16Encode (crlfToLf crChar lfChar (s.map fun u => Char.ofNat u.toNat)) =
      crlfToLf carriageReturn linefeed s := by rw [← crlfToLf_utf16Encode, henc]
  have hL : ∀ c ∈ crlfToLf crChar lfChar (s.map fun u => Char.ofNat u.toNat),
      0 < c.toNat ∧ c.toNat < 0x80 := fun c hc => by
    obtain ⟨u, hu, rfl⟩ := List.mem_map.1 ((crlfToLf_sublist _ _ _).subset hc)
    rw [toNat_charOfNat (.inl (by have := (hascii u hu).2; omega))]
    exact hascii u hu
  have ht : utf8Encode (crlfToLf crChar lfChar (s.map fun u => Char.ofNat u.toNat)) =
      (crlfToLf carriageReturn linefeed s).map fun u => UInt8.ofNat u.toNat := by
    rw [utf8Encode_of_lt fun c hc => (hL c hc).2, hfold]
  have hlin : linChars (unitsOfBytes (bytesOfUnits host)) (s.map fun u => Char.ofNat u.toNat) =
      crlfToLf crChar lfChar (s.map fun u => Char.ofNat u.toNat) := by
    rw [linChars, if_neg (hhead _ (by decide) (hshead _ (by decide)))]
    rfl
  have hx := (hxlib _ (utf8Encode_ascii hL)).1
  rw [← hlin] at hx
  have hv := clipConvertVBoxCBForX11_ctext_of_decode xlib hfmt hread
    (by rw [htext, ← utf16Decode_utf16Encode (s.map _), henc]) hcw (hhead _ (by decide) (hshead _ (by decide)))
    hx (Int.le_refl 0)
  rw [clipTrimTrailingNul_terminated, hlin] at hv
  dsimp only at hv
  refine ⟨_, hv, rfl, by rw [ht, List.length_map], by simp [SelectionValue.received, ← ht], ?_, ?_⟩
  · simpa [SelectionValue.received] using fun h0 => (utf8Encode_ascii hL 0 h0).1
  · simp only [SelectionValue.received, List.take_left]
    -- read back: every LF expanded again, which gives the host text
    rw [clipConvertX11CBData_ctext_ascii hxlib hL, lfToCrlf_crlfToLf_utf16Encode henc hcr]

theorem ctext_round_trip_on_crlf :
    ∃ v, (clipConvertVBoxCBForX11 asciiXlib vboxSharedClipboardFmtUnicodeText none
        (clipGetAtom "COMPOUND_TEXT") ⟨.vinfSuccess, some (bytesOfUnits [0x61, 0x0D, 0x0A])⟩).1 =
        .ok v ∧ v.format = 8 ∧ v.cLen = (crlfToLf carriageReturn linefeed [0x61, 0x0D, 0x0A]).length ∧
      v.received = (crlfToLf carriageReturn linefeed [0x61, 0x0D, 0x0A]).map (fun u => UInt8.ofNat u.toNat) ∧
      0 ∉ v.received ∧
      clipConvertX11CBData asciiXlib vboxSharedClipboardFmtUnicodeText
        (clipFindX11FormatByAtom (clipGetAtom "COMPOUND_TEXT")) v.atomType (some v.received) =
          .ok ([0x61, 0x0D, 0x0A] ++ [0], ([0x61, 0x0D, 0x0A].length + 1) * 2) :=
  ctext_round_trip (by decide)
    ⟨by decide, List.chain'_cons.2 ⟨fun h => absurd h (by decide), List.chain'_cons.2 ⟨fun _ => rfl,
      List.chain'_singleton _⟩⟩⟩
    (.inl ⟨rfl, by decide⟩) asciiIdentity_asciiXlib (by decide) none _ rfl

/-- The empty host text without a terminator is refused with `VERR_NO_DATA`, not served as
an empty compound text. -/
theorem ctext_round_trip_empty_unterminated :
    (clipConvertVBoxCBForX11 asciiXlib vboxSharedClipboardFmtUnicodeText none
      (clipGetAtom "COMPOUND_TEXT") ⟨.vinfSuccess, some (bytesOfUnits [])⟩).1 = .error .verrNoData :=
  rfl

end X11Clipboard.RoundTrip
