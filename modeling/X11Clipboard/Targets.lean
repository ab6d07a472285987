import X11Clipboard.Backend

/-! The text format `clipGetTextFormatFromTargets` picks from a `TARGETS` reply. The loop keeps
the first atom of the highest `CLIPFORMAT` among the atoms that name a Unicode-text entry of
`g_aFormats`, so which atoms are offered, and not their order, decides the format and the mask
`clipUpdateX11Targets` reports. -/
namespace X11Clipboard.Targets

open Formats Backend

/-- Modelled from the spec: an atom that names an entry of `g_aFormats` for Unicode text. -/
def IsTextTarget (atom : Atom) : Prop :=
  ∃ e ∈ gAFormats, clipGetAtom e.pcszAtom = atom ∧
    e.u32VBoxFormat = vboxSharedClipboardFmtUnicodeText

instance : DecidablePred IsTextTarget := fun _ => inferInstanceAs (Decidable (∃ e ∈ gAFormats, _))

/-- The `CLIPFORMAT` value of the entry an atom names, which the loop compares. -/
def textRank (atom : Atom) : Nat :=
  (clipRealFormatForX11Format (clipFindX11FormatByAtom atom)).toNat

theorem mem_table_or_nil (atom : Atom) :
    atom ∈ gAFormats.map (fun e => clipGetAtom e.pcszAtom) ∨
      (clipFindX11FormatByAtom atom = nilClipX11Format ∧ ¬IsTextTarget atom) := by
  by_cases hm : atom ∈ gAFormats.map (fun e => clipGetAtom e.pcszAtom)
  · exact .inl hm
  refine .inr ⟨?_, fun ⟨e, he, hea, _⟩ => hm (List.mem_map.2 ⟨e, he, hea⟩)⟩
  have hnone : (List.range maxClipX11Formats).find? (fun i => clipAtomForX11Format i = atom) = none := by
    simp only [List.find?_eq_none, List.mem_range, decide_eq_true_eq]
    intro i (hi : i < gAFormats.length) hia
    exact hm (List.mem_map.2 ⟨_, List.getElem_mem hi, by
      simpa [clipAtomForX11Format, formatEntry, List.getD_eq_getElem?_getD, List.getElem?_eq_getElem hi]
        using hia⟩)
  simp [clipFindX11FormatByAtom, hnone]

theorem isTextTarget_iff (atom : Atom) : IsTextTarget atom ↔
    clipFindX11FormatByAtom atom ≠ nilClipX11Format ∧
      clipVBoxFormatForX11Format (clipFindX11FormatByAtom atom) = vboxSharedClipboardFmtUnicodeText := by
  rcases mem_table_or_nil atom with hm | ⟨hnil, hn⟩
  · simp only [gAFormats, List.map_cons, List.map_nil, List.mem_cons, List.not_mem_nil, or_false] at hm
    rcases hm with rfl | rfl | rfl | rfl | rfl | rfl | rfl | rfl <;> decide
  · simp [hnil, hn]

theorem textRank_pos {atom : Atom} (h : IsTextTarget atom) : 0 < textRank atom := by
  rcases mem_table_or_nil atom with hm | ⟨-, hn⟩
  · simp only [gAFormats, List.map_cons, List.map_nil, List.mem_cons, List.not_mem_nil, or_false] at hm
    rcases hm with rfl | rfl | rfl | rfl | rfl | rfl | rfl | rfl <;> revert h <;> decide
  · exact absurd h hn

theorem bestTextStep_eq (best : Nat × ClipFormat) (atom : Atom) :
    bestTextStep best atom =
      if IsTextTarget atom ∧ best.2.toNat < textRank atom then
        (clipFindX11FormatByAtom atom, clipRealFormatForX11Format (clipFindX11FormatByAtom atom))
      else best := by
  simp only [bestTextStep, isTextTarget_iff, textRank, and_assoc]

theorem foldl_bestTextStep (l : List Atom) (best : Nat × ClipFormat) :
    ((∀ b ∈ l, IsTextTarget b → textRank b ≤ best.2.toNat) ∧ l.foldl bestTextStep best = best) ∨
      ∃ pre a post, l = pre ++ a :: post ∧ IsTextTarget a ∧ best.2.toNat < textRank a ∧
        (∀ b ∈ pre, IsTextTarget b → textRank b < textRank a) ∧
        (∀ b ∈ post, IsTextTarget b → textRank b ≤ textRank a) ∧
        l.foldl bestTextStep best =
          (clipFindX11FormatByAtom a, clipRealFormatForX11Format (clipFindX11FormatByAtom a)) := by
  induction l generalizing best with
  | nil => exact .inl ⟨by simp, rfl⟩
  | cons c l ih =>
    rw [List.foldl_cons, bestTextStep_eq]
    split_ifs with hc
    · rcases ih (clipFindX11FormatByAtom c, clipRealFormatForX11Format (clipFindX11FormatByAtom c)) with
        ⟨hle, heq⟩ | ⟨pre, a, post, rfl, ha, hlt, hpre, hpost, heq⟩
      · exact .inr ⟨[], c, l, rfl, hc.1, hc.2, by simp, hle, heq⟩
      · exact .inr ⟨c :: pre, a, post, rfl, ha, hc.2.trans hlt,
          List.forall_mem_cons.2 ⟨fun _ => hlt, hpre⟩, hpost, heq⟩
    · have hkeep : IsTextTarget c → textRank c ≤ best.2.toNat := fun h => not_lt.1 fun h' => hc ⟨h, h'⟩
      rcases ih best with ⟨hle, heq⟩ | ⟨pre, a, post, rfl, ha, hlt, hpre, hpost, heq⟩
      · exact .inl ⟨List.forall_mem_cons.2 ⟨hkeep, hle⟩, heq⟩
      · exact .inr ⟨c :: pre, a, post, rfl, ha, hlt,
          List.forall_mem_cons.2 ⟨fun h => (hkeep h).trans_lt hlt, hpre⟩, hpost, heq⟩

theorem clipGetTextFormatFromTargets_cases (pTargets : List Atom) :
    ((∀ a ∈ pTargets, ¬IsTextTarget a) ∧ clipGetTextFormatFromTargets pTargets = nilClipX11Format) ∨
      ∃ pre a post, pTargets = pre ++ a :: post ∧ IsTextTarget a ∧
        (∀ b ∈ pre, IsTextTarget b → textRank b < textRank a) ∧
        (∀ b ∈ post, IsTextTarget b → textRank b ≤ textRank a) ∧
        clipGetTextFormatFromTargets pTargets = clipFindX11FormatByAtom a := by
  rcases foldl_bestTextStep pTargets (nilClipX11Format, .invalid) with
    ⟨hle, heq⟩ | ⟨pre, a, post, hl, ha, -, hpre, hpost, heq⟩
  · refine .inl ⟨fun a ha hta => ?_, by rw [clipGetTextFormatFromTargets, heq]⟩
    exact absurd (hle a ha hta) (Nat.not_le.2 (textRank_pos hta))
  · exact .inr ⟨pre, a, post, hl, ha, hpre, hpost, by rw [clipGetTextFormatFromTargets, heq]⟩

theorem textRank_le_of_split {pre post : List Atom} {a : Atom}
    (hpre : ∀ b ∈ pre, IsTextTarget b → textRank b < textRank a)
    (hpost : ∀ b ∈ post, IsTextTarget b → textRank b ≤ textRank a) :
    ∀ b ∈ pre ++ a :: post, IsTextTarget b → textRank b ≤ textRank a := by
  intro b hb htb
  rcases List.mem_append.1 hb with hb | hb
  · exact (hpre b hb htb).le
  · rcases List.mem_cons.1 hb with rfl | hb
    · exact le_rfl
    · exact hpost b hb htb

theorem clipVBoxFormatForX11Format_clipGetTextFormatFromTargets (pTargets : List Atom) :
    clipVBoxFormatForX11Format (clipGetTextFormatFromTargets pTargets) =
      if ∃ a ∈ pTargets, IsTextTarget a then vboxSharedClipboardFmtUnicodeText else 0 := by
  rcases clipGetTextFormatFromTargets_cases pTargets with ⟨hnone, heq⟩ | ⟨pre, a, post, rfl, ha, -, -, heq⟩
  · rw [heq, if_neg (by simpa using hnone)]
    rfl
  · rw [heq, if_pos ⟨a, by simp, ha⟩]
    exact ((isTextTarget_iff a).1 ha).2

theorem clipUpdateX11Targets_log (w : World) (pTargets : List Atom) :
    (clipUpdateX11Targets w pTargets).log = w.log ++
      [.reportX11Formats (if ∃ a ∈ pTargets, IsTextTarget a then vboxSharedClipboardFmtUnicodeText else 0)] := by
  simp [clipUpdateX11Targets, clipReportFormatsToVBox, clipVBoxFormatForX11Format_clipGetTextFormatFromTargets]

/-- Over every list of targets, in any order and with repeats and unknown atoms:
`clipGetTextFormatFromTargets` returns `NIL_CLIPX11FORMAT` exactly when no atom names a
Unicode-text entry of `g_aFormats`, and otherwise the index of the first atom of the highest
`CLIPFORMAT` among those that do; `clipUpdateX11Targets` reports Unicode text exactly when
there is one; and the chosen `CLIPFORMAT` and the report are the same for every permutation
of the list. -/
theorem text_format_from_targets (pTargets : List Atom) :
    (clipGetTextFormatFromTargets pTargets = nilClipX11Format ↔ ∀ a ∈ pTargets, ¬IsTextTarget a) ∧
      ((∃ a ∈ pTargets, IsTextTarget a) → ∃ pre a post, pTargets = pre ++ a :: post ∧
        IsTextTarget a ∧ (∀ b ∈ pre, IsTextTarget b → textRank b < textRank a) ∧
        (∀ b ∈ post, IsTextTarget b → textRank b ≤ textRank a) ∧
        clipGetTextFormatFromTargets pTargets = clipFindX11FormatByAtom a) ∧
      (∀ w : World, (clipUpdateX11Targets w pTargets).log = w.log ++
        [.reportX11Formats (if ∃ a ∈ pTargets, IsTextTarget a then vboxSharedClipboardFmtUnicodeText else 0)]) ∧
      ∀ pTargets' : List Atom, pTargets'.Perm pTargets →
        clipRealFormatForX11Format (clipGetTextFormatFromTargets pTargets') =
            clipRealFormatForX11Format (clipGetTextFormatFromTargets pTargets) ∧
          ∀ w : World, (clipUpdateX11Targets w pTargets').log = (clipUpdateX11Targets w pTargets).log := by
  have hlogPerm : ∀ l', l'.Perm pTargets → ∀ w : World,
      (clipUpdateX11Targets w l').log = (clipUpdateX11Targets w pTargets).log := fun l' hperm w => by
    simp only [clipUpdateX11Targets_log, hperm.mem_iff]
  rcases clipGetTextFormatFromTargets_cases pTargets with ⟨hnone, heq⟩ | ⟨pre, a, post, rfl, ha, hpre, hpost, heq⟩
  · refine ⟨⟨fun _ => hnone, fun _ => heq⟩, fun ⟨b, hb, htb⟩ => absurd htb (hnone b hb),
      fun w => clipUpdateX11Targets_log w _, fun l' hperm => ⟨?_, hlogPerm l' hperm⟩⟩
    rcases clipGetTextFormatFromTargets_cases l' with ⟨-, heq'⟩ | ⟨pre', a', post', rfl, ha', -, -, -⟩
    · rw [heq, heq']
    · exact absurd ha' (hnone a' (hperm.subset (by simp)))
  · refine ⟨⟨fun h => absurd (heq ▸ h) ((isTextTarget_iff a).1 ha).1, fun h => absurd ha (h a (by simp))⟩,
      fun _ => ⟨pre, a, post, rfl, ha, hpre, hpost, heq⟩, fun w => clipUpdateX11Targets_log w _,
      fun l' hperm => ⟨?_, hlogPerm l' hperm⟩⟩
    rcases clipGetTextFormatFromTargets_cases l' with ⟨hnone', -⟩ | ⟨pre', a', post', rfl, ha', hpre', hpost', heq'⟩
    · exact absurd ha (hnone' a (hperm.symm.subset (by simp)))
    · -- both ends outrank each other's list, so they have one `CLIPFORMAT`
      have h1 := textRank_le_of_split hpre hpost a' (hperm.subset (by simp)) ha'
      have h2 := textRank_le_of_split hpre' hpost' a (hperm.symm.subset (by simp)) ha
      rw [heq, heq']
      exact ClipFormat.toNat_injective (Nat.le_antisymm h1 h2)

end X11Clipboard.Targets
