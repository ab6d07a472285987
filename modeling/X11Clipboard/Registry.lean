import Mathlib.Data.List.Nodup
import X11Clipboard.Formats

/-! `g_contexts`, the fixed table that maps an Xt widget to its backend context, because the
selection callbacks pass no user data. The table refines a registry of (widget, context)
pairs with `CLIP_MAX_CONTEXTS` places. -/
namespace X11Clipboard.Registry

open Formats

def clipMaxContexts : Nat := 20

/-- A slot of `g_contexts`; a pointer is a number and `NULL` is `0`. -/
structure Slot where
  widget : Nat
  pCtx : Nat
  deriving DecidableEq, Repr

def emptySlot : Slot := ⟨0, 0⟩

/-- `g_contexts` as the program starts: static storage, all zero. -/
def gContextsInit : List Slot := List.replicate clipMaxContexts emptySlot

/-- The loop of `clipRegisterContext` over the remaining slots, given whether a slot was
already filled: the status it returns early with, if any, whether it filled a slot, and the
slots as it leaves them. An early return keeps the writes made before it. -/
def registerLoop (widget pCtx : Nat) : Bool → List Slot → Option Status × Bool × List Slot
  | found, [] => (none, found, [])
  | found, s :: rest =>
    if s.widget = widget ∨ s.pCtx = pCtx then (some .verrWrongOrder, found, s :: rest)
    else if s.widget = 0 ∧ found = false then
      if s.pCtx ≠ 0 then (some .verrInternalError, found, s :: rest)
      else
        let r := registerLoop widget pCtx true rest
        (r.1, r.2.1, ⟨widget, pCtx⟩ :: r.2.2)
    else
      let r := registerLoop widget pCtx found rest
      (r.1, r.2.1, s :: r.2.2)

/-- `clipRegisterContext` for the context `pCtx` whose `widget` field is `widget`. -/
def clipRegisterContext (g : List Slot) (pCtx widget : Nat) : Status × List Slot :=
  if pCtx = 0 ∨ widget = 0 then (.verrInvalidParameter, g)
  else
    match registerLoop widget pCtx false g with
    | (some rc, _, g') => (rc, g')
    | (none, found, g') => (if found then .vinfSuccess else .verrOutOfResources, g')

/-- `clipUnregisterContext`: every slot holding the context's widget is cleared. -/
def clipUnregisterContext (g : List Slot) (pCtx widget : Nat) : List Slot :=
  if pCtx = 0 ∨ widget = 0 then g
  else g.map fun s => if s.widget = widget then emptySlot else s

/-- `clipLookupContext`: the context of the first slot holding `widget`, or `NULL`. -/
def clipLookupContext (g : List Slot) (widget : Nat) : Nat :=
  if widget = 0 then 0 else ((g.find? fun s => s.widget = widget).map Slot.pCtx).getD 0

/-! ## The table's invariant -/

/-- The registered (widget, context) pairs of a table: its non-empty slots. -/
def registered (g : List Slot) : List (Nat × Nat) :=
  (g.filter fun s => s.widget ≠ 0).map fun s => (s.widget, s.pCtx)

/-- What every reachable table satisfies. -/
structure Wf (g : List Slot) : Prop where
  length : g.length = clipMaxContexts
  null_iff : ∀ s ∈ g, s.widget = 0 ↔ s.pCtx = 0
  widgets_nodup : ((registered g).map Prod.fst).Nodup
  contexts_nodup : ((registered g).map Prod.snd).Nodup

def fillFirst (s' : Slot) : List Slot → List Slot
  | [] => []
  | s :: rest => if s.widget = 0 then s' :: rest else s :: fillFirst s' rest

theorem fillFirst_eq_self {s' : Slot} :
    ∀ {g : List Slot}, g.any (·.widget = 0) = false → fillFirst s' g = g
  | [], _ => rfl
  | s :: rest, h => by
    simp only [List.any_cons, Bool.or_eq_false_iff, decide_eq_false_iff_not] at h
    simp only [fillFirst, h.1, if_false, fillFirst_eq_self h.2]

section Fresh

variable {widget pCtx : Nat}

/-- A registration that meets neither its widget nor its context. -/
def Fresh (widget pCtx : Nat) (g : List Slot) : Prop := ∀ s ∈ g, s.widget ≠ widget ∧ s.pCtx ≠ pCtx

theorem registerLoop_found (g : List Slot) (hg : Fresh widget pCtx g) :
    registerLoop widget pCtx true g = (none, true, g) := by
  induction g with
  | nil => rfl
  | cons s rest ih =>
    have hs := hg s (by simp)
    simp only [registerLoop, hs.1, hs.2, or_self, Bool.true_eq_false, and_false, if_false,
      ih fun t ht => hg t (by simp [ht])]

theorem registerLoop_fresh (g : List Slot) (hg : Fresh widget pCtx g)
    (hnull : ∀ s ∈ g, s.widget = 0 → s.pCtx = 0) :
    registerLoop widget pCtx false g = (none, g.any (·.widget = 0), fillFirst ⟨widget, pCtx⟩ g) := by
  induction g with
  | nil => rfl
  | cons s rest ih =>
    have hs := hg s (by simp)
    have hrest : Fresh widget pCtx rest := fun t ht => hg t (by simp [ht])
    by_cases h0 : s.widget = 0
    · have hp0 := hnull s (by simp) h0
      have hw0 : (0 : Nat) ≠ widget := h0 ▸ hs.1
      have hc0 : (0 : Nat) ≠ pCtx := hp0 ▸ hs.2
      simp [registerLoop, fillFirst, h0, hp0, hw0, hc0, registerLoop_found rest hrest]
    · simp [registerLoop, fillFirst, hs.1, hs.2, h0,
        ih hrest fun t ht => hnull t (by simp [ht])]

theorem clipRegisterContext_fresh (g : List Slot) (hp : pCtx ≠ 0) (hw : widget ≠ 0)
    (hg : Fresh widget pCtx g) (hnull : ∀ s ∈ g, s.widget = 0 → s.pCtx = 0) :
    clipRegisterContext g pCtx widget =
      if g.any (·.widget = 0) then (.vinfSuccess, fillFirst ⟨widget, pCtx⟩ g)
      else (.verrOutOfResources, g) := by
  rw [clipRegisterContext, if_neg (by omega), registerLoop_fresh g hg hnull]
  cases he : g.any (·.widget = 0) with
  | false => simp [fillFirst_eq_self he]
  | true => rfl

end Fresh

/-! ## What a registration writes -/

section Writes

variable {widget pCtx : Nat}

theorem registerLoop_true (g : List Slot) :
    ∃ rc, (rc = none ∨ rc = some .verrWrongOrder) ∧ registerLoop widget pCtx true g = (rc, true, g) := by
  induction g with
  | nil => exact ⟨none, .inl rfl, rfl⟩
  | cons s rest ih =>
    obtain ⟨rc, hrc, hr⟩ := ih
    by_cases hdup : s.widget = widget ∨ s.pCtx = pCtx
    · exact ⟨_, .inr rfl, by simp [registerLoop, hdup]⟩
    · exact ⟨rc, hrc, by simp [registerLoop, hdup, hr]⟩

theorem registerLoop_false (g : List Slot) :
    (∃ rc, rc ≠ some .vinfSuccess ∧ registerLoop widget pCtx false g = (rc, false, g)) ∨
      ∃ rc i, (rc = none ∨ rc = some .verrWrongOrder) ∧ g[i]? = some emptySlot ∧
        registerLoop widget pCtx false g = (rc, true, g.set i ⟨widget, pCtx⟩) := by
  induction g with
  | nil => exact .inl ⟨none, by simp, rfl⟩
  | cons s rest ih =>
    by_cases hdup : s.widget = widget ∨ s.pCtx = pCtx
    · exact .inl ⟨some .verrWrongOrder, by simp, by simp [registerLoop, hdup]⟩
    by_cases h0 : s.widget = 0
    · by_cases hp0 : s.pCtx = 0
      · obtain ⟨rc, hrc, hr⟩ := @registerLoop_true widget pCtx rest
        have hs : s = emptySlot := by cases s; simp_all [emptySlot]
        refine .inr ⟨rc, 0, hrc, by simp [hs], ?_⟩
        simp only [registerLoop, if_neg hdup]
        simp [h0, hp0, hr]
      · refine .inl ⟨some .verrInternalError, by simp, ?_⟩
        simp only [registerLoop, if_neg hdup]
        simp [h0, hp0]
    rcases ih with ⟨rc, hrc, hr⟩ | ⟨rc, i, hrc, hi, hr⟩
    · exact .inl ⟨rc, hrc, by simp [registerLoop, hdup, h0, hr]⟩
    · exact .inr ⟨rc, i + 1, hrc, by simpa using hi, by simp [registerLoop, hdup, h0, hr]⟩

/-- Over every table and every call, `clipRegisterContext` returns `VINF_SUCCESS` having filled
one empty slot with the context, or fails; a failure other than `VERR_WRONG_ORDER` leaves the
table as it was, and `VERR_WRONG_ORDER` leaves it so or with one empty slot filled. -/
theorem clipRegisterContext_writes (g : List Slot) (pCtx widget : Nat) :
    let r := clipRegisterContext g pCtx widget
    (r.1 = .vinfSuccess → ∃ i, g[i]? = some emptySlot ∧ r.2 = g.set i ⟨widget, pCtx⟩) ∧
      (r.1 ≠ .vinfSuccess → r.1 ≠ .verrWrongOrder → r.2 = g) ∧
      (r.1 = .verrWrongOrder → r.2 = g ∨ ∃ i, g[i]? = some emptySlot ∧ r.2 = g.set i ⟨widget, pCtx⟩) := by
  by_cases hnull : pCtx = 0 ∨ widget = 0
  · simp [clipRegisterContext, hnull]
  rcases @registerLoop_false widget pCtx g with
    ⟨rc, hrc, hr⟩ | ⟨rc, i, hrc | hrc, hi, hr⟩
  · rcases rc with _ | rc <;> simp_all [clipRegisterContext]
  · simpa [clipRegisterContext, hnull, hr, hrc] using ⟨i, hi, rfl⟩
  · simpa [clipRegisterContext, hnull, hr, hrc] using .inr ⟨i, hi, rfl⟩

/-- A context registered again after the slot before its own was freed: the loop fills the
free slot, meets the old registration and returns `VERR_WRONG_ORDER` with the fill kept, so
the context now sits in two slots. -/
theorem clipRegisterContext_wrong_order_keeps_fill :
    clipUnregisterContext (clipRegisterContext (clipRegisterContext gContextsInit 1 1).2 2 3).2 1 1 =
        emptySlot :: ⟨3, 2⟩ :: List.replicate 18 emptySlot ∧
      clipRegisterContext (emptySlot :: ⟨3, 2⟩ :: List.replicate 18 emptySlot) 2 3 =
        (.verrWrongOrder, ⟨3, 2⟩ :: ⟨3, 2⟩ :: List.replicate 18 emptySlot) := by
  decide

end Writes

/-! ## The registry the table implements -/

/-- A call of the registration protocol, for a context `pCtx` whose widget is `widget`. -/
inductive Op
  | register (pCtx widget : Nat)
  | unregister (pCtx widget : Nat)

def Op.apply : Op → List Slot → List Slot
  | .register pCtx widget, g => (clipRegisterContext g pCtx widget).2
  | .unregister pCtx widget, g => clipUnregisterContext g pCtx widget

/-- The same call on a registry of (widget, context) pairs with `CLIP_MAX_CONTEXTS` places:
a registration that finds no place, or a `NULL` argument, changes nothing. -/
def Op.absApply : Op → List (Nat × Nat) → List (Nat × Nat)
  | .register pCtx widget, a =>
    if pCtx = 0 ∨ widget = 0 ∨ clipMaxContexts ≤ a.length then a else (widget, pCtx) :: a
  | .unregister pCtx widget, a => if pCtx = 0 ∨ widget = 0 then a else a.filter (·.1 ≠ widget)

/-- The callers' side of the protocol: a context is registered only while it is not, with a
widget that is not, and unregistered only while registered. -/
def Op.Allowed : Op → List (Nat × Nat) → Prop
  | .register pCtx widget, a => ∀ p ∈ a, p.1 ≠ widget ∧ p.2 ≠ pCtx
  | .unregister pCtx widget, a => (widget, pCtx) ∈ a

inductive Reachable : List Slot → List (Nat × Nat) → Prop
  | init : Reachable gContextsInit []
  | step {g a} (op : Op) : Reachable g a → op.Allowed a → Reachable (op.apply g) (op.absApply a)

theorem mem_registered {g : List Slot} {p : Nat × Nat} :
    p ∈ registered g ↔ ∃ s ∈ g, s.widget ≠ 0 ∧ (s.widget, s.pCtx) = p := by
  simp [registered, and_assoc]

theorem length_fillFirst (s' : Slot) (g : List Slot) : (fillFirst s' g).length = g.length := by
  induction g with
  | nil => rfl
  | cons s rest ih => by_cases h : s.widget = 0 <;> simp [fillFirst, h, ih]

theorem mem_fillFirst {s' t : Slot} {g : List Slot} (h : t ∈ fillFirst s' g) : t = s' ∨ t ∈ g := by
  induction g with
  | nil => simp [fillFirst] at h
  | cons s rest ih =>
    by_cases h0 : s.widget = 0 <;> simp only [fillFirst, h0, if_true, if_false, List.mem_cons] at h
    · rcases h with h | h <;> simp [h]
    · rcases h with h | h
      · simp [h]
      · rcases ih h with h | h <;> simp [h]

theorem registered_fillFirst {s' : Slot} (hs' : s'.widget ≠ 0) {g : List Slot}
    (he : g.any (·.widget = 0)) :
    (registered (fillFirst s' g)).Perm ((s'.widget, s'.pCtx) :: registered g) := by
  induction g with
  | nil => simp at he
  | cons s rest ih =>
    by_cases h0 : s.widget = 0
    · simp [fillFirst, registered, h0, hs']
    · simp only [List.any_cons, h0, decide_False, Bool.false_or] at he
      simpa [fillFirst, registered, h0] using (List.Perm.cons _ (ih he)).trans (List.Perm.swap _ _ _)

theorem registered_unregister (g : List Slot) (widget : Nat) :
    registered (g.map fun s => if s.widget = widget then emptySlot else s) =
      (registered g).filter (·.1 ≠ widget) := by
  induction g with
  | nil => rfl
  | cons s rest ih =>
    by_cases hw : s.widget = widget <;> by_cases h0 : s.widget = 0 <;>
      simp_all [registered, emptySlot]

theorem any_empty_iff (g : List Slot) :
    g.any (·.widget = 0) ↔ (registered g).length < g.length := by
  simp [registered, List.length_filter_lt_length_iff_exists]

section Invariant

variable {g : List Slot} {a : List (Nat × Nat)}

/-- The invariant: a well-formed table whose non-empty slots are the registry. -/
def Inv (g : List Slot) (a : List (Nat × Nat)) : Prop := Wf g ∧ (registered g).Perm a

theorem Inv.entry_ne_zero (h : Inv g a) {p : Nat × Nat} (hp : p ∈ a) : p.1 ≠ 0 ∧ p.2 ≠ 0 := by
  obtain ⟨s, hs, h0, rfl⟩ := mem_registered.1 (h.2.mem_iff.2 hp)
  exact ⟨h0, fun hc => h0 ((h.1.null_iff s hs).2 hc)⟩

theorem Inv.fresh (h : Inv g a) {pCtx widget : Nat} (hp : pCtx ≠ 0) (hw : widget ≠ 0)
    (hallowed : (Op.register pCtx widget).Allowed a) : Fresh widget pCtx g := by
  intro s hs
  by_cases h0 : s.widget = 0
  · exact ⟨by omega, by have := (h.1.null_iff s hs).1 h0; omega⟩
  · exact hallowed _ (h.2.mem_iff.1 (mem_registered.2 ⟨s, hs, h0, rfl⟩))

theorem Inv.register (h : Inv g a) (pCtx widget : Nat)
    (hallowed : (Op.register pCtx widget).Allowed a) :
    Inv ((Op.register pCtx widget).apply g) ((Op.register pCtx widget).absApply a) := by
  by_cases hnull : pCtx = 0 ∨ widget = 0
  · rcases hnull with h0 | h0 <;> simpa [Op.apply, Op.absApply, clipRegisterContext, h0] using h
  have hp : pCtx ≠ 0 := by omega
  have hw : widget ≠ 0 := by omega
  have hlen : (registered g).length = a.length := h.2.length_eq
  simp only [Op.apply, Op.absApply, hp, hw, false_or,
    clipRegisterContext_fresh g hp hw (h.fresh hp hw hallowed) fun s hs => (h.1.null_iff s hs).1]
  by_cases he : g.any (·.widget = 0)
  · have hlt : ¬clipMaxContexts ≤ a.length := by
      have := (any_empty_iff g).1 he; have := h.1.length; omega
    have hperm := (registered_fillFirst (show (⟨widget, pCtx⟩ : Slot).widget ≠ 0 from hw) he).trans (h.2.cons _)
    have hfresh : ∀ p ∈ a, p.1 ≠ widget ∧ p.2 ≠ pCtx := hallowed
    rw [if_pos he, if_neg hlt]
    refine ⟨⟨by rw [length_fillFirst]; exact h.1.length, fun s hs => ?_, ?_, ?_⟩, hperm⟩
    · rcases mem_fillFirst hs with rfl | hs
      · simp [hp, hw]
      · exact h.1.null_iff s hs
    · rw [(hperm.map _).nodup_iff, List.map_cons, List.nodup_cons, ← (h.2.map _).nodup_iff]
      exact ⟨fun hm => by obtain ⟨p, hp', hpw⟩ := List.mem_map.1 hm
                          exact (hfresh p hp').1 hpw, h.1.widgets_nodup⟩
    · rw [(hperm.map _).nodup_iff, List.map_cons, List.nodup_cons, ← (h.2.map _).nodup_iff]
      exact ⟨fun hm => by obtain ⟨p, hp', hpc⟩ := List.mem_map.1 hm
                          exact (hfresh p hp').2 hpc, h.1.contexts_nodup⟩
  · have hge : clipMaxContexts ≤ a.length := by
      have := (any_empty_iff g).not.1 he; have := h.1.length; omega
    rw [if_neg he, if_pos hge]
    exact h

theorem Inv.unregister (h : Inv g a) (pCtx widget : Nat)
    (hallowed : (Op.unregister pCtx widget).Allowed a) :
    Inv ((Op.unregister pCtx widget).apply g) ((Op.unregister pCtx widget).absApply a) := by
  have hne := h.entry_ne_zero (p := (widget, pCtx)) hallowed
  have hsub := (List.filter_sublist (registered g) (p := fun q => q.1 ≠ widget))
  simp only [Op.apply, Op.absApply, clipUnregisterContext, hne.1, hne.2, or_self, if_false]
  refine ⟨⟨by simpa using h.1.length, fun s hs => ?_, ?_, ?_⟩, ?_⟩
  · obtain ⟨t, ht, rfl⟩ := List.mem_map.1 hs
    by_cases hw : t.widget = widget
    · simp [hw, emptySlot]
    · simpa [hw] using h.1.null_iff t ht
  · rw [registered_unregister]; exact h.1.widgets_nodup.sublist (hsub.map _)
  · rw [registered_unregister]; exact h.1.contexts_nodup.sublist (hsub.map _)
  · rw [registered_unregister]; exact h.2.filter _

theorem Reachable.inv (hr : Reachable g a) : Inv g a := by
  induction hr with
  | init =>
    refine ⟨⟨rfl, fun s hs => ?_, by decide, by decide⟩, by decide⟩
    simp [gContextsInit, emptySlot, List.mem_replicate] at hs
    simp [hs]
  | step op _ hallowed ih =>
    cases op with
    | register pCtx widget => exact ih.register pCtx widget hallowed
    | unregister pCtx widget => exact ih.unregister pCtx widget hallowed

theorem Inv.lookup_registered (h : Inv g a) {widget pCtx : Nat} (hp : (widget, pCtx) ∈ a) :
    clipLookupContext g widget = pCtx := by
  obtain ⟨s, hs, h0, hsp⟩ := mem_registered.1 (h.2.mem_iff.2 hp)
  simp only [Prod.mk.injEq] at hsp
  have hw : widget ≠ 0 := hsp.1 ▸ h0
  obtain ⟨t, ht⟩ : ∃ t, g.find? (fun s => s.widget = widget) = some t := by
    cases hf : g.find? (fun s => s.widget = widget) with
    | none => simp only [List.find?_eq_none] at hf; exact absurd hsp.1 (by simpa using hf s hs)
    | some t => exact ⟨t, rfl⟩
  have htw : t.widget = widget := by simpa using List.find?_some ht
  have htm : (t.widget, t.pCtx) ∈ registered g :=
    mem_registered.2 ⟨t, List.mem_of_find?_eq_some ht, htw ▸ hw, rfl⟩
  have hpm : (widget, pCtx) ∈ registered g := h.2.mem_iff.2 hp
  have := List.inj_on_of_nodup_map h.1.widgets_nodup htm hpm htw
  simp only [clipLookupContext, hw, if_false, ht, Option.map_some', Option.getD_some]
  exact (Prod.mk.inj this).2

theorem Inv.lookup_unregistered (h : Inv g a) {widget : Nat}
    (hnone : ∀ pCtx, (widget, pCtx) ∉ a) : clipLookupContext g widget = 0 := by
  by_cases hw : widget = 0
  · simp [clipLookupContext, hw]
  have hf : g.find? (fun s => s.widget = widget) = none := by
    simp only [List.find?_eq_none, decide_eq_true_eq]
    intro s hs hsw
    exact hnone s.pCtx (h.2.mem_iff.1 (mem_registered.2 ⟨s, hs, hsw ▸ hw, by rw [hsw]⟩))
  simp [clipLookupContext, hw, hf]

theorem Inv.register_full (h : Inv g a) {pCtx widget : Nat} (hp : pCtx ≠ 0) (hw : widget ≠ 0)
    (hallowed : (Op.register pCtx widget).Allowed a) (hfull : a.length = clipMaxContexts) :
    clipRegisterContext g pCtx widget = (.verrOutOfResources, g) := by
  have hlen := h.2.length_eq
  have hg := h.1.length
  have he : g.any (·.widget = 0) = false := by
    simpa using (any_empty_iff g).not.2 (by omega)
  rw [clipRegisterContext_fresh g hp hw (h.fresh hp hw hallowed) fun s hs => (h.1.null_iff s hs).1,
    he, if_neg Bool.false_ne_true]

end Invariant

/-- Over every sequence of allowed calls the table stays well formed (no widget or context in
two slots, a `NULL` widget exactly where the context is `NULL`), its slots are the registry,
at most `CLIP_MAX_CONTEXTS` are taken, lookup answers with the registered context or `NULL`,
and a registration on a full table fails with `VERR_OUT_OF_RESOURCES` and changes nothing. -/
theorem registry_refines {g : List Slot} {a : List (Nat × Nat)} (hr : Reachable g a) :
    Wf g ∧ (registered g).Perm a ∧ (registered g).length ≤ clipMaxContexts ∧
    (∀ widget pCtx, (widget, pCtx) ∈ a → clipLookupContext g widget = pCtx) ∧
    (∀ widget, (∀ pCtx, (widget, pCtx) ∉ a) → clipLookupContext g widget = 0) ∧
    (∀ pCtx widget, pCtx ≠ 0 → widget ≠ 0 → (Op.register pCtx widget).Allowed a →
      a.length = clipMaxContexts → clipRegisterContext g pCtx widget = (.verrOutOfResources, g)) := by
  have h := hr.inv
  refine ⟨h.1, h.2, ?_, fun _ _ hp => h.lookup_registered hp, fun _ hn => h.lookup_unregistered hn,
    fun _ _ hp hw ha hf => h.register_full hp hw ha hf⟩
  have := List.length_filter_le (fun s : Slot => s.widget ≠ 0) g
  simp only [registered, List.length_map]
  exact h.1.length ▸ this

theorem registry_refines_after_register :
    Reachable ((Op.register 7 5).apply gContextsInit) ((Op.register 7 5).absApply []) ∧
      clipLookupContext ((Op.register 7 5).apply gContextsInit) 5 = 7 :=
  let hr := Reachable.step (Op.register 7 5) .init (by simp [Op.Allowed])
  ⟨hr, (registry_refines hr).2.2.2.1 5 7 (by decide)⟩

end X11Clipboard.Registry
