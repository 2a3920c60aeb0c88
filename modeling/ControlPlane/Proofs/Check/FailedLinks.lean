import ControlPlane.Proofs.Network.Links
import ControlPlane.Check.Trace

/-!
# The failed links of a counterexample

`Counterexample.failedLinks` scans the edges of the edge map, router by router, and records every
edge whose link the model fails, unless the other end of the link is recorded already. Read as a
fold (`failedLinks_eq`), the scan records only failed edges, and for every failed edge it records
the edge or its other end (`ScanInv`).

It records both directions of a link only for a link from an interface to itself
(`ScanShape.recorded_once`). This rests on the order of the scan: failed edges come in
ascending order of router and start interface, so of the two directions of a link the one that
starts first is met first. When it is met, the other direction is not yet recorded, so it is
recorded; when the other direction is met, some edge towards that first start is recorded. Which
edge that is does not matter, as long as the graph has, for the other end of every edge, an edge
equal to it whenever it has one with its ends (`ScanShape.complete`).
-/

namespace ControlPlane

open Std GraphEdge

theorem forIn_eq_ok_foldl {ε β γ : Type} {xs : List γ} {f : γ → β → Except ε (ForInStep β)}
    {g : β → γ → β} (hf : ∀ x ∈ xs, ∀ b, f x b = .ok (.yield (g b x))) (init : β) :
    forIn xs init f = .ok (xs.foldl g init) := by
  induction xs generalizing init with
  | nil => rfl
  | cons x xs ih =>
    rw [List.forIn_cons, hf x List.mem_cons_self init]
    exact ih (fun y hy => hf y (List.mem_cons_of_mem x hy)) _

theorem Except.ok_bind' {ε α β : Type} (a : α) (f : α → Except ε β) : (Except.ok a >>= f) = f a :=
  rfl

theorem liftM_smt_ok {α : Type} (a : α) :
    (liftM (Except.ok a : Except SmtError α) : Except EncodingError α) = .ok a := rfl

theorem Ordered.contains_iff {α : Type} {cmp : α → α → Ordering} {x : α} {xs : List α} :
    Ordered.contains cmp x xs = true ↔ ∃ y ∈ xs, cmp x y = .eq := by
  simp [Ordered.contains]

namespace Counterexample

section Scan

variable (down : GraphEdge → Bool) (otherEnd : GraphEdge → Option GraphEdge)

def recordFailed (failed : List GraphEdge) (e : GraphEdge) : List GraphEdge :=
  if down e && !(otherEnd e).any fun o => Ordered.contains GraphEdge.cmp o failed then
    Ordered.insert GraphEdge.cmp e failed
  else failed

def scanFailed (es : List GraphEdge) : List GraphEdge := es.foldl (recordFailed down otherEnd) []

/-- When every edge's failure variable has an integer value, `failedLinks` reports the links of
the edges the scan records. -/
theorem failedLinks_eq {m : Model} {enc : Encoder}
    (h : ∀ es ∈ enc.graph.edgeMap.values, ∀ e ∈ es, ∃ v i, enc.failures.failedVariable e = .ok v ∧
      m.evalInt v = .ok i ∧ (i != 0) = down e) :
    failedLinks m enc = .ok (Ordered.setOf TraceEdge.cmp
      ((scanFailed down enc.graph.otherEnd? enc.graph.edgeMap.values.flatten).map linkOf)) := by
  unfold failedLinks scanFailed
  dsimp only
  rw [forIn_eq_ok_foldl (g := fun acc p => p.2.foldl (recordFailed down enc.graph.otherEnd?) acc)]
  · simp only [NameMap.values, List.foldl_flatten, List.foldl_map]
    rfl
  · intro p hp acc
    obtain ⟨r, es⟩ := p
    dsimp only
    rw [forIn_eq_ok_foldl (g := recordFailed down enc.graph.otherEnd?)]
    · rfl
    · intro e he b
      obtain ⟨v, i, hv, hi, hd⟩ := h es (List.mem_map_of_mem (f := Prod.snd) hp) e he
      simp only [hv, Except.ok_bind', hi, liftM_smt_ok, recordFailed, ← hd]
      split <;> split <;> simp_all <;> rfl

theorem scanFailed_sorted (es : List GraphEdge) :
    (scanFailed down otherEnd es).Pairwise fun a b => GraphEdge.cmp a b = .lt := by
  unfold scanFailed
  -- every step keeps the recorded edges ascending
  suffices h : ∀ acc : List GraphEdge, acc.Pairwise (fun a b => GraphEdge.cmp a b = .lt) →
      (es.foldl (recordFailed down otherEnd) acc).Pairwise fun a b => GraphEdge.cmp a b = .lt from
    h [] List.Pairwise.nil
  induction es with
  | nil => exact fun _ h => h
  | cons e es ih =>
    intro acc hacc
    refine ih _ ?_
    unfold recordFailed
    split
    · exact Ordered.pairwise_insert hacc
    · exact hacc

end Scan

section Order

/-- What the graph guarantees the scan of its edges `es`. -/
structure ScanShape (down : GraphEdge → Bool) (otherEnd : GraphEdge → Option GraphEdge)
    (es : List GraphEdge) : Prop where
  sorted : es.Pairwise fun a b => down a = true → down b = true → startCmp a b ≠ .gt
  congr : ∀ a b, GraphEdge.cmp a b = .eq → otherEnd a = otherEnd b
  opposite : ∀ x ∈ es, down x = true → ∀ o, otherEnd x = some o → Opposite x o
  has_other : ∀ x ∈ es, down x = true → x.peer.isSome → (otherEnd x).isSome
  complete : ∀ y ∈ es, down y = true → ∀ o, otherEnd y = some o → ∀ z ∈ es, down z = true →
    SameEnds z o → ∃ w ∈ es, down w = true ∧ GraphEdge.cmp w o = .eq

/-- What the scan keeps of the edges `done` so far, having recorded `failed`: it recorded only
failed edges of `done`; for each failed edge of `done` it recorded the edge, or the other end of
its link from an edge that starts no later; and it recorded both directions of a link only for a
link from an interface to itself. -/
structure ScanInv (down : GraphEdge → Bool) (otherEnd : GraphEdge → Option GraphEdge)
    (done failed : List GraphEdge) : Prop where
  mem : ∀ y ∈ failed, y ∈ done ∧ down y = true
  covered : ∀ w ∈ done, down w = true → (∃ y ∈ failed, GraphEdge.cmp w y = .eq) ∨
    ∃ o, otherEnd w = some o ∧ ∃ u ∈ failed, GraphEdge.cmp o u = .eq ∧ startCmp u w ≠ .gt
  single : ∀ y ∈ failed, ∀ o, otherEnd y = some o → ∀ u ∈ failed, GraphEdge.cmp o u = .eq →
    SameEnds y o

variable {down : GraphEdge → Bool} {otherEnd : GraphEdge → Option GraphEdge}
  {es done rest : List GraphEdge} {e : GraphEdge}

theorem ScanInv.nil : ScanInv down otherEnd [] [] := ⟨by simp, by simp, by simp⟩

namespace ScanShape

theorem before (hs : ScanShape down otherEnd es) (hes : es = done ++ e :: rest) {u : GraphEdge}
    (hu : u ∈ done) (hdu : down u = true) (hde : down e = true) : startCmp u e ≠ .gt := by
  rw [hes] at hs
  exact (List.pairwise_append.1 hs.sorted).2.2 u hu e List.mem_cons_self hdu hde

theorem mem_done_of_lt (hs : ScanShape down otherEnd es) (hes : es = done ++ e :: rest)
    {w : GraphEdge} (hw : w ∈ es) (hdw : down w = true) (hde : down e = true)
    (hlt : startCmp w e = .lt) : w ∈ done := by
  rw [hes] at hs hw
  rcases List.mem_append.1 hw with hw | hw
  · exact hw
  · exfalso
    rcases List.mem_cons.1 hw with rfl | hw
    · rw [startCmp_self] at hlt
      cases hlt
    · have hle := (List.pairwise_cons.1 (List.pairwise_append.1 hs.sorted).2.1).1 w hw hde hdw
      exact hle (OrientedCmp.gt_iff_lt.2 hlt)

/-- When a failed edge `e` is recorded, no recorded edge `y` has `e` as its other end, unless
the link joins an interface to itself. The edge of the scan equal to the other end of `e` has
the ends of `y`, so it starts no later than `e`; so it was scanned before `e`, and either it or
the other end of its link was recorded then. Neither can be: the first is the other end of `e`,
which is not recorded, and the second starts where `e` starts, after `y`. -/
theorem sameEnds_of_recorded (hs : ScanShape down otherEnd es) (hes : es = done ++ e :: rest)
    {failed : List GraphEdge} (h : ScanInv down otherEnd done failed) (hde : down e = true)
    (hfresh : ∀ o, otherEnd e = some o → ∀ u ∈ failed, GraphEdge.cmp o u ≠ .eq)
    {y o : GraphEdge} (hy : y ∈ failed) (hyo : otherEnd y = some o) (hoe : GraphEdge.cmp o e = .eq) :
    SameEnds y o := by
  obtain ⟨hyd, hdy⟩ := h.mem y hy
  have hyE : y ∈ es := hes ▸ List.mem_append_left _ hyd
  have heE : e ∈ es := by rw [hes]; simp
  have hopp := hs.opposite y hyE hdy o hyo
  have hoe' := sameEnds_of_cmp_eq hoe
  have hye : Opposite y e := hopp.congr_right hoe'
  cases hc : startCmp y e with
  | eq => exact hopp.sameEnds_of_startCmp_eq (by rw [hoe'.startCmp_right]; exact hc)
  | gt => exact absurd hc (hs.before hes hyd hdy hde)
  | lt =>
    exfalso
    obtain ⟨oe, hoee⟩ := Option.isSome_iff_exists.1 (hs.has_other e heE hde (by rw [hye.2.1]; rfl))
    have hoppe := hs.opposite e heE hde oe hoee
    -- the other end of `e` has the ends of `y`, so the scan has an edge `w` equal to it
    have hoey : SameEnds oe y := hoppe.sameEnds hye.symm
    obtain ⟨w, hwE, hwd, hwo⟩ := hs.complete e heE hde oe hoee y hyE hdy hoey.symm
    have hwe : startCmp w e = .lt := by
      rw [((sameEnds_of_cmp_eq hwo).trans hoey).startCmp_left]
      exact hc
    rcases h.covered w (hs.mem_done_of_lt hes hwE hwd hde hwe) hwd with
      ⟨y', hy', hwy'⟩ | ⟨ow, how, u, hu, hou, hus⟩
    · exact hfresh oe hoee y' hy' (TransCmp.eq_trans (OrientedCmp.eq_symm hwo) hwy')
    · -- the recorded other end of `w` starts where `e` starts, yet no later than `w`
      have hwe' : Opposite w e := hoppe.symm.congr_left (sameEnds_of_cmp_eq hwo).symm
      have hue : SameEnds u e :=
        (sameEnds_of_cmp_eq hou).symm.trans ((hs.opposite w hwE hwd ow how).sameEnds hwe')
      have hlt : startCmp u e = .lt := TransCmp.lt_of_isLE_of_lt (Ordering.isLE_iff_ne_gt.2 hus) hwe
      rw [hue.startCmp_left, startCmp_self] at hlt
      cases hlt

theorem step (hs : ScanShape down otherEnd es) (hes : es = done ++ e :: rest)
    {failed : List GraphEdge} (h : ScanInv down otherEnd done failed) :
    ScanInv down otherEnd (done ++ [e]) (recordFailed down otherEnd failed e) := by
  unfold recordFailed
  split
  · -- `e` is recorded: no other end of it was
    next hrec =>
    simp only [Bool.and_eq_true, Bool.not_eq_true'] at hrec
    obtain ⟨hde, hnone⟩ := hrec
    have hfresh : ∀ o, otherEnd e = some o → ∀ u ∈ failed, GraphEdge.cmp o u ≠ .eq := by
      intro o ho u hu hou
      rw [ho, Option.any_some, Ordered.contains_iff.2 ⟨u, hu, hou⟩] at hnone
      cases hnone
    have hmem : ∀ y ∈ failed, y ∈ Ordered.insert GraphEdge.cmp e failed :=
      fun y hy => Ordered.mem_insert_of_mem hy
    refine ⟨fun y hy => ?_, fun w hw hdw => ?_, fun y hy o hyo u hu hou => ?_⟩
    · rcases Ordered.mem_insert hy with rfl | hy
      · exact ⟨by simp, hde⟩
      · exact ⟨List.mem_append_left _ (h.mem y hy).1, (h.mem y hy).2⟩
    · rcases List.mem_append.1 hw with hw | hw
      · rcases h.covered w hw hdw with ⟨y, hy, hwy⟩ | ⟨o, ho, u, hu, hou, hus⟩
        · exact .inl ⟨y, hmem y hy, hwy⟩
        · exact .inr ⟨o, ho, u, hmem u hu, hou, hus⟩
      · rw [List.mem_singleton.1 hw]
        exact .inl (Ordered.exists_mem_insert e failed)
    · rcases Ordered.mem_insert hy with hye | hy <;> rcases Ordered.mem_insert hu with hue | hu
      · rw [hye]
        rw [hue] at hou
        exact (sameEnds_of_cmp_eq hou).symm
      · rw [hye] at hyo
        exact absurd hou (hfresh o hyo u hu)
      · rw [hue] at hou
        exact hs.sameEnds_of_recorded hes h hde hfresh hy hyo hou
      · exact h.single y hy o hyo u hu hou
  · -- `e` is not recorded: it did not fail, or the other end of its link was recorded
    next hrec =>
    refine ⟨fun y hy => ⟨List.mem_append_left _ (h.mem y hy).1, (h.mem y hy).2⟩,
      fun w hw hdw => ?_, h.single⟩
    rcases List.mem_append.1 hw with hw | hw
    · exact h.covered w hw hdw
    · rw [List.mem_singleton.1 hw] at hdw ⊢
      simp only [hdw, Bool.true_and] at hrec
      obtain ⟨o, ho, hany⟩ := (Option.any_eq_true _ _).1 (by simpa using hrec)
      obtain ⟨u, hu, hou⟩ := Ordered.contains_iff.1 hany
      obtain ⟨hud, hdu⟩ := h.mem u hu
      exact .inr ⟨o, ho, u, hu, hou, hs.before hes hud hdu hdw⟩

theorem scanInv (hs : ScanShape down otherEnd es) :
    ScanInv down otherEnd es (scanFailed down otherEnd es) := by
  -- the scan of a prefix, continued over the rest
  suffices h : ∀ rest done, es = done ++ rest →
      ScanInv down otherEnd done (scanFailed down otherEnd done) →
      ScanInv down otherEnd es (scanFailed down otherEnd es) from h es [] rfl ScanInv.nil
  intro rest
  induction rest with
  | nil => intro done hes h; rwa [hes, List.append_nil]
  | cons e rest ih =>
    intro done hes h
    refine ih (done ++ [e]) (by simp [hes]) ?_
    rw [scanFailed, List.foldl_append, List.foldl_cons, List.foldl_nil]
    exact hs.step hes h

/-- Of the two directions of a failed link the scan records one, up to the order of edges, and
it records both only for a link from an interface to itself. -/
theorem recorded_once (hs : ScanShape down otherEnd es) {x o : GraphEdge} (hx : x ∈ es)
    (hdx : down x = true) (hxo : otherEnd x = some o) :
    ((∃ y ∈ scanFailed down otherEnd es, GraphEdge.cmp x y = .eq) ∨
      ∃ y ∈ scanFailed down otherEnd es, GraphEdge.cmp o y = .eq) ∧
    ((∃ y ∈ scanFailed down otherEnd es, GraphEdge.cmp x y = .eq) →
      (∃ y ∈ scanFailed down otherEnd es, GraphEdge.cmp o y = .eq) → SameEnds x o) := by
  have h := hs.scanInv
  refine ⟨?_, fun hrec horec => ?_⟩
  · rcases h.covered x hx hdx with hrec | ⟨o', ho', u, hu, hou, -⟩
    · exact .inl hrec
    · rw [hxo] at ho'
      cases ho'
      exact .inr ⟨u, hu, hou⟩
  · obtain ⟨y, hy, hxy⟩ := hrec
    obtain ⟨u, hu, hou⟩ := horec
    have hyo : otherEnd y = some o := (hs.congr x y hxy) ▸ hxo
    exact (sameEnds_of_cmp_eq hxy).trans (h.single y hy o hyo u hu hou)

theorem recorded_of_none (hs : ScanShape down otherEnd es) {x : GraphEdge} (hx : x ∈ es)
    (hdx : down x = true) (hxo : otherEnd x = none) :
    ∃ y ∈ scanFailed down otherEnd es, GraphEdge.cmp x y = .eq := by
  rcases hs.scanInv.covered x hx hdx with hrec | ⟨o, ho, -⟩
  · exact hrec
  · rw [hxo] at ho
    cases ho

end ScanShape

end Order

end Counterexample

end ControlPlane
