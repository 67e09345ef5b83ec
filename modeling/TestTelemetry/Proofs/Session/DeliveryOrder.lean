/-
The order in which results arrive.

Two results that arrive one after the other can change places, as long as their coverage fits
together: flags and counts are joined, records are merged, and of two results for one module the
second finds nothing to end.  So a whole list of results can arrive in any order.

* `Session.deliver` — some results arrive, one after the other;
* `Outline.accept_right_comm` — two results change places;
* `Session.deliver_perm` — neither what was gathered nor the summary depends on the order.
-/
import TestTelemetry.Proofs.Coverage.Merge
import TestTelemetry.Proofs.Outcome.RollUp
import TestTelemetry.Proofs.Session.Outline

namespace TestTelemetry

/-- What two results add can be added in either order. -/
theorem Totals.add_right_comm (t : Totals) (x y : ModuleResult) :
    (t.add x).add y = (t.add y).add x := by
  have hmodules : ((t.add x).add y).modules = ((t.add y).add x).modules := by
    show (statusOf y).elim ((statusOf x).elim t.modules t.modules.record) _ = _
    unfold add
    cases statusOf x with
    | none => cases statusOf y <;> rfl
    | some a =>
      cases statusOf y with
      | none => rfl
      | some b => exact t.modules.record_right_comm a b
  have hskipped : t.testsSkipped + x.testsSkipped + y.testsSkipped =
      t.testsSkipped + y.testsSkipped + x.testsSkipped := by
    rw [UInt64.add_assoc, UInt64.add_comm x.testsSkipped, ← UInt64.add_assoc]
  unfold add at hmodules ⊢
  simp only [Totals.mk.injEq] at hmodules ⊢
  exact ⟨Bool.or_right_comm .., Bool.or_right_comm .., Bool.or_right_comm ..,
    Bool.or_right_comm .., hskipped, hmodules, trivial⟩

/-- The coverage of some results fits together, and fits what is held. -/
structure FitTogether (held : CoverageStore) (rs : List ModuleResult) : Prop where
  with_held : ∀ r ∈ rs, ∀ x, r.coverage = some x → held.Compatible x
  with_each : ∀ r ∈ rs, ∀ r' ∈ rs, ∀ x y, r.coverage = some x → r'.coverage = some y →
    x.Compatible y

namespace FitTogether

variable {held : CoverageStore} {r : ModuleResult} {rs rs' : List ModuleResult}

theorem perm (h : FitTogether held rs) (hperm : rs.Perm rs') : FitTogether held rs' where
  with_held := fun r hr => h.with_held r (hperm.mem_iff.mpr hr)
  with_each := fun r hr r' hr' =>
    h.with_each r (hperm.mem_iff.mpr hr) r' (hperm.mem_iff.mpr hr')

/-- Results that fit still do when the first of them has been merged. -/
theorem merge (h : FitTogether held (r :: rs)) {x : CoverageStore} (hx : r.coverage = some x) :
    FitTogether (held.merge x) rs where
  with_held := by
    intro r' hr' y hy
    have hmem : r' ∈ r :: rs := List.mem_cons_of_mem _ hr'
    exact (h.with_held r (List.mem_cons_self ..) x hx).merge_left (h.with_held r' hmem y hy)
      (h.with_each r (List.mem_cons_self ..) r' hmem x y hx hy)
  with_each := fun r₁ h₁ r₂ h₂ =>
    h.with_each r₁ (List.mem_cons_of_mem _ h₁) r₂ (List.mem_cons_of_mem _ h₂)

theorem tail (h : FitTogether held (r :: rs)) : FitTogether held rs where
  with_held := fun r' hr' => h.with_held r' (List.mem_cons_of_mem _ hr')
  with_each := fun r₁ h₁ r₂ h₂ =>
    h.with_each r₁ (List.mem_cons_of_mem _ h₁) r₂ (List.mem_cons_of_mem _ h₂)

end FitTogether

namespace Outline

variable {o : Outline} {x y : ModuleResult} {rs rs' : List ModuleResult}

/-! ### Two results -/

/-- Who a result belongs to once another has ended a module: a name is free after that. -/
theorem owner?_release (o : Outline) (x y : ModuleResult) :
    (o.release x).owner? y =
      if (o.owner? x).isSome ∧ x.moduleName = y.moduleName then none else o.owner? y := by
  unfold release
  cases hx : o.owner? x with
  | none => simp
  | some p =>
    simp only [owner?, Keyed.find?_erase, Option.isSome_some, true_and]
    by_cases hname : x.moduleName = y.moduleName
    · rw [if_pos hname, if_pos hname]
      rfl
    · rw [if_neg hname, if_neg hname]
      congr 1
      funext place
      rw [List.getElem?_modify]
      cases o.modules[place]? with
      | none => rfl
      | some m =>
        show (if (if p = place then m.seal else m).descriptor.id = _ then _ else _) = _
        split <;> rfl

/-- A result belongs to the module that is active under its name. -/
theorem places_find?_of_owner? {p : Nat} (h : o.owner? x = some p) :
    o.places.find? x.moduleName = some p := by
  obtain ⟨place, hplace, h⟩ := Option.bind_eq_some_iff.mp h
  obtain ⟨m, -, h⟩ := Option.bind_eq_some_iff.mp h
  obtain ⟨-, h⟩ := Option.ite_none_right_eq_some.mp h
  rw [hplace, h]

/-- The modules that two results end can end in either order. -/
theorem release_right_comm (o : Outline) (x y : ModuleResult) :
    (o.release x).release y = (o.release y).release x := by
  have hxy := o.owner?_release x y
  have hyx := o.owner?_release y x
  cases hx : o.owner? x with
  | none =>
    -- The first result ends nothing, and it still does not after the second.
    have hsame : o.release x = o := by rw [release, hx]
    rw [hx, ite_self] at hyx
    rw [hsame, release.eq_def (o.release y) x, hyx]
  | some p =>
    cases hy : o.owner? y with
    | none =>
      have hsame : o.release y = o := by rw [release, hy]
      rw [hy, ite_self] at hxy
      rw [hsame, release.eq_def (o.release x) y, hxy]
    | some q =>
      rw [hx, hy] at hxy hyx
      by_cases hname : x.moduleName = y.moduleName
      · -- The second result finds that the module has ended.
        have hpq : p = q := by
          have hp := places_find?_of_owner? hx
          rw [hname, places_find?_of_owner? hy, Option.some_inj] at hp
          exact hp.symm
        rw [if_pos ⟨rfl, hname⟩] at hxy
        rw [if_pos ⟨rfl, hname.symm⟩] at hyx
        rw [release.eq_def (o.release x) y, hxy, release.eq_def (o.release y) x, hyx]
        simp only [release, hx, hy, hpq, hname]
      · rw [if_neg (fun h => hname h.2)] at hxy
        rw [if_neg (fun h => hname h.2.symm)] at hyx
        rw [release.eq_def (o.release x) y, hxy, release.eq_def (o.release y) x, hyx]
        simp only [release, hx, hy, Keyed.erase_comm o.places x.moduleName,
          modify_comm (l := o.modules) (m := p) fun _ => rfl]

/-- What a result adds has nothing to do with the modules that end. -/
theorem gain_release (o : Outline) (x y : ModuleResult) :
    (o.release x).gain y = (o.gain y).release x := by
  have howner : (o.gain y).owner? x = o.owner? x := rfl
  unfold release
  rw [howner]
  cases o.owner? x <;> rfl

/-- What two results add can be added in either order if their coverage fits. -/
theorem gain_right_comm (hfit : FitTogether o.coverage [x, y]) :
    (o.gain x).gain y = (o.gain y).gain x := by
  have hcoverage : ((o.gain x).gain y).coverage = ((o.gain y).gain x).coverage := by
    unfold gain
    cases hx : x.coverage with
    | none => cases y.coverage <;> rfl
    | some c =>
      cases hy : y.coverage with
      | none => rfl
      | some d =>
        exact CoverageStore.merge_right_comm (hfit.with_held x (by simp) c hx)
          (hfit.with_held y (by simp) d hy) (hfit.with_each x (by simp) y (by simp) c d hx hy)
  have htotals : ((o.gain x).gain y).totals = ((o.gain y).gain x).totals :=
    o.totals.add_right_comm x y
  show Outline.mk _ _ _ _ _ _ = Outline.mk _ _ _ _ _ _
  rw [Outline.mk.injEq]
  exact ⟨htotals, hcoverage, rfl, rfl, rfl, rfl⟩

theorem closed_release (o : Outline) (x : ModuleResult) : (o.release x).closed = o.closed := by
  unfold release
  cases o.owner? x <;> rfl

/-- Two results can change places if their coverage fits. -/
theorem accept_right_comm (hfit : FitTogether o.coverage [x, y]) :
    (o.accept x).accept y = (o.accept y).accept x := by
  by_cases hclosed : o.closed
  · have hsame : ∀ r, o.accept r = o := fun r => if_pos hclosed
    rw [hsame, hsame, hsame]
  · have hfirst : ∀ r, o.accept r = (o.gain r).release r := fun r => if_neg hclosed
    have hsecond : ∀ r r', ((o.gain r).release r).accept r' =
        (((o.gain r).release r).gain r').release r' := by
      intro r r'
      refine if_neg ?_
      rw [closed_release]
      exact hclosed
    -- Gains move past releases, so that gains and releases each change places.
    rw [hfirst, hfirst, hsecond, hsecond, gain_release, gain_release, gain_right_comm hfit,
      release_right_comm]

/-! ### Any number of results -/

/-- Results that fit still do when the first of them has arrived. -/
theorem fitTogether_accept (hfit : FitTogether o.coverage (x :: rs)) :
    FitTogether (o.accept x).coverage rs := by
  unfold accept
  by_cases hclosed : o.closed
  · rw [if_pos hclosed]
    exact hfit.tail
  · have hcoverage : ((o.gain x).release x).coverage = (o.gain x).coverage := by
      unfold release
      cases (o.gain x).owner? x <;> rfl
    rw [if_neg hclosed, hcoverage]
    unfold gain
    cases hx : x.coverage with
    | none => exact hfit.tail
    | some c => exact hfit.merge hx

/-- Results can arrive in any order if their coverage fits. -/
theorem foldl_accept_perm (hperm : rs.Perm rs') (hfit : FitTogether o.coverage rs) :
    rs.foldl accept o = rs'.foldl accept o := by
  -- The induction is on the permutation; what fits still does after every result.
  induction hperm generalizing o with
  | nil => rfl
  | cons r _ ih => exact ih (fitTogether_accept hfit)
  | swap x y rest =>
    have htwo : FitTogether o.coverage [y, x] := by
      constructor
      · exact fun r hr => hfit.with_held r (by simp at hr ⊢; tauto)
      · exact fun r hr r' hr' =>
          hfit.with_each r (by simp at hr ⊢; tauto) r' (by simp at hr' ⊢; tauto)
    rw [List.foldl_cons, List.foldl_cons, List.foldl_cons, List.foldl_cons,
      accept_right_comm htwo]
  | trans h₁ _ ih₁ ih₂ => rw [ih₁ hfit, ih₂ (hfit.perm h₁)]

end Outline

namespace Session

/-- Some results arrive, one after the other. -/
def deliver (s : Session) (rs : List ModuleResult) : Session :=
  rs.foldl (fun s r => (s.acceptResult r).2) s

/-- Results that arrive, seen on the outline.  Nothing else changes. -/
theorem outline_deliver (s : Session) (rs : List ModuleResult) :
    ∃ a, s.deliver rs = { s with aggregator := a } ∧
      a.outline = rs.foldl Outline.accept s.aggregator.outline := by
  induction rs generalizing s with
  | nil => exact ⟨s.aggregator, rfl, rfl⟩
  | cons r rest ih =>
    obtain ⟨a, ha, hao⟩ := ih (s.acceptResult r).2
    refine ⟨a, ha, ?_⟩
    rw [hao, List.foldl_cons, ← Aggregator.outline_accept]
    rfl

/-- **The order in which results arrive does not matter.**  If the coverage of the results fits
together and fits what the session holds, then in whatever order they arrive, the session has
gathered the same totals and the same coverage, the same modules are still active, and its end has
the same summary and writes the same files. -/
theorem deliver_perm (s : Session) (t : FileTree) {rs rs' : List ModuleResult}
    (hperm : rs.Perm rs') (hfit : FitTogether s.aggregator.coverage rs) :
    (s.deliver rs).totals = (s.deliver rs').totals ∧
      (s.deliver rs).aggregator.coverage = (s.deliver rs').aggregator.coverage ∧
      (s.deliver rs).registry.active.map (fun m => (m.1, m.2.outline)) =
        (s.deliver rs').registry.active.map (fun m => (m.1, m.2.outline)) ∧
      ((s.deliver rs).finish t).1 = ((s.deliver rs').finish t).1 ∧
      ((s.deliver rs).finish t).2.2 = ((s.deliver rs').finish t).2.2 := by
  obtain ⟨a, ha, hao⟩ := s.outline_deliver rs
  obtain ⟨b, hb, hbo⟩ := s.outline_deliver rs'
  have hout : a.outline = b.outline := by
    rw [hao, hbo]
    exact Outline.foldl_accept_perm hperm hfit
  rw [ha, hb]
  refine ⟨congrArg Outline.totals hout, congrArg Outline.coverage hout, ?_,
    s.finish_of_outline hout t⟩
  show a.registry.active.map _ = b.registry.active.map _
  rw [← Aggregator.active_outline, ← Aggregator.active_outline, hout]

/-- Two results for one active module, the second of which ends nothing, both with coverage of the
same class: whichever arrives first, the session ends with the same summary. -/
theorem two_results_for_one_module :
    let created : Session := ⟨"s", .initial "project" "build", .running, .empty, .empty,
      .always .initial, .empty, .given (.failed []), 1, SignalServer.anyPort⟩
    let s := (created.enterModule ⟨"s", 1, "core", [], none⟩ .initial).2
    let c := CoverageStore.ofList [⟨7, "A", [true, false]⟩]
    let x : ModuleResult := ⟨"s", 1, "core", true, false, false, false, some "pass", 2, some c⟩
    let y : ModuleResult := ⟨"s", 1, "core", false, true, false, false, some "fail", 3, some c⟩
    FitTogether s.aggregator.coverage [x, y] ∧
      (s.deliver [x, y]).totals = ⟨true, true, false, false, 5, ⟨1, 1, 0⟩, 2⟩ ∧
      (s.deliver [x, y]).totals = (s.deliver [y, x]).totals ∧
      ((s.deliver [x, y]).finish ⟨[], [], [], []⟩).1 = ((s.deliver [y, x]).finish ⟨[], [], [], []⟩).1 := by
  intro created s c x y
  have hfit : FitTogether s.aggregator.coverage [x, y] := by
    constructor
    · exact fun _ _ c' _ => .empty_left c'
    · intro r hr r' hr' d d' hd hd'
      have hc : ∀ r ∈ [x, y], ∀ d, r.coverage = some d → d = c := by
        simp only [List.mem_cons, List.not_mem_nil, or_false, forall_eq_or_imp, forall_eq]
        exact ⟨fun d hd => (Option.some_inj.mp hd).symm, fun d hd => (Option.some_inj.mp hd).symm⟩
      rw [hc r hr d hd, hc r' hr' d' hd']
      exact .refl c
  obtain ⟨htotals, -, -, hsummary, -⟩ := s.deliver_perm ⟨[], [], [], []⟩ (.swap y x []) hfit
  exact ⟨hfit, rfl, htotals, hsummary⟩

end Session

end TestTelemetry
