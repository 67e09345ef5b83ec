/-
Every module leaves once.

A module leaves the registry of its session because a worker's result removes it, because it ends in
the session's own process and its result comes back to the registry, or because the session ends.
Whatever the order, the registry holds exactly the modules that were started and have not ended.

* `Session.Change`, `Session.step_spec` — one step starts a module, ends one, or leaves them alone;
* `Session.starts_eq`, `Session.removals_nodup`, `Session.total_follow` — what follows along a run;
* `Session.endActive_spec`, `Session.finish_spec` — the end of the session ends what is left;
* `Session.modules_accounted` — what holds of the modules along every run, and at its end.
-/
import TestTelemetry.Proofs.Session.RosterSteps
import TestTelemetry.Proofs.Session.Signals
import TestTelemetry.Proofs.Session.Outline

namespace TestTelemetry

namespace Session

variable {s s₀ : Session} {x : SessionStep} {steps : List SessionStep}

/-! ### One step -/

/-- A session that takes results and whose roster is sound. -/
structure Sound (s : Session) : Prop where
  isOpen : s.aggregator.closed = false
  roster : s.roster.Sound

/-- What one step comes to for the modules of a session. -/
inductive Change (s : Session) (x : SessionStep) : Prop
  /-- A module is started under a name that is free. -/
  | enter (d : ModuleDescriptor) (asked : x.asksForModule = true)
      (free : s.roster.places.find? d.name = none) (number : d.id = s.nextModuleId)
      (next : (s.step x).nextModuleId = s.nextModuleId + 1)
      (roster : (s.step x).roster = s.roster.enter d)
      (started : s.started? x = some s.roster.modules.length) (removed : s.removal? x = none)
      (totals : (s.step x).totals.modules.total = s.totals.modules.total)
  /-- A module ends; its own result, or one that counts, is counted. -/
  | leave (place : Nat) (d : ModuleDescriptor) (running : s.roster.runningAt? place = some d)
      (next : (s.step x).nextModuleId = s.nextModuleId)
      (roster : (s.step x).roster = s.roster.leave place)
      (started : s.started? x = none) (removed : ∀ p, s.removal? x = some p → p = place)
      (totals : s.Counts x → (s.step x).totals.modules.total = s.totals.modules.total + 1)
  /-- All modules stay; a number is used up when a module is refused. -/
  | stay (next : (s.step x).nextModuleId = s.nextModuleId ∨
        x.asksForModule = true ∧ (s.step x).nextModuleId = s.nextModuleId + 1)
      (roster : (s.step x).roster = s.roster)
      (started : s.started? x = none) (removed : s.removal? x = none)
      (totals : s.Counts x → (s.step x).totals.modules.total = s.totals.modules.total)

theorem moduleResult_answer (hopen : s.aggregator.closed = false) (t : FileTree)
    (r : ModuleResult) :
    (handle (handlers t) (.moduleResult r) s).1 =
      .moduleAck (s.registry.owner? r).isSome := by
  rw [handle_moduleResult, (acceptResult_eq hopen r).1]

theorem removal?_moduleResult (hopen : s.aggregator.closed = false) (t : FileTree)
    (r : ModuleResult) : s.removal? (.signal t (.moduleResult r)) = s.registry.owner? r := by
  show (if (handle (handlers t) (.moduleResult r) s).1 = .moduleAck true then _ else none) = _
  rw [moduleResult_answer hopen]
  cases s.registry.owner? r with
  | none => rfl
  | some place => exact if_pos rfl

/-- Every step starts one module, ends one, or leaves them alone. -/
theorem step_spec (h : s.Sound) (x : SessionStep) :
    (s.step x).aggregator.closed = false ∧ (s.step x).phase = s.phase ∧ s.Change x := by
  cases x with
  | startModule t name outputDirs =>
    obtain ⟨e, settings, n, hstart, hn⟩ | ⟨settings, a, d, hstart, rfl, hid, hfree, hclosed,
      htotals, hroster⟩ := s.startModule_cases t name outputDirs
    · have hstep : s.step (.startModule t name outputDirs) =
          { s with settings := settings, nextModuleId := n } := congrArg Prod.snd hstart
      have hstarted : s.started? (.startModule t name outputDirs) = none :=
        congrArg (fun answer => answer.1.toOption) hstart
      rw [hstep]
      refine ⟨h.isOpen, rfl, .stay ?_ ?_ hstarted rfl ?_⟩
      · rw [hstep]
        exact hn.imp_right fun hn => ⟨rfl, hn⟩
      · rw [hstep]
        rfl
      · rw [hstep]
        exact fun _ => rfl
    · have hstep : s.step (.startModule t d.name outputDirs) =
          { s with settings := settings, nextModuleId := s.nextModuleId + 1, aggregator := a } :=
        congrArg Prod.snd hstart
      have hstarted : s.started? (.startModule t d.name outputDirs) =
          some s.roster.modules.length := congrArg (fun answer => answer.1.toOption) hstart
      rw [hstep]
      refine ⟨hclosed.trans h.isOpen, rfl,
        .enter d rfl (Registry.places_find?_eq_none h.roster hfree) hid ?_ ?_ hstarted rfl ?_⟩
      · rw [hstep]
      · rw [hstep]
        exact hroster
      · rw [hstep]
        exact congrArg (fun totals => totals.modules.total) htotals
  | endModule place =>
    obtain ⟨a, hend, hclosed, hroster, htotals⟩ := endModule_cases h.isOpen h.roster place
    have hstep : s.step (.endModule place) = { s with aggregator := a } := hend
    rw [hstep]
    refine ⟨hclosed, rfl, ?_⟩
    cases hrun : s.roster.runningAt? place with
    | none =>
      rw [hrun] at htotals
      rw [Roster.leave_of_none hrun] at hroster
      exact .stay (.inl (hstep ▸ rfl)) (hstep ▸ hroster) rfl rfl fun _ => hstep ▸ htotals
    | some d =>
      rw [hrun] at htotals
      exact .leave place d hrun (hstep ▸ rfl) (hstep ▸ hroster) rfl (fun p hp => by cases hp)
        fun _ => hstep ▸ htotals
  | signal t signal =>
    cases signal with
    | moduleResult r =>
      have hroster : (s.step (.signal t (.moduleResult r))).roster =
          (s.registry.owner? r).elim s.roster s.roster.leave :=
        roster_acceptResult h.isOpen h.roster r
      have htotals : s.Counts (.signal t (.moduleResult r)) →
          (s.step (.signal t (.moduleResult r))).totals.modules.total =
            s.totals.modules.total + 1 := by
        rintro ⟨-, hstatus⟩
        show (s.acceptResult r).2.totals.modules.total = _
        rw [(acceptResult_eq h.isOpen r).2.2, Totals.total_add, if_pos hstatus]
      have hremoval := removal?_moduleResult h.isOpen t r
      refine ⟨closed_acceptResult h.isOpen r, rfl, ?_⟩
      cases howner : s.registry.owner? r with
      | none =>
        rw [howner] at hroster hremoval
        refine .stay (.inl rfl) hroster rfl hremoval fun ⟨hack, _⟩ => ?_
        -- A result of nobody is not acknowledged, so it does not count.
        rw [moduleResult_answer h.isOpen, howner] at hack
        exact absurd hack (by simp)
      | some place =>
        rw [howner] at hroster hremoval
        obtain ⟨m, hmem, -⟩ := (Registry.owner?_eq_some_iff h.roster).mp howner
        obtain ⟨hm, hended⟩ := (Registry.mem_active_iff h.roster).mp hmem
        exact .leave place m.descriptor (Registry.runningAt?_roster.mpr ⟨m, hm, hended, rfl⟩) rfl
          hroster rfl (fun p hp => Option.some_inj.mp (hp.symm.trans hremoval)) htotals
    | repoIndex => exact ⟨h.isOpen, rfl, .stay (.inl rfl) rfl rfl rfl fun _ => rfl⟩
    | moduleSettings q => exact ⟨h.isOpen, rfl, .stay (.inl rfl) rfl rfl rfl fun _ => rfl⟩
  | work w keeps =>
    have hroster : (s.step (.work w keeps)).roster = s.roster :=
      congrArg (Roster.mk _) (s.run.standings_step keeps)
    exact ⟨h.isOpen, rfl, .stay (.inl rfl) hroster rfl rfl fun _ => rfl⟩

theorem Sound.step (h : s.Sound) (x : SessionStep) : (s.step x).Sound := by
  obtain ⟨hopen, -, hchange⟩ := step_spec h x
  refine ⟨hopen, ?_⟩
  cases hchange with
  | enter d asked free number next roster => exact roster ▸ h.roster.enter free
  | leave place d running next roster => exact roster ▸ h.roster.leave place
  | stay next roster => exact roster ▸ h.roster

/-! ### Along a run -/

theorem Sound.follow (h : s.Sound) (steps : List SessionStep) : (s.follow steps).Sound := by
  induction steps generalizing s with
  | nil => exact h
  | cons x rest ih => exact ih (h.step x)

theorem phase_follow (h : s.Sound) (steps : List SessionStep) :
    (s.follow steps).phase = s.phase := by
  induction steps generalizing s with
  | nil => rfl
  | cons x rest ih => exact (ih (h.step x)).trans (step_spec h x).2.1

/-- The modules that are started stand at the next places, one after the other. -/
theorem starts_eq (h : s.Sound) (steps : List SessionStep) :
    ∃ n, s.starts steps = List.range' s.roster.modules.length n ∧
      (s.follow steps).roster.modules.length = s.roster.modules.length + n := by
  induction steps generalizing s with
  | nil => exact ⟨0, rfl, rfl⟩
  | cons x rest ih =>
    obtain ⟨n, hstarts, hlength⟩ := ih (h.step x)
    have hsplit : s.starts (x :: rest) = (s.started? x).toList ++ (s.step x).starts rest := rfl
    have hlater : (s.follow (x :: rest)).roster.modules.length =
        (s.step x).roster.modules.length + n := hlength
    -- Only a module that enters makes the roster longer.
    have hstays : s.started? x = none →
        (s.step x).roster.modules.length = s.roster.modules.length →
        ∃ n, s.starts (x :: rest) = List.range' s.roster.modules.length n ∧
          (s.follow (x :: rest)).roster.modules.length = s.roster.modules.length + n := by
      intro hstarted hsame
      refine ⟨n, ?_, hsame ▸ hlater⟩
      rw [hsplit, hstarted, hstarts, hsame]
      rfl
    cases (step_spec h x).2.2 with
    | enter d asked free number next roster started =>
      have hnext : (s.step x).roster.modules.length = s.roster.modules.length + 1 := by
        rw [roster, Roster.length_enter]
      refine ⟨n + 1, ?_, ?_⟩
      · rw [hsplit, started, hstarts, hnext]
        rfl
      · rw [hlater, hnext]
        omega
    | leave place d running next roster started =>
      exact hstays started (by rw [roster, Roster.length_leave])
    | stay next roster started => exact hstays started (by rw [roster])

theorem endedAt_step (h : s.Sound) {place : Nat} (hended : s.roster.EndedAt place) :
    (s.step x).roster.EndedAt place := by
  cases (step_spec h x).2.2 with
  | enter d asked free number next roster => exact roster ▸ hended.enter d
  | leave other d running next roster => exact roster ▸ hended.leave other
  | stay next roster => exact roster ▸ hended

/-- A result removes a module that runs, which has ended then. -/
theorem endedAt_of_removal? (h : s.Sound) {place : Nat} (hremoval : s.removal? x = some place) :
    (∃ d, s.roster.runningAt? place = some d) ∧ (s.step x).roster.EndedAt place := by
  cases (step_spec h x).2.2 with
  | enter d asked free number next roster started removed =>
    exact absurd (removed.symm.trans hremoval) (by simp)
  | leave other d running next roster started removed =>
    obtain rfl := removed place hremoval
    exact ⟨⟨d, running⟩, roster ▸ Roster.endedAt_leave running⟩
  | stay next roster started removed => exact absurd (removed.symm.trans hremoval) (by simp)

/-- Results remove no module twice, and none that has ended. -/
theorem removals_nodup (h : s.Sound) (steps : List SessionStep) :
    (s.removals steps).Nodup ∧ ∀ place ∈ s.removals steps, ¬ s.roster.EndedAt place := by
  -- The second part carries the induction: what is removed now has ended for all that follows.
  induction steps generalizing s with
  | nil => exact ⟨.nil, fun place hplace => absurd hplace List.not_mem_nil⟩
  | cons x rest ih =>
    obtain ⟨hnodup, hlater⟩ := ih (h.step x)
    have hsplit : s.removals (x :: rest) = (s.removal? x).toList ++ (s.step x).removals rest := rfl
    have hrest : ∀ place ∈ (s.step x).removals rest, ¬ s.roster.EndedAt place :=
      fun place hplace hended => hlater place hplace (endedAt_step h hended)
    rw [hsplit]
    cases hremoval : s.removal? x with
    | none => exact ⟨hnodup, hrest⟩
    | some place =>
      obtain ⟨⟨d, hrunning⟩, hended⟩ := endedAt_of_removal? h hremoval
      refine ⟨List.nodup_cons.mpr ⟨fun hagain => hlater place hagain hended, hnodup⟩, ?_⟩
      rintro other (_ | ⟨_, hother⟩)
      · exact fun hgone => absurd (hgone.2.symm.trans hrunning) (by simp)
      · exact hrest other hother

theorem lt_of_mem_removals (h : s.Sound) (steps : List SessionStep) :
    ∀ place ∈ s.removals steps, place < (s.follow steps).roster.modules.length := by
  induction steps generalizing s with
  | nil => exact fun place hplace => absurd hplace List.not_mem_nil
  | cons x rest ih =>
    intro place hplace
    rcases List.mem_append.mp (show place ∈ (s.removal? x).toList ++ (s.step x).removals rest from
      hplace) with hnow | hlater
    · obtain ⟨-, hended⟩ := endedAt_of_removal? h (Option.mem_toList.mp hnow)
      obtain ⟨n, -, hlength⟩ := starts_eq (h.step x) rest
      exact Nat.lt_of_lt_of_le hended.1 (show _ ≤ ((s.step x).follow rest).roster.modules.length by
        omega)
    · exact ih (h.step x) place hlater

/-- When every worker's result counts, each module that ends is counted once. -/
theorem total_follow (h : s.Sound) (steps : List SessionStep) (hcounts : s.EachResultCounts steps) :
    (s.follow steps).totals.modules.total + s.roster.endedCount =
      s.totals.modules.total + (s.follow steps).roster.endedCount := by
  induction steps generalizing s with
  | nil => rfl
  | cons x rest ih =>
    obtain ⟨hnow, hlater⟩ := eachResultCounts_cons.mp hcounts
    have hrest := ih (h.step x) hlater
    show ((s.step x).follow rest).totals.modules.total + _ =
      _ + ((s.step x).follow rest).roster.endedCount
    cases (step_spec h x).2.2 with
    | enter d asked free number next roster started removed totals =>
      rw [roster, Roster.endedCount_enter] at hrest
      omega
    | leave place d running next roster started removed totals =>
      rw [roster, Roster.endedCount_leave, running] at hrest
      have htotals := totals hnow
      simp only [Option.isSome_some, if_true] at hrest
      omega
    | stay next roster started removed totals =>
      rw [roster] at hrest
      have htotals := totals hnow
      omega

/-! ### Numbers -/

/-- The modules carry the numbers that were given to them, each larger than the one before; so many
numbers were given so far, to modules that were started and to refused ones. -/
def Numbered (s : Session) (given : Nat) : Prop :=
  s.nextModuleId = UInt64.ofNat (given + 1) ∧
    ∃ ks : List Nat, s.roster.modules.map (·.descriptor.id) = ks.map UInt64.ofNat ∧
      ks.Pairwise (· < ·) ∧ ∀ k ∈ ks, 0 < k ∧ k ≤ given

theorem numbered_step (h : s.Sound) {given : Nat} (hnumbered : s.Numbered given)
    (x : SessionStep) :
    ∃ later ≤ given + if x.asksForModule then 1 else 0, (s.step x).Numbered later := by
  obtain ⟨hnext, ks, hks, hsorted, hbound⟩ := hnumbered
  have hafter : s.nextModuleId + 1 = UInt64.ofNat (given + 1 + 1) := by
    rw [hnext]
    exact (UInt64.ofNat_add ..).symm
  have hmore : ∀ k ∈ ks, 0 < k ∧ k ≤ given + 1 :=
    fun k hk => ⟨(hbound k hk).1, Nat.le_succ_of_le (hbound k hk).2⟩
  cases (step_spec h x).2.2 with
  | enter d asked free number next roster =>
    refine ⟨given + 1, by simp [asked], next.trans hafter, ks ++ [given + 1], ?_, ?_, ?_⟩
    · rw [roster, Roster.enter, List.map_append, List.map_append, hks]
      exact congrArg (fun id => ks.map UInt64.ofNat ++ [id]) (number.trans hnext)
    · refine List.pairwise_append.mpr ⟨hsorted, List.pairwise_singleton .., ?_⟩
      intro k hk j hj
      rw [List.mem_singleton.mp hj]
      exact Nat.lt_succ_of_le (hbound k hk).2
    · intro k hk
      rcases List.mem_append.mp hk with hk | hk
      · exact hmore k hk
      · rw [List.mem_singleton.mp hk]
        exact ⟨Nat.succ_pos given, Nat.le_refl _⟩
  | leave place d running next roster =>
    refine ⟨given, Nat.le_add_right .., next.trans hnext, ks, ?_, hsorted, hbound⟩
    have hsame := congrArg (List.map ModuleDescriptor.id) (s.roster.descriptors_leave place)
    rw [List.map_map, List.map_map] at hsame
    rw [← hks, roster]
    exact hsame
  | stay next roster =>
    rcases next with hsame | ⟨asked, hused⟩
    · exact ⟨given, Nat.le_add_right .., hsame.trans hnext, ks, by rw [roster, hks], hsorted,
        hbound⟩
    · exact ⟨given + 1, by simp [asked], hused.trans hafter, ks, by rw [roster, hks], hsorted,
        hmore⟩

theorem numbered_follow (h : s.Sound) {given : Nat} (hnumbered : s.Numbered given)
    (steps : List SessionStep) :
    ∃ later ≤ given + steps.countP SessionStep.asksForModule, (s.follow steps).Numbered later := by
  induction steps generalizing s given with
  | nil => exact ⟨given, Nat.le_refl _, hnumbered⟩
  | cons x rest ih =>
    obtain ⟨now, hnow, hstep⟩ := numbered_step h hnumbered x
    obtain ⟨later, hlater, hrest⟩ := ih (h.step x) hstep
    refine ⟨later, ?_, hrest⟩
    rw [List.countP_cons]
    omega

/-- Numbers differ as long as no more were given than there are. -/
theorem Numbered.nodup {given : Nat} (h : s.Numbered given) (hgiven : given ≤ UInt64.size) :
    (s.roster.modules.map (·.descriptor.id)).Nodup := by
  obtain ⟨-, ks, hks, hsorted, hbound⟩ := h
  rw [hks, List.Nodup, List.pairwise_map]
  -- Sorted numbers that are at most so many have different remainders.
  refine hsorted.imp_of_mem fun {j k} hj hk hlt heq => ?_
  have hmod := congrArg UInt64.toNat heq
  rw [UInt64.toNat_ofNat', UInt64.toNat_ofNat'] at hmod
  have hj := hbound j hj
  have hk := hbound k hk
  rw [UInt64.size] at hgiven
  omega

/-! ### The end -/

theorem endActive_eq_follow (s : Session) :
    s.endActive = s.follow (s.registry.active.map fun m => .endModule m.1) := by
  rw [follow, List.foldl_map]
  rfl

theorem roster_endModules (h : s.Sound) (l : List (Nat × ModuleRun)) :
    (s.follow (l.map fun m => .endModule m.1)).roster =
      (l.map (·.1)).foldl Roster.leave s.roster := by
  induction l generalizing s with
  | nil => rfl
  | cons m rest ih =>
    obtain ⟨a, hend, -, hroster, -⟩ := endModule_cases h.isOpen h.roster m.1
    have hstep : (s.step (.endModule m.1)).roster = s.roster.leave m.1 := by
      rw [← hroster]
      exact congrArg Session.roster hend
    have hrest := ih (h.step (.endModule m.1))
    rw [hstep] at hrest
    exact hrest

/-- No module is active once the active ones have ended, none was lost, and each was counted. -/
theorem endActive_spec (h : s.Sound) :
    s.endActive.roster.Sound ∧ (∀ place, s.endActive.roster.runningAt? place = none) ∧
      s.endActive.roster.modules.map Standing.descriptor =
        s.roster.modules.map Standing.descriptor ∧
      s.endActive.totals.modules.total + s.roster.endedCount =
        s.totals.modules.total + s.endActive.roster.endedCount := by
  let ends : List SessionStep := s.registry.active.map fun m => .endModule m.1
  have hcounts : s.EachResultCounts ends := by
    intro before x after heq
    obtain ⟨m, -, rfl⟩ := List.mem_map.mp (show x ∈ ends by rw [heq]; simp)
    exact trivial
  have hroster := roster_endModules h s.registry.active
  rw [endActive_eq_follow]
  refine ⟨(h.follow ends).roster, fun place => ?_, ?_, total_follow h ends hcounts⟩
  · rw [hroster, Roster.runningAt?_foldl_leave]
    by_cases hactive : place ∈ s.registry.active.map (·.1)
    · rw [if_pos hactive]
    · rw [if_neg hactive]
      -- Whoever has not ended is active, since the roster is sound.
      by_contra hrun
      obtain ⟨d, hd⟩ := Option.ne_none_iff_exists'.mp hrun
      obtain ⟨m, hm, hended, -⟩ := Registry.runningAt?_roster.mp hd
      exact hactive (List.mem_map_of_mem ((Registry.mem_active_iff h.roster).mpr ⟨hm, hended⟩))
  · rw [hroster, Roster.descriptors_foldl_leave]

/-- What the end of a running session leaves of its results. -/
theorem finish_spec (hphase : s.phase = .running) (t : FileTree) :
    (s.finish t).2.1.aggregator = { s with phase := .ending }.endActive.aggregator.close.2 ∧
      ∀ summary, (s.finish t).1 = some summary →
        summary.modules = { s with phase := .ending }.endActive.totals.modules := by
  obtain ⟨a, ha, -⟩ := outline_endActive { s with phase := .ending }
  rw [finish_eq_of_endActive hphase ha, ha]
  have hkeep := aggregator_resolveCoverage { s with
    phase := .ending, aggregator := a.close.2, tags := s.tags.setAll (finalTags a.totals) } t
  generalize Session.resolveCoverage _ t = answer at hkeep ⊢
  obtain ⟨c, last, tree⟩ := answer
  cases c with
  | none => exact ⟨hkeep, fun summary hsummary => by cases hsummary⟩
  | some c =>
    refine ⟨hkeep, fun summary hsummary => ?_⟩
    obtain rfl := Option.some_inj.mp hsummary
    have hlast : last.aggregator = a.close.2 := hkeep
    show last.aggregator.totals.modules = a.totals.modules
    rw [hlast]
    rfl

/-- The end of a running session leaves no module active, ends each that was started, and counts
each once more that had not ended before. -/
theorem finish_account (h : s.Sound) (hphase : s.phase = .running) (t : FileTree) :
    (s.finish t).2.1.registry.active = [] ∧ (s.finish t).2.1.registry.isEmpty = true ∧
      (s.finish t).2.1.run.modules.map ModuleRun.descriptor =
        s.run.modules.map ModuleRun.descriptor ∧
      (∀ m ∈ (s.finish t).2.1.run.modules, m.ended = true) ∧
      ∀ summary, (s.finish t).1 = some summary →
        summary.modules.total + s.roster.endedCount =
          s.totals.modules.total + s.run.modules.length := by
  obtain ⟨hagg, hsummary⟩ := finish_spec hphase t
  obtain ⟨hsound, hnone, hkept, htotal⟩ :=
    endActive_spec (s := { s with phase := .ending }) ⟨h.isOpen, h.roster⟩
  generalize hlast : endActive { s with phase := .ending } = last at *
  have hregistry : (s.finish t).2.1.registry = last.registry := by
    rw [registry, hagg]
    rfl
  have hrun : (s.finish t).2.1.run = last.run := congrArg Registry.run hregistry
  have hnobody : last.registry.places.entries = [] := Registry.places_eq_nil hsound hnone
  have hdescriptors : last.run.modules.map ModuleRun.descriptor =
      s.run.modules.map ModuleRun.descriptor := by
    have hkept : (last.run.modules.map ModuleRun.standing).map Standing.descriptor =
      (s.run.modules.map ModuleRun.standing).map Standing.descriptor := hkept
    rw [List.map_map, List.map_map] at hkept
    exact hkept
  rw [hregistry, hrun]
  refine ⟨?_, ?_, hdescriptors, ?_, ?_⟩
  · rw [Registry.active, Keyed.values, hnobody]
    exact List.mergeSort_nil
  · rw [Registry.isEmpty, Keyed.isEmpty, hnobody]
    rfl
  · intro m hm
    obtain ⟨place, hplace⟩ := List.mem_iff_getElem?.mp hm
    by_contra hended
    rw [Bool.not_eq_true] at hended
    have hrunning := Registry.runningAt?_roster.mpr ⟨m, hplace, hended, rfl⟩
    exact absurd ((hnone place).symm.trans hrunning) (by simp)
  · intro summary hsome
    have hall : last.roster.endedCount = s.run.modules.length := by
      have hlength := congrArg List.length hdescriptors
      rw [List.length_map, List.length_map] at hlength
      rw [Roster.endedCount_eq_length hnone, ← hlength]
      exact List.length_map ..
    rw [hsummary summary hsome, ← hall]
    exact htotal

/-! ### The account -/

/-- A session that has just been started takes results, has no modules and gave out no numbers. -/
theorem sound_start {id : String} {options : SessionOptions} {provider : SettingsProvider}
    {index : IndexSource} {got : Option SocketAddress}
    (hstart : Session.start id options provider index got = .ok s) :
    s.Sound ∧ s.phase = .running ∧ s.roster = ⟨.empty, []⟩ ∧ s.totals = .zero ∧ s.Numbered 0 := by
  cases got with
  | none => cases hstart
  | some address =>
    obtain rfl := Except.ok.inj hstart
    refine ⟨⟨rfl, fun name place => ?_⟩, rfl, rfl, rfl, rfl, [], rfl, .nil, by simp⟩
    show none = some place ↔ ∃ d : ModuleDescriptor, none = some d ∧ d.name = name
    simp

theorem startModule_refused {t : FileTree} {name : String} {outputDirs : List Path}
    {e : SessionError} (he : (s.startModule t name outputDirs).1 = .error e) :
    (s.startModule t name outputDirs).2.aggregator = s.aggregator ∧
      (s.startModule t name outputDirs).2.tags = s.tags := by
  obtain ⟨e', settings, n, hstart, -⟩ | ⟨settings, a, d, hstart, -⟩ :=
    s.startModule_cases t name outputDirs
  · rw [hstart]
    exact ⟨rfl, rfl⟩
  · rw [hstart] at he
    cases he

/-- What holds of the modules of a session after some steps, and when it is ended then. -/
structure ModulesAccounted (s₀ : Session) (steps : List SessionStep) : Prop where
  /-- The modules that were started stand at the places 0, 1 and so on. -/
  started : s₀.starts steps = List.range (s₀.follow steps).run.modules.length
  /-- Active are the modules that were started and have not ended. -/
  active : ∀ place m, (place, m) ∈ (s₀.follow steps).registry.active ↔
    place ∈ s₀.starts steps ∧
      (s₀.follow steps).registry.moduleAt? place = some m ∧ m.ended = false
  /-- Each of them stands in the registry under its own name, and nothing else does. -/
  found : ∀ name place m, (s₀.follow steps).registry.find? name = some (place, m) ↔
    (place, m) ∈ (s₀.follow steps).registry.active ∧ m.name = name
  size : (s₀.follow steps).registry.size = (s₀.follow steps).registry.active.length
  names_differ : ((s₀.follow steps).registry.active.map (·.2.name)).Nodup
  /-- No two modules that were ever started carry the same number.  Numbers have 64 bits, and every
  module that is asked for uses one up. -/
  numbers_differ : steps.countP SessionStep.asksForModule ≤ UInt64.size →
    ((s₀.follow steps).run.modules.map (·.descriptor.id)).Nodup
  /-- A worker's result is said to remove a module if an active one has its name and number. -/
  answered : ∀ t r, ∃ removed,
    (handle (handlers t) (.moduleResult r) (s₀.follow steps)).1 = .moduleAck removed ∧
      (removed = true ↔ ∃ place m, (place, m) ∈ (s₀.follow steps).registry.active ∧
        m.name = r.moduleName ∧ m.descriptor.id = r.moduleId)
  /-- Of each module that was started this is said at most once. -/
  removed_once : (s₀.removals steps).Nodup ∧ s₀.removals steps ⊆ s₀.starts steps
  /-- A module that is refused leaves nothing behind, neither in the registry nor in the totals nor
  among the output folders, all of which the aggregator holds. -/
  refused : ∀ t name outputDirs e,
    ((s₀.follow steps).startModule t name outputDirs).1 = .error e →
      ((s₀.follow steps).startModule t name outputDirs).2.aggregator =
          (s₀.follow steps).aggregator ∧
        ((s₀.follow steps).startModule t name outputDirs).2.tags = (s₀.follow steps).tags
  /-- The end of the session leaves no module active, and ends each that was started. -/
  at_end : ∀ t, ((s₀.follow steps).finish t).2.1.registry.active = [] ∧
    ((s₀.follow steps).finish t).2.1.registry.isEmpty = true ∧
    ((s₀.follow steps).finish t).2.1.run.modules.map ModuleRun.descriptor =
      (s₀.follow steps).run.modules.map ModuleRun.descriptor ∧
    ∀ m ∈ ((s₀.follow steps).finish t).2.1.run.modules, m.ended = true
  /-- When every worker's result counts, each module that was started is counted once. -/
  counted : s₀.EachResultCounts steps → ∀ t summary,
    ((s₀.follow steps).finish t).1 = some summary →
      summary.modules.total = (s₀.starts steps).length

/-- **Every module is accounted for exactly once**, in whatever order modules are started, end by
themselves and are removed by workers' results. -/
theorem modules_accounted {id : String} {options : SessionOptions} {provider : SettingsProvider}
    {index : IndexSource} {got : Option SocketAddress}
    (hstart : Session.start id options provider index got = .ok s₀)
    (steps : List SessionStep) : s₀.ModulesAccounted steps := by
  obtain ⟨h₀, hphase₀, hempty, hzero, hnumbered⟩ := sound_start hstart
  have h := h₀.follow steps
  have hphase := (phase_follow h₀ steps).trans hphase₀
  have hlength : (s₀.follow steps).roster.modules.length = (s₀.follow steps).run.modules.length :=
    List.length_map ..
  obtain ⟨n, hstarts, hn⟩ := starts_eq h₀ steps
  rw [hempty, hlength, List.length_nil, Nat.zero_add] at hn
  rw [hempty, List.length_nil, ← hn, ← List.range_eq_range'] at hstarts
  have hplaces : ∀ place, place ∈ s₀.starts steps ↔
      place < (s₀.follow steps).run.modules.length := by
    intro place
    rw [hstarts, List.mem_range]
  have hactive : ∀ place m, (place, m) ∈ (s₀.follow steps).registry.active ↔
      (s₀.follow steps).registry.moduleAt? place = some m ∧ m.ended = false :=
    fun _ _ => Registry.mem_active_iff h.roster
  refine
    { started := hstarts
      active := ?active
      found := ?found
      size := ?size
      names_differ := Registry.nodup_active h.roster
      numbers_differ := ?numbers
      answered := ?answered
      removed_once := ?removed
      refused := fun t name outputDirs e => startModule_refused
      at_end := ?at_end
      counted := ?counted }
  case active =>
    intro place m
    rw [hactive, hplaces]
    exact ⟨fun hm => ⟨(List.getElem?_eq_some_iff.mp hm.1).1, hm⟩, fun hm => hm.2⟩
  case found =>
    intro name place m
    rw [hactive, Registry.find?_eq_some_iff h.roster, and_assoc]
  case size =>
    have hlengths := (Registry.active_names_perm h.roster).length_eq
    rw [List.length_map, Keyed.keys, List.length_map] at hlengths
    exact hlengths.symm
  case numbers =>
    intro hcalls
    obtain ⟨given, hgiven, hlater⟩ := numbered_follow h₀ hnumbered steps
    have hnodup := hlater.nodup (by omega)
    rw [show (s₀.follow steps).roster.modules =
      (s₀.follow steps).run.modules.map ModuleRun.standing from rfl, List.map_map] at hnodup
    exact hnodup
  case answered =>
    intro t r
    refine ⟨_, moduleResult_answer h.isOpen t r, ?_⟩
    rw [Option.isSome_iff_exists]
    exact exists_congr fun place => Registry.owner?_eq_some_iff h.roster
  case removed =>
    refine ⟨(removals_nodup h₀ steps).1, fun place hplace => ?_⟩
    rw [hplaces, ← hlength]
    exact lt_of_mem_removals h₀ steps place hplace
  case at_end =>
    intro t
    obtain ⟨hnobody, hempty, hkept, hended, -⟩ := finish_account h hphase t
    exact ⟨hnobody, hempty, hkept, hended⟩
  case counted =>
    intro hcounts t summary hsummary
    obtain ⟨-, -, -, -, htotal⟩ := finish_account h hphase t
    -- Before the end each module that had ended was counted, at the end each of the others.
    have hbalance := total_follow h₀ steps hcounts
    have hlater := htotal summary hsummary
    have hstarted : (s₀.starts steps).length = (s₀.follow steps).run.modules.length := by
      rw [hstarts, List.length_range]
    rw [hempty, hzero] at hbalance
    simp only [Roster.endedCount, List.countP_nil, Totals.zero, StatusCounts.zero,
      StatusCounts.total] at hbalance
    simp only [Roster.endedCount, StatusCounts.total] at hlater ⊢
    omega

/-- A module is removed by a worker's result and its name is used again: two modules were started,
and two are counted when the session ends then.  If the result comes a second time, and the name is
asked for a third time, still two were started and one was removed. -/
theorem reused_name_accounted :
    let s₀ : Session := ⟨"s", .initial "project" "build", .running,
      TagLog.empty.set Tag.command (.str "build"), .empty, .always .initial, .empty,
      .given (.failed []), 1, SignalServer.anyPort⟩
    let t : FileTree := ⟨[], [], [], []⟩
    let r : ModuleResult := ⟨"s", 1, "core", false, false, false, false, some "pass", 0, none⟩
    let reused : List SessionStep := [.startModule t "core" [], .signal t (.moduleResult r),
      .startModule t "core" []]
    let steps := reused ++ [.signal t (.moduleResult r), .startModule t "core" [], .endModule 1]
    Session.start "s" (.initial "project" "build") (.always .initial) (.given (.failed []))
        (some SignalServer.anyPort) = .ok s₀ ∧
      s₀.ModulesAccounted steps ∧ s₀.starts steps = [0, 1] ∧ s₀.removals steps = [0] ∧
      s₀.EachResultCounts reused ∧
      ∃ summary, ((s₀.follow reused).finish t).1 = some summary ∧ summary.modules.total = 2 := by
  intro s₀ t r reused steps
  have hstart : Session.start "s" (.initial "project" "build") (.always .initial)
      (.given (.failed [])) (some SignalServer.anyPort) = .ok s₀ := rfl
  have hcounts : s₀.EachResultCounts reused :=
    eachResultCounts_cons.mpr ⟨trivial, eachResultCounts_cons.mpr ⟨⟨rfl, rfl⟩,
      eachResultCounts_cons.mpr ⟨trivial, eachResultCounts_nil _⟩⟩⟩
  have hended : ((s₀.follow reused).finish t).1.isSome = true := by decide +kernel
  obtain ⟨summary, hsummary⟩ := Option.isSome_iff_exists.mp hended
  exact ⟨hstart, modules_accounted hstart steps, by decide +kernel, by decide +kernel, hcounts,
    summary, hsummary, (modules_accounted hstart reused).counted hcounts t summary hsummary⟩

end Session

end TestTelemetry
