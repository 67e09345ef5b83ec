/-
What modules hand on.

A module hands on its result when it is ended for the first time, unless that end comes with a
result that was reported for it.  Every end is answered, the first with yes and the others with no.

* `Run.results` — the results that modules hand on along some steps;
* `Run.answers` — what the ends of an item are answered with along some steps;
* `Run.results_of_ended`, `Run.answers_of_ended` — once an item has ended;
* `Run.first_end`, `Run.length_results_le` — the first end of a module decides.
-/
import TestTelemetry.Proofs.Lifecycle.Conservation
import TestTelemetry.Proofs.Lifecycle.Sites

namespace TestTelemetry

namespace Run

/-- The result that a step hands on, with the number of its module. -/
def handed? (r : Run) : RunStep → Option (Nat × ModuleResult)
  | .endModule m => (r.endModule m).2.map (m, ·)
  | _ => none

/-- The results that are handed on along some steps, in their order. -/
def results (r : Run) : List RunStep → List (Nat × ModuleResult)
  | [] => []
  | x :: rest => (r.handed? x).toList ++ (r.step x).results rest

/-- What the ends of an item are answered with along some steps. -/
def answers (r : Run) (i : RunItem) : List RunStep → List Bool
  | [] => []
  | x :: rest => (if x.ends? = some i then [r.isRunning i] else []) ++ (r.step x).answers i rest

variable {r : Run} {i : RunItem} {m : Nat} {x : RunStep}

theorem handed?_endModule {a : ModuleRun} (ha : r.modules[m]? = some a)
    (hended : a.ended = false) : r.handed? (.endModule m) = some (m, a.result) := by
  simp [handed?, endModule, ha, hended]

/-- What is handed on is the result of a module that runs and is ended without a result. -/
theorem of_handed? {e : Nat × ModuleResult} (he : r.handed? x = some e) :
    x = .endModule e.1 ∧ r.isRunning (.module e.1) = true ∧
      ∃ a, r.modules[e.1]? = some a ∧ a.result = e.2 := by
  cases x with
  | endModule k =>
    obtain ⟨result, hresult, rfl⟩ := Option.map_eq_some_iff.mp he
    unfold endModule at hresult
    cases ha : r.modules[k]? with
    | none => simp [ha] at hresult
    | some a =>
      simp only [ha] at hresult
      by_cases hended : a.ended = true
      · rw [if_pos hended] at hresult
        cases hresult
      · rw [if_neg hended] at hresult
        exact ⟨rfl, isRunning_module_iff.mpr ⟨a, ha, Bool.eq_false_iff.mpr hended⟩, a, rfl,
          Option.some_inj.mp hresult⟩
  | _ => cases he

theorem results_append (r : Run) (l l' : List RunStep) :
    r.results (l ++ l') = r.results l ++ (r.follow l).results l' := by
  induction l generalizing r with
  | nil => rfl
  | cons x rest ih =>
    rw [List.cons_append, results, results, ih, List.append_assoc]
    rfl

theorem answers_append (r : Run) (i : RunItem) (l l' : List RunStep) :
    r.answers i (l ++ l') = r.answers i l ++ (r.follow l).answers i l' := by
  induction l generalizing r with
  | nil => rfl
  | cons x rest ih =>
    rw [List.cons_append, answers, answers, ih, List.append_assoc]
    rfl

/-! ### Before the end -/

/-- An item runs on as long as no step ends it. -/
theorem isRunning_follow (hrun : r.isRunning i = true) {steps : List RunStep}
    (hquiet : ∀ y ∈ steps, y.ends? ≠ some i) : (r.follow steps).isRunning i = true := by
  obtain ⟨v, hv, hrunning⟩ := isRunning_iff.mp hrun
  obtain ⟨v', hv', hlater⟩ := state?_follow hv steps
  have hnone : (steps.any fun y => decide (y.ends? = some i)) = false :=
    List.any_eq_false.mpr fun y hy => by simpa using hquiet y hy
  refine isRunning_iff.mpr ⟨v', hv', ?_⟩
  rw [hlater.ended, hrunning, hnone]
  rfl

theorem answers_of_quiet {steps : List RunStep} (hquiet : ∀ y ∈ steps, y.ends? ≠ some i) :
    r.answers i steps = [] := by
  induction steps generalizing r with
  | nil => rfl
  | cons y rest ih =>
    rw [answers, if_neg (hquiet y (List.mem_cons_self ..)),
      ih fun z hz => hquiet z (List.mem_cons_of_mem _ hz)]
    rfl

/-! ### After the end -/

/-- Modules that have ended hand on nothing any more, whatever is done. -/
theorem results_of_ended {p : Nat → Bool} {steps : List RunStep}
    (h : ∀ y ∈ steps, ∀ k, p k = true → y.ends? = some (.module k) →
      r.hasEnded (.module k) = true) :
    (r.results steps).filter (fun e => p e.1) = [] := by
  induction steps generalizing r with
  | nil => rfl
  | cons y rest ih =>
    have hrest : ((r.step y).results rest).filter (fun e => p e.1) = [] :=
      ih fun z hz k hk hends =>
        hasEnded_step.mpr (Or.inl (h z (List.mem_cons_of_mem _ hz) k hk hends))
    rw [results, List.filter_append, hrest, List.append_nil, List.filter_eq_nil_iff]
    intro e he hp
    obtain ⟨rfl, hrun, -⟩ := of_handed? (Option.mem_toList.mp he)
    have hended := h _ (List.mem_cons_self ..) e.1 hp rfl
    rw [(endItem_of_hasEnded hended).1] at hrun
    cases hrun

theorem results_eq_nil {steps : List RunStep} (h : ∀ y ∈ steps, ∀ k,
    y.ends? = some (.module k) → r.hasEnded (.module k) = true) : r.results steps = [] := by
  refine List.eq_nil_iff_forall_not_mem.mpr fun e he => ?_
  have hnil := results_of_ended (p := fun _ => true) fun y hy k _ => h y hy k
  exact List.filter_eq_nil_iff.mp hnil e he rfl

theorem hasEnded_follow (hi : r.hasEnded i = true) (steps : List RunStep) :
    (r.follow steps).hasEnded i = true := by
  induction steps generalizing r with
  | nil => exact hi
  | cons y rest ih => exact ih (hasEnded_step.mpr (Or.inl hi))

/-- Once an item has ended, every end of it is answered with no. -/
theorem answers_of_ended (hi : r.hasEnded i = true) (steps : List RunStep) :
    r.answers i steps = List.replicate (RunStep.endCount i steps) false := by
  induction steps generalizing r with
  | nil => rfl
  | cons y rest ih =>
    rw [answers, ih (hasEnded_step.mpr (Or.inl hi)), RunStep.endCount_cons,
      (endItem_of_hasEnded hi).1]
    split
    · rw [Nat.add_comm, List.replicate_succ]
      rfl
    · rw [Nat.zero_add]
      rfl

/-! ### The first end -/

/-- An item that runs has ended after a step that ends it. -/
theorem hasEnded_of_ends (hrun : r.isRunning i = true) (hx : x.ends? = some i) :
    (r.step x).hasEnded i = true := by
  obtain ⟨v, hv, -⟩ := isRunning_iff.mp hrun
  obtain ⟨v', hv', hnext⟩ := state?_step hv x
  refine hasEnded_iff.mpr ⟨v', hv', ?_⟩
  rw [hnext.ended, hx, decide_eq_true rfl, Bool.or_true]

/-- The first end of a module that runs: it is answered with yes and every later one with no, and
the result that the module has at this moment is handed on if the end does not come with a result,
and never else. -/
theorem first_end (hrun : r.isRunning (.module m) = true) {quiet : List RunStep}
    (hquiet : ∀ y ∈ quiet, y.ends? ≠ some (.module m)) (hx : x.ends? = some (.module m))
    (rest : List RunStep) :
    r.answers (.module m) (quiet ++ x :: rest) =
        true :: List.replicate (RunStep.endCount (.module m) rest) false ∧
      (r.results (quiet ++ x :: rest)).filter (fun e => e.1 = m) =
        ((r.follow quiet).handed? x).toList := by
  have hrunning : (r.follow quiet).isRunning (.module m) = true := isRunning_follow hrun hquiet
  have hended : ((r.follow quiet).step x).hasEnded (.module m) = true :=
    hasEnded_of_ends hrunning hx
  have hbefore : (r.results quiet).filter (fun e => decide (e.1 = m)) = [] :=
    results_of_ended (p := fun k => decide (k = m)) fun y hy k hk hends =>
      absurd (of_decide_eq_true hk ▸ hends) (hquiet y hy)
  have hafter : (((r.follow quiet).step x).results rest).filter (fun e => decide (e.1 = m)) = [] :=
    results_of_ended (p := fun k => decide (k = m)) fun _ _ k hk _ =>
      (of_decide_eq_true hk).symm ▸ hended
  -- Nothing is handed on for the module before this step or after it.
  have hnow : ((r.follow quiet).handed? x).toList.filter (fun e => decide (e.1 = m)) =
      ((r.follow quiet).handed? x).toList := by
    refine List.filter_eq_self.mpr fun e he => ?_
    obtain ⟨rfl, -⟩ := of_handed? (Option.mem_toList.mp he)
    cases hx
    exact decide_eq_true rfl
  constructor
  · rw [answers_append, answers_of_quiet hquiet, answers, if_pos hx, hrunning,
      answers_of_ended hended]
    rfl
  · rw [results_append, results, List.filter_append, List.filter_append, hbefore, hafter, hnow,
      List.append_nil]
    rfl

/-- No module hands on more than one result. -/
theorem length_results_le (r : Run) (steps : List RunStep) (m : Nat) :
    ((r.results steps).filter fun e => e.1 = m).length ≤ 1 := by
  induction steps generalizing r with
  | nil => exact Nat.zero_le _
  | cons x rest ih =>
    rw [results, List.filter_append, List.length_append]
    by_cases hnow : (r.handed? x).toList.filter (fun e => e.1 = m) = []
    · rw [hnow, List.length_nil, Nat.zero_add]
      exact ih (r.step x)
    · -- What was handed on ends the module, so that nothing follows.
      obtain ⟨e, he⟩ := List.exists_mem_of_ne_nil _ hnow
      obtain ⟨hmem, hm⟩ := List.mem_filter.mp he
      obtain ⟨rfl, hrun, -⟩ := of_handed? (Option.mem_toList.mp hmem)
      obtain rfl := of_decide_eq_true hm
      have hended : (r.step (.endModule e.1)).hasEnded (.module e.1) = true :=
        hasEnded_of_ends hrun rfl
      have hrest : ((r.step (.endModule e.1)).results rest).filter (fun f => f.1 = e.1) = [] :=
        results_of_ended (p := fun k => decide (k = e.1)) fun _ _ k hk _ =>
          (of_decide_eq_true hk).symm ▸ hended
      rw [hrest, List.length_nil, Nat.add_zero]
      exact Nat.le_trans (List.length_filter_le ..) Option.length_toList_le

end Run

end TestTelemetry
