/-
Scripts that finish what they started.

When a module ends, the tests that still run are finished and the suites that are still open are
closed after them.  What happened before decides which outcomes the closings then tell.

* `Completes` — a script goes on, finishing and closing everything;
* `Handler.exists_completion` — the end of a module does this;
* `Completes.statusAt_closing`, `Completes.mem_outcomesIn_closing` — with which status a suite is
  closed.
-/
import TestTelemetry.Proofs.Worker.Drain

namespace TestTelemetry

/-- A script goes on to a longer one: first tests are finished, so that none runs any more, and
then suites are closed, so that none is open any more. -/
structure Completes (es es' : List WorkerEvent) (finishes closes : List Occurrence) : Prop where
  whole : occurrences es' = occurrences es ++ finishes ++ closes
  finishes_only : ∀ o ∈ finishes, ∃ x, o = .finished x
  closes_only : ∀ o ∈ closes, ∃ a, o = .closed a
  finished : ∀ x home, .started x home ∈ occurrences es → .finished x ∈ occurrences es ++ finishes
  closed : ∀ a, .opened a ∈ occurrences es → .closed a ∈ occurrences es'

namespace Completes

variable {es es' : List WorkerEvent} {finishes closes : List Occurrence} {o : Occurrence}
  {a : Span SuiteKey} {x : Span TestKey} {c : List Occurrence × Span SuiteKey}

/-- Only finishes and closings are added. -/
theorem mem_iff (h : Completes es es' finishes closes) (hx : ∀ x, o ≠ .finished x)
    (ha : ∀ a, o ≠ .closed a) : o ∈ occurrences es' ↔ o ∈ occurrences es := by
  rw [h.whole, List.mem_append, List.mem_append]
  refine ⟨fun ho => ?_, fun ho => Or.inl (Or.inl ho)⟩
  rcases ho with (ho | ho) | ho
  · exact ho
  · obtain ⟨x, rfl⟩ := h.finishes_only o ho
    exact absurd rfl (hx x)
  · obtain ⟨a, rfl⟩ := h.closes_only o ho
    exact absurd rfl (ha a)

/-- A closing is one of the script, or it comes after all finishes. -/
theorem closing_cases (h : Completes es es' finishes closes)
    (hc : c ∈ closings (occurrences es')) :
    c ∈ closings (occurrences es) ∨ ∃ before, c.1 = occurrences es ++ finishes ++ before := by
  rw [h.whole, mem_closings_append, mem_closings_append] at hc
  rcases hc with (hc | ⟨before, after, hf, -⟩) | ⟨before, -, -, hc⟩
  · exact Or.inl hc
  · obtain ⟨x, hx⟩ := h.finishes_only (.closed c.2) (by rw [hf]; simp)
    cases hx
  · exact Or.inr ⟨before, hc⟩

theorem closing_of_closing (h : Completes es es' finishes closes)
    (hc : c ∈ closings (occurrences es)) : c ∈ closings (occurrences es') := by
  rw [h.whole, mem_closings_append, mem_closings_append]
  exact Or.inl (Or.inl hc)

/-- Every span of a suite is closed. -/
theorem exists_closing (h : Completes es es' finishes closes) (ha : .opened a ∈ occurrences es) :
    ∃ seen, (seen, a) ∈ closings (occurrences es') := by
  obtain ⟨before, after, hwhole⟩ := List.append_of_mem (h.closed a ha)
  exact ⟨before, mem_closings.mpr ⟨after, hwhole⟩⟩

/-- Only spans of the script are closed. -/
theorem opened_of_closing (h : Completes es es' finishes closes)
    (hc : c ∈ closings (occurrences es')) : .opened c.2 ∈ occurrences es := by
  obtain ⟨after, hwhole⟩ := mem_closings.mp hc
  have hclosed : .closed c.2 ∈ occurrences es' := by
    rw [hwhole]
    simp
  exact (h.mem_iff (by simp) (by simp)).mp (opened_of_suite? hclosed rfl)

/-- What was said of a suite in its span was said before its closing. -/
theorem mem_closing_iff (h : Completes es es' finishes closes)
    (hc : c ∈ closings (occurrences es')) (ho : o.suite? = some c.2) (hx : ∀ x, o ≠ .finished x)
    (ha : ∀ a, o ≠ .closed a) : o ∈ c.1 ↔ o ∈ occurrences es := by
  obtain ⟨after, hwhole⟩ := mem_closings.mp hc
  rw [← h.mem_iff hx ha]
  constructor
  · intro hin
    rw [hwhole]
    exact List.mem_append_left _ hin
  · intro hin
    exact mem_of_closed hwhole hin ho (ha c.2)

/-- The status with which a suite is closed, by what the script says of it. -/
theorem statusAt_closing (h : Completes es es' finishes closes)
    (hc : c ∈ closings (occurrences es')) :
    statusAt c.1 c.2 = Status.ofMarks (.suiteFailed c.2 ∈ occurrences es)
      (.suiteSkipped c.2 ∈ occurrences es) (outcomesIn c.1 c.2) := by
  have hf := h.mem_closing_iff (o := .suiteFailed c.2) hc rfl (by simp) (by simp)
  have hs := h.mem_closing_iff (o := .suiteSkipped c.2) hc rfl (by simp) (by simp)
  simp only [statusAt, hf, hs]

/-- The outcomes that count when a suite is closed: those of its tests that were finished. -/
theorem mem_outcomesIn_closing (h : Completes es es' finishes closes)
    (hc : c ∈ closings (occurrences es')) {s : Status} :
    s ∈ outcomesIn c.1 c.2 ↔ ∃ x, .started x (some c.2) ∈ occurrences es ∧ .finished x ∈ c.1 ∧
      testOutcome (occurrences es) x = s := by
  obtain ⟨after, hwhole⟩ := mem_closings.mp hc
  rw [mem_outcomesIn_of_append hwhole]
  refine exists_congr fun x => ?_
  rw [h.mem_iff (by simp) (by simp),
    testOutcome_congr (h.mem_iff (by simp) (by simp)) (h.mem_iff (by simp) (by simp))]

end Completes

namespace Handler

variable {h : Handler} {es : List WorkerEvent}

/-- Once the tables are empty, every test is finished. -/
theorem Keeps.finished (hk : h.Keeps es) (hempty : h.tests.entries = []) {x : Span TestKey}
    {home : Option (Span SuiteKey)} (hx : .started x home ∈ occurrences es) :
    .finished x ∈ occurrences es := by
  refine (finished_or_running hx).resolve_right fun hruns => ?_
  refine (Clock.span?_eq_some_iff.mp hruns).1 ((hk.test x.key).mp ?_)
  rw [Keyed.find?_eq_none_iff, hempty]
  exact fun _ => List.not_mem_nil

theorem Keeps.closed (hk : h.Keeps es) (hempty : h.suites.entries = []) {a : Span SuiteKey}
    (ha : .opened a ∈ occurrences es) : .closed a ∈ occurrences es := by
  refine (closed_or_open ha).resolve_right fun hopen => ?_
  refine (Clock.span?_eq_some_iff.mp hopen).1 ((hk.suite a.key).mp ?_)
  rw [Keyed.find?_eq_none_iff, hempty]
  exact fun _ => List.not_mem_nil

/-- The end of a module completes its script, in whatever order it ends what still runs. -/
theorem exists_completion (ht : h.Tracks es) {tests : List (TestKey × Nat)}
    {suites : List (SuiteKey × Nat)} (htests : tests.Perm h.tests.entries)
    (hsuites : suites.Perm h.suites.entries) :
    ∃ finishes closes, Completes es (es ++ h.finishing tests suites) finishes closes := by
  -- Once the tests are finished none runs, and once the suites are closed none is open.
  have hk₁ := (ht.applyAll (finishingTests tests)).keeps
  have hk₂ := (ht.applyAll (h.finishing tests suites)).keeps
  have hnotests : (h.applyAll (finishingTests tests)).tests.entries = [] := by
    rw [applyAll_finishingTests_of_perm htests]
    exact Keyed.entries_foldl_erase_eq_nil htests
  have hnosuites := (applyAll_finishing ht.keeps htests hsuites).2
  obtain ⟨finishes, hfinishes, honly⟩ := gather_append_of (f := occurrence?)
    (p := fun o => ∃ x, o = .finished x) es (finishingTests tests) (by
      intro before e he o ho
      obtain ⟨t, -, rfl⟩ := List.mem_map.mp he
      obtain ⟨x, -, rfl⟩ := Option.map_eq_some_iff.mp ho
      exact ⟨x, rfl⟩)
  obtain ⟨closes, hcloses, hconly⟩ := gather_append_of (f := occurrence?)
    (p := fun o => ∃ a, o = .closed a) (es ++ finishingTests tests)
    (finishingSuites h.activations.depth suites) (by
      intro before e he o ho
      obtain ⟨s, -, hs⟩ := List.mem_flatMap.mp he
      obtain rfl := List.eq_of_mem_replicate hs
      exact ⟨_, (Option.some_inj.mp (Option.ite_none_right_eq_some.mp ho).2).symm⟩)
  have hwhole : occurrences (es ++ h.finishing tests suites) =
      occurrences es ++ finishes ++ closes := by
    rw [finishing, ← List.append_assoc, occurrences, hcloses, hfinishes]
    rfl
  refine ⟨finishes, closes, hwhole, honly, hconly, fun x home hx => ?_, fun a ha => ?_⟩
  · show _ ∈ gather occurrence? es ++ finishes
    rw [← hfinishes]
    have hstart : .started x home ∈ occurrences (es ++ finishingTests tests) :=
      (prefix_gather_append _ _).subset hx
    exact hk₁.finished hnotests hstart
  · exact hk₂.closed hnosuites ((prefix_gather_append _ _).subset ha)

end Handler

end TestTelemetry
