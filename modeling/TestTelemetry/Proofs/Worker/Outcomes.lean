/-
How the spans of a script turned out.

A test fails if anything that happened in its span was a failure, whatever else happened.  Its
outcome is told to the span of the suite in which it started once the test is finished; a suite
tells its module a status when its span is closed.

* `testOutcome` — how a test turned out;
* `outcomesIn` — the outcomes that were told to a span, in their order;
* `statusAt` — the status of a span as things stand;
* `closings`, `closedStatuses` — the spans that were closed, and with which status.
-/
import TestTelemetry.Proofs.Outcome.RollUp
import TestTelemetry.Proofs.Worker.Script

namespace TestTelemetry

/-- How a test turned out: a failure comes before a skip. -/
def testOutcome (os : List Occurrence) (x : Span TestKey) : Status :=
  if .testFailed x ∈ os then .fail
  else if .testSkipped x ∈ os then .skip
  else .pass

/-- The outcome that is told to a span of a suite, if that is what happens. -/
def told? (a : Span SuiteKey) (seen : List Occurrence) : Occurrence → Option Status
  | .finished x => if .started x (some a) ∈ seen then some (testOutcome seen x) else none
  | _ => none

/-- The outcomes of the tests of a span that were finished, in their order. -/
def outcomesIn (os : List Occurrence) (a : Span SuiteKey) : List Status := gather (told? a) os

/-- The status of a span of a suite as things stand: what was said of the suite comes first. -/
def statusAt (os : List Occurrence) (a : Span SuiteKey) : Status :=
  Status.ofMarks (.suiteFailed a ∈ os) (.suiteSkipped a ∈ os) (outcomesIn os a)

/-- A span of a suite that is closed, with what had happened before. -/
def closing? (seen : List Occurrence) : Occurrence → Option (List Occurrence × Span SuiteKey)
  | .closed a => some (seen, a)
  | _ => none

/-- The spans of suites that were closed, each with what had happened before. -/
def closings (os : List Occurrence) : List (List Occurrence × Span SuiteKey) := gather closing? os

/-- The statuses with which spans of suites were closed, in their order. -/
def closedStatuses (os : List Occurrence) : List Status :=
  (closings os).map fun c => statusAt c.1 c.2

variable {os : List Occurrence} {o : Occurrence} {a : Span SuiteKey} {x : Span TestKey}

/-- Only what was said of a test matters for its outcome. -/
theorem testOutcome_congr {l r : List Occurrence} (hf : .testFailed x ∈ l ↔ .testFailed x ∈ r)
    (hs : .testSkipped x ∈ l ↔ .testSkipped x ∈ r) : testOutcome l x = testOutcome r x := by
  simp only [testOutcome, hf, hs]

theorem testOutcome_eq_fail_iff : testOutcome os x = .fail ↔ .testFailed x ∈ os := by
  unfold testOutcome
  split
  · exact iff_of_true rfl ‹_›
  · split <;> simp [*]

/-- The finish of a test tells its outcome to the span in which it started. -/
theorem outcomesIn_concat_finished (os : List Occurrence) (x : Span TestKey) (a : Span SuiteKey) :
    outcomesIn (os ++ [.finished x]) a =
      outcomesIn os a ++ if .started x (some a) ∈ os then [testOutcome os x] else [] := by
  rw [outcomesIn, gather_concat, told?]
  split <;> rfl

/-- Only the finish of a test tells an outcome. -/
theorem outcomesIn_concat_of_ne (h : ∀ x, o ≠ .finished x) (a : Span SuiteKey) :
    outcomesIn (os ++ [o]) a = outcomesIn os a := by
  rw [outcomesIn, gather_concat_of_none]
  · rfl
  · cases o with
    | finished x => exact absurd rfl (h x)
    | _ => rfl

/-- No outcome is told to a span in which no test started. -/
theorem outcomesIn_eq_nil (h : ∀ x, .started x (some a) ∉ os) : outcomesIn os a = [] := by
  rw [List.eq_nil_iff_forall_not_mem]
  intro s hs
  obtain ⟨before, o, after, rfl, ho⟩ := mem_gather.mp hs
  cases o with
  | finished x =>
    simp only [told?, Option.ite_none_right_eq_some] at ho
    exact h x (List.mem_append_left _ ho.1)
  | _ => cases ho

/-- An outcome that was told to a span comes from a test that was finished. -/
theorem mem_outcomesIn {s : Status} : s ∈ outcomesIn os a ↔
    ∃ before x after, os = before ++ .finished x :: after ∧ .started x (some a) ∈ before ∧
      testOutcome before x = s := by
  rw [outcomesIn, mem_gather]
  constructor
  · rintro ⟨before, o, after, rfl, ho⟩
    cases o with
    | finished x =>
      simp only [told?, Option.ite_none_right_eq_some, Option.some_inj] at ho
      exact ⟨before, x, after, rfl, ho⟩
    | _ => cases ho
  · rintro ⟨before, x, after, rfl, hstart, hs⟩
    refine ⟨before, .finished x, after, rfl, ?_⟩
    rw [told?, if_pos hstart, hs]

theorem closedStatuses_concat_closed (os : List Occurrence) (a : Span SuiteKey) :
    closedStatuses (os ++ [.closed a]) = closedStatuses os ++ [statusAt os a] := by
  rw [closedStatuses, closings, gather_concat_of_some (b := (os, a)) rfl, List.map_append]
  rfl

theorem closedStatuses_concat_of_ne (h : ∀ a, o ≠ .closed a) :
    closedStatuses (os ++ [o]) = closedStatuses os := by
  rw [closedStatuses, closings, gather_concat_of_none]
  · rfl
  · cases o with
    | closed a => exact absurd rfl (h a)
    | _ => rfl

/-- A span that was closed, with everything before that. -/
theorem mem_closings {c : List Occurrence × Span SuiteKey} :
    c ∈ closings os ↔ ∃ after, os = c.1 ++ .closed c.2 :: after := by
  rw [closings, mem_gather]
  constructor
  · rintro ⟨before, o, after, rfl, ho⟩
    cases o with
    | closed a =>
      obtain rfl := Option.some_inj.mp ho
      exact ⟨after, rfl⟩
    | _ => cases ho
  · rintro ⟨after, rfl⟩
    exact ⟨c.1, .closed c.2, after, rfl, rfl⟩

/-- Closings in two parts: those of the first part, and those of the second, which have all of
the first before them. -/
theorem mem_closings_append {r : List Occurrence} {c : List Occurrence × Span SuiteKey} :
    c ∈ closings (os ++ r) ↔
      c ∈ closings os ∨ ∃ before after, r = before ++ .closed c.2 :: after ∧ c.1 = os ++ before := by
  rw [mem_closings, mem_closings]
  constructor
  · rintro ⟨after, h⟩
    rcases List.append_eq_append_iff.mp h with ⟨xs, hxs, hr⟩ | ⟨xs, hxs, hr⟩
    · exact Or.inr ⟨xs, after, hr, hxs⟩
    · -- The cut lies at the closing or behind it.
      cases xs with
      | nil => exact Or.inr ⟨[], after, hr.symm, by simpa using hxs.symm⟩
      | cons o xs =>
        rw [List.cons_append, List.cons.injEq] at hr
        exact Or.inl ⟨xs, by rw [hxs, hr.1]⟩
  · rintro (⟨after, rfl⟩ | ⟨before, after, rfl, hc⟩)
    · exact ⟨after ++ r, by simp⟩
    · exact ⟨after, by simp [hc]⟩

variable {es : List WorkerEvent}

/-- The outcomes told to a span are those of the tests that started in it and were finished. -/
theorem mem_outcomesIn_of_append {seen rest : List Occurrence} (hseen : occurrences es = seen ++ rest)
    {s : Status} : s ∈ outcomesIn seen a ↔
      ∃ x, .started x (some a) ∈ occurrences es ∧ .finished x ∈ seen ∧
        testOutcome (occurrences es) x = s := by
  -- Nothing is said of a test after its finish.
  have hsame : ∀ {before after x}, seen = before ++ .finished x :: after →
      testOutcome (occurrences es) x = testOutcome before x := by
    rintro before after x rfl
    rw [List.append_assoc, List.cons_append] at hseen
    have hiff : ∀ o : Occurrence, o.test? = some x → o ≠ .finished x →
        (o ∈ occurrences es ↔ o ∈ before) := by
      intro o hx hne
      refine ⟨fun ho => mem_of_finished hseen ho hx hne, fun ho => ?_⟩
      rw [hseen]
      exact List.mem_append_left _ ho
    exact testOutcome_congr (hiff (.testFailed x) rfl (by simp)) (hiff (.testSkipped x) rfl (by simp))
  rw [mem_outcomesIn]
  constructor
  · rintro ⟨before, x, after, rfl, hstart, rfl⟩
    refine ⟨x, ?_, by simp, hsame rfl⟩
    rw [hseen, List.append_assoc]
    exact List.mem_append_left _ hstart
  · rintro ⟨x, hstart, hfinish, rfl⟩
    obtain ⟨before, after, rfl⟩ := List.append_of_mem hfinish
    refine ⟨before, x, after, rfl, ?_, (hsame rfl).symm⟩
    rw [List.append_assoc, List.cons_append] at hseen
    exact started_of_finished hseen hstart

end TestTelemetry
