/-
What a script of events says by itself.

A script is read without a handler: a suite is open as often as it was opened and not closed
again, a test runs from its start to its finish.  A *span* is one such time, from the opening
that finds the suite closed to the closing that leaves it closed, or from the start of a test to
its finish.  Every event that concerns a span is an *occurrence*; the others do nothing.

* `suiteSpan?`, `testSpan?` — the span of a suite or a test that a script leaves open;
* `occurrences` — what happens to which span, in the order of the script;
* `occurrence?_eq_some_iff` — from which events, and when, each thing arises;
* `no_suite_after_closed`, `no_test_after_finished` — nothing happens to a span that is over;
* `closed_or_open`, `finished_or_running` — a span that began is over or still open.
-/
import TestTelemetry.Proofs.Data.Gather
import TestTelemetry.Proofs.Worker.Clock
import TestTelemetry.Worker.Event

namespace TestTelemetry

/-! ### Spans of suites and tests -/

/-- What an event does to the clock of a suite. -/
def suiteTick (s : SuiteKey) : WorkerEvent → Tick
  | .suiteStart s' _ => if s' = s then .deepen else .stay
  | .suiteFinish s' => if s' = s then .rise else .stay
  | _ => .stay

/-- What an event does to the clock of a test: a test that runs is not started again. -/
def testTick (t : TestKey) : WorkerEvent → Tick
  | .testStart t' => if t' = t then .enter else .stay
  | .testFinish t' => if t' = t then .leave else .stay
  | _ => .stay

/-- The clock of a suite after a script. -/
def suiteClock (es : List WorkerEvent) (s : SuiteKey) : Clock :=
  es.foldl (fun c e => c.tick (suiteTick s e)) .zero

/-- The clock of a test after a script. -/
def testClock (es : List WorkerEvent) (t : TestKey) : Clock :=
  es.foldl (fun c e => c.tick (testTick t e)) .zero

/-- The span in which a suite is open after a script, if it is. -/
def suiteSpan? (es : List WorkerEvent) (s : SuiteKey) : Option (Span SuiteKey) :=
  (suiteClock es s).span? s

/-- The span in which a test runs after a script, if it does. -/
def testSpan? (es : List WorkerEvent) (t : TestKey) : Option (Span TestKey) :=
  (testClock es t).span? t

theorem suiteClock_concat (es : List WorkerEvent) (e : WorkerEvent) (s : SuiteKey) :
    suiteClock (es ++ [e]) s = (suiteClock es s).tick (suiteTick s e) := by
  simp [suiteClock, List.foldl_append]

theorem testClock_concat (es : List WorkerEvent) (e : WorkerEvent) (t : TestKey) :
    testClock (es ++ [e]) t = (testClock es t).tick (testTick t e) := by
  simp [testClock, List.foldl_append]

theorem suiteTick_cases (s : SuiteKey) (e : WorkerEvent) :
    (∃ p, e = .suiteStart s p ∧ suiteTick s e = .deepen) ∨
      (e = .suiteFinish s ∧ suiteTick s e = .rise) ∨ suiteTick s e = .stay := by
  cases e with
  | suiteStart s' p =>
    by_cases h : s' = s
    · exact Or.inl ⟨p, by rw [h], if_pos h⟩
    · exact Or.inr (Or.inr (if_neg h))
  | suiteFinish s' =>
    by_cases h : s' = s
    · exact Or.inr (Or.inl ⟨by rw [h], if_pos h⟩)
    · exact Or.inr (Or.inr (if_neg h))
  | _ => exact Or.inr (Or.inr rfl)

theorem testTick_cases (t : TestKey) (e : WorkerEvent) :
    (e = .testStart t ∧ testTick t e = .enter) ∨ (e = .testFinish t ∧ testTick t e = .leave) ∨
      testTick t e = .stay := by
  cases e with
  | testStart t' =>
    by_cases h : t' = t
    · exact Or.inl ⟨by rw [h], if_pos h⟩
    · exact Or.inr (Or.inr (if_neg h))
  | testFinish t' =>
    by_cases h : t' = t
    · exact Or.inr (Or.inl ⟨by rw [h], if_pos h⟩)
    · exact Or.inr (Or.inr (if_neg h))
  | _ => exact Or.inr (Or.inr rfl)

/-- A span of a suite that is over stays over. -/
theorem suitePast_append {es : List WorkerEvent} {s : SuiteKey} {n : Nat}
    (h : (suiteClock es s).Past n) (rest : List WorkerEvent) :
    (suiteClock (es ++ rest) s).Past n := by
  induction rest using List.reverseRecOn with
  | nil => rwa [List.append_nil]
  | append_singleton rest e ih =>
    rw [← List.append_assoc, suiteClock_concat]
    exact Clock.past_tick ih _

theorem testPast_append {es : List WorkerEvent} {t : TestKey} {n : Nat}
    (h : (testClock es t).Past n) (rest : List WorkerEvent) :
    (testClock (es ++ rest) t).Past n := by
  induction rest using List.reverseRecOn with
  | nil => rwa [List.append_nil]
  | append_singleton rest e ih =>
    rw [← List.append_assoc, testClock_concat]
    exact Clock.past_tick ih _

/-! ### Occurrences -/

/-- Something that happens to a span of a suite or a test. -/
inductive Occurrence
  | opened (a : Span SuiteKey)
  | suiteSkipped (a : Span SuiteKey)
  | suiteFailed (a : Span SuiteKey)
  | closed (a : Span SuiteKey)
  /-- A test starts, in the span in which its suite is open if it is open at all. -/
  | started (x : Span TestKey) (home : Option (Span SuiteKey))
  | testSkipped (x : Span TestKey)
  | testFailed (x : Span TestKey)
  | finished (x : Span TestKey)
deriving DecidableEq

/-- What an event does after a script. -/
def occurrence? (before : List WorkerEvent) : WorkerEvent → Option Occurrence
  | .suiteStart s _ =>
    if (suiteClock before s).level = 0 then
      some (.opened ⟨s, (suiteClock before s).count + 1⟩)
    else none
  | .suiteSkip s _ => (suiteSpan? before s).map .suiteSkipped
  | .suiteFailure s _ => (suiteSpan? before s).map .suiteFailed
  | .suiteFinish s =>
    if (suiteClock before s).level = 1 then some (.closed ⟨s, (suiteClock before s).count⟩)
    else none
  | .testStart t =>
    if (testClock before t).level = 0 then
      some (.started ⟨t, (testClock before t).count + 1⟩ (suiteSpan? before t.suite))
    else none
  | .testSkip t _ => (testSpan? before t).map .testSkipped
  | .testFailure t _ => (testSpan? before t).map .testFailed
  | .testFinish t => (testSpan? before t).map .finished
  | .coverage _ => none

/-- What happens in a script, in its order. -/
def occurrences (es : List WorkerEvent) : List Occurrence := gather occurrence? es

namespace Occurrence

/-- The span of a suite that must be open for something to happen. -/
def suite? : Occurrence → Option (Span SuiteKey)
  | suiteSkipped a => some a
  | suiteFailed a => some a
  | closed a => some a
  | started _ home => home
  | _ => none

/-- The span of a test that must run for something to happen. -/
def test? : Occurrence → Option (Span TestKey)
  | testSkipped x => some x
  | testFailed x => some x
  | finished x => some x
  | _ => none

end Occurrence

variable {es : List WorkerEvent} {e : WorkerEvent} {o : Occurrence} {a : Span SuiteKey}
  {x : Span TestKey}

/-- When something happens: the event that it comes from, and what is open before. -/
def Occurrence.Arises (es : List WorkerEvent) (e : WorkerEvent) : Occurrence → Prop
  | opened a => (∃ parallelized, e = .suiteStart a.key parallelized) ∧
      (suiteClock es a.key).level = 0 ∧ a.number = (suiteClock es a.key).count + 1
  | suiteSkipped a => (∃ reason, e = .suiteSkip a.key reason) ∧ suiteSpan? es a.key = some a
  | suiteFailed a => (∃ failure, e = .suiteFailure a.key failure) ∧ suiteSpan? es a.key = some a
  | closed a => e = .suiteFinish a.key ∧
      (suiteClock es a.key).level = 1 ∧ a.number = (suiteClock es a.key).count
  | started x home => e = .testStart x.key ∧ (testClock es x.key).level = 0 ∧
      x.number = (testClock es x.key).count + 1 ∧ home = suiteSpan? es x.key.suite
  | testSkipped x => (∃ reason, e = .testSkip x.key reason) ∧ testSpan? es x.key = some x
  | testFailed x => (∃ failure, e = .testFailure x.key failure) ∧ testSpan? es x.key = some x
  | finished x => e = .testFinish x.key ∧ testSpan? es x.key = some x

/-- What an event does arises from it. -/
theorem arises_of_occurrence? (h : occurrence? es e = some o) : o.Arises es e := by
  -- A span that is looked up has the key that it is looked up by.
  have ofSuite : ∀ {s a}, suiteSpan? es s = some a → s = a.key := fun h =>
    (Clock.key_of_span? h).symm
  have ofTest : ∀ {t x}, testSpan? es t = some x → t = x.key := fun h =>
    (Clock.key_of_span? h).symm
  cases e with
  | suiteStart s parallelized =>
    obtain ⟨hl, h⟩ := Option.ite_none_right_eq_some.mp h
    obtain rfl := Option.some_inj.mp h
    exact ⟨⟨parallelized, rfl⟩, hl, rfl⟩
  | suiteFinish s =>
    obtain ⟨hl, h⟩ := Option.ite_none_right_eq_some.mp h
    obtain rfl := Option.some_inj.mp h
    exact ⟨rfl, hl, rfl⟩
  | testStart t =>
    obtain ⟨hl, h⟩ := Option.ite_none_right_eq_some.mp h
    obtain rfl := Option.some_inj.mp h
    exact ⟨rfl, hl, rfl, rfl⟩
  | suiteSkip s reason =>
    obtain ⟨a, ha, rfl⟩ := Option.map_eq_some_iff.mp h
    obtain rfl := ofSuite ha
    exact ⟨⟨reason, rfl⟩, ha⟩
  | suiteFailure s failure =>
    obtain ⟨a, ha, rfl⟩ := Option.map_eq_some_iff.mp h
    obtain rfl := ofSuite ha
    exact ⟨⟨failure, rfl⟩, ha⟩
  | testSkip t reason =>
    obtain ⟨x, hx, rfl⟩ := Option.map_eq_some_iff.mp h
    obtain rfl := ofTest hx
    exact ⟨⟨reason, rfl⟩, hx⟩
  | testFailure t failure =>
    obtain ⟨x, hx, rfl⟩ := Option.map_eq_some_iff.mp h
    obtain rfl := ofTest hx
    exact ⟨⟨failure, rfl⟩, hx⟩
  | testFinish t =>
    obtain ⟨x, hx, rfl⟩ := Option.map_eq_some_iff.mp h
    obtain rfl := ofTest hx
    exact ⟨rfl, hx⟩
  | coverage c => cases h

/-- What arises from an event is what it does. -/
theorem occurrence?_of_arises (h : o.Arises es e) : occurrence? es e = some o := by
  cases o with
  | opened a =>
    obtain ⟨⟨parallelized, rfl⟩, hl, hn⟩ := h
    exact (if_pos hl).trans (by rw [← hn])
  | closed a =>
    obtain ⟨rfl, hl, hn⟩ := h
    exact (if_pos hl).trans (by rw [← hn])
  | started x home =>
    obtain ⟨rfl, hl, hn, rfl⟩ := h
    exact (if_pos hl).trans (by rw [← hn])
  | suiteSkipped a =>
    obtain ⟨⟨reason, rfl⟩, ha⟩ := h
    exact Option.map_eq_some_iff.mpr ⟨a, ha, rfl⟩
  | suiteFailed a =>
    obtain ⟨⟨failure, rfl⟩, ha⟩ := h
    exact Option.map_eq_some_iff.mpr ⟨a, ha, rfl⟩
  | testSkipped x =>
    obtain ⟨⟨reason, rfl⟩, hx⟩ := h
    exact Option.map_eq_some_iff.mpr ⟨x, hx, rfl⟩
  | testFailed x =>
    obtain ⟨⟨failure, rfl⟩, hx⟩ := h
    exact Option.map_eq_some_iff.mpr ⟨x, hx, rfl⟩
  | finished x =>
    obtain ⟨rfl, hx⟩ := h
    exact Option.map_eq_some_iff.mpr ⟨x, hx, rfl⟩

/-- An event does just what arises from it. -/
theorem occurrence?_eq_some_iff : occurrence? es e = some o ↔ o.Arises es e :=
  ⟨arises_of_occurrence?, occurrence?_of_arises⟩

/-- What concerns a span of a suite happens while it is open. -/
theorem suiteSpan?_of_occurrence (h : occurrence? es e = some o) (ha : o.suite? = some a) :
    suiteSpan? es a.key = some a := by
  have h := occurrence?_eq_some_iff.mp h
  cases o with
  | suiteSkipped b => cases ha; exact h.2
  | suiteFailed b => cases ha; exact h.2
  | closed b =>
    cases ha
    exact Clock.span?_eq_some_iff.mpr ⟨by rw [h.2.1]; exact Nat.one_ne_zero, by rw [← h.2.2]⟩
  | started x home =>
    obtain ⟨-, -, -, rfl⟩ := h
    rwa [Clock.key_of_span? ha]
  | _ => cases ha

/-- What concerns a span of a test happens while it runs. -/
theorem testSpan?_of_occurrence (h : occurrence? es e = some o) (hx : o.test? = some x) :
    testSpan? es x.key = some x := by
  have h := occurrence?_eq_some_iff.mp h
  cases o with
  | testSkipped y => cases hx; exact h.2
  | testFailed y => cases hx; exact h.2
  | finished y => cases hx; exact h.2
  | _ => cases hx

/-! ### Where spans begin and end -/

/-- A span of a suite that was closed is over. -/
theorem past_of_closed (h : .closed a ∈ occurrences es) :
    (suiteClock es a.key).Past a.number := by
  obtain ⟨before, e, after, rfl, he⟩ := mem_gather.mp h
  obtain ⟨rfl, hl, hn⟩ := occurrence?_eq_some_iff.mp he
  rw [List.append_cons]
  refine suitePast_append ?_ after
  rw [suiteClock_concat, suiteTick, if_pos rfl, Clock.tick, Clock.rise, Clock.Past, hl, hn]
  exact Or.inr ⟨rfl, rfl⟩

theorem past_of_finished (h : .finished x ∈ occurrences es) :
    (testClock es x.key).Past x.number := by
  obtain ⟨before, e, after, rfl, he⟩ := mem_gather.mp h
  obtain ⟨rfl, hx⟩ := occurrence?_eq_some_iff.mp he
  rw [List.append_cons]
  refine testPast_append ?_ after
  rw [testClock_concat, testTick, if_pos rfl, Clock.tick, Clock.leave, Clock.Past,
    Clock.number_of_span? hx]
  exact Or.inr ⟨rfl, rfl⟩

/-- Nothing happens to a span of a suite once it was closed. -/
theorem no_suite_after_closed {u v : List Occurrence} (h : occurrences es = u ++ .closed a :: v) :
    ∀ o ∈ v, o.suite? ≠ some a := by
  intro o ho hoa
  obtain ⟨v₁, v₂, rfl⟩ := List.append_of_mem ho
  rw [← List.cons_append, ← List.append_assoc] at h
  obtain ⟨before, e, after, rfl, hu, he⟩ := exists_of_gather_eq h
  have hclosed : .closed a ∈ occurrences before := by
    rw [occurrences, hu]
    simp
  exact Clock.not_past_of_span? (suiteSpan?_of_occurrence he hoa) (past_of_closed hclosed)

theorem no_test_after_finished {u v : List Occurrence}
    (h : occurrences es = u ++ .finished x :: v) : ∀ o ∈ v, o.test? ≠ some x := by
  intro o ho hox
  obtain ⟨v₁, v₂, rfl⟩ := List.append_of_mem ho
  rw [← List.cons_append, ← List.append_assoc] at h
  obtain ⟨before, e, after, rfl, hu, he⟩ := exists_of_gather_eq h
  have hfinished : .finished x ∈ occurrences before := by
    rw [occurrences, hu]
    simp
  exact Clock.not_past_of_span? (testSpan?_of_occurrence he hox) (past_of_finished hfinished)

/-! ### Spans that are open -/

theorem occurrences_concat (es : List WorkerEvent) (e : WorkerEvent) :
    occurrences (es ++ [e]) = occurrences es ++ (occurrence? es e).toList :=
  gather_concat es e

/-- What is picked out of the occurrences of a script, with one more event. -/
theorem filterMap_occurrences_concat {β : Type} (f : Occurrence → Option β)
    (es : List WorkerEvent) (e : WorkerEvent) :
    (occurrences (es ++ [e])).filterMap f =
      (occurrences es).filterMap f ++ ((occurrence? es e).bind f).toList := by
  rw [occurrences_concat, List.filterMap_append]
  cases occurrence? es e with
  | none => rfl
  | some o =>
    rw [Option.toList_some, List.filterMap_cons, Option.bind_some]
    cases f o <;> rfl

theorem mem_occurrences_concat {o : Occurrence} :
    o ∈ occurrences (es ++ [e]) ↔ o ∈ occurrences es ∨ occurrence? es e = some o := by
  rw [occurrences_concat, List.mem_append, Option.mem_toList]

/-- A span of a suite that is open stays open until it is closed. -/
theorem suiteSpan?_concat {s : SuiteKey} (h : suiteSpan? es s = some a) (e : WorkerEvent) :
    suiteSpan? (es ++ [e]) s = some a ∨ occurrence? es e = some (.closed a) := by
  obtain rfl := Clock.key_of_span? h
  rw [suiteSpan?, suiteClock_concat]
  rcases Clock.span?_tick h (suiteTick a.key e) with h' | ⟨ht, hl⟩ | ht
  · exact Or.inl h'
  · refine Or.inr (occurrence?_eq_some_iff.mpr ⟨?_, hl, ?_⟩)
    · rcases suiteTick_cases a.key e with ⟨p, -, h'⟩ | ⟨he, -⟩ | h'
      · rw [ht] at h'; cases h'
      · exact he
      · rw [ht] at h'; cases h'
    · exact Clock.number_of_span? h
  · rcases suiteTick_cases a.key e with ⟨p, -, h'⟩ | ⟨-, h'⟩ | h' <;>
      rw [ht] at h' <;> cases h'

theorem testSpan?_concat {t : TestKey} (h : testSpan? es t = some x) (e : WorkerEvent) :
    testSpan? (es ++ [e]) t = some x ∨ occurrence? es e = some (.finished x) := by
  obtain rfl := Clock.key_of_span? h
  rw [testSpan?, testClock_concat]
  rcases testTick_cases x.key e with ⟨-, ht⟩ | ⟨he, -⟩ | ht
  · rw [ht]
    rcases Clock.span?_tick h .enter with h' | ⟨h', -⟩ | h'
    · exact Or.inl h'
    · cases h'
    · cases h'
  · exact Or.inr (occurrence?_eq_some_iff.mpr ⟨he, h⟩)
  · rw [ht]
    exact Or.inl h

/-- A span of a suite that began is over or still open. -/
theorem closed_or_open (h : .opened a ∈ occurrences es) :
    .closed a ∈ occurrences es ∨ suiteSpan? es a.key = some a := by
  induction es using List.reverseRecOn with
  | nil => cases h
  | append_singleton es e ih =>
    rcases mem_occurrences_concat.mp h with h | h
    · rcases ih h with h | h
      · exact Or.inl (mem_occurrences_concat.mpr (Or.inl h))
      · -- Only the last event can close a span that was open before it.
        rcases suiteSpan?_concat h e with h | h
        · exact Or.inr h
        · exact Or.inl (mem_occurrences_concat.mpr (Or.inr h))
    · obtain ⟨⟨p, rfl⟩, hl, hn⟩ := occurrence?_eq_some_iff.mp h
      refine Or.inr (Clock.span?_eq_some_iff.mpr ?_)
      rw [suiteClock_concat, suiteTick, if_pos rfl, Clock.tick, Clock.deepen, if_pos hl, ← hn]
      exact ⟨Nat.succ_ne_zero _, rfl⟩

theorem finished_or_running {home : Option (Span SuiteKey)}
    (h : .started x home ∈ occurrences es) :
    .finished x ∈ occurrences es ∨ testSpan? es x.key = some x := by
  induction es using List.reverseRecOn with
  | nil => cases h
  | append_singleton es e ih =>
    rcases mem_occurrences_concat.mp h with h | h
    · rcases ih h with h | h
      · exact Or.inl (mem_occurrences_concat.mpr (Or.inl h))
      · rcases testSpan?_concat h e with h | h
        · exact Or.inr h
        · exact Or.inl (mem_occurrences_concat.mpr (Or.inr h))
    · obtain ⟨rfl, hl, hn, -⟩ := occurrence?_eq_some_iff.mp h
      refine Or.inr (Clock.span?_eq_some_iff.mpr ?_)
      rw [testClock_concat, testTick, if_pos rfl, Clock.tick, Clock.enter, if_pos hl,
        Clock.deepen, if_pos hl, ← hn]
      exact ⟨Nat.succ_ne_zero _, rfl⟩

/-- A span of a suite that is open was open before, or an opening begins it. -/
theorem suiteSpan?_of_concat {s : SuiteKey} (h : suiteSpan? (es ++ [e]) s = some a) :
    suiteSpan? es s = some a ∨ occurrence? es e = some (.opened a) := by
  rw [suiteSpan?, suiteClock_concat] at h
  rcases Clock.span?_of_tick h with h | ⟨ht, hl, rfl⟩
  · exact Or.inl h
  · refine Or.inr (occurrence?_eq_some_iff.mpr ⟨?_, hl, rfl⟩)
    rcases suiteTick_cases s e with ⟨p, he, -⟩ | ⟨-, h'⟩ | h'
    · exact ⟨p, he⟩
    · rw [h'] at ht; rcases ht with ht | ht <;> cases ht
    · rw [h'] at ht; rcases ht with ht | ht <;> cases ht

theorem testSpan?_of_concat {t : TestKey} (h : testSpan? (es ++ [e]) t = some x) :
    testSpan? es t = some x ∨ ∃ home, occurrence? es e = some (.started x home) := by
  rw [testSpan?, testClock_concat] at h
  rcases Clock.span?_of_tick h with h | ⟨ht, hl, rfl⟩
  · exact Or.inl h
  · refine Or.inr ⟨_, occurrence?_eq_some_iff.mpr ⟨?_, hl, rfl, rfl⟩⟩
    rcases testTick_cases t e with ⟨he, -⟩ | ⟨-, h'⟩ | h'
    · exact he
    · rw [h'] at ht; rcases ht with ht | ht <;> cases ht
    · rw [h'] at ht; rcases ht with ht | ht <;> cases ht

/-- The span in which a suite is open began with an opening. -/
theorem opened_of_suiteSpan? {s : SuiteKey} (h : suiteSpan? es s = some a) :
    .opened a ∈ occurrences es := by
  induction es using List.reverseRecOn with
  | nil => cases h
  | append_singleton es e ih =>
    rw [mem_occurrences_concat]
    exact (suiteSpan?_of_concat h).imp ih id

theorem started_of_testSpan? {t : TestKey} (h : testSpan? es t = some x) :
    ∃ home, .started x home ∈ occurrences es := by
  induction es using List.reverseRecOn with
  | nil => cases h
  | append_singleton es e ih =>
    simp only [mem_occurrences_concat]
    rcases testSpan?_of_concat h with h | ⟨home, h⟩
    · obtain ⟨home, h⟩ := ih h
      exact ⟨home, Or.inl h⟩
    · exact ⟨home, Or.inr h⟩

/-! ### Spans are told apart by their numbers -/

/-- The spans of a suite that began are numbered up to its count. -/
theorem number_le_of_opened (h : .opened a ∈ occurrences es) :
    a.number ≤ (suiteClock es a.key).count := by
  rcases closed_or_open h with h | h
  · exact Clock.le_of_past (past_of_closed h)
  · exact Nat.le_of_eq (Clock.number_of_span? h)

theorem number_le_of_started {home : Option (Span SuiteKey)}
    (h : .started x home ∈ occurrences es) : x.number ≤ (testClock es x.key).count := by
  rcases finished_or_running h with h | h
  · exact Clock.le_of_past (past_of_finished h)
  · exact Nat.le_of_eq (Clock.number_of_span? h)

/-- A span of a suite begins once. -/
theorem not_opened_of_occurrence (h : occurrence? es e = some (.opened a)) :
    .opened a ∉ occurrences es := by
  intro ha
  have := number_le_of_opened ha
  rw [(occurrence?_eq_some_iff.mp h).2.2] at this
  omega

/-- Nothing happens to a span of a suite before it is opened. -/
theorem no_suite_before_opened (h : occurrence? es e = some (.opened a)) :
    ∀ o ∈ occurrences es, o.suite? ≠ some a := by
  intro o ho hoa
  obtain ⟨before, e', after, rfl, he'⟩ := mem_gather.mp ho
  have hopened := opened_of_suiteSpan? (suiteSpan?_of_occurrence he' hoa)
  exact not_opened_of_occurrence h ((prefix_gather_append before (e' :: after)).subset hopened)

theorem not_started_of_occurrence {home other : Option (Span SuiteKey)}
    (h : occurrence? es e = some (.started x home)) : .started x other ∉ occurrences es := by
  intro hx
  have := number_le_of_started hx
  rw [(occurrence?_eq_some_iff.mp h).2.2.1] at this
  omega

theorem no_test_before_started {home : Option (Span SuiteKey)}
    (h : occurrence? es e = some (.started x home)) : ∀ o ∈ occurrences es, o.test? ≠ some x := by
  intro o ho hox
  obtain ⟨before, e', after, rfl, he'⟩ := mem_gather.mp ho
  obtain ⟨other, hstarted⟩ := started_of_testSpan? (testSpan?_of_occurrence he' hox)
  exact not_started_of_occurrence h ((prefix_gather_append before (e' :: after)).subset hstarted)

/-- A span of a test has one home. -/
theorem home_unique {home other : Option (Span SuiteKey)}
    (h : .started x home ∈ occurrences es) (h' : .started x other ∈ occurrences es) :
    home = other := by
  induction es using List.reverseRecOn with
  | nil => cases h
  | append_singleton es e ih =>
    rcases mem_occurrences_concat.mp h with h | h
    · rcases mem_occurrences_concat.mp h' with h' | h'
      · exact ih h h'
      · exact absurd h (not_started_of_occurrence h')
    · rcases mem_occurrences_concat.mp h' with h' | h'
      · exact absurd h' (not_started_of_occurrence h)
      · rw [h, Option.some_inj, Occurrence.started.injEq] at h'
        exact h'.2

/-! ### What a place in a script says of the whole -/

/-- A span of a suite to which something happened was opened. -/
theorem opened_of_suite? (ho : o ∈ occurrences es) (ha : o.suite? = some a) :
    .opened a ∈ occurrences es := by
  obtain ⟨before, e, after, rfl, he⟩ := mem_gather.mp ho
  exact (prefix_gather_append before (e :: after)).subset
    (opened_of_suiteSpan? (suiteSpan?_of_occurrence he ha))

/-- Everything that happened to a span of a suite besides its closing came before that. -/
theorem mem_of_closed {u v : List Occurrence} (h : occurrences es = u ++ .closed a :: v)
    (ho : o ∈ occurrences es) (ha : o.suite? = some a) (hne : o ≠ .closed a) : o ∈ u := by
  rw [h, List.mem_append, List.mem_cons] at ho
  rcases ho with ho | ho | ho
  · exact ho
  · exact absurd ho hne
  · exact absurd ha (no_suite_after_closed h o ho)

/-- A span of a suite is closed at one place. -/
theorem closing_unique {u v u' v' : List Occurrence} (h : occurrences es = u ++ .closed a :: v)
    (h' : occurrences es = u' ++ .closed a :: v') : u = u' := by
  -- The later of two places would be one where something happens to a span that is over.
  have hle : ∀ {u v u' v' xs : List Occurrence}, occurrences es = u ++ .closed a :: v →
      u' = u ++ xs → .closed a :: v = xs ++ .closed a :: v' → u = u' := by
    intro u v u' v' xs h hu' hv
    cases xs with
    | nil => rw [hu', List.append_nil]
    | cons o xs =>
      rw [List.cons_append, List.cons.injEq] at hv
      exact absurd rfl (no_suite_after_closed h (.closed a) (by rw [hv.2]; simp))
  rcases List.append_eq_append_iff.mp (h.symm.trans h') with ⟨xs, hu, hv⟩ | ⟨xs, hu, hv⟩
  · exact hle h hu hv
  · exact (hle h' hu hv).symm

theorem mem_of_finished {u v : List Occurrence} (h : occurrences es = u ++ .finished x :: v)
    (ho : o ∈ occurrences es) (hx : o.test? = some x) (hne : o ≠ .finished x) : o ∈ u := by
  rw [h, List.mem_append, List.mem_cons] at ho
  rcases ho with ho | ho | ho
  · exact ho
  · exact absurd ho hne
  · exact absurd hx (no_test_after_finished h o ho)

/-- A span of a test starts before it is finished. -/
theorem started_of_finished {u v : List Occurrence} {home : Option (Span SuiteKey)}
    (h : occurrences es = u ++ .finished x :: v) (hstart : .started x home ∈ occurrences es) :
    .started x home ∈ u := by
  obtain ⟨before, e, after, rfl, hu, he⟩ := exists_of_gather_eq h
  obtain ⟨other, hother⟩ := started_of_testSpan? (testSpan?_of_occurrence he rfl)
  have hwhole : .started x other ∈ occurrences (before ++ e :: after) :=
    (prefix_gather_append before (e :: after)).subset hother
  rw [home_unique hstart hwhole, ← hu]
  exact hother

end TestTelemetry
