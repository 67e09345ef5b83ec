/-
The handler follows the script.

* `Handler.Keeps` — the handler counts and remembers exactly what the script leaves open;
* `Handler.Tracks` — its run reflects what happened in the script;
* `Handler.tracks_applyAll` — both hold after every script.
-/
import TestTelemetry.Proofs.Worker.Reflection

namespace TestTelemetry

namespace Handler

/-! ### What is open -/

/-- A handler remembers what a script leaves open: how deep every suite is open, and numbers for
the open suites and the running tests. -/
structure Keeps (h : Handler) (es : List WorkerEvent) : Prop where
  depth : ∀ s, h.activations.depth s = (suiteClock es s).level
  suite : ∀ s, h.suites.find? s = none ↔ (suiteClock es s).level = 0
  test : ∀ t, h.tests.find? t = none ↔ (testClock es t).level = 0

variable {h : Handler} {es : List WorkerEvent}

namespace Keeps

theorem isFirst_iff (hk : h.Keeps es) (s : SuiteKey) :
    h.activations.isFirst s = true ↔ (suiteClock es s).level = 0 := by
  rw [Activations.isFirst, decide_eq_true_eq, hk.depth]

theorem isLast_iff (hk : h.Keeps es) (s : SuiteKey) :
    h.activations.isLast s = true ↔ (suiteClock es s).level = 1 := by
  rw [Activations.isLast, decide_eq_true_eq, hk.depth]

theorem contains_iff (hk : h.Keeps es) (t : TestKey) :
    h.tests.contains t = true ↔ (testClock es t).level ≠ 0 := by
  rw [Keyed.contains, Option.isSome_iff_ne_none]
  exact not_congr (hk.test t)

theorem suite_eq_none (hk : h.Keeps es) {s : SuiteKey} (hs : suiteSpan? es s = none) :
    h.suites.find? s = none :=
  (hk.suite s).mpr (Clock.span?_eq_none_iff.mp hs)

theorem test_eq_none (hk : h.Keeps es) {t : TestKey} (ht : testSpan? es t = none) :
    h.tests.find? t = none :=
  (hk.test t).mpr (Clock.span?_eq_none_iff.mp ht)

end Keeps

theorem keeps_start (d : ModuleDescriptor) (settings : ExecutionSettings) :
    (start d settings).Keeps [] where
  depth := fun _ => rfl
  suite := fun _ => ⟨fun _ => rfl, fun _ => rfl⟩
  test := fun _ => ⟨fun _ => rfl, fun _ => rfl⟩

/-- What leaves every clock as it is and touches nothing but the run. -/
theorem Keeps.of_stay (hk : h.Keeps es) {h' : Handler} {e : WorkerEvent}
    (hs : ∀ s, suiteTick s e = .stay) (ht : ∀ t, testTick t e = .stay)
    (ha : h'.activations = h.activations) (hsuites : h'.suites = h.suites)
    (htests : h'.tests = h.tests) : h'.Keeps (es ++ [e]) where
  depth := by
    intro s
    rw [suiteClock_concat, hs, ha]
    exact hk.depth s
  suite := by
    intro s
    rw [suiteClock_concat, hs, hsuites]
    exact hk.suite s
  test := by
    intro t
    rw [testClock_concat, ht, htests]
    exact hk.test t

theorem keeps_openSuite (hk : h.Keeps es) (s : SuiteKey) (parallelized : Bool) :
    (h.openSuite s parallelized).Keeps (es ++ [.suiteStart s parallelized]) := by
  have hfirst := hk.isFirst_iff s
  constructor
  case depth =>
    intro j
    have hact : (h.openSuite s parallelized).activations = h.activations.start s := by
      unfold openSuite
      split <;> rfl
    rw [hact, Activations.depth_start, hk.depth, suiteClock_concat, suiteTick]
    split <;> rfl
  case suite =>
    intro j
    rw [suiteClock_concat, suiteTick]
    by_cases hj : s = j
    · subst hj
      rw [if_pos rfl]
      refine iff_of_false ?_ (Nat.succ_ne_zero _)
      unfold openSuite
      split
      case isTrue => simp [Keyed.find?_set]
      case isFalse hf => exact mt (hk.suite s).mp (mt hfirst.mpr hf)
    · rw [if_neg hj]
      have hfind : (h.openSuite s parallelized).suites.find? j = h.suites.find? j := by
        unfold openSuite
        split
        · exact (Keyed.find?_set ..).trans (if_neg hj)
        · rfl
      rw [hfind]
      exact hk.suite j
  case test =>
    intro t
    have htests : (h.openSuite s parallelized).tests = h.tests := by
      unfold openSuite
      split <;> rfl
    rw [htests, testClock_concat]
    exact hk.test t

theorem keeps_closeSuite (hk : h.Keeps es) (s : SuiteKey) :
    (h.closeSuite s).Keeps (es ++ [.suiteFinish s]) := by
  have hlast := hk.isLast_iff s
  constructor
  case depth =>
    intro j
    have hact : (h.closeSuite s).activations = h.activations.finish s := by
      unfold closeSuite
      split
      · split <;> rfl
      · rfl
    rw [hact, Activations.depth_finish, hk.depth, suiteClock_concat, suiteTick]
    split <;> rfl
  case suite =>
    intro j
    rw [suiteClock_concat, suiteTick]
    -- Only the last closing takes the suite out of the table.
    have hfind : (h.closeSuite s).suites.find? j =
        if (suiteClock es s).level = 1 ∧ s = j then none else h.suites.find? j := by
      unfold closeSuite
      by_cases hl : (suiteClock es s).level = 1
      · rw [if_pos (hlast.mpr hl)]
        cases hs : h.suites.find? s with
        | none =>
          rw [hk.suite, hl] at hs
          cases hs
        | some n => simp [Keyed.find?_erase, hl]
      · rw [if_neg (mt hlast.mp hl)]
        simp [hl]
    rw [hfind]
    by_cases hj : s = j
    · subst hj
      rw [if_pos rfl]
      show _ ↔ (suiteClock es s).level - 1 = 0
      by_cases hl : (suiteClock es s).level = 1
      · rw [if_pos ⟨hl, rfl⟩, hl]
        exact iff_of_true rfl rfl
      · rw [if_neg (fun h => hl h.1), hk.suite]
        omega
    · rw [if_neg hj, if_neg (fun h => hj h.2)]
      exact hk.suite j
  case test =>
    intro t
    have htests : (h.closeSuite s).tests = h.tests := by
      unfold closeSuite
      split
      · split <;> rfl
      · rfl
    rw [htests, testClock_concat]
    exact hk.test t

theorem keeps_openTest (hk : h.Keeps es) (t : TestKey) :
    (h.openTest t).Keeps (es ++ [.testStart t]) := by
  have hruns := hk.contains_iff t
  have hact : (h.openTest t).activations = h.activations ∧ (h.openTest t).suites = h.suites := by
    unfold openTest
    split
    · exact ⟨rfl, rfl⟩
    · exact ⟨rfl, rfl⟩
  constructor
  case depth =>
    intro s
    rw [hact.1, suiteClock_concat]
    exact hk.depth s
  case suite =>
    intro s
    rw [hact.2, suiteClock_concat]
    exact hk.suite s
  case test =>
    intro j
    rw [testClock_concat, testTick]
    unfold openTest
    by_cases hl : (testClock es t).level = 0
    · rw [if_neg (fun hc => hruns.mp hc hl)]
      by_cases hj : t = j
      · subst hj
        rw [if_pos rfl, Clock.tick, Clock.enter, if_pos hl]
        exact iff_of_false (by simp [Keyed.find?_set]) (Nat.succ_ne_zero _)
      · rw [if_neg hj]
        simp only [Keyed.find?_set, if_neg hj]
        exact hk.test j
    · rw [if_pos (hruns.mpr hl), hk.test]
      by_cases hj : t = j
      · subst hj
        rw [if_pos rfl, Clock.tick, Clock.enter, if_neg hl]
      · rw [if_neg hj]
        rfl

theorem keeps_closeTest (hk : h.Keeps es) (t : TestKey) :
    (h.closeTest t).Keeps (es ++ [.testFinish t]) := by
  have hact : (h.closeTest t).activations = h.activations ∧ (h.closeTest t).suites = h.suites := by
    unfold closeTest
    split
    · exact ⟨rfl, rfl⟩
    · exact ⟨rfl, rfl⟩
  have hfind : ∀ j, (h.closeTest t).tests.find? j = if t = j then none else h.tests.find? j := by
    intro j
    unfold closeTest
    cases ht : h.tests.find? t with
    | none =>
      show h.tests.find? j = _
      split
      · subst_vars; exact ht
      · rfl
    | some n => exact Keyed.find?_erase ..
  constructor
  case depth =>
    intro s
    rw [hact.1, suiteClock_concat]
    exact hk.depth s
  case suite =>
    intro s
    rw [hact.2, suiteClock_concat]
    exact hk.suite s
  case test =>
    intro j
    rw [testClock_concat, testTick, hfind]
    split
    · exact iff_of_true rfl rfl
    · exact hk.test j

/-- Whatever happens, the handler remembers what is open. -/
theorem keeps_apply (hk : h.Keeps es) (e : WorkerEvent) : (h.apply e).Keeps (es ++ [e]) := by
  -- What is done to a running suite or test touches the run only.
  have onSuite : ∀ s f, (h.onSuite s f).activations = h.activations ∧
      (h.onSuite s f).suites = h.suites ∧ (h.onSuite s f).tests = h.tests := by
    intro s f
    unfold Handler.onSuite
    split <;> exact ⟨rfl, rfl, rfl⟩
  have onTest : ∀ t f, (h.onTest t f).activations = h.activations ∧
      (h.onTest t f).suites = h.suites ∧ (h.onTest t f).tests = h.tests := by
    intro t f
    unfold Handler.onTest
    split <;> exact ⟨rfl, rfl, rfl⟩
  cases e with
  | suiteStart s parallelized => exact keeps_openSuite hk s parallelized
  | suiteFinish s => exact keeps_closeSuite hk s
  | testStart t => exact keeps_openTest hk t
  | testFinish t => exact keeps_closeTest hk t
  | suiteSkip s reason =>
    obtain ⟨ha, hs, ht⟩ := onSuite s fun run n => run.skipSuite n reason
    exact hk.of_stay (fun _ => rfl) (fun _ => rfl) ha hs ht
  | suiteFailure s f =>
    obtain ⟨ha, hs, ht⟩ := onSuite s fun run n => run.failSuite n f
    exact hk.of_stay (fun _ => rfl) (fun _ => rfl) ha hs ht
  | testSkip t reason =>
    obtain ⟨ha, hs, ht⟩ := onTest t _
    exact hk.of_stay (fun _ => rfl) (fun _ => rfl) ha hs ht
  | testFailure t f =>
    obtain ⟨ha, hs, ht⟩ := onTest t fun run n => run.failTest n f
    exact hk.of_stay (fun _ => rfl) (fun _ => rfl) ha hs ht
  | coverage c => exact hk.of_stay (fun _ => rfl) (fun _ => rfl) rfl rfl rfl

/-! ### What the run shows -/

/-- The numbers that a handler keeps, by the spans that a script leaves open. -/
def numbering (h : Handler) (es : List WorkerEvent) : Numbering where
  suite a := if suiteSpan? es a.key = some a then h.suites.find? a.key else none
  test x := if testSpan? es x.key = some x then h.tests.find? x.key else none

/-- A handler follows a script: it remembers what is open, and its run shows what happened. -/
structure Tracks (h : Handler) (es : List WorkerEvent) : Prop where
  keeps : h.Keeps es
  reflects : h.run.Reflects (h.numbering es) (occurrences es)

variable {a : Span SuiteKey} {x : Span TestKey} {n : Nat} {e : WorkerEvent}

theorem suite_numbering_iff : (h.numbering es).suite a = some n ↔
    suiteSpan? es a.key = some a ∧ h.suites.find? a.key = some n := by
  rw [numbering, Option.ite_none_right_eq_some]

theorem test_numbering_iff : (h.numbering es).test x = some n ↔
    testSpan? es x.key = some x ∧ h.tests.find? x.key = some n := by
  rw [numbering, Option.ite_none_right_eq_some]

theorem Keeps.exists_suite (hk : h.Keeps es) (ha : suiteSpan? es a.key = some a) :
    ∃ n, h.suites.find? a.key = some n ∧ (h.numbering es).suite a = some n := by
  have hfind : h.suites.find? a.key ≠ none :=
    mt (hk.suite a.key).mp (Clock.span?_eq_some_iff.mp ha).1
  obtain ⟨n, hn⟩ := Option.ne_none_iff_exists'.mp hfind
  exact ⟨n, hn, suite_numbering_iff.mpr ⟨ha, hn⟩⟩

theorem Keeps.exists_test (hk : h.Keeps es) (hx : testSpan? es x.key = some x) :
    ∃ n, h.tests.find? x.key = some n ∧ (h.numbering es).test x = some n := by
  have hfind : h.tests.find? x.key ≠ none :=
    mt (hk.test x.key).mp (Clock.span?_eq_some_iff.mp hx).1
  obtain ⟨n, hn⟩ := Option.ne_none_iff_exists'.mp hfind
  exact ⟨n, hn, test_numbering_iff.mpr ⟨hx, hn⟩⟩

/-- Suites that were not opened just now have the numbers that they had. -/
theorem suite_numbering_of_concat {h' : Handler}
    (hn : (h'.numbering (es ++ [e])).suite a = some n)
    (hopen : ∀ b, occurrence? es e ≠ some (.opened b))
    (hfind : h'.suites.find? a.key = some n → h.suites.find? a.key = some n) :
    (h.numbering es).suite a = some n := by
  obtain ⟨ha, hn⟩ := suite_numbering_iff.mp hn
  rcases suiteSpan?_of_concat ha with ha | ha
  · exact suite_numbering_iff.mpr ⟨ha, hfind hn⟩
  · exact absurd ha (hopen a)

theorem test_numbering_of_concat {h' : Handler}
    (hn : (h'.numbering (es ++ [e])).test x = some n)
    (hstart : ∀ y home, occurrence? es e ≠ some (.started y home))
    (hfind : h'.tests.find? x.key = some n → h.tests.find? x.key = some n) :
    (h.numbering es).test x = some n := by
  obtain ⟨hx, hn⟩ := test_numbering_iff.mp hn
  rcases testSpan?_of_concat hx with hx | ⟨home, hx⟩
  · exact test_numbering_iff.mpr ⟨hx, hfind hn⟩
  · exact absurd hx (hstart x home)

/-- What does not concern any span, and changes no suite and no test. -/
theorem Keeps.tracks_of_none {h' : Handler} (hk : h'.Keeps (es ++ [e])) (h : Handler)
    (ho : occurrence? es e = none) (hsuites : ∀ s n, h'.suites.find? s = some n →
      h.suites.find? s = some n) (htests : h'.tests = h.tests)
    (hrun : h'.run.Reflects (h.numbering es) (occurrences es)) : h'.Tracks (es ++ [e]) := by
  refine ⟨hk, ?_⟩
  rw [occurrences_concat, ho, Option.toList_none, List.append_nil]
  refine hrun.mono (fun a n hn => ?_) fun x n hn => ?_
  · exact suite_numbering_of_concat hn (by simp [ho]) (hsuites a.key n)
  · exact test_numbering_of_concat hn (by simp [ho]) (htests ▸ id)

/-- What does not concern any span, and changes nothing at all. -/
theorem Tracks.of_same (ht : h.Tracks es) {h' : Handler} (hk : h'.Keeps (es ++ [e]))
    (ho : occurrence? es e = none) (hsame : h' = h) : h'.Tracks (es ++ [e]) := by
  rw [hsame] at hk ⊢
  exact hk.tracks_of_none h ho (fun _ _ => id) rfl ht.reflects

/-- When a suite is opened, only its new span gets a number. -/
theorem suite_numbering_of_opened {s : SuiteKey} (hl : (suiteClock es s).level = 0)
    (parallelized : Bool) (run : Run) (activations : Activations SuiteKey) (m : Nat)
    (ha : (numbering { h with run, activations, suites := h.suites.set s m }
      (es ++ [.suiteStart s parallelized])).suite a = some n) :
    ((h.numbering es).addSuite ⟨s, (suiteClock es s).count + 1⟩ m).suite a = some n := by
  have ho : occurrence? es (.suiteStart s parallelized) =
      some (.opened ⟨s, (suiteClock es s).count + 1⟩) := if_pos hl
  obtain ⟨ha, hfind⟩ := suite_numbering_iff.mp ha
  simp only [Keyed.find?_set] at hfind
  -- A span that is open now was open before, or it is the one that begins.
  rcases suiteSpan?_of_concat ha with hbefore | hnow
  · have has : s ≠ a.key := by
      rintro rfl
      exact (Clock.span?_eq_some_iff.mp hbefore).1 hl
    rw [if_neg has] at hfind
    refine (if_neg ?_).trans (suite_numbering_iff.mpr ⟨hbefore, hfind⟩)
    rintro rfl
    exact has rfl
  · rw [ho, Option.some_inj, Occurrence.opened.injEq] at hnow
    subst hnow
    rw [if_pos rfl] at hfind
    exact (if_pos rfl).trans hfind

theorem tracks_openSuite (ht : h.Tracks es) (s : SuiteKey) (parallelized : Bool) :
    (h.openSuite s parallelized).Tracks (es ++ [.suiteStart s parallelized]) := by
  have hk := keeps_openSuite ht.keeps s parallelized
  have hfirst := ht.keeps.isFirst_iff s
  by_cases hl : (suiteClock es s).level = 0
  · have ho : occurrence? es (.suiteStart s parallelized) =
        some (.opened ⟨s, (suiteClock es s).count + 1⟩) := if_pos hl
    refine ⟨hk, ?_⟩
    rw [occurrences_concat, ho, Option.toList_some]
    unfold openSuite
    rw [if_pos (hfirst.mpr hl)]
    exact (ht.reflects.startSuite (no_suite_before_opened ho) s.name s.codeUnit
      parallelized).mono (fun b k hb => suite_numbering_of_opened hl _ _ _ _ hb) fun y k hy =>
        test_numbering_of_concat hy (by simp [ho]) id
  · have ho : occurrence? es (.suiteStart s parallelized) = none := if_neg hl
    refine hk.tracks_of_none h ho ?_ ?_ ?_ <;> unfold openSuite <;> rw [if_neg (mt hfirst.mp hl)]
    · exact fun _ _ => id
    · exact ht.reflects

theorem tracks_closeSuite (ht : h.Tracks es) (s : SuiteKey) :
    (h.closeSuite s).Tracks (es ++ [.suiteFinish s]) := by
  have hk := keeps_closeSuite ht.keeps s
  have hlast := ht.keeps.isLast_iff s
  by_cases hl : (suiteClock es s).level = 1
  · have ho : occurrence? es (.suiteFinish s) = some (.closed ⟨s, (suiteClock es s).count⟩) :=
      if_pos hl
    obtain ⟨n, hfind, hn⟩ := ht.keeps.exists_suite (suiteSpan?_of_occurrence ho rfl)
    refine ⟨hk, ?_⟩
    rw [occurrences_concat, ho, Option.toList_some]
    unfold closeSuite
    simp only [hlast.mpr hl, if_true, hfind]
    refine (ht.reflects.endSuite hn).mono (fun b k hb => ?_) fun y k hy => ?_
    · -- Under the key of the suite nothing is left in the table.
      have hbs : s ≠ b.key := by
        rintro rfl
        have hfind := (suite_numbering_iff.mp hb).2
        simp [Keyed.find?_erase] at hfind
      refine (if_neg ?_).trans (suite_numbering_of_concat hb (by simp [ho]) ?_)
      · rintro rfl
        exact hbs rfl
      · simp [Keyed.find?_erase, hbs]
    · exact test_numbering_of_concat hy (by simp [ho]) id
  · have ho : occurrence? es (.suiteFinish s) = none := if_neg hl
    refine hk.tracks_of_none h ho ?_ ?_ ?_ <;> unfold closeSuite <;> rw [if_neg (mt hlast.mp hl)]
    · exact fun _ _ => id
    · exact ht.reflects

/-- A remark about a suite that is open, or that is not. -/
theorem tracks_onSuite (ht : h.Tracks es) (s : SuiteKey) (f : Run → Nat → Run)
    (o : Span SuiteKey → Occurrence) (hk : (h.onSuite s f).Keeps (es ++ [e]))
    (ho : occurrence? es e = (suiteSpan? es s).map o) (hopen : ∀ a b, o a ≠ .opened b)
    (hstart : ∀ a y home, o a ≠ .started y home)
    (hf : ∀ a n, (h.numbering es).suite a = some n →
      (f h.run n).Reflects (h.numbering es) (occurrences es ++ [o a])) :
    (h.onSuite s f).Tracks (es ++ [e]) := by
  cases hs : suiteSpan? es s with
  | none =>
    have hfind := ht.keeps.suite_eq_none hs
    have hsame : h.onSuite s f = h := by
      unfold onSuite
      rw [hfind]
    rw [hs] at ho
    exact ht.of_same hk ho hsame
  | some a =>
    obtain rfl := Clock.key_of_span? hs
    obtain ⟨n, hfind, hn⟩ := ht.keeps.exists_suite hs
    rw [hs, Option.map_some] at ho
    refine ⟨hk, ?_⟩
    rw [occurrences_concat, ho, Option.toList_some]
    unfold onSuite
    rw [hfind]
    refine (hf a n hn).mono (fun b k hb => ?_) fun y k hy => ?_
    · exact suite_numbering_of_concat hb (by simp [ho, hopen]) id
    · exact test_numbering_of_concat hy (by simp [ho, hstart]) id

/-- A remark about a test that runs, or that does not. -/
theorem tracks_onTest (ht : h.Tracks es) (t : TestKey) (f : Run → Nat → Run)
    (o : Span TestKey → Occurrence) (hk : (h.onTest t f).Keeps (es ++ [e]))
    (ho : occurrence? es e = (testSpan? es t).map o) (hopen : ∀ x b, o x ≠ .opened b)
    (hstart : ∀ x y home, o x ≠ .started y home)
    (hf : ∀ x n, (h.numbering es).test x = some n →
      (f h.run n).Reflects (h.numbering es) (occurrences es ++ [o x])) :
    (h.onTest t f).Tracks (es ++ [e]) := by
  cases hs : testSpan? es t with
  | none =>
    have hfind := ht.keeps.test_eq_none hs
    have hsame : h.onTest t f = h := by
      unfold onTest
      rw [hfind]
    rw [hs] at ho
    exact ht.of_same hk ho hsame
  | some x =>
    obtain rfl := Clock.key_of_span? hs
    obtain ⟨n, hfind, hn⟩ := ht.keeps.exists_test hs
    rw [hs, Option.map_some] at ho
    refine ⟨hk, ?_⟩
    rw [occurrences_concat, ho, Option.toList_some]
    unfold onTest
    rw [hfind]
    refine (hf x n hn).mono (fun b k hb => ?_) fun y k hy => ?_
    · exact suite_numbering_of_concat hb (by simp [ho, hopen]) id
    · exact test_numbering_of_concat hy (by simp [ho, hstart]) id

/-- When a test starts, only its new span gets a number. -/
theorem test_numbering_of_started {t : TestKey} (hl : (testClock es t).level = 0) (run : Run)
    (m : Nat) (hx : (numbering { h with run, tests := h.tests.set t m }
      (es ++ [.testStart t])).test x = some n) :
    ((h.numbering es).addTest ⟨t, (testClock es t).count + 1⟩ m).test x = some n := by
  have ho : occurrence? es (.testStart t) =
      some (.started ⟨t, (testClock es t).count + 1⟩ (suiteSpan? es t.suite)) := if_pos hl
  obtain ⟨hx, hfind⟩ := test_numbering_iff.mp hx
  simp only [Keyed.find?_set] at hfind
  rcases testSpan?_of_concat hx with hbefore | ⟨home, hnow⟩
  · have hxt : t ≠ x.key := by
      rintro rfl
      exact (Clock.span?_eq_some_iff.mp hbefore).1 hl
    rw [if_neg hxt] at hfind
    refine (if_neg ?_).trans (test_numbering_iff.mpr ⟨hbefore, hfind⟩)
    rintro rfl
    exact hxt rfl
  · rw [ho, Option.some_inj, Occurrence.started.injEq] at hnow
    obtain rfl := hnow.1
    rw [if_pos rfl] at hfind
    exact (if_pos rfl).trans hfind

theorem tracks_openTest (ht : h.Tracks es) (t : TestKey) :
    (h.openTest t).Tracks (es ++ [.testStart t]) := by
  have hk := keeps_openTest ht.keeps t
  by_cases hl : (testClock es t).level = 0
  · have ho : occurrence? es (.testStart t) =
        some (.started ⟨t, (testClock es t).count + 1⟩ (suiteSpan? es t.suite)) := if_pos hl
    have hnew : ¬ h.tests.contains t = true := fun hc => (ht.keeps.contains_iff t).mp hc hl
    have hnotest := no_test_before_started ho
    have hnostart : ∀ other, .started ⟨t, (testClock es t).count + 1⟩ other ∉ occurrences es :=
      fun _ => not_started_of_occurrence ho
    refine ⟨hk, ?_⟩
    rw [occurrences_concat, ho, Option.toList_some]
    unfold openTest
    rw [if_neg hnew]
    cases hs : suiteSpan? es t.suite with
    | some a =>
      -- The suite is open, and the test joins it.
      have hkey : a.key = t.suite := Clock.key_of_span? hs
      obtain ⟨n, hfind, hn⟩ := ht.keeps.exists_suite (hkey ▸ hs)
      rw [hkey] at hfind
      simp only [hfind]
      refine (ht.reflects.startTest (ht.reflects.suite_lt hn) ?_ hnotest hnostart t.name
        t.parameters).mono (fun b k hb => ?_) fun y k hy =>
        test_numbering_of_started hl _ _ hy
      · intro b m hb
        rw [Option.some_inj]
        exact ht.reflects.suite_number_eq_iff hn hb
      · exact suite_numbering_of_concat hb (by simp [ho]) id
    | none =>
      -- The test gets a suite of its own, under a number that no open suite has.
      have hfind := ht.keeps.suite_eq_none hs
      simp only [hfind]
      have hdetached := ht.reflects.startDetached t.suite.name t.suite.codeUnit
      refine (hdetached.startTest (n := h.run.suites.length) ?_ ?_ hnotest hnostart t.name
        t.parameters).mono (fun b k hb => ?_) fun y k hy =>
        test_numbering_of_started hl _ _ hy
      · simp [Run.startDetached]
      · intro b m hb
        have hlt := ht.reflects.suite_lt hb
        exact iff_of_false (Nat.ne_of_gt hlt) (by simp)
      · exact suite_numbering_of_concat hb (by simp [ho]) id
  · have ho : occurrence? es (.testStart t) = none := if_neg hl
    have hruns : h.tests.contains t = true := (ht.keeps.contains_iff t).mpr hl
    have hsame : h.openTest t = h := by
      unfold openTest
      rw [if_pos hruns]
    exact ht.of_same hk ho hsame

theorem tracks_closeTest (ht : h.Tracks es) (t : TestKey) :
    (h.closeTest t).Tracks (es ++ [.testFinish t]) := by
  have hk := keeps_closeTest ht.keeps t
  cases hs : testSpan? es t with
  | none =>
    have ho : occurrence? es (.testFinish t) = none := by
      rw [occurrence?, hs, Option.map_none]
    have hfind := ht.keeps.test_eq_none hs
    have hsame : h.closeTest t = h := by
      unfold closeTest
      rw [hfind]
    exact ht.of_same hk ho hsame
  | some x =>
    obtain rfl := Clock.key_of_span? hs
    obtain ⟨n, hfind, hn⟩ := ht.keeps.exists_test hs
    have ho : occurrence? es (.testFinish x.key) = some (.finished x) := by
      rw [occurrence?, hs, Option.map_some]
    refine ⟨hk, ?_⟩
    rw [occurrences_concat, ho, Option.toList_some]
    unfold closeTest
    rw [hfind]
    refine (ht.reflects.endTest hn).mono (fun b k hb => ?_) fun y k hy => ?_
    · exact suite_numbering_of_concat hb (by simp [ho]) id
    · have hyx : x.key ≠ y.key := by
        intro hkey
        have hfind := (test_numbering_iff.mp hy).2
        simp [Keyed.find?_erase, hkey] at hfind
      refine (if_neg ?_).trans (test_numbering_of_concat hy (by simp [ho]) ?_)
      · rintro rfl
        exact hyx rfl
      · simp [Keyed.find?_erase, hyx]

/-- Whatever happens, the handler follows. -/
theorem tracks_apply (ht : h.Tracks es) (e : WorkerEvent) : (h.apply e).Tracks (es ++ [e]) := by
  have hk := keeps_apply ht.keeps e
  cases e with
  | suiteStart s parallelized => exact tracks_openSuite ht s parallelized
  | suiteFinish s => exact tracks_closeSuite ht s
  | testStart t => exact tracks_openTest ht t
  | testFinish t => exact tracks_closeTest ht t
  | suiteSkip s reason =>
    exact tracks_onSuite ht s (fun run n => run.skipSuite n reason) .suiteSkipped hk rfl (by simp)
      (by simp) fun a n hn => ht.reflects.skipSuite hn reason
  | suiteFailure s f =>
    exact tracks_onSuite ht s (fun run n => run.failSuite n f) .suiteFailed hk rfl (by simp)
      (by simp) fun a n hn => ht.reflects.failSuite hn f
  | testFailure t f =>
    exact tracks_onTest ht t (fun run n => run.failTest n f) .testFailed hk rfl (by simp)
      (by simp) fun x n hn => ht.reflects.failTest hn f
  | testSkip t reason =>
    refine tracks_onTest ht t (fun run n =>
      (if reason = some Tag.skippedByImpact then run.countSkipped moduleNumber else run).skipTest n
        reason) .testSkipped hk rfl (by simp) (by simp) fun x n hn => ?_
    -- A skip that the settings allow is counted before, which no span shows.
    split
    · have hcount : (h.run.countSkipped moduleNumber).Reflects (h.numbering es) (occurrences es) :=
        ht.reflects.of_modules rfl rfl (map_modify_of_eq fun _ => rfl)
      exact hcount.skipTest hn reason
    · exact ht.reflects.skipTest hn reason
  | coverage c =>
    refine hk.tracks_of_none h rfl (fun _ _ => id) rfl (ht.reflects.of_modules rfl rfl ?_)
    refine map_modify_of_eq fun m => ?_
    show (m.addCoverage c).suites = m.suites
    unfold ModuleRun.addCoverage
    split <;> rfl

theorem tracks_start (d : ModuleDescriptor) (settings : ExecutionSettings) :
    (start d settings).Tracks [] where
  keeps := keeps_start d settings
  reflects := {
    suite := fun a n hn => by simp [numbering, suiteSpan?, suiteClock, Clock.span?, Clock.zero] at hn
    suite_injective := fun a b n hn => by
      simp [numbering, suiteSpan?, suiteClock, Clock.span?, Clock.zero] at hn
    test := fun x n hn => by simp [numbering, testSpan?, testClock, Clock.span?, Clock.zero] at hn
    test_injective := fun x y n hn => by
      simp [numbering, testSpan?, testClock, Clock.span?, Clock.zero] at hn
    counted := rfl }

/-- A handler that follows a script follows every continuation. -/
theorem Tracks.applyAll (ht : h.Tracks es) (rest : List WorkerEvent) :
    (h.applyAll rest).Tracks (es ++ rest) := by
  induction rest generalizing h es with
  | nil =>
    rw [List.append_nil]
    exact ht
  | cons e rest ih =>
    rw [List.append_cons]
    exact ih (tracks_apply ht e)

/-- A handler follows every script that it is given. -/
theorem tracks_applyAll (d : ModuleDescriptor) (settings : ExecutionSettings)
    (es : List WorkerEvent) : ((start d settings).applyAll es).Tracks es :=
  (tracks_start d settings).applyAll es

end Handler

end TestTelemetry
