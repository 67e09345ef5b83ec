/-
A run that shows what happened to the spans of a script.

The suites and tests of a run are numbered, those of a script are known by their spans.  A
*numbering* says under which number the open suites and the running tests are found.  A run
*reflects* some occurrences if what it holds under these numbers, and what its module counted, is
what the occurrences say.

* `Numbering`, `Run.Reflects` — the numbers, and what must be found under them;
* `Run.Reflects.startSuite`, …, `Run.Reflects.endSuite` — every operation of the run goes with
  one occurrence.
-/
import TestTelemetry.Proofs.Lifecycle.SuiteEnd
import TestTelemetry.Proofs.Worker.Outcomes
import TestTelemetry.Worker.Handler

namespace TestTelemetry

/-! ### A running test -/

/-- A test that has not ended, with what was said of it: whether it failed and whether it was
skipped. -/
structure TestRun.Open (t : TestRun) (failed skipped : Bool) : Prop where
  running : t.ended = false
  failed_eq : t.verdict.failure.isSome = failed
  skipped_eq : t.verdict.skipReason.isSome = skipped

namespace TestRun

variable {t : TestRun} {failed skipped : Bool}

theorem Open.mark_skipped (h : t.Open failed skipped) (reason : String) :
    TestRun.Open { t with verdict := { t.verdict with skipReason := some reason } } failed true where
  running := h.running
  failed_eq := h.failed_eq
  skipped_eq := rfl

theorem Open.mark_failed (h : t.Open failed skipped) (f : Failure) :
    TestRun.Open { t with verdict := { t.verdict with failure := some f } } true skipped where
  running := h.running
  failed_eq := rfl
  skipped_eq := h.skipped_eq

/-- The status of a running test, by what was said of it. -/
theorem Open.status_eq (h : t.Open failed skipped) :
    t.status = if failed then .fail else if skipped then .skip else .pass := by
  rw [TestRun.status, Verdict.status, h.failed_eq, h.skipped_eq]

end TestRun

/-! ### Numbers of spans -/

/-- Under which numbers the open suites and the running tests are found. -/
structure Numbering where
  suite : Span SuiteKey → Option Nat
  test : Span TestKey → Option Nat

namespace Numbering

def addSuite (v : Numbering) (a : Span SuiteKey) (n : Nat) : Numbering :=
  { v with suite := fun b => if b = a then some n else v.suite b }

def dropSuite (v : Numbering) (a : Span SuiteKey) : Numbering :=
  { v with suite := fun b => if b = a then none else v.suite b }

def addTest (v : Numbering) (x : Span TestKey) (n : Nat) : Numbering :=
  { v with test := fun y => if y = x then some n else v.test y }

def dropTest (v : Numbering) (x : Span TestKey) : Numbering :=
  { v with test := fun y => if y = x then none else v.test y }

variable {v : Numbering} {a b : Span SuiteKey} {x y : Span TestKey} {n k : Nat}

theorem addSuite_cases (h : (v.addSuite a n).suite b = some k) :
    (b = a ∧ k = n) ∨ (b ≠ a ∧ v.suite b = some k) := by
  simp only [addSuite] at h
  split at h
  case isTrue hba => exact Or.inl ⟨hba, (Option.some_inj.mp h).symm⟩
  case isFalse hba => exact Or.inr ⟨hba, h⟩

theorem addTest_cases (h : (v.addTest x n).test y = some k) :
    (y = x ∧ k = n) ∨ (y ≠ x ∧ v.test y = some k) := by
  simp only [addTest] at h
  split at h
  case isTrue hyx => exact Or.inl ⟨hyx, (Option.some_inj.mp h).symm⟩
  case isFalse hyx => exact Or.inr ⟨hyx, h⟩

theorem of_dropSuite (h : (v.dropSuite a).suite b = some k) : b ≠ a ∧ v.suite b = some k := by
  simp only [dropSuite] at h
  split at h
  case isTrue => cases h
  case isFalse hba => exact ⟨hba, h⟩

theorem of_dropTest (h : (v.dropTest x).test y = some k) : y ≠ x ∧ v.test y = some k := by
  simp only [dropTest] at h
  split at h
  case isTrue => cases h
  case isFalse hyx => exact ⟨hyx, h⟩

end Numbering

/-- Different things keep different numbers when one of them gets a number above the others. -/
theorem number_injective_of_new {α : Type} {f g : α → Option Nat} {a : α} {n : Nat}
    (hf : ∀ b c k, f b = some k → f c = some k → b = c)
    (hg : ∀ b k, g b = some k → (b = a ∧ k = n) ∨ (b ≠ a ∧ f b = some k))
    (hlt : ∀ b k, f b = some k → k < n) :
    ∀ b c k, g b = some k → g c = some k → b = c := by
  intro b c k hb hc
  rcases hg b k hb with ⟨rfl, rfl⟩ | ⟨-, hb⟩
  · rcases hg c _ hc with ⟨rfl, -⟩ | ⟨-, hc⟩
    · rfl
    · exact absurd (hlt c _ hc) (Nat.lt_irrefl _)
  · rcases hg c k hc with ⟨-, rfl⟩ | ⟨-, hc⟩
    · exact absurd (hlt b _ hb) (Nat.lt_irrefl _)
    · exact hf b c k hb hc

/-! ### Runs that reflect occurrences -/

namespace Run

/-- An open suite of the module stands under a number, with what happened to its span. -/
def ShowsSuite (r : Run) (os : List Occurrence) (a : Span SuiteKey) (n : Nat) : Prop :=
  ∃ s, r.suites[n]? = some s ∧ s.module = some Handler.moduleNumber ∧
    s.Open (decide (.suiteFailed a ∈ os)) (decide (.suiteSkipped a ∈ os)) (outcomesIn os a)

/-- A running test stands under a number, with what happened to its span.  Its suite is none of
the open ones except the one in whose span it started. -/
def ShowsTest (r : Run) (v : Numbering) (os : List Occurrence) (x : Span TestKey) (n : Nat) :
    Prop :=
  ∃ t, r.tests[n]? = some t ∧
    t.Open (decide (.testFailed x ∈ os)) (decide (.testSkipped x ∈ os)) ∧
    t.suite < r.suites.length ∧
    ∀ a m, v.suite a = some m → (t.suite = m ↔ .started x (some a) ∈ os)

/-- A run shows what some occurrences say of the spans that are open, and its module has counted
the statuses of those that were closed. -/
structure Reflects (r : Run) (v : Numbering) (os : List Occurrence) : Prop where
  suite : ∀ a n, v.suite a = some n → r.ShowsSuite os a n
  suite_injective : ∀ a b n, v.suite a = some n → v.suite b = some n → a = b
  test : ∀ x n, v.test x = some n → r.ShowsTest v os x n
  test_injective : ∀ x y n, v.test x = some n → v.test y = some n → x = y
  counted : r.modules.map ModuleRun.suites = [StatusCounts.ofList (closedStatuses os)]

namespace Reflects

variable {r r' : Run} {v v' : Numbering} {os : List Occurrence} {a : Span SuiteKey}
  {x : Span TestKey} {n : Nat}

/-- Numbers that are not asked for do not matter. -/
theorem mono (h : r.Reflects v os) (hs : ∀ a n, v'.suite a = some n → v.suite a = some n)
    (ht : ∀ x n, v'.test x = some n → v.test x = some n) : r.Reflects v' os where
  suite := fun a n ha => h.suite a n (hs a n ha)
  suite_injective := fun a b n ha hb => h.suite_injective a b n (hs a n ha) (hs b n hb)
  test := by
    intro x n hx
    obtain ⟨t, htn, ho, hl, hlink⟩ := h.test x n (ht x n hx)
    exact ⟨t, htn, ho, hl, fun a m ha => hlink a m (hs a m ha)⟩
  test_injective := fun x y n hx hy => h.test_injective x y n (ht x n hx) (ht y n hy)
  counted := h.counted

/-- What is counted for the module besides its suites is not looked at. -/
theorem of_modules (h : r.Reflects v os) (hs : r'.suites = r.suites) (ht : r'.tests = r.tests)
    (hm : r'.modules.map ModuleRun.suites = r.modules.map ModuleRun.suites) :
    r'.Reflects v os where
  suite := by
    simp only [ShowsSuite, hs]
    exact h.suite
  suite_injective := h.suite_injective
  test := by
    simp only [ShowsTest, ht, hs]
    exact h.test
  test_injective := h.test_injective
  counted := hm.trans h.counted

/-- There is one module. -/
theorem one_module (h : r.Reflects v os) : ∃ m, r.modules = [m] :=
  List.length_eq_one_iff.mp (by simpa using congrArg List.length h.counted)

theorem suite_lt (h : r.Reflects v os) (ha : v.suite a = some n) : n < r.suites.length := by
  obtain ⟨s, hs, -⟩ := h.suite a n ha
  exact (List.getElem?_eq_some_iff.mp hs).choose

theorem test_lt (h : r.Reflects v os) (hx : v.test x = some n) : n < r.tests.length := by
  obtain ⟨t, ht, -⟩ := h.test x n hx
  exact (List.getElem?_eq_some_iff.mp ht).choose

/-- Two open suites have one number only if they are one. -/
theorem suite_number_eq_iff (h : r.Reflects v os) (ha : v.suite a = some n) {b : Span SuiteKey}
    {m : Nat} (hb : v.suite b = some m) : n = m ↔ a = b := by
  constructor
  · rintro rfl
    exact h.suite_injective a b n ha hb
  · rintro rfl
    exact Option.some_inj.mp (ha.symm.trans hb)

theorem test_number_eq_iff (h : r.Reflects v os) (hx : v.test x = some n) {y : Span TestKey}
    {m : Nat} (hy : v.test y = some m) : n = m ↔ x = y := by
  constructor
  · rintro rfl
    exact h.test_injective x y n hx hy
  · rintro rfl
    exact Option.some_inj.mp (hx.symm.trans hy)

/-! #### What stays -/

/-- A suite shows nothing of what happens elsewhere. -/
theorem showsSuite_concat {o : Occurrence} (h : r.ShowsSuite os a n) (hf : o ≠ .suiteFailed a)
    (hs : o ≠ .suiteSkipped a) (ho : ∀ x, o ≠ .finished x) : r.ShowsSuite (os ++ [o]) a n := by
  obtain ⟨s, hsn, hm, hopen⟩ := h
  refine ⟨s, hsn, hm, ?_⟩
  rw [outcomesIn_concat_of_ne ho]
  simpa [hf.symm, hs.symm] using hopen

/-- A test shows nothing of what happens elsewhere. -/
theorem showsTest_concat {o : Occurrence} (h : r.ShowsTest v os x n) (hf : o ≠ .testFailed x)
    (hs : o ≠ .testSkipped x) (ho : ∀ home, o ≠ .started x home) :
    r.ShowsTest v (os ++ [o]) x n := by
  obtain ⟨t, ht, hopen, hl, hlink⟩ := h
  refine ⟨t, ht, by simpa [hf.symm, hs.symm] using hopen, hl, fun b m hb => ?_⟩
  rw [hlink b m hb, List.mem_append, List.mem_singleton]
  exact ⟨Or.inl, fun h => h.resolve_right (ho _).symm⟩

/-- A test still belongs to the suite that it belonged to, and others may have been added. -/
theorem showsTest_of_suites (h : r.ShowsTest v os x n) (ht : r'.tests = r.tests)
    (hs : r.suites.length ≤ r'.suites.length) : r'.ShowsTest v os x n := by
  obtain ⟨t, htn, ho, hl, hlink⟩ := h
  exact ⟨t, by rw [ht, htn], ho, Nat.lt_of_lt_of_le hl hs, hlink⟩

/-! #### Remarks -/

/-- A remark about an open suite, which changes nothing else. -/
theorem remarkSuite {f : SuiteRun → SuiteRun} {o : Occurrence} (h : r.Reflects v os)
    (ha : v.suite a = some n) (ho : o = .suiteSkipped a ∨ o = .suiteFailed a)
    (hm : ∀ s, (f s).module = s.module)
    (hf : ∀ s : SuiteRun, s.Open (decide (.suiteFailed a ∈ os)) (decide (.suiteSkipped a ∈ os))
        (outcomesIn os a) →
      (f s).Open (decide (.suiteFailed a ∈ os ++ [o])) (decide (.suiteSkipped a ∈ os ++ [o]))
        (outcomesIn os a)) :
    Reflects { r with suites := r.suites.modify n f } v (os ++ [o]) where
  suite := by
    intro b m hb
    by_cases hab : a = b
    · subst hab
      obtain ⟨s, hs, hsm, hopen⟩ := h.suite a m hb
      refine ⟨_, getElem?_modify_of_eq_some hs n _, ?_⟩
      rw [if_pos ((h.suite_number_eq_iff ha hb).mpr rfl),
        outcomesIn_concat_of_ne (by rcases ho with rfl | rfl <;> simp)]
      exact ⟨(hm s).trans hsm, hf s hopen⟩
    · obtain ⟨s, hs, hsm, hopen⟩ : r.ShowsSuite (os ++ [o]) b m := by
        refine showsSuite_concat (h.suite b m hb) ?_ ?_ ?_ <;> rcases ho with rfl | rfl <;>
          simp [hab]
      refine ⟨_, getElem?_modify_of_eq_some hs n _, ?_⟩
      rw [if_neg (mt (h.suite_number_eq_iff ha hb).mp hab)]
      exact ⟨hsm, hopen⟩
  suite_injective := h.suite_injective
  test := by
    intro y m hy
    refine showsTest_of_suites (showsTest_concat (h.test y m hy) ?_ ?_ ?_) rfl ?_
    · rcases ho with rfl | rfl <;> simp
    · rcases ho with rfl | rfl <;> simp
    · rcases ho with rfl | rfl <;> simp
    · simp
  test_injective := h.test_injective
  counted := by
    rw [closedStatuses_concat_of_ne (by rcases ho with rfl | rfl <;> simp)]
    exact h.counted

theorem skipSuite (h : r.Reflects v os) (ha : v.suite a = some n) (reason : Option String) :
    (r.skipSuite n reason).Reflects v (os ++ [.suiteSkipped a]) := by
  refine h.remarkSuite ha (Or.inl rfl) (fun _ => rfl) fun s hs => ?_
  simpa using hs.mark_skipped (reason.getD "")

theorem failSuite (h : r.Reflects v os) (ha : v.suite a = some n) (f : Failure) :
    (r.failSuite n f).Reflects v (os ++ [.suiteFailed a]) := by
  refine h.remarkSuite ha (Or.inr rfl) (fun _ => rfl) fun s hs => ?_
  simpa using hs.mark_failed f

/-- A remark about a running test, which changes nothing else. -/
theorem remarkTest {f : TestRun → TestRun} {o : Occurrence} (h : r.Reflects v os)
    (hx : v.test x = some n) (ho : o = .testSkipped x ∨ o = .testFailed x)
    (hm : ∀ t, (f t).suite = t.suite)
    (hf : ∀ t : TestRun, t.Open (decide (.testFailed x ∈ os)) (decide (.testSkipped x ∈ os)) →
      (f t).Open (decide (.testFailed x ∈ os ++ [o])) (decide (.testSkipped x ∈ os ++ [o]))) :
    Reflects { r with tests := r.tests.modify n f } v (os ++ [o]) where
  suite := by
    intro b m hb
    refine showsSuite_concat (h.suite b m hb) ?_ ?_ ?_ <;> rcases ho with rfl | rfl <;> simp
  suite_injective := h.suite_injective
  test := by
    intro y m hy
    by_cases hxy : x = y
    · subst hxy
      obtain ⟨t, ht, hopen, hl, hlink⟩ := h.test x m hy
      refine ⟨_, getElem?_modify_of_eq_some ht n _, ?_⟩
      rw [if_pos ((h.test_number_eq_iff hx hy).mpr rfl), hm t]
      refine ⟨hf t hopen, hl, fun a k ha => ?_⟩
      rw [hlink a k ha]
      rcases ho with rfl | rfl <;> simp
    · obtain ⟨t, ht, hopen, hl, hlink⟩ : r.ShowsTest v (os ++ [o]) y m := by
        refine showsTest_concat (h.test y m hy) ?_ ?_ ?_ <;> rcases ho with rfl | rfl <;>
          simp [hxy]
      refine ⟨_, getElem?_modify_of_eq_some ht n _, ?_⟩
      rw [if_neg (mt (h.test_number_eq_iff hx hy).mp hxy)]
      exact ⟨hopen, hl, hlink⟩
  test_injective := h.test_injective
  counted := by
    rw [closedStatuses_concat_of_ne (by rcases ho with rfl | rfl <;> simp)]
    exact h.counted

theorem skipTest (h : r.Reflects v os) (hx : v.test x = some n) (reason : Option String) :
    (r.skipTest n reason).Reflects v (os ++ [.testSkipped x]) := by
  refine h.remarkTest hx (Or.inl rfl) (fun _ => rfl) fun t ht => ?_
  simpa using ht.mark_skipped (reason.getD "")

theorem failTest (h : r.Reflects v os) (hx : v.test x = some n) (f : Failure) :
    (r.failTest n f).Reflects v (os ++ [.testFailed x]) := by
  refine h.remarkTest hx (Or.inr rfl) (fun _ => rfl) fun t ht => ?_
  simpa using ht.mark_failed f

/-! #### Starts -/

/-- A suite starts in the module: nothing was said of its span before. -/
theorem startSuite (h : r.Reflects v os)
    (hfresh : ∀ o ∈ os, o.suite? ≠ some a) (name : String) (codeUnit : Option String)
    (parallelized : Bool) :
    (r.startSuite Handler.moduleNumber name codeUnit parallelized).Reflects
      (v.addSuite a r.suites.length) (os ++ [.opened a]) := by
  obtain ⟨m, hm⟩ := h.one_module
  have hlen : (r.startSuite Handler.moduleNumber name codeUnit parallelized).suites.length =
      r.suites.length + 1 := List.length_append
  have hnofail : .suiteFailed a ∉ os := fun ho => hfresh _ ho rfl
  have hnoskip : .suiteSkipped a ∉ os := fun ho => hfresh _ ho rfl
  have hnostart : ∀ x, .started x (some a) ∉ os := fun x ho => hfresh _ ho rfl
  constructor
  case suite =>
    intro b k hb
    rcases Numbering.addSuite_cases hb with ⟨rfl, rfl⟩ | ⟨-, hb⟩
    · refine ⟨_, List.getElem?_concat_length, ?_, ?_⟩
      · simp [SuiteRun.start, hm, Handler.moduleNumber]
      · rw [outcomesIn_concat_of_ne (by simp), outcomesIn_eq_nil hnostart]
        simpa [hnofail, hnoskip] using SuiteRun.open_start ..
    · obtain ⟨s, hs, hsm, hopen⟩ : r.ShowsSuite (os ++ [.opened a]) b k :=
        showsSuite_concat (h.suite b k hb) (by simp) (by simp) (by simp)
      exact ⟨s, (List.getElem?_append_left (h.suite_lt hb)).trans hs, hsm, hopen⟩
  case suite_injective =>
    -- The number of the new suite is above the old ones.
    exact number_injective_of_new h.suite_injective (fun _ _ => Numbering.addSuite_cases)
      fun _ _ => h.suite_lt
  case test =>
    -- The tests that run belong to suites with smaller numbers.
    intro y k hy
    obtain ⟨t, ht, hopen, hl, hlink⟩ : r.ShowsTest v (os ++ [.opened a]) y k :=
      showsTest_concat (h.test y k hy) (by simp) (by simp) (by simp)
    refine ⟨t, ht, hopen, by omega, fun b j hb => ?_⟩
    rcases Numbering.addSuite_cases hb with ⟨rfl, rfl⟩ | ⟨-, hb⟩
    · simpa [hnostart] using Nat.ne_of_lt hl
    · exact hlink b j hb
  case test_injective => exact h.test_injective
  case counted =>
    rw [closedStatuses_concat_of_ne (by simp)]
    exact h.counted

/-- A suite that belongs to no module starts: no span shows it. -/
theorem startDetached (h : r.Reflects v os) (name : String) (codeUnit : Option String) :
    (r.startDetached name codeUnit).Reflects v os where
  suite := by
    intro a n ha
    obtain ⟨s, hs, hm, ho⟩ := h.suite a n ha
    exact ⟨s, (List.getElem?_append_left (h.suite_lt ha)).trans hs, hm, ho⟩
  suite_injective := h.suite_injective
  test := fun x n hx => showsTest_of_suites (h.test x n hx) rfl (by simp [Run.startDetached])
  test_injective := h.test_injective
  counted := h.counted

/-- A test starts in a suite: nothing was said of its span before.  The suite is open exactly
if the span has a home. -/
theorem startTest (h : r.Reflects v os) {home : Option (Span SuiteKey)}
    (hn : n < r.suites.length)
    (hhome : ∀ a m, v.suite a = some m → (n = m ↔ home = some a))
    (hfresh : ∀ o ∈ os, o.test? ≠ some x) (hnew : ∀ other, .started x other ∉ os)
    (name : String) (parameters : Option String) :
    (r.startTest n name parameters).Reflects (v.addTest x r.tests.length)
      (os ++ [.started x home]) := by
  have hnofail : .testFailed x ∉ os := fun ho => hfresh _ ho rfl
  have hnoskip : .testSkipped x ∉ os := fun ho => hfresh _ ho rfl
  obtain ⟨s, hs⟩ : ∃ s, r.suites[n]? = some s := ⟨_, List.getElem?_eq_getElem hn⟩
  obtain ⟨t, htests, htsuite, htopen⟩ : ∃ t, (r.startTest n name parameters).tests = r.tests ++ [t] ∧
      t.suite = n ∧ t.Open false false := by
    simp only [Run.startTest, hs]
    exact ⟨_, rfl, rfl, rfl, rfl, rfl⟩
  have hsuites : (r.startTest n name parameters).suites = r.suites := by
    simp only [Run.startTest, hs]
  have hmodules : (r.startTest n name parameters).modules.map ModuleRun.suites =
      r.modules.map ModuleRun.suites := by
    simp only [Run.startTest, hs]
    split
    · exact map_modify_of_eq fun _ => rfl
    · rfl
  constructor
  case suite =>
    intro b k hb
    obtain ⟨s, hs, hsm, hopen⟩ : r.ShowsSuite (os ++ [.started x home]) b k :=
      showsSuite_concat (h.suite b k hb) (by simp) (by simp) (by simp)
    exact ⟨s, hsuites ▸ hs, hsm, hopen⟩
  case suite_injective => exact h.suite_injective
  case test =>
    intro y k hy
    rcases Numbering.addTest_cases hy with ⟨rfl, rfl⟩ | ⟨hyx, hy⟩
    · refine ⟨t, by rw [htests, List.getElem?_concat_length], ?_, by rwa [hsuites, htsuite], ?_⟩
      · simpa [hnofail, hnoskip] using htopen
      · intro a m ha
        rw [htsuite, hhome a m ha]
        simp [hnew, eq_comm]
    · obtain ⟨u, hu, hopen, hl, hlink⟩ : r.ShowsTest v (os ++ [.started x home]) y k :=
        showsTest_concat (h.test y k hy) (by simp) (by simp) (by simp [Ne.symm hyx])
      have hu : (r.startTest n name parameters).tests[k]? = some u := by
        rw [htests, List.getElem?_append_left (h.test_lt hy), hu]
      exact ⟨u, hu, hopen, hsuites ▸ hl, hlink⟩
  case test_injective =>
    exact number_injective_of_new h.test_injective (fun _ _ => Numbering.addTest_cases)
      fun _ _ => h.test_lt
  case counted =>
    rw [closedStatuses_concat_of_ne (by simp), hmodules]
    exact h.counted

/-! #### Ends -/

/-- A running test ends: its outcome is told to the span in which it started. -/
theorem endTest (h : r.Reflects v os) (hx : v.test x = some n) :
    (r.endTest n).Reflects (v.dropTest x) (os ++ [.finished x]) := by
  obtain ⟨t, ht, hopen, hl, hlink⟩ := h.test x n hx
  have hrun : r.endTest n = { r with
      tests := r.tests.modify n TestRun.finish
      suites := r.suites.modify t.suite (·.recordTest t.status) } := by
    simp [Run.endTest, ht, hopen.running]
  have hstatus : t.status = testOutcome os x := by
    rw [hopen.status_eq, testOutcome]
    simp only [decide_eq_true_eq]
  rw [hrun]
  constructor
  case suite =>
    -- Of the open spans only the one in which the test started hears of its end.
    intro b k hb
    obtain ⟨s, hs, hsm, hso⟩ := h.suite b k hb
    refine ⟨_, getElem?_modify_of_eq_some hs t.suite _, ?_⟩
    rw [outcomesIn_concat_finished]
    by_cases hb' : .started x (some b) ∈ os
    · rw [if_pos ((hlink b k hb).mpr hb'), if_pos hb', ← hstatus]
      exact ⟨hsm, by simpa using hso.recordTest t.status⟩
    · rw [if_neg (mt (hlink b k hb).mp hb'), if_neg hb']
      exact ⟨hsm, by simpa using hso⟩
  case suite_injective => exact h.suite_injective
  case test =>
    intro y k hy
    obtain ⟨hyx, hy⟩ := Numbering.of_dropTest hy
    obtain ⟨u, hu, huopen, hul, hulink⟩ : r.ShowsTest v (os ++ [.finished x]) y k :=
      showsTest_concat (h.test y k hy) (by simp) (by simp) (by simp)
    refine ⟨_, getElem?_modify_of_eq_some hu n _, ?_⟩
    rw [if_neg (mt (h.test_number_eq_iff hx hy).mp hyx.symm)]
    exact ⟨huopen, by simpa using hul, hulink⟩
  case test_injective =>
    intro y z k hy hz
    exact h.test_injective y z k (Numbering.of_dropTest hy).2 (Numbering.of_dropTest hz).2
  case counted =>
    rw [closedStatuses_concat_of_ne (by simp)]
    exact h.counted

/-- An open suite ends: its module counts the status of its span. -/
theorem endSuite (h : r.Reflects v os) (ha : v.suite a = some n) :
    (r.endSuite n).Reflects (v.dropSuite a) (os ++ [.closed a]) := by
  obtain ⟨s, hs, hsm, hopen⟩ := h.suite a n ha
  have hrun : r.endSuite n = { r with
      suites := r.suites.modify n SuiteRun.finish
      modules := r.modules.modify Handler.moduleNumber (·.recordSuite s.status) } := by
    simp [Run.endSuite, hs, hopen.running, hsm]
  have hstatus : s.status = statusAt os a := hopen.status_eq
  rw [hrun]
  constructor
  case suite =>
    -- The number of the suite is given up, so no other span sees that it ended.
    intro b k hb
    obtain ⟨hba, hb⟩ := Numbering.of_dropSuite hb
    obtain ⟨s', hs', hsm', hopen'⟩ : r.ShowsSuite (os ++ [.closed a]) b k :=
      showsSuite_concat (h.suite b k hb) (by simp) (by simp) (by simp)
    refine ⟨_, getElem?_modify_of_eq_some hs' n _, ?_⟩
    rw [if_neg (mt (h.suite_number_eq_iff ha hb).mp hba.symm)]
    exact ⟨hsm', hopen'⟩
  case suite_injective =>
    intro b c k hb hc
    exact h.suite_injective b c k (Numbering.of_dropSuite hb).2 (Numbering.of_dropSuite hc).2
  case test =>
    intro y k hy
    obtain ⟨t, ht, htopen, hl, hlink⟩ : r.ShowsTest v (os ++ [.closed a]) y k :=
      showsTest_concat (h.test y k hy) (by simp) (by simp) (by simp)
    exact ⟨t, ht, htopen, by simpa using hl, fun b m hb =>
      hlink b m (Numbering.of_dropSuite hb).2⟩
  case test_injective => exact h.test_injective
  case counted =>
    obtain ⟨m, hm⟩ := h.one_module
    have hcount := h.counted
    rw [hm, List.map_singleton, List.singleton_inj] at hcount
    rw [closedStatuses_concat_closed, StatusCounts.ofList_concat, ← hcount, ← hstatus, hm]
    rfl

end Reflects

end Run

end TestTelemetry
