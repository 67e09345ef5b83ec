/-
The share of new tests at which a module is faulty.

A module cuts the share of its new tests off to a whole percentage before it compares it with its
threshold.  So a share that lies between the threshold and the next percentage is above the
threshold, and the module is not faulty.

* `Exceeds`, `FallsBetween` — an exact share against a percentage, and against the next one too;
* `lt_percent_iff` — when the share that was cut off is above a percentage;
* `ModuleRun.isFaulty_iff` — when a module is faulty;
* `Run.faulty_iff_exceeds_iff` — when its result agrees with the exact share.
-/
import TestTelemetry.Proofs.Lifecycle.Conservation

namespace TestTelemetry

/-- A part is more than so many percent of the whole. -/
def Exceeds (percent part whole : Nat) : Prop := percent * whole < 100 * part

/-- A part is more than so many percent of the whole, but less than one percent more. -/
def FallsBetween (percent part whole : Nat) : Prop :=
  Exceeds percent part whole ∧ 100 * part < (percent + 1) * whole

instance (percent part whole : Nat) : Decidable (Exceeds percent part whole) :=
  inferInstanceAs (Decidable (_ < _))

instance (percent part whole : Nat) : Decidable (FallsBetween percent part whole) :=
  inferInstanceAs (Decidable (_ ∧ _))

section Share

variable {percent part whole : Nat}

/-- What was cut off to a percentage is above another exactly from the next one on. -/
theorem lt_percent_iff (h : 0 < whole) :
    percent < part * 100 / whole ↔ (percent + 1) * whole ≤ 100 * part := by
  rw [Nat.lt_iff_add_one_le, Nat.le_div_iff_mul_le h, Nat.mul_comm part]

/-- Nothing exceeds a share of nothing. -/
theorem pos_of_exceeds (hpart : part ≤ whole) (h : Exceeds percent part whole) : 0 < whole := by
  refine Nat.pos_of_ne_zero fun hzero => ?_
  obtain rfl : part = 0 := Nat.le_zero.mp (hzero ▸ hpart)
  exact Nat.not_lt_zero _ h

/-- What reaches the next percentage exceeds this one. -/
theorem exceeds_of_reaches (hpos : 0 < whole) (h : (percent + 1) * whole ≤ 100 * part) :
    Exceeds percent part whole :=
  calc percent * whole < percent * whole + whole := Nat.lt_add_of_pos_right hpos
    _ = (percent + 1) * whole := (Nat.succ_mul percent whole).symm
    _ ≤ 100 * part := h

/-- To reach the next percentage is to exceed this one, but for what falls between the two. -/
theorem reaches_iff_exceeds_iff (hpart : part ≤ whole) :
    ((0 < whole ∧ (percent + 1) * whole ≤ 100 * part) ↔ Exceeds percent part whole) ↔
      ¬ FallsBetween percent part whole := by
  constructor
  · intro hiff ⟨hexceeds, hbelow⟩
    exact Nat.not_le.mpr hbelow (hiff.mpr hexceeds).2
  · intro hnot
    refine ⟨fun h => exceeds_of_reaches h.1 h.2, fun hexceeds => ?_⟩
    exact ⟨pos_of_exceeds hpart hexceeds, Nat.not_lt.mp fun hbelow => hnot ⟨hexceeds, hbelow⟩⟩

end Share

/-- A module is faulty from the percentage after its threshold on. -/
theorem ModuleRun.isFaulty_iff {a : ModuleRun} (h : a.detectsFlakes = true) :
    a.isFaulty = true ↔ 0 < a.testsTotal ∧
      (a.settings.flakeDetection.faultyThreshold.toNat + 1) * a.testsTotal ≤ 100 * a.newTests := by
  rw [isFaulty, h, Bool.true_and, Bool.and_eq_true, decide_eq_true_iff, decide_eq_true_iff]
  exact and_congr_right lt_percent_iff

namespace Run

/-- A running module that ends hands its result on. -/
theorem result_of_running {r : Run} {m : Nat} {a : ModuleRun} (ha : r.modules[m]? = some a)
    (hrun : a.ended = false) : (r.endModule m).2 = some a.result := by
  rw [endModule, ha]
  show (if a.ended = true then (r, none) else (r.endModuleWith m a.result, some a.result)).2 = _
  rw [hrun]
  rfl

/-- **A module is faulty from the next percentage on.**  Of a module that detects flaky tests, the
result says that it is faulty exactly if its new tests reach the percentage after the threshold.
This is the exact share being above the threshold, unless the share falls between the threshold and
the next percentage: then it is above the threshold, and the module is not faulty. -/
theorem faulty_iff_exceeds_iff (steps : List RunStep) {m : Nat} {a : ModuleRun}
    {known : List TestIdentifier} (ha : (empty.follow steps).modules[m]? = some a)
    (hrun : a.ended = false) (henabled : a.settings.flakeDetection.enabled = true)
    (hknown : a.settings.knownTests a.name = some known) :
    let r := empty.follow steps
    let started := r.namesIn m (empty.startedTests steps)
    let new := started.countP fun t => decide (t ∉ known)
    let threshold := a.settings.flakeDetection.faultyThreshold.toNat
    ∃ result, (r.endModule m).2 = some result ∧ result.flakeDetectionEnabled = true ∧
      (result.faulty = true ↔
        0 < started.length ∧ (threshold + 1) * started.length ≤ 100 * new) ∧
      (result.faulty = true → Exceeds threshold new started.length) ∧
      ((result.faulty = true ↔ Exceeds threshold new started.length) ↔
        ¬ FallsBetween threshold new started.length) := by
  intro r started new threshold
  obtain ⟨htotal, hnew⟩ := (numbers_follow steps).counts m a ha
  rw [countP_isNew, hknown] at hnew
  have hdetects : a.detectsFlakes = true := by
    rw [ModuleRun.detectsFlakes, ExecutionSettings.detectsFlakes, henabled, hknown]
    rfl
  have hfaulty : a.result.faulty = true ↔
      0 < started.length ∧ (threshold + 1) * started.length ≤ 100 * new := by
    have hiff := ModuleRun.isFaulty_iff hdetects
    rwa [htotal, hnew] at hiff
  refine ⟨a.result, result_of_running ha hrun, hdetects, hfaulty, fun h => ?_, ?_⟩
  · exact exceeds_of_reaches (hfaulty.mp h).1 (hfaulty.mp h).2
  · rw [hfaulty]
    exact reaches_iff_exceeds_iff List.countP_le_length

/-- One test of three is new, which is more than the 31 percent from which on the module is faulty. -/
theorem third_new_is_faulty :
    let known := [⟨"S", "a", none⟩, ⟨"S", "b", none⟩]
    let settings := { ExecutionSettings.initial with
      flakeDetection := ⟨true, [], 30⟩, known := some (.single "core" known) }
    let steps := [RunStep.startModule ⟨"s", 0, "core", [], none⟩ settings,
      .startSuite 0 "S" none false, .startTest 0 "a" none, .startTest 0 "b" none,
      .startTest 0 "c" none]
    ∃ a result, (empty.follow steps).modules[0]? = some a ∧ a.ended = false ∧
      a.settings.flakeDetection.enabled = true ∧ a.settings.knownTests a.name = some known ∧
      ((empty.follow steps).endModule 0).2 = some result ∧ result.faulty = true ∧
      Exceeds 30 1 3 := by
  intro known settings steps
  have hknown : settings.knownTests "core" = some known := by decide
  obtain ⟨result, hresult, -, hfaulty, hexceeds, -⟩ :=
    faulty_iff_exceeds_iff steps (m := 0) rfl rfl rfl hknown
  have hyes : result.faulty = true := hfaulty.mpr (by decide)
  exact ⟨_, result, rfl, rfl, rfl, hknown, hresult, hyes, hexceeds hyes⟩

/-- One test of three is new, which is more than 33 percent, but the module is not faulty. -/
theorem third_new_is_not_above_33 :
    let known := [⟨"S", "a", none⟩, ⟨"S", "b", none⟩]
    let settings := { ExecutionSettings.initial with
      flakeDetection := ⟨true, [], 33⟩, known := some (.single "core" known) }
    let steps := [RunStep.startModule ⟨"s", 0, "core", [], none⟩ settings,
      .startSuite 0 "S" none false, .startTest 0 "a" none, .startTest 0 "b" none,
      .startTest 0 "c" none]
    let r := empty.follow steps
    let started := r.namesIn 0 (empty.startedTests steps)
    ∃ a result, r.modules[0]? = some a ∧ a.ended = false ∧
      a.settings.flakeDetection.enabled = true ∧ a.settings.knownTests a.name = some known ∧
      started.length = 3 ∧ started.countP (fun t => decide (t ∉ known)) = 1 ∧ FallsBetween 33 1 3 ∧
      (r.endModule 0).2 = some result ∧ result.faulty = false := by
  intro known settings steps r started
  exact ⟨_, _, rfl, rfl, rfl, by decide, by decide, by decide, by decide,
    result_of_running rfl rfl, by decide⟩

end Run

end TestTelemetry
