/-
Narrowing settings is a projection.

What narrowed settings say depends on what the settings said of that one module, and on what they
said of no module at all.  So a second narrowing to the same module changes nothing, and narrowing
to two modules leaves what is said of none.

* `ExecutionSettings.AnswersAs`, `ExecutionSettings.SilentOn`, `ExecutionSettings.common` — what
  settings say of one module, and what they say of none;
* `ExecutionSettings.narrow_eq_of_answersAs`, `ExecutionSettings.narrow_of_silentOn` — what narrowed
  settings depend on;
* `ExecutionSettings.narrow_projects` — narrowing answers for its module and for no other.
-/
import TestTelemetry.Proofs.Settings.Narrow

namespace TestTelemetry

theorem OrderedMap.find?_single_of_ne {κ α : Type} [Ord κ] [Std.LawfulEqOrd κ] {k j : κ}
    (h : k ≠ j) (v : α) : (single k v).find? j = none := by
  have hkey : compare k j ≠ .eq := fun heq => h (Std.LawfulEqOrd.eq_of_compare heq)
  rw [single, find?, List.find?_cons_of_neg (by simpa using hkey), List.find?_nil, Option.map_none]

namespace ExecutionSettings

variable {s s' : ExecutionSettings} {m n : String}

/-- Two settings answer alike for a module.  No known tests, an empty list of them and a list of
some are three answers. -/
structure AnswersAs (s s' : ExecutionSettings) (module : String) : Prop where
  skippable : s.skippableTests module = s'.skippableTests module
  flaky : s.flakyTests module = s'.flakyTests module
  known : s.knownTests module = s'.knownTests module
  detects : s.detectsFlakes module = s'.detectsFlakes module

/-- The settings have no entry for a module, not even an empty one, and so every answer for it is
that of settings in which nothing is said. -/
structure SilentOn (s : ExecutionSettings) (module : String) : Prop where
  no_skippable : s.skippable.find? module = none
  no_flaky : s.flaky.find? module = none
  no_known : ∀ known, s.known = some known → known.find? module = none
  answers : s.skippableTests module = [] ∧ s.flakyTests module = [] ∧
    s.knownTests module = none ∧ s.detectsFlakes module = false

/-- What the settings say of no module in particular. -/
def common (s : ExecutionSettings) : ExecutionSettings :=
  { s with skippable := .empty, flaky := .empty, known := none }

/-! ### What narrowed settings depend on -/

theorem common_narrow (s : ExecutionSettings) (m : String) : (s.narrow m).common = s.common := rfl

theorem narrow_eq (s : ExecutionSettings) (m : String) : s.narrow m =
    { s.common with
      skippable := onlyModule m (s.skippableTests m)
      flaky := onlyModule m (s.flakyTests m)
      known := (s.knownTests m).map (OrderedMap.single m) } := rfl

/-- Settings that differ in what they say of other modules are narrowed to the same. -/
theorem narrow_eq_of_answersAs (hcommon : s.common = s'.common) (h : s.AnswersAs s' m) :
    s.narrow m = s'.narrow m := by
  rw [narrow_eq, narrow_eq, hcommon, h.skippable, h.flaky, h.known]

/-- Nothing of a module is left when nothing is said of it. -/
theorem narrow_of_silentOn (h : s.SilentOn m) : s.narrow m = s.common := by
  obtain ⟨hskippable, hflaky, hknown, -⟩ := h.answers
  rw [narrow_eq, hskippable, hflaky, hknown]
  rfl

/-! ### The module and the others -/

theorem narrow_answersAs (s : ExecutionSettings) (m : String) : (s.narrow m).AnswersAs s m where
  skippable := s.skippableTests_narrow m
  flaky := s.flakyTests_narrow m
  known := s.knownTests_narrow m
  detects := s.detectsFlakes_narrow m

theorem SilentOn.of_no_entry (hskippable : s.skippable.find? m = none)
    (hflaky : s.flaky.find? m = none)
    (hknown : ∀ known, s.known = some known → known.find? m = none) : s.SilentOn m := by
  have htests : s.knownTests m = none := Option.bind_eq_none_iff.mpr hknown
  refine ⟨hskippable, hflaky, hknown, ?_, ?_, htests, ?_⟩
  · rw [skippableTests, hskippable, Option.getD_none]
  · rw [flakyTests, hflaky, Option.getD_none]
  · rw [detectsFlakes, htests, Option.isSome_none, Bool.and_false]

theorem find?_onlyModule_of_ne (h : n ≠ m) (tests : List TestIdentifier) :
    (onlyModule m tests).find? n = none := by
  rw [onlyModule]
  split
  · exact OrderedMap.find?_empty n
  · exact OrderedMap.find?_single_of_ne h.symm tests

theorem narrow_silentOn (s : ExecutionSettings) (h : n ≠ m) : (s.narrow m).SilentOn n := by
  refine .of_no_entry (find?_onlyModule_of_ne h _) (find?_onlyModule_of_ne h _) ?_
  intro known hknown
  obtain ⟨tests, -, rfl⟩ := Option.map_eq_some_iff.mp hknown
  exact OrderedMap.find?_single_of_ne h.symm tests

/-- **Narrowing is a projection to one module.**  Narrowed settings answer for the module as before
and are silent on every other one, and what is said of no module stays.  A second narrowing changes
nothing, narrowing to two modules leaves what is said of none, and nothing that was said of other
modules has any effect. -/
theorem narrow_projects (s : ExecutionSettings) (m n : String) :
    (s.narrow m).AnswersAs s m ∧
      (n ≠ m → (s.narrow m).SilentOn n) ∧
      (s.narrow m).common = s.common ∧
      (s.narrow m).narrow m = s.narrow m ∧
      (n ≠ m → (s.narrow m).narrow n = s.common) ∧
      ∀ s' : ExecutionSettings, s'.common = s.common → s'.AnswersAs s m →
        s'.narrow m = s.narrow m := by
  refine ⟨s.narrow_answersAs m, s.narrow_silentOn, s.common_narrow m, ?_, fun h => ?_,
    fun s' => narrow_eq_of_answersAs⟩
  · exact narrow_eq_of_answersAs (s.common_narrow m) (s.narrow_answersAs m)
  · rw [narrow_of_silentOn (s.narrow_silentOn h), common_narrow]

/-- One module has a list of known tests that is empty, another one tests of all three lists.
Narrowed to the first, nothing of the other is left, and the empty list is still there. -/
theorem narrow_projects_known_empty :
    let test : TestIdentifier := ⟨"ApiTest", "b", none⟩
    let s : ExecutionSettings :=
      { initial with
        flakeDetection := ⟨true, [], 30⟩
        skippable := .single "api" [test]
        flaky := .single "api" [test]
        known := some (.ofList [("core", []), ("api", [test])]) }
    "api" ≠ "core" ∧ (s.narrow "core").knownTests "core" = some [] ∧
      (s.narrow "core").detectsFlakes "core" = true ∧ (s.narrow "core").SilentOn "api" ∧
      (s.narrow "core").narrow "api" = s.common := by
  intro test s
  have hne : "api" ≠ "core" := by decide
  obtain ⟨hanswers, hsilent, -, -, hleft, -⟩ := narrow_projects s "core" "api"
  refine ⟨hne, ?_, ?_, hsilent hne, hleft hne⟩
  · rw [hanswers.known]
    decide
  · rw [hanswers.detects]
    decide

end ExecutionSettings

end TestTelemetry
