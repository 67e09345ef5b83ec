/-
The settings of one module.

Narrowed settings say of their module what all settings said of it.

* `ExecutionSettings.skippableTests_narrow`, `ExecutionSettings.flakyTests_narrow`,
  `ExecutionSettings.knownTests_narrow` — its lists of tests;
* `ExecutionSettings.detectsFlakes_narrow` — whether early flake detection can run.
-/
import TestTelemetry.Settings.Basic

namespace TestTelemetry

namespace OrderedMap

variable {κ α : Type} [Ord κ] [Std.ReflOrd κ]

theorem find?_single (k : κ) (v : α) : (single k v).find? k = some v := by
  rw [single, find?, List.find?_cons_of_pos (by simp), Option.map_some]

end OrderedMap

namespace ExecutionSettings

theorem find?_onlyModule (module : String) (tests : List TestIdentifier) :
    ((onlyModule module tests).find? module).getD [] = tests := by
  rw [onlyModule]
  split
  · next hempty => rw [OrderedMap.find?_empty, Option.getD_none, hempty]
  · rw [OrderedMap.find?_single, Option.getD_some]

variable (s : ExecutionSettings) (module : String)

theorem skippableTests_narrow :
    (s.narrow module).skippableTests module = s.skippableTests module :=
  find?_onlyModule module _

theorem flakyTests_narrow : (s.narrow module).flakyTests module = s.flakyTests module :=
  find?_onlyModule module _

/-- Also that nothing is known is the same, and so is that nothing was computed. -/
theorem knownTests_narrow : (s.narrow module).knownTests module = s.knownTests module := by
  rw [knownTests, narrow]
  cases s.knownTests module with
  | none => rfl
  | some tests => exact OrderedMap.find?_single module tests

theorem detectsFlakes_narrow : (s.narrow module).detectsFlakes module = s.detectsFlakes module := by
  rw [detectsFlakes, knownTests_narrow, detectsFlakes]
  rfl

end ExecutionSettings

end TestTelemetry
