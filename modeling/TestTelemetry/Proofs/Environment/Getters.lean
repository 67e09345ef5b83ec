/-
What the getters make of a variable.

A getter gives what its variable stands for, or the default; and it reports at most one error,
about its own variable.

* `Environment.get?_ofTexts` — variables that are given as texts are read as these texts;
* `Environment.value_getString`, `Environment.value_getOptional`, `Environment.value_require` — texts;
* `Environment.value_getNat`, `Environment.names_getNat` — numbers of a width without other bounds;
* `Environment.value_getPath`, `Environment.names_getPath` — paths.
-/
import TestTelemetry.Environment.Getters
import TestTelemetry.Proofs.Text.Utf8

namespace TestTelemetry.Environment

/-- Variables that are given as texts are read as these texts. -/
theorem get?_ofTexts (l : List (String × String)) (name : String) :
    (ofTexts l).get? name = (l.find? fun v => v.1 = name).map (·.2) := by
  have hread : ∀ text : String, (Text.decode? (Text.encode text)).map String.ofList = some text := by
    intro text
    conv_lhs => rw [← String.ofList_toList (s := text), Text.decode?_encode]
    rw [Option.map_some, String.ofList_toList]
  rw [get?, ofTexts, List.find?_map, Option.bind_map]
  show (l.find? fun v => v.1 = name).bind _ = _
  cases l.find? fun v => v.1 = name with
  | none => rfl
  | some v => exact hread v.2

variable (env : Environment) (name : String)

/-- The text of a variable that is set and not empty. -/
def filled? : Option String := (env.get? (variableName name)).filter (· ≠ "")

/-- The number of a width that a text stands for; blanks around it do not count. -/
def Width.read? (w : Width) (text : String) : Option Nat :=
  (readNumber? (Text.trim text.toList)).filter (· ≤ w.max)

/-! ### Texts -/

theorem value_getString (dflt : String) :
    (env.getString name dflt).value = (env.get? (variableName name)).getD dflt := by
  rw [getString]
  cases env.get? (variableName name) <;> rfl

theorem value_getOptional : (env.getOptional name).value = env.filled? name := by
  rw [getOptional, filled?]
  cases env.get? (variableName name) with
  | none => rfl
  | some text => by_cases h : text = "" <;> simp [Reading.ofVariable, Option.filter, h]

theorem errors_getOptional : (env.getOptional name).errors = [] := by
  rw [getOptional]
  cases env.get? (variableName name) <;> rfl

variable {env name}

theorem filled?_eq_some_iff {text : String} :
    env.filled? name = some text ↔ env.get? (variableName name) = some text ∧ text ≠ "" := by
  rw [filled?, Option.filter_eq_some_iff, decide_eq_true_iff]

/-- A text that must be there and is not is reported. -/
theorem require_of_none (hempty : env.filled? name = none) :
    env.require name = (env.getOptional name).withError (.missing (variableName name)) := by
  rw [← value_getOptional] at hempty
  simp only [require, hempty]

theorem require_of_filled {text : String} (hfilled : env.filled? name = some text) :
    env.require name = env.getOptional name := by
  rw [← value_getOptional] at hfilled
  simp only [require, hfilled]

theorem value_require : (env.require name).value = env.filled? name := by
  cases hfilled : env.filled? name with
  | none =>
    rw [require_of_none hfilled, ← hfilled, ← value_getOptional]
    rfl
  | some text => rw [require_of_filled hfilled, value_getOptional, hfilled]

/-! ### Numbers -/

section Numbers

variable {w : Width} {text : String} {n min max : Nat} (dflt : Nat)

theorem getNat_of_unset (hunset : env.get? (variableName name) = none) :
    env.getNat w name dflt min max = .default dflt := by
  simp only [getNat, hunset]

theorem getNat_of_unread (hset : env.get? (variableName name) = some text)
    (hread : w.read? text = none) :
    env.getNat w name dflt min max =
      (Reading.default dflt).withError (.invalidValue (variableName name) w.name text) := by
  rw [Width.read?] at hread
  simp only [getNat, hset, hread]

theorem getNat_of_inside (hset : env.get? (variableName name) = some text)
    (hread : w.read? text = some n) (hinside : min ≤ n ∧ n ≤ max) :
    env.getNat w name dflt min max = .ofVariable n (variableName name) := by
  rw [Width.read?] at hread
  simp only [getNat, hset, hread, if_pos hinside]

theorem getNat_of_outside (hset : env.get? (variableName name) = some text)
    (hread : w.read? text = some n) (houtside : ¬(min ≤ n ∧ n ≤ max)) :
    env.getNat w name dflt min max = (Reading.ofVariable dflt (variableName name)).withError
      (.outOfRange (variableName name) (toString n) (toString min) (toString max)) := by
  rw [Width.read?] at hread
  simp only [getNat, hset, hread, if_neg houtside]

theorem le_max_of_read? (hread : w.read? text = some n) : n ≤ w.max := by
  rw [Width.read?] at hread
  simpa using (Option.filter_eq_some_iff.mp hread).2

/-- The width is the only bound, so that no number of the width is out of range. -/
theorem getNat_of_read (hset : env.get? (variableName name) = some text)
    (hread : w.read? text = some n) :
    env.getNat w name dflt 0 w.max = .ofVariable n (variableName name) :=
  getNat_of_inside dflt hset hread ⟨Nat.zero_le n, le_max_of_read? hread⟩

/-- A variable that stands for a number of the width gives that number. -/
theorem value_getNat : (env.getNat w name dflt 0 w.max).value =
    ((env.get? (variableName name)).bind w.read?).getD dflt := by
  cases hset : env.get? (variableName name) with
  | none => rw [getNat_of_unset dflt hset]; rfl
  | some text =>
    rw [Option.bind_some]
    cases hread : w.read? text with
    | none => rw [getNat_of_unread dflt hset hread]; rfl
    | some n => rw [getNat_of_read dflt hset hread]; rfl

/-- A variable that is set and stands for no number of the width is reported. -/
theorem names_getNat : (env.getNat w name dflt 0 w.max).errors.map EnvError.name =
    if (env.get? (variableName name)).any fun text => (w.read? text).isNone then
      [variableName name] else [] := by
  cases hset : env.get? (variableName name) with
  | none => rw [getNat_of_unset dflt hset]; rfl
  | some text =>
    rw [Option.any_some]
    cases hread : w.read? text with
    | none => rw [getNat_of_unread dflt hset hread]; rfl
    | some n => rw [getNat_of_read dflt hset hread]; rfl

end Numbers

/-! ### Paths -/

section Paths

variable {text : String} (t : FileTree) (mustExist : Bool)

theorem getPath_of_empty (hempty : env.filled? name = none) :
    env.getPath t name mustExist = (env.getOptional name).map fun _ => none := by
  rw [← value_getOptional] at hempty
  simp only [getPath, hempty]

theorem getPath_of_filled (hfilled : env.filled? name = some text) :
    env.getPath t name mustExist =
      if mustExist && !t.holds (env.expandHome text) then
        ((env.getOptional name).map fun _ => some (env.expandHome text)).withError
          (.pathNotFound (variableName name) (env.expandHome text))
      else (env.getOptional name).map fun _ => some (env.expandHome text) := by
  rw [← value_getOptional] at hfilled
  simp only [getPath, hfilled]

/-- A path is given whether it must exist or not. -/
theorem value_getPath :
    (env.getPath t name mustExist).value = (env.filled? name).map env.expandHome := by
  cases hfilled : env.filled? name with
  | none => rw [getPath_of_empty t mustExist hfilled]; rfl
  | some text =>
    rw [getPath_of_filled t mustExist hfilled]
    split <;> rfl

/-- A path that must exist and does not is reported. -/
theorem names_getPath : (env.getPath t name mustExist).errors.map EnvError.name =
    if (env.filled? name).any fun text => mustExist && !t.holds (env.expandHome text) then
      [variableName name] else [] := by
  cases hfilled : env.filled? name with
  | none =>
    rw [getPath_of_empty t mustExist hfilled]
    exact congrArg (List.map EnvError.name) (errors_getOptional env name)
  | some text =>
    rw [getPath_of_filled t mustExist hfilled, Option.any_some]
    split
    · show ((env.getOptional name).errors ++ [_]).map EnvError.name = _
      rw [errors_getOptional]
      rfl
    · exact congrArg (List.map EnvError.name) (errors_getOptional env name)

end Paths

end TestTelemetry.Environment
