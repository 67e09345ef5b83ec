/-
Whether a reading tells where its value came from.

A getter takes the value of a variable or falls back to its default, and its reading says which of the
two it was.  A text that is no truth value, no log level or a number out of range is refused, and the
default is given; yet the reading says that the variable gave it.

* `Getter` — the getters that have a default;
* `Getter.Takes` — the value that is taken from a text;
* `Getter.Miscredits` — the texts that are refused and credited all the same;
* `Getter.read_of_takes`, `Getter.read_of_miscredits`, `Getter.read_of_ignored` — the three readings;
* `Getter.tellsTruth_iff` — when a reading tells the truth.
-/
import TestTelemetry.Proofs.Environment.Numerals

namespace TestTelemetry

/-! ### What a reading says -/

namespace Reading

variable {α : Type}

/-- The reading says that a variable gave the value. -/
structure Credits (r : Reading α) (v : α) (var : String) : Prop where
  value : r.value = v
  source : r.source = .environment
  origin : r.origin = some var

/-- The reading says that the value is a default. -/
structure FallsBack (r : Reading α) (v : α) : Prop where
  value : r.value = v
  source : r.source = .default
  origin : r.origin = none

theorem credits_ofVariable (v : α) (var : String) : (ofVariable v var).Credits v var := ⟨rfl, rfl, rfl⟩

theorem fallsBack_default (v : α) : (default v).FallsBack v := ⟨rfl, rfl, rfl⟩

theorem Credits.withError {r : Reading α} {v : α} {var : String} (h : r.Credits v var)
    (e : EnvError) : (r.withError e).Credits v var := ⟨h.value, h.source, h.origin⟩

theorem FallsBack.withError {r : Reading α} {v : α} (h : r.FallsBack v) (e : EnvError) :
    (r.withError e).FallsBack v := ⟨h.value, h.source, h.origin⟩

theorem Credits.map {β : Type} {r : Reading α} {v : α} {var : String} (h : r.Credits v var)
    (f : α → β) : (r.map f).Credits (f v) var := ⟨congrArg f h.value, h.source, h.origin⟩

theorem FallsBack.isDefault {r : Reading α} {v : α} (h : r.FallsBack v) : r.isDefault = true := by
  rw [Reading.isDefault, h.source]
  rfl

theorem Credits.isDefault {r : Reading α} {v : α} {var : String} (h : r.Credits v var) :
    r.isDefault = false := by
  rw [Reading.isDefault, h.source]
  rfl

end Reading

/-! ### The getters -/

/-- A getter that has a default, with all it is given but the variable. -/
inductive Getter : Type → Type
  | text (dflt : String) : Getter String
  | optional : Getter (Option String)
  | bool (dflt : Bool) : Getter Bool
  | number (w : Environment.Width) (dflt min max : Nat) : Getter Nat
  | path (mustExist : Bool) : Getter (Option Path)
  | level (dflt : String) : Getter String

namespace Getter

open Environment (lowered trueWords falseWords logLevels variableName Spells)

/-- What is read from the variable of a name. -/
def read (env : Environment) (t : FileTree) (name : String) {α : Type} : Getter α → Reading α
  | text dflt => env.getString name dflt
  | optional => env.getOptional name
  | bool dflt => env.getBool name dflt
  | number w dflt min max => env.getNat w name dflt min max
  | path mustExist => env.getPath t name mustExist
  | level dflt => env.getLogLevel name dflt

/-- The value where none is taken from the variable. -/
def fallback {α : Type} : Getter α → α
  | text dflt => dflt
  | optional => none
  | bool dflt => dflt
  | number _ dflt _ _ => dflt
  | path _ => none
  | level dflt => dflt

/-- Whether a value is the one that is taken from a text.  From an empty text, no text and no path are
taken; a path is taken whether something is there or not. -/
def Takes (env : Environment) (s : String) {α : Type} : Getter α → α → Prop
  | text _, v => v = s
  | optional, v => v = if s = "" then none else some s
  | bool _, v => lowered s ∈ if v then trueWords else falseWords
  | number w _ min max, v => Spells s v ∧ v ≤ w.max ∧ min ≤ v ∧ v ≤ max
  | path _, v => v = if s = "" then none else some (env.expandHome s)
  | level _, v => lowered s ∈ logLevels ∧ v = lowered s

/-- The texts from which nothing is taken, and which count as the source of the value all the same:
what is no truth value, no log level, or a number of the right width out of range. -/
def Miscredits (s : String) {α : Type} : Getter α → Prop
  | bool _ => lowered s ∉ trueWords ∧ lowered s ∉ falseWords
  | number w _ min max => ∃ n, Spells s n ∧ n ≤ w.max ∧ ¬(min ≤ n ∧ n ≤ max)
  | level _ => lowered s ∉ logLevels
  | _ => False

variable {α : Type} (g : Getter α) {env : Environment} {t : FileTree} {name s : String} {v : α}

theorem trueWords_disjoint_falseWords : ∀ w ∈ trueWords, w ∉ falseWords := by decide

/-- Nothing is taken from a text that counts as the source of a default. -/
theorem not_takes_of_miscredits (h : g.Miscredits s) (v : α) : ¬ g.Takes env s v := by
  cases g with
  | bool dflt =>
    cases v with
    | true => exact h.1
    | false => exact h.2
  | number w dflt min max =>
    obtain ⟨n, hn, -, houtside⟩ := h
    rintro ⟨hv, -, hinside⟩
    exact houtside (hn.unique hv ▸ hinside)
  | level dflt => exact fun hv => h hv.1
  | _ => exact h.elim

/-! ### The three readings -/

theorem credits_getOptional (hset : env.get? (variableName name) = some s) :
    (env.getOptional name).Credits (if s = "" then none else some s) (variableName name) := by
  simp only [Environment.getOptional, hset]
  exact Reading.credits_ofVariable _ _

/-- What is taken from the variable is credited to it. -/
theorem read_of_takes (hset : env.get? (variableName name) = some s) (h : g.Takes env s v) :
    (g.read env t name).Credits v (variableName name) := by
  cases g with
  | text dflt =>
    obtain rfl : v = s := h
    simp only [read, Environment.getString, hset]
    exact Reading.credits_ofVariable v _
  | optional =>
    obtain rfl : v = if s = "" then none else some s := h
    exact credits_getOptional hset
  | bool dflt =>
    cases v with
    | true =>
      have htrue : lowered s ∈ trueWords := h
      simp only [read, Environment.getBool, hset, if_pos htrue]
      exact Reading.credits_ofVariable _ _
    | false =>
      -- The words for true are tried first, and none of them is a word for false.
      have hfalse : lowered s ∈ falseWords := h
      have htrue : lowered s ∉ trueWords := fun h => trueWords_disjoint_falseWords _ h hfalse
      simp only [read, Environment.getBool, hset, if_neg htrue, if_pos hfalse]
      exact Reading.credits_ofVariable _ _
  | number w dflt min max =>
    obtain ⟨hspells, hwidth, hinside⟩ := h
    rw [read, Environment.getNat_of_inside dflt hset
      (Environment.Width.read?_eq_some_iff.mpr ⟨hspells, hwidth⟩) hinside]
    exact Reading.credits_ofVariable v _
  | path mustExist =>
    obtain rfl : v = if s = "" then none else some (env.expandHome s) := h
    have hoptional := credits_getOptional hset
    by_cases hs : s = ""
    · have hfilled : env.filled? name = none := by
        rw [Environment.filled?, hset, hs]
        rfl
      rw [if_pos hs] at hoptional ⊢
      rw [read, Environment.getPath_of_empty t mustExist hfilled]
      exact hoptional.map fun _ => none
    · have hfilled : env.filled? name = some s := by
        rw [Environment.filled?, hset, Option.filter, if_pos (by simpa using hs)]
      rw [if_neg hs] at hoptional ⊢
      rw [read, Environment.getPath_of_filled t mustExist hfilled]
      -- Whether anything is there makes an error only, and no other value.
      have hmap := hoptional.map fun _ => some (env.expandHome s)
      split
      · exact hmap.withError _
      · exact hmap
  | level dflt =>
    obtain ⟨hlevel, rfl⟩ := h
    simp only [read, Environment.getLogLevel, hset, if_pos hlevel]
    exact Reading.credits_ofVariable _ _

/-- A default is credited to the variable, which is reported. -/
theorem read_of_miscredits (hset : env.get? (variableName name) = some s) (h : g.Miscredits s) :
    (g.read env t name).Credits g.fallback (variableName name) ∧
      (g.read env t name).errors.map EnvError.name = [variableName name] := by
  cases g with
  | bool dflt =>
    simp only [read, Environment.getBool, hset, if_neg h.1, if_neg h.2]
    exact ⟨(Reading.credits_ofVariable _ _).withError _, rfl⟩
  | number w dflt min max =>
    obtain ⟨n, hspells, hwidth, houtside⟩ := h
    rw [read, Environment.getNat_of_outside dflt hset
      (Environment.Width.read?_eq_some_iff.mpr ⟨hspells, hwidth⟩) houtside]
    exact ⟨(Reading.credits_ofVariable _ _).withError _, rfl⟩
  | level dflt =>
    have hlevel : lowered s ∉ logLevels := h
    simp only [read, Environment.getLogLevel, hset, if_neg hlevel]
    exact ⟨(Reading.credits_ofVariable _ _).withError _, rfl⟩
  | _ => exact h.elim

theorem read_of_unset (hunset : env.get? (variableName name) = none) :
    (g.read env t name).FallsBack g.fallback := by
  have hoptional : env.getOptional name = .default none := by
    simp only [Environment.getOptional, hunset]
  cases g with
  | path mustExist =>
    have hfilled : env.filled? name = none := by
      rw [Environment.filled?, hunset]
      rfl
    rw [read, Environment.getPath_of_empty t mustExist hfilled, hoptional]
    exact Reading.fallsBack_default _
  | number w dflt min max =>
    rw [read, Environment.getNat_of_unset dflt hunset]
    exact Reading.fallsBack_default _
  | optional =>
    rw [read, hoptional]
    exact Reading.fallsBack_default _
  | text dflt =>
    simp only [read, Environment.getString, hunset]
    exact Reading.fallsBack_default _
  | bool dflt =>
    simp only [read, Environment.getBool, hunset]
    exact Reading.fallsBack_default _
  | level dflt =>
    simp only [read, Environment.getLogLevel, hunset]
    exact Reading.fallsBack_default _

/-- A text that gives no value and is not credited with one either is no number of the width. -/
theorem read_of_ignored (hset : env.get? (variableName name) = some s)
    (htakes : ∀ v, ¬ g.Takes env s v) (hcredits : ¬ g.Miscredits s) :
    (g.read env t name).FallsBack g.fallback := by
  cases g with
  | text dflt => exact absurd rfl (htakes s)
  | optional => exact absurd rfl (htakes _)
  | bool dflt => exact absurd ⟨htakes true, htakes false⟩ hcredits
  | number w dflt min max =>
    cases hread : w.read? s with
    | none =>
      rw [read, Environment.getNat_of_unread dflt hset hread]
      exact (Reading.fallsBack_default _).withError _
    | some n =>
      obtain ⟨hspells, hwidth⟩ := Environment.Width.read?_eq_some_iff.mp hread
      by_cases hinside : min ≤ n ∧ n ≤ max
      · exact absurd ⟨hspells, hwidth, hinside⟩ (htakes n)
      · exact absurd ⟨n, hspells, hwidth, hinside⟩ hcredits
  | path mustExist => exact absurd rfl (htakes _)
  | level dflt => exact absurd (fun hlevel => htakes _ ⟨hlevel, rfl⟩) hcredits

/-! ### The truth -/

/-- A reading tells the truth if it credits the variable with what is taken from it, and says of a
default that it is one. -/
structure TellsTruth (env : Environment) (t : FileTree) (name : String) : Prop where
  taken : ∀ s v, env.get? (variableName name) = some s → g.Takes env s v →
    (g.read env t name).Credits v (variableName name)
  fallback : (∀ s v, env.get? (variableName name) = some s → ¬ g.Takes env s v) →
    (g.read env t name).FallsBack g.fallback

/-- What is read does not tell the truth where a default is credited to the variable. -/
theorem not_tellsTruth_of_miscredits (hset : env.get? (variableName name) = some s)
    (hcredits : g.Miscredits s) : ¬ g.TellsTruth env t name := by
  intro htruth
  have hnone : ∀ s' v, env.get? (variableName name) = some s' → ¬ g.Takes env s' v := by
    intro s' v hset' htakes
    obtain rfl := Option.some_inj.mp (hset.symm.trans hset')
    exact g.not_takes_of_miscredits hcredits v htakes
  have hdefault := (htruth.fallback hnone).isDefault
  rw [(g.read_of_miscredits hset hcredits).1.isDefault] at hdefault
  exact absurd hdefault (by decide)

/-- **A reading tells the truth unless it credits a default to its variable.**  It does so exactly
for a text that is no truth value, no log level, or a number of the right width out of range.  In every
case the value is the one that is taken from the variable, or else the default. -/
theorem tellsTruth_iff (env : Environment) (t : FileTree) (name : String) :
    (g.TellsTruth env t name ↔ ∀ s, env.get? (variableName name) = some s → ¬ g.Miscredits s) ∧
      (∀ s v, env.get? (variableName name) = some s → g.Takes env s v →
        (g.read env t name).Credits v (variableName name) ∧
          (g.read env t name).isDefault = false) ∧
      (∀ s, env.get? (variableName name) = some s → g.Miscredits s →
        (g.read env t name).Credits g.fallback (variableName name) ∧
          (g.read env t name).isDefault = false ∧
          (g.read env t name).errors.map EnvError.name = [variableName name]) ∧
      ((∀ s, env.get? (variableName name) = some s →
          (∀ v, ¬ g.Takes env s v) ∧ ¬ g.Miscredits s) →
        (g.read env t name).FallsBack g.fallback ∧ (g.read env t name).isDefault = true) := by
  have hfallback : (∀ s, env.get? (variableName name) = some s →
      (∀ v, ¬ g.Takes env s v) ∧ ¬ g.Miscredits s) → (g.read env t name).FallsBack g.fallback := by
    intro h
    cases hset : env.get? (variableName name) with
    | none => exact g.read_of_unset hset
    | some s => exact g.read_of_ignored hset (h s hset).1 (h s hset).2
  refine ⟨⟨fun htruth s hset hcredits => g.not_tellsTruth_of_miscredits hset hcredits htruth,
    fun h => ⟨fun s v hset => g.read_of_takes hset, fun hnone => ?_⟩⟩,
    fun s v hset htakes => ?_, fun s hset hcredits => ?_, fun h => ?_⟩
  · exact hfallback fun s hset => ⟨fun v => hnone s v hset, h s hset⟩
  · exact ⟨g.read_of_takes hset htakes, (g.read_of_takes (t := t) hset htakes).isDefault⟩
  · obtain ⟨hcredited, hreported⟩ := g.read_of_miscredits (t := t) hset hcredits
    exact ⟨hcredited, hcredited.isDefault, hreported⟩
  · exact ⟨hfallback h, (hfallback h).isDefault⟩

/-- A word that is no truth value, a port out of range and a level that is unknown: each time the
default is given, and the variable is said to have given it. -/
theorem refused_texts_are_credited :
    let env := Environment.ofTexts [("CIVIS_B", "maybe"), ("CIVIS_N", "0"), ("CIVIS_L", "loud")]
    let t : FileTree := ⟨[], [], [], []⟩
    let port : Getter Nat := .number Environment.width16 8080 1 65535
    ((bool true).read env t "B").Credits true "CIVIS_B" ∧ ¬ (bool true).TellsTruth env t "B" ∧
      (port.read env t "N").Credits 8080 "CIVIS_N" ∧ ¬ port.TellsTruth env t "N" ∧
      ((level "info").read env t "L").Credits "info" "CIVIS_L" ∧
      ¬ (level "info").TellsTruth env t "L" := by
  intro env t port
  have hbool : env.get? (variableName "B") = some "maybe" := by
    rw [Environment.get?_ofTexts]
    decide
  have hport : env.get? (variableName "N") = some "0" := by
    rw [Environment.get?_ofTexts]
    decide
  have hlevel : env.get? (variableName "L") = some "loud" := by
    rw [Environment.get?_ofTexts]
    decide
  have hword : (bool true).Miscredits "maybe" := ⟨by decide, by decide⟩
  have hrange : port.Miscredits "0" := ⟨0, Environment.spells_natural 0, by decide, by decide⟩
  have hname : (level "info").Miscredits "loud" :=
    show lowered "loud" ∉ logLevels by decide
  exact ⟨((bool true).read_of_miscredits hbool hword).1,
    (bool true).not_tellsTruth_of_miscredits hbool hword,
    (port.read_of_miscredits hport hrange).1, port.not_tellsTruth_of_miscredits hport hrange,
    ((level "info").read_of_miscredits hlevel hname).1,
    (level "info").not_tellsTruth_of_miscredits hlevel hname⟩

end Getter

end TestTelemetry
