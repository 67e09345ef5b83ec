/-
What a worker's configuration is refused for.

Five variables can be at fault: two that must be filled, and three that may be absent but must else
spell a number within bounds.  Each of them is reported once, in the order in which they are looked at,
and nothing else is.

* `Demand` — what a variable has to say; `Demand.Met`, `Demand.Fault` — whether it does, and what is
  wrong if it does not;
* `WorkerVariable` — the five variables;
* `WorkerConfig.ReadFrom` — a configuration that holds what the variables say;
* `WorkerConfig.ofEnvironment_reports` — a configuration, or one error for each variable at fault.
-/
import TestTelemetry.Proofs.Environment.Numerals
import TestTelemetry.Worker.Config

namespace TestTelemetry

open Environment (variableName Spells)

/-! ### Demands -/

/-- What a variable has to say: a text that is not empty, or a number of a width within bounds, for
which a default stands where nothing is said. -/
inductive Demand
  | filled
  | number (w : Environment.Width) (dflt min max : Nat)

namespace Demand

variable (env : Environment) (name : String)

/-- Whether the variable of a name says what is demanded. -/
def Met : Demand → Prop
  | filled => ∃ text, env.get? (variableName name) = some text ∧ text ≠ ""
  | number w _ min max => ∀ text, env.get? (variableName name) = some text →
      ∃ n, Spells text n ∧ n ≤ w.max ∧ min ≤ n ∧ n ≤ max

/-- What is wrong with a variable that does not say what is demanded. -/
inductive Fault : Demand → EnvError → Prop
  | missing (h : ∀ text, env.get? (variableName name) = some text → text = "") :
      Fault filled (.missing (variableName name))
  | invalidValue {w : Environment.Width} {dflt min max : Nat} {text : String}
      (hset : env.get? (variableName name) = some text) (h : ∀ n, Spells text n → w.max < n) :
      Fault (number w dflt min max) (.invalidValue (variableName name) w.name text)
  | outOfRange {w : Environment.Width} {dflt min max n : Nat} {text : String}
      (hset : env.get? (variableName name) = some text) (hspells : Spells text n)
      (hwidth : n ≤ w.max) (h : ¬(min ≤ n ∧ n ≤ max)) :
      Fault (number w dflt min max)
        (.outOfRange (variableName name) (toString n) (toString min) (toString max))

/-- The errors that are found at the variable. -/
def errors : Demand → List EnvError
  | filled => (env.require name).errors
  | number w dflt min max => (env.getNat w name dflt min max).errors

variable {env name} {d : Demand}

theorem Fault.name_eq {e : EnvError} (h : d.Fault env name e) : e.name = variableName name := by
  cases h <;> rfl

/-- Nothing is found at a variable that says what is demanded. -/
theorem errors_of_met (h : d.Met env name) : d.errors env name = [] := by
  cases d with
  | filled =>
    obtain ⟨text, hset⟩ := h
    rw [errors, Environment.require_of_filled (Environment.filled?_eq_some_iff.mpr hset),
      Environment.errors_getOptional]
  | number w dflt min max =>
    rw [errors]
    cases hset : env.get? (variableName name) with
    | none => rw [Environment.getNat_of_unset dflt hset]; rfl
    | some text =>
      obtain ⟨n, hspells, hwidth, hinside⟩ := h text hset
      have hread := Environment.Width.read?_eq_some_iff.mpr ⟨hspells, hwidth⟩
      rw [Environment.getNat_of_inside dflt hset hread hinside]
      rfl

/-- One error is found at a variable that does not say what is demanded, and it tells what is wrong. -/
theorem exists_fault (h : ¬ d.Met env name) :
    ∃ e, d.errors env name = [e] ∧ d.Fault env name e := by
  cases d with
  | filled =>
    have hempty : ∀ text, env.get? (variableName name) = some text → text = "" := by
      intro text hset
      by_contra hne
      exact h ⟨text, hset, hne⟩
    have hfilled : env.filled? name = none := by
      refine Option.eq_none_iff_forall_ne_some.mpr fun text htext => ?_
      obtain ⟨hset, hne⟩ := Environment.filled?_eq_some_iff.mp htext
      exact hne (hempty text hset)
    refine ⟨_, ?_, .missing hempty⟩
    rw [errors, Environment.require_of_none hfilled]
    show (env.getOptional name).errors ++ [_] = _
    rw [Environment.errors_getOptional, List.nil_append]
  | number w dflt min max =>
    rw [errors]
    cases hset : env.get? (variableName name) with
    | none =>
      refine absurd (fun text htext => ?_) h
      rw [hset] at htext
      cases htext
    | some text =>
      cases hread : w.read? text with
      | none =>
        rw [Environment.getNat_of_unread dflt hset hread]
        -- What is spelled all the same is a number that is too large for the width.
        refine ⟨_, rfl, .invalidValue hset fun n hspells => ?_⟩
        by_contra hwidth
        rw [Environment.Width.read?_eq_some_iff.mpr ⟨hspells, by omega⟩] at hread
        cases hread
      | some n =>
        obtain ⟨hspells, hwidth⟩ := Environment.Width.read?_eq_some_iff.mp hread
        by_cases hinside : min ≤ n ∧ n ≤ max
        · refine absurd (fun text' htext => ?_) h
          obtain rfl := Option.some_inj.mp (hset.symm.trans htext)
          exact ⟨n, hspells, hwidth, hinside⟩
        · rw [Environment.getNat_of_outside dflt hset hread hinside]
          exact ⟨_, rfl, .outOfRange hset hspells hwidth hinside⟩

end Demand

/-- If nothing is found where a demand is met and one fault where it is not, what is found at all of
them is one fault for each that is not met, in their order. -/
theorem exists_forall₂_faults {ι : Type} {met : ι → Prop} {fault : ι → EnvError → Prop}
    {errors : ι → List EnvError} (hmet : ∀ i, met i → errors i = [])
    (hfault : ∀ i, ¬ met i → ∃ e, errors i = [e] ∧ fault i e) (l : List ι) :
    ∃ faulty : List ι, faulty.Sublist l ∧ (∀ i, i ∈ faulty ↔ i ∈ l ∧ ¬ met i) ∧
      List.Forall₂ fault faulty (l.flatMap errors) := by
  -- Only what is found at the first one decides whether it joins those of the rest.
  induction l with
  | nil => exact ⟨[], .slnil, by simp, .nil⟩
  | cons i l ih =>
    obtain ⟨faulty, hsub, hmem, hfaulty⟩ := ih
    rw [List.flatMap_cons]
    by_cases hi : met i
    · refine ⟨faulty, hsub.cons i, fun j => ?_, ?_⟩
      · rw [hmem, List.mem_cons]
        constructor
        · exact fun h => ⟨.inr h.1, h.2⟩
        · rintro ⟨rfl | hj, hnot⟩
          · exact absurd hi hnot
          · exact ⟨hj, hnot⟩
      · rw [hmet i hi]
        exact hfaulty
    · obtain ⟨e, he, hfaulti⟩ := hfault i hi
      refine ⟨i :: faulty, hsub.cons_cons i, fun j => ?_, ?_⟩
      · rw [List.mem_cons, hmem, List.mem_cons]
        constructor
        · rintro (rfl | h)
          · exact ⟨.inl rfl, hi⟩
          · exact ⟨.inr h.1, h.2⟩
        · rintro ⟨rfl | hj, hnot⟩
          · exact .inl rfl
          · exact .inr ⟨hj, hnot⟩
      · rw [he]
        exact .cons hfaulti hfaulty

/-! ### The variables of a worker -/

/-- A variable that a worker's configuration can be refused for. -/
inductive WorkerVariable
  | sessionId
  | moduleName
  | moduleId
  | port
  | timeout
deriving DecidableEq

namespace WorkerVariable

/-- All of them, in the order in which they are looked at. -/
def all : List WorkerVariable := [sessionId, moduleName, moduleId, port, timeout]

/-- The name of the variable, without what all variables share. -/
def shortName : WorkerVariable → String
  | sessionId => Variable.sessionId
  | moduleName => Variable.moduleName
  | moduleId => Variable.moduleId
  | port => Variable.serverPort
  | timeout => Variable.clientTimeout

/-- The full name of the variable. -/
def variableName (v : WorkerVariable) : String := Environment.variableName v.shortName

/-- What the variable has to say. -/
def demand : WorkerVariable → Demand
  | sessionId => .filled
  | moduleName => .filled
  | moduleId => .number Environment.width64 0 0 Environment.width64.max
  | port => .number Environment.width16 0 0 65535
  | timeout => .number Environment.width64 30000 1 3600000

variable (env : Environment) (v : WorkerVariable)

/-- Whether the variable says what it has to say. -/
def Met : Prop := v.demand.Met env v.shortName

/-- What is wrong with the variable. -/
def Fault (e : EnvError) : Prop := v.demand.Fault env v.shortName e

/-- The errors that are found at the variable. -/
def errors : List EnvError := v.demand.errors env v.shortName

theorem mem_all : v ∈ all := by
  cases v <;> decide

/-- Every fault names its variable in full. -/
theorem names_of_faults {env : Environment} {faulty : List WorkerVariable} {es : List EnvError}
    (h : List.Forall₂ (Fault env) faulty es) : es.map EnvError.name = faulty.map variableName := by
  induction h with
  | nil => rfl
  | cons hfault _ ih => rw [List.map_cons, List.map_cons, ih, hfault.name_eq, variableName]

end WorkerVariable

/-! ### The configuration -/

/-- The number that a variable says, or a default where it is absent. -/
def Environment.Says (env : Environment) (name : String) (dflt n : Nat) : Prop :=
  (env.get? (variableName name) = none ∧ n = dflt) ∨
    ∃ text, env.get? (variableName name) = some text ∧ Spells text n

theorem Environment.says_getNat {env : Environment} {name : String} {w : Environment.Width}
    {dflt min max : Nat} (h : (Demand.number w dflt min max).Met env name) :
    env.Says name dflt (env.getNat w name dflt min max).value := by
  cases hset : env.get? (variableName name) with
  | none =>
    rw [getNat_of_unset dflt hset]
    exact .inl ⟨hset, rfl⟩
  | some text =>
    obtain ⟨n, hspells, hwidth, hinside⟩ := h text hset
    rw [getNat_of_inside dflt hset (Width.read?_eq_some_iff.mpr ⟨hspells, hwidth⟩) hinside]
    exact .inr ⟨text, hset, hspells⟩

namespace WorkerConfig

/-- A configuration holds what the variables say, and the defaults for those that are absent. -/
structure ReadFrom (c : WorkerConfig) (env : Environment) : Prop where
  sessionId : env.get? (variableName Variable.sessionId) = some c.sessionId
  moduleName : env.get? (variableName Variable.moduleName) = some c.moduleName
  moduleId : env.Says Variable.moduleId 0 c.moduleId.toNat
  host : c.host = (env.get? (variableName Variable.serverHost)).filter (· ≠ "")
  port : env.Says Variable.serverPort 0 c.port
  timeout : env.Says Variable.clientTimeout 30000 c.timeoutMs
  identity : c.identity =
    ⟨(env.get? (variableName Variable.runtimeName)).getD "unknown",
      (env.get? (variableName Variable.runtimeVersion)).getD "",
      (env.get? (variableName Variable.runtimeVendor)).getD ""⟩

variable {env : Environment}

/-- The configuration for a session and a module, with all else as it is read. -/
def gathered (env : Environment) (session module : String) : WorkerConfig where
  sessionId := session
  moduleId := UInt64.ofNat
    (env.getNat Environment.width64 Variable.moduleId 0 0 Environment.width64.max).value
  moduleName := module
  host := (env.getOptional Variable.serverHost).value
  port := (env.getNat Environment.width16 Variable.serverPort 0 0 65535).value
  timeoutMs := (env.getNat Environment.width64 Variable.clientTimeout Client.defaultTimeoutMs 1
    Client.maxTimeoutMs).value
  identity :=
    ⟨(env.getString Variable.runtimeName "unknown").value,
      (env.getString Variable.runtimeVersion "").value,
      (env.getString Variable.runtimeVendor "").value⟩

theorem errors_ofEnvironment (env : Environment) :
    (env.require Variable.sessionId).errors ++ (env.require Variable.moduleName).errors ++
      (env.getNat Environment.width64 Variable.moduleId 0 0 Environment.width64.max).errors ++
      (env.getNat Environment.width16 Variable.serverPort 0 0 65535).errors ++
      (env.getNat Environment.width64 Variable.clientTimeout Client.defaultTimeoutMs 1
        Client.maxTimeoutMs).errors = WorkerVariable.all.flatMap (·.errors env) := by
  simp only [WorkerVariable.all, List.flatMap_cons, List.flatMap_nil, List.append_nil,
    List.append_assoc]
  rfl

/-- All variables are looked at before the configuration is refused. -/
theorem ofEnvironment_of_not_met (h : ¬ ∀ v : WorkerVariable, v.Met env) :
    ofEnvironment env = .error (WorkerVariable.all.flatMap (·.errors env)) ∧
      WorkerVariable.all.flatMap (·.errors env) ≠ [] := by
  have hne : WorkerVariable.all.flatMap (·.errors env) ≠ [] := by
    intro hnil
    obtain ⟨v, hv⟩ := not_forall.mp h
    obtain ⟨e, he, -⟩ := Demand.exists_fault hv
    have hv : v.errors env = [] := List.flatMap_eq_nil_iff.mp hnil v v.mem_all
    rw [WorkerVariable.errors, he] at hv
    cases hv
  refine ⟨?_, hne⟩
  simp only [ofEnvironment, errors_ofEnvironment]
  split
  case h_1 hnil => exact absurd hnil hne
  case h_2 => rfl

theorem ofEnvironment_of_met (h : ∀ v : WorkerVariable, v.Met env) : ∃ session module,
    env.filled? Variable.sessionId = some session ∧ env.filled? Variable.moduleName = some module ∧
      ofEnvironment env = .ok (gathered env session module) := by
  obtain ⟨session, hsession⟩ := h .sessionId
  obtain ⟨module, hmodule⟩ := h .moduleName
  have hsession := Environment.filled?_eq_some_iff.mpr hsession
  have hmodule := Environment.filled?_eq_some_iff.mpr hmodule
  have hsessionValue : (env.require Variable.sessionId).value = some session :=
    Environment.value_require.trans hsession
  have hmoduleValue : (env.require Variable.moduleName).value = some module :=
    Environment.value_require.trans hmodule
  have herrors : WorkerVariable.all.flatMap (·.errors env) = [] :=
    List.flatMap_eq_nil_iff.mpr fun v _ => Demand.errors_of_met (h v)
  refine ⟨session, module, hsession, hmodule, ?_⟩
  simp only [ofEnvironment, errors_ofEnvironment, herrors, hsessionValue, hmoduleValue]
  rfl

theorem gathered_readFrom {session module : String} (h : ∀ v : WorkerVariable, v.Met env)
    (hsession : env.filled? Variable.sessionId = some session)
    (hmodule : env.filled? Variable.moduleName = some module) :
    (gathered env session module).ReadFrom env where
  sessionId := (Environment.filled?_eq_some_iff.mp hsession).1
  moduleName := (Environment.filled?_eq_some_iff.mp hmodule).1
  moduleId := by
    have hfits : (env.getNat Environment.width64 Variable.moduleId 0 0
        Environment.width64.max).value ≤ Environment.width64.max :=
      Environment.value_getNat_le _ _ _ (Nat.zero_le _)
    have hid := UInt64.toNat_ofNat_of_lt' (Nat.lt_of_le_of_lt hfits (by decide))
    rw [gathered, hid]
    exact Environment.says_getNat (h .moduleId)
  host := Environment.value_getOptional env Variable.serverHost
  port := Environment.says_getNat (h .port)
  timeout := Environment.says_getNat (h .timeout)
  identity := by
    simp only [gathered, Environment.value_getString]

/-- What a configuration that was read was gathered from. -/
theorem exists_gathered {c : WorkerConfig} (h : ofEnvironment env = .ok c) :
    (∀ v : WorkerVariable, v.Met env) ∧ ∃ session module,
      env.filled? Variable.sessionId = some session ∧
      env.filled? Variable.moduleName = some module ∧ c = gathered env session module := by
  by_cases hmet : ∀ v : WorkerVariable, v.Met env
  · obtain ⟨session, module, hsession, hmodule, hok⟩ := ofEnvironment_of_met hmet
    exact ⟨hmet, session, module, hsession, hmodule, Except.ok.inj (h.symm.trans hok)⟩
  · rw [(ofEnvironment_of_not_met hmet).1] at h
    cases h

/-- **A configuration is read from the environment, or every variable at fault is reported.**  There
is a configuration exactly if all variables say what they have to say, and then it holds what they
say.  Else there is one error for each variable that does not, in the order in which they are looked
at; it names the variable in full and tells what is wrong with it. -/
theorem ofEnvironment_reports (env : Environment) :
    ((∃ c, ofEnvironment env = .ok c) ↔ ∀ v : WorkerVariable, v.Met env) ∧
      (∀ c, ofEnvironment env = .ok c → c.ReadFrom env) ∧
      ∀ es, ofEnvironment env = .error es → es ≠ [] ∧
        ∃ faulty : List WorkerVariable, faulty.Sublist WorkerVariable.all ∧
          (∀ v, v ∈ faulty ↔ ¬ v.Met env) ∧
          List.Forall₂ (WorkerVariable.Fault env) faulty es ∧
          es.map EnvError.name = faulty.map WorkerVariable.variableName := by
  refine ⟨⟨?_, fun h => ?_⟩, fun c hc => ?_, fun es hes => ?_⟩
  · rintro ⟨c, hc⟩
    exact (exists_gathered hc).1
  · obtain ⟨session, module, -, -, hok⟩ := ofEnvironment_of_met h
    exact ⟨_, hok⟩
  · obtain ⟨hmet, session, module, hsession, hmodule, rfl⟩ := exists_gathered hc
    exact gathered_readFrom hmet hsession hmodule
  · have hnot : ¬ ∀ v : WorkerVariable, v.Met env := by
      intro hmet
      obtain ⟨session, module, -, -, hok⟩ := ofEnvironment_of_met hmet
      rw [hok] at hes
      cases hes
    obtain ⟨herror, hne⟩ := ofEnvironment_of_not_met hnot
    obtain rfl := Except.error.inj (herror.symm.trans hes)
    obtain ⟨faulty, hsub, hmem, hfaulty⟩ := exists_forall₂_faults
      (fun v (hv : WorkerVariable.Met env v) => Demand.errors_of_met hv)
      (fun v hv => Demand.exists_fault hv) WorkerVariable.all
    refine ⟨hne, faulty, hsub, fun v => ?_, hfaulty, WorkerVariable.names_of_faults hfaulty⟩
    rw [hmem]
    exact and_iff_right v.mem_all

end WorkerConfig

end TestTelemetry
