/-
How a worker finds its module and its session.

A session starts a worker with variables that tell module and address, and the worker reads them
back.  There are two ways to a client: by the worker's configuration, which takes a port of zero and means
no client by it, and straight from the environment, which refuses a port of zero and falls back to zero.

* `Environment.value_getNat_zero` — the two ways read the same port;
* `WorkerConfig.client_gathered` — they lead to the same client;
* `Environment.Holds` — the variables that concern the program are exactly some that were given;
* `ModuleDescriptor.Reachable` — a module that can be found;
* `worker_finds_session` — the worker finds it.
-/
import TestTelemetry.Proofs.Network.Address
import TestTelemetry.Proofs.Worker.Faults

namespace TestTelemetry

open Environment (variableName Spells)

/-! ### Two ways to a client -/

namespace Environment

/-- A number that must be positive and is zero by default is zero exactly if it is read as zero. -/
theorem value_getNat_zero (env : Environment) (w : Width) (name : String) (max : Nat) :
    (env.getNat w name 0 0 max).value = (env.getNat w name 0 1 max).value := by
  rw [value_getNat_eq, value_getNat_eq]
  cases (env.get? (variableName name)).bind w.read? with
  | none => rfl
  | some n =>
    rw [Option.filter, Option.filter]
    rcases Nat.eq_zero_or_pos n with rfl | hn
    · -- Zero is refused by one way and the default of both.
      simp
    · have hbounds : (0 ≤ n ∧ n ≤ max) ↔ (1 ≤ n ∧ n ≤ max) := by omega
      simp only [hbounds]

end Environment

namespace WorkerConfig

theorem client_gathered (env : Environment) (session module : String) (resolver : Client.Resolver) :
    (gathered env session module).client resolver = Client.ofEnvironment env resolver := by
  have hport := Environment.value_getNat_zero env Environment.width16 Variable.serverPort 65535
  rw [client, Client.ofEnvironment]
  cases hhost : (env.getOptional Variable.serverHost).value with
  | none => simp only [gathered, hhost]
  | some host => simp only [gathered, hhost, hport]

/-- **Both ways lead to the same client.**  Where a configuration is read, its client is that of the
environment, or there is none for both, or the same address cannot be resolved for both, whatever
tells the addresses. -/
theorem client_eq_ofEnvironment {env : Environment} {c : WorkerConfig}
    (h : ofEnvironment env = .ok c) (resolver : Client.Resolver) :
    c.client resolver = Client.ofEnvironment env resolver := by
  obtain ⟨-, session, module, -, -, rfl⟩ := exists_gathered h
  exact client_gathered env session module resolver

/-- A port of zero is read by the one way and reported by the other, and there is no client. -/
theorem client_of_port_zero :
    let env := Environment.ofTexts [("CIVIS_SESSION_ID", "s"), ("CIVIS_MODULE_NAME", "m"),
      ("CIVIS_SIGNAL_SERVER_HOST", "localhost"), ("CIVIS_SIGNAL_SERVER_PORT", " +00 ")]
    ∃ c, ofEnvironment env = .ok c ∧ c.host = some "localhost" ∧ c.port = 0 ∧
      (env.getNat Environment.width16 Variable.serverPort 0 1 65535).errors ≠ [] ∧
      c.client = Client.ofEnvironment env ∧ c.client = .ok none := by
  intro env
  have hget : ∀ name, env.get? (variableName name) = _ := fun name =>
    Environment.get?_ofTexts _ (variableName name)
  have hport : env.get? (variableName Variable.serverPort) = some " +00 " := by
    rw [hget]
    decide
  have hread : Environment.width16.read? " +00 " = some 0 := by decide
  have hmoduleId : env.get? (variableName Variable.moduleId) = none := by
    rw [hget]
    decide
  have htimeout : env.get? (variableName Variable.clientTimeout) = none := by
    rw [hget]
    decide
  have hmet : ∀ v : WorkerVariable, v.Met env := by
    intro v
    cases v with
    | sessionId => exact ⟨"s", by rw [hget]; decide, by decide⟩
    | moduleName => exact ⟨"m", by rw [hget]; decide, by decide⟩
    | moduleId =>
      intro text htext
      cases hmoduleId.symm.trans htext
    | port =>
      intro text htext
      obtain rfl := Option.some_inj.mp (hport.symm.trans htext)
      obtain ⟨hspells, hwidth⟩ := Environment.Width.read?_eq_some_iff.mp hread
      exact ⟨0, hspells, hwidth, by decide, by decide⟩
    | timeout =>
      intro text htext
      cases htimeout.symm.trans htext
  obtain ⟨session, module, hsession, hmodule, hok⟩ := ofEnvironment_of_met hmet
  have hhost : (gathered env session module).host = some "localhost" := by
    show (env.getOptional Variable.serverHost).value = _
    rw [Environment.value_getOptional, Environment.filled?, hget]
    decide
  have hzero : (gathered env session module).port = 0 := by
    rw [gathered, Environment.getNat_of_inside 0 hport hread (by decide)]
    rfl
  refine ⟨_, hok, hhost, hzero, ?_, client_eq_ofEnvironment hok resolve?, ?_⟩
  · rw [Environment.getNat_of_outside 0 hport hread (by decide)]
    exact List.cons_ne_nil _ _
  · rw [client, hhost]
    exact if_pos hzero

end WorkerConfig

/-! ### From the session to the worker -/

/-- The variables that concern the program are exactly these. -/
def Environment.Holds (env : Environment) (vars : List (String × String)) : Prop :=
  ∀ name, env.get? (variableName name) =
    (vars.find? fun v => v.1 = variableName name).map (·.2)

namespace ModuleDescriptor

variable {d : ModuleDescriptor} {env : Environment}

theorem get?_sessionId (h : env.Holds d.environment) :
    env.get? (variableName Variable.sessionId) = some d.sessionId := by
  rw [h]
  rfl

theorem get?_moduleId (h : env.Holds d.environment) :
    env.get? (variableName Variable.moduleId) = some (toString d.id.toNat) := by
  rw [h]
  rfl

theorem get?_moduleName (h : env.Holds d.environment) :
    env.get? (variableName Variable.moduleName) = some d.name := by
  rw [h]
  rfl

theorem get?_serverHost (h : env.Holds d.environment) :
    env.get? (variableName Variable.serverHost) = d.address.map fun a => a.ip.display := by
  rw [h, environment]
  cases d.address <;> rfl

theorem get?_serverPort (h : env.Holds d.environment) :
    env.get? (variableName Variable.serverPort) = d.address.map fun a => toString a.port.toNat := by
  rw [h, environment]
  cases d.address <;> rfl

theorem get?_clientTimeout (h : env.Holds d.environment) :
    env.get? (variableName Variable.clientTimeout) = none := by
  rw [h, environment]
  cases d.address <;> rfl

/-- A module that a worker can be started for: session and module have names, and where the session
listens is no port of zero, in no network of its own. -/
structure Reachable (d : ModuleDescriptor) : Prop where
  sessionId : d.sessionId ≠ ""
  name : d.name ≠ ""
  port : ∀ a, d.address = some a → a.port ≠ 0
  scope : ∀ a, d.address = some a → a.scope = 0

theorem met_of_holds (hd : d.Reachable) (h : env.Holds d.environment) (v : WorkerVariable) :
    v.Met env := by
  cases v with
  | sessionId => exact ⟨d.sessionId, get?_sessionId h, hd.sessionId⟩
  | moduleName => exact ⟨d.name, get?_moduleName h, hd.name⟩
  | moduleId =>
    intro text htext
    obtain rfl := Option.some_inj.mp ((get?_moduleId h).symm.trans htext)
    refine ⟨d.id.toNat, Environment.spells_natural _, ?_, Nat.zero_le _, ?_⟩
    all_goals exact Nat.le_pred_of_lt d.id.toNat_lt
  | port =>
    intro text htext
    obtain ⟨a, -, rfl⟩ := Option.map_eq_some_iff.mp ((get?_serverPort h).symm.trans htext)
    refine ⟨a.port.toNat, Environment.spells_natural _, ?_, Nat.zero_le _, ?_⟩
    all_goals exact Nat.le_pred_of_lt a.port.toNat_lt
  | timeout =>
    intro text htext
    cases (get?_clientTimeout h).symm.trans htext

end ModuleDescriptor

theorem IpAddress.display_ne_empty (ip : IpAddress) : ip.display ≠ "" := by
  intro hempty
  have htext : ip.text = [] := by
    rw [← String.toList_ofList (l := ip.text), ← IpAddress.display, hempty]
    rfl
  have hread := ip.ofText?_text
  rw [htext] at hread
  cases hread

theorem Client.connectTo_address (a : SocketAddress) (hscope : a.scope = 0) (timeoutMs : Nat) :
    Client.connectTo a.ip.display a.port.toNat timeoutMs = .ok ⟨a, timeoutMs⟩ := by
  obtain ⟨ip, port, scope⟩ := a
  obtain rfl : scope = 0 := hscope
  have htarget : (ip.display ++ ":" ++ toString port.toNat).toList =
      ip.text ++ ':' :: decimalText port.toNat := by
    rw [String.toList_append, String.toList_append, IpAddress.display, String.toList_ofList,
      List.append_assoc]
    exact congrArg (fun digits => ip.text ++ ':' :: digits) Nat.toList_repr
  simp only [Client.connectTo, htarget, resolve?_text]

/-- The client is that of the address, and there is none without an address. -/
theorem ModuleDescriptor.client_of_holds {d : ModuleDescriptor} {env : Environment}
    (hd : d.Reachable) (h : env.Holds d.environment) :
    (WorkerConfig.gathered env d.sessionId d.name).client =
      .ok (d.address.map fun a => ⟨a, Client.defaultTimeoutMs⟩) := by
  have hhost : (WorkerConfig.gathered env d.sessionId d.name).host =
      d.address.map fun a => a.ip.display := by
    show (env.getOptional Variable.serverHost).value = _
    rw [Environment.value_getOptional, Environment.filled?, get?_serverHost h]
    cases d.address with
    | none => rfl
    | some a =>
      rw [Option.map_some, Option.filter, if_pos (decide_eq_true a.ip.display_ne_empty)]
  have htimeout : (WorkerConfig.gathered env d.sessionId d.name).timeoutMs =
      Client.defaultTimeoutMs := by
    rw [WorkerConfig.gathered, Environment.getNat_of_unset _ (get?_clientTimeout h)]
    rfl
  rw [WorkerConfig.client, hhost, htimeout]
  cases haddress : d.address with
  | none => rfl
  | some a =>
    have hset : env.get? (variableName Variable.serverPort) = some (toString a.port.toNat) := by
      rw [get?_serverPort h, haddress]
      rfl
    have hfits : a.port.toNat ≤ 65535 := Nat.le_pred_of_lt a.port.toNat_lt
    have hport : (WorkerConfig.gathered env d.sessionId d.name).port = a.port.toNat :=
      Environment.value_getNat_natural 0 hset hfits ⟨Nat.zero_le _, hfits⟩
    have hzero : a.port.toNat ≠ 0 := fun hzero =>
      hd.port a haddress (UInt16.toNat_inj.mp hzero)
    simp only [Option.map_some, hport, if_neg hzero,
      Client.connectTo_address a (hd.scope a haddress)]
    rfl

/-- **A worker finds its module and its session.**  In an environment whose variables are exactly those
that a module's worker is started with, a configuration is read, it holds session, number and name of
the module, and its client sends to where the session listens; if the session does not listen, there
is no client. -/
theorem worker_finds_session {d : ModuleDescriptor} {env : Environment} (hd : d.Reachable)
    (h : env.Holds d.environment) :
    ∃ c, WorkerConfig.ofEnvironment env = .ok c ∧
      c.sessionId = d.sessionId ∧ c.moduleId = d.id ∧ c.moduleName = d.name ∧
      c.descriptor.sessionId = d.sessionId ∧ c.descriptor.id = d.id ∧ c.descriptor.name = d.name ∧
      c.client = .ok (d.address.map fun a => ⟨a, Client.defaultTimeoutMs⟩) := by
  obtain ⟨session, module, hsession, hmodule, hok⟩ :=
    WorkerConfig.ofEnvironment_of_met (ModuleDescriptor.met_of_holds hd h)
  obtain rfl : session = d.sessionId := Option.some_inj.mp
    ((Environment.filled?_eq_some_iff.mp hsession).1.symm.trans (ModuleDescriptor.get?_sessionId h))
  obtain rfl : module = d.name := Option.some_inj.mp
    ((Environment.filled?_eq_some_iff.mp hmodule).1.symm.trans (ModuleDescriptor.get?_moduleName h))
  have hid : (WorkerConfig.gathered env d.sessionId d.name).moduleId = d.id := by
    have hfits : d.id.toNat ≤ Environment.width64.max := Nat.le_pred_of_lt d.id.toNat_lt
    rw [WorkerConfig.gathered, Environment.value_getNat_natural 0
      (ModuleDescriptor.get?_moduleId h) hfits ⟨Nat.zero_le _, hfits⟩, UInt64.ofNat_toNat]
  have hclient := ModuleDescriptor.client_of_holds hd h
  exact ⟨_, hok, rfl, hid, rfl, rfl, hid, rfl, hclient⟩

/-- The session listens at an address of version 6 in which zeros are left out, and the worker has
variables of others besides its own. -/
theorem worker_finds_session_v6 :
    let a : SocketAddress := { ip := .v6 #v[0x2001, 0xdb8, 0, 0, 0, 0, 0, 1], port := 65535 }
    let d : ModuleDescriptor := ⟨"s-1", 0xFFFFFFFFFFFFFFFF, "core", ["out"], some a⟩
    let env := Environment.ofTexts (("PATH", "/usr/bin") :: d.environment)
    d.Reachable ∧ env.Holds d.environment ∧ a.ip.display = "2001:db8::1" ∧
      ∃ c, WorkerConfig.ofEnvironment env = .ok c ∧ c.moduleId = 0xFFFFFFFFFFFFFFFF ∧
        c.client = .ok (some ⟨a, 30000⟩) := by
  intro a d env
  have hd : d.Reachable := by
    refine ⟨by decide, by decide, fun b hb => ?_, fun b hb => ?_⟩
    all_goals
      obtain rfl := Option.some_inj.mp hb
      decide
  have hholds : env.Holds d.environment := by
    intro name
    -- The variable of others has not the prefix, so that it is never looked up.
    have hpath : "PATH" ≠ variableName name := by
      intro hname
      have hfirst := congrArg (fun s => s.toList.head?) hname
      rw [variableName, String.toList_append] at hfirst
      exact absurd (Option.some_inj.mp hfirst : 'P' = 'C') (by decide)
    rw [Environment.get?_ofTexts, List.find?_cons_of_neg (by simpa using hpath)]
  obtain ⟨c, hok, -, hid, -, -, -, -, hclient⟩ := worker_finds_session hd hholds
  exact ⟨hd, hholds, by decide, c, hok, hid, hclient⟩

end TestTelemetry
