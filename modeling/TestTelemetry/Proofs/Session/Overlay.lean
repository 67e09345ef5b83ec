/-
The environment over a configuration.

Five fields of a configuration lie under a variable.  A variable that is absent says nothing; what
is set is read, and what was read fits its field or not.  A variable is reported exactly if nothing
that fits was read from it.

* `Override` — the fields that lie under a variable;
* `Override.said?`, `Override.read?`, `Override.fits` — what a variable says, what is read from it,
  and whether that may stand in the field;
* `SessionConfig.field_overlay` — what a field holds under an environment;
* `SessionConfig.names_overlay` — the variables that are reported;
* `SessionConfig.overlay_respects_iff` — when a reported variable leaves its field alone.
-/
import TestTelemetry.Proofs.Environment.Getters
import TestTelemetry.Session.Config
import Mathlib.Data.List.Nodup

namespace TestTelemetry

/-- A field of a configuration that lies under a variable. -/
inductive Override
  | host
  | port
  | reportDumpDir
  | settingsFile
  | repoRoot
deriving DecidableEq

/-- What such a field can hold. -/
inductive FieldValue
  | text (s : String)
  | number (n : Nat)
  | path (p : Option Path)
deriving DecidableEq

namespace Override

/-- All of them, in the order in which their variables are looked at. -/
def all : List Override := [host, port, reportDumpDir, settingsFile, repoRoot]

/-- The name of the variable, without what all variables share. -/
def shortName : Override → String
  | host => Variable.serverHost
  | port => Variable.serverPort
  | reportDumpDir => Variable.reportDumpDir
  | settingsFile => Variable.settingsFile
  | repoRoot => Variable.repoRoot

/-- The full name of the variable. -/
def variableName (o : Override) : String := Environment.variableName o.shortName

/-- What a configuration holds in the field. -/
def field (c : SessionConfig) : Override → FieldValue
  | host => .text c.host
  | port => .number c.port
  | reportDumpDir => .path c.reportDumpDir
  | settingsFile => .path c.settingsFile
  | repoRoot => .path c.repoRoot

/-- Whether something must be at the path in the field. -/
def mustExist : Override → Bool
  | settingsFile => true
  | repoRoot => true
  | _ => false

/-- What the variable says.  An empty text says nothing, except where a number is wanted. -/
def said? (env : Environment) : Override → Option String
  | port => env.get? port.variableName
  | o => env.filled? o.shortName

/-- What is read from a text for the field; `~/` at the start of a path is the home folder. -/
def read? (env : Environment) (text : String) : Override → Option FieldValue
  | host => some (.text text)
  | port => (Environment.width16.read? text).map .number
  | _ => some (.path (some (env.expandHome text)))

/-- Whether a value may stand in the field. -/
def fits (t : FileTree) (o : Override) : FieldValue → Bool
  | .path (some p) => !o.mustExist || t.holds p
  | _ => true

variable (env : Environment) (t : FileTree) (o : Override)

/-- What is read from the variable. -/
def value? : Option FieldValue := (said? env o).bind (read? env · o)

/-- What is read from the variable and fits the field. -/
def accepted? : Option FieldValue := (value? env o).filter (fits t o)

/-- Whether the variable says something, but nothing that fits is read from it. -/
def isRefused : Bool := (said? env o).isSome && (accepted? env t o).isNone

/-- The variable says a path at which something must be, and nothing is. -/
def Missing (p : Path) : Prop :=
  o.mustExist = true ∧ (said? env o).map env.expandHome = some p ∧ t.holds p = false

variable {env t o}

theorem mem_all (o : Override) : o ∈ all := by
  cases o <;> decide

theorem variableName_injective {o' : Override} (h : o.variableName = o'.variableName) : o = o' :=
  have hnodup : (all.map variableName).Nodup := by decide
  List.inj_on_of_nodup_map hnodup (mem_all o) (mem_all o') h

/-- A variable is refused by what is read from its text. -/
theorem isRefused_eq : isRefused env t o =
    (said? env o).any fun text => ((read? env text o).filter (fits t o)).isNone := by
  rw [isRefused, accepted?, value?]
  cases said? env o <;> rfl

/-! #### Paths at which nothing is -/

variable {p : Path} {v : FieldValue}

/-- What must exist is a path. -/
theorem value?_of_mustExist (h : o.mustExist = true) :
    value? env o = ((said? env o).map env.expandHome).map fun p => .path (some p) := by
  rw [value?, Option.map_map, Option.map_eq_bind]
  cases o with
  | settingsFile => rfl
  | repoRoot => rfl
  | _ => cases h

/-- A path is read although nothing is there. -/
theorem value?_of_missing (h : Missing env t o p) : value? env o = some (.path (some p)) := by
  rw [value?_of_mustExist h.1, h.2.1]
  rfl

theorem fits_of_missing (h : Missing env t o p) : fits t o (.path (some p)) = false := by
  rw [fits, h.1, h.2.2]
  rfl

theorem isRefused_of_missing (h : Missing env t o p) : isRefused env t o = true := by
  obtain ⟨text, hsaid, -⟩ := Option.map_eq_some_iff.mp h.2.1
  rw [isRefused, hsaid, accepted?, value?_of_missing h, Option.filter, fits_of_missing h]
  rfl

/-- All that is read from a variable that is refused is a path at which nothing is. -/
theorem missing_of_isRefused (h : isRefused env t o = true) (hvalue : value? env o = some v) :
    ∃ p, v = .path (some p) ∧ Missing env t o p := by
  have hnone : accepted? env t o = none := by
    simpa using (Bool.and_eq_true_iff.mp h).2
  have hfits : fits t o v = false := by
    rw [accepted?, hvalue, Option.filter_eq_none_iff] at hnone
    simpa using hnone v rfl
  match v, hfits with
  | .path (some p), hfits =>
    obtain ⟨hmust, hholds⟩ := Bool.or_eq_false_iff.mp hfits
    have hmust : o.mustExist = true := by simpa using hmust
    rw [value?_of_mustExist hmust] at hvalue
    obtain ⟨q, hq, hpath⟩ := Option.map_eq_some_iff.mp hvalue
    obtain rfl : q = p := by simpa using hpath
    exact ⟨q, rfl, hmust, hq, hholds⟩

end Override

namespace SessionConfig

open Override (said? read? fits value? accepted? isRefused Missing)

variable (c : SessionConfig) (env : Environment) (t : FileTree)

/-! ### What a field holds -/

theorem path_of_getPath (name : String) (mustExist : Bool) (before : Option Path) :
    FieldValue.path ((env.getPath t name mustExist).value.or before) =
      ((env.filled? name).bind fun text => some (.path (some (env.expandHome text)))).getD
        (.path before) := by
  rw [Environment.value_getPath]
  cases env.filled? name <;> rfl

/-- A field holds what was read from its variable, whether it fits or not, else what it held. -/
theorem field_overlay (o : Override) :
    o.field (c.overlay env t).1 = (value? env o).getD (o.field c) := by
  cases o with
  | host =>
    show FieldValue.text ((env.getOptional Variable.serverHost).value.getD c.host) =
      ((env.filled? Variable.serverHost).bind fun text => some (.text text)).getD (.text c.host)
    rw [Environment.value_getOptional]
    cases env.filled? Variable.serverHost <;> rfl
  | port =>
    show FieldValue.number (env.getNat _ Variable.serverPort c.port 0 _).value =
      ((env.get? (Environment.variableName Variable.serverPort)).bind fun text =>
        (Environment.width16.read? text).map FieldValue.number).getD (.number c.port)
    rw [Environment.value_getNat]
    cases env.get? (Environment.variableName Variable.serverPort) with
    | none => rfl
    | some text =>
      rw [Option.bind_some, Option.bind_some]
      cases Environment.width16.read? text <;> rfl
  | reportDumpDir => exact path_of_getPath env t Variable.reportDumpDir false c.reportDumpDir
  | settingsFile => exact path_of_getPath env t Variable.settingsFile true c.settingsFile
  | repoRoot => exact path_of_getPath env t Variable.repoRoot true c.repoRoot

/-! ### What is reported -/

/-- The variable of a field, if it is refused. -/
theorem map_filter_singleton (o : Override) :
    ([o].filter (isRefused env t)).map Override.variableName =
      if isRefused env t o then [o.variableName] else [] := by
  rw [List.filter_cons]
  split <;> rfl

theorem names_of_getPath {o : Override} (hsaid : said? env o = env.filled? o.shortName)
    (hread : ∀ text, read? env text o = some (.path (some (env.expandHome text)))) :
    (env.getPath t o.shortName o.mustExist).errors.map EnvError.name =
      ([o].filter (isRefused env t)).map Override.variableName := by
  have hfits : ∀ text, ((read? env text o).filter (fits t o)).isNone =
      (o.mustExist && !t.holds (env.expandHome text)) := by
    intro text
    rw [hread, Option.filter]
    show (if (!o.mustExist || t.holds (env.expandHome text)) = true then _ else none).isNone = _
    cases o.mustExist <;> cases t.holds (env.expandHome text) <;> rfl
  rw [Environment.names_getPath, map_filter_singleton, Override.isRefused_eq, hsaid]
  simp only [hfits]
  rfl

theorem names_of_getNat :
    (env.getNat Environment.width16 Variable.serverPort c.port 0
        Environment.width16.max).errors.map EnvError.name =
      ([Override.port].filter (isRefused env t)).map Override.variableName := by
  have hfits : ∀ text, ((read? env text .port).filter (fits t .port)).isNone =
      (Environment.width16.read? text).isNone := by
    intro text
    show (((Environment.width16.read? text).map FieldValue.number).filter _).isNone = _
    cases Environment.width16.read? text <;> rfl
  rw [Environment.names_getNat, map_filter_singleton, Override.isRefused_eq]
  simp only [hfits]
  rfl

/-- A text is never refused. -/
theorem names_of_getOptional :
    (env.getOptional Variable.serverHost).errors.map EnvError.name =
      ([Override.host].filter (isRefused env t)).map Override.variableName := by
  have hfits : isRefused env t .host = false := by
    rw [Override.isRefused_eq]
    cases said? env .host <;> rfl
  rw [Environment.errors_getOptional, map_filter_singleton, hfits]
  rfl

/-- The variables that are reported are those that are refused, in their order. -/
theorem names_overlay : (c.overlay env t).2.map EnvError.name =
    (Override.all.filter (isRefused env t)).map Override.variableName := by
  have hsplit : Override.all = [.host] ++ [.port] ++ [.reportDumpDir] ++ [.settingsFile] ++
    [.repoRoot] := rfl
  rw [hsplit]
  simp only [List.filter_append, List.map_append]
  rw [← names_of_getOptional, ← names_of_getNat c, ← names_of_getPath env t rfl fun _ => rfl,
    ← names_of_getPath env t rfl fun _ => rfl, ← names_of_getPath env t rfl fun _ => rfl]
  simp only [overlay, List.map_append]
  rfl

/-- A variable is reported exactly if it is refused. -/
theorem reported_iff (o : Override) :
    o.variableName ∈ (c.overlay env t).2.map EnvError.name ↔ isRefused env t o = true := by
  rw [names_overlay, List.mem_map]
  constructor
  · rintro ⟨o', ho', hname⟩
    rw [← Override.variableName_injective hname]
    exact (List.mem_filter.mp ho').2
  · intro hrefused
    exact ⟨o, List.mem_filter.mpr ⟨Override.mem_all o, hrefused⟩, rfl⟩

/-! ### Respect for what is reported -/

/-- An environment is respected at a field if what its variable says is put there when it fits, and
the field is left alone when the variable says nothing and when it is reported. -/
structure Respects (c after : SessionConfig) (errors : List EnvError) (env : Environment)
    (t : FileTree) (o : Override) : Prop where
  accepted : ∀ v, accepted? env t o = some v → o.field after = v
  absent : said? env o = none → o.field after = o.field c
  reported : o.variableName ∈ errors.map EnvError.name → o.field after = o.field c

/-- The environment is respected at a field exactly if a path at which nothing is, but something
must be, is what the field held before. -/
theorem respects_iff (o : Override) :
    c.Respects (c.overlay env t).1 (c.overlay env t).2 env t o ↔
      ∀ p, Missing env t o p → o.field c = .path (some p) := by
  constructor
  · intro h p hmissing
    have hreported := (reported_iff c env t o).mpr (Override.isRefused_of_missing hmissing)
    rw [← h.reported hreported, field_overlay, Override.value?_of_missing hmissing]
    rfl
  · intro h
    refine ⟨fun v hv => ?_, fun hsaid => ?_, fun hreported => ?_⟩
    · rw [field_overlay, (Option.filter_eq_some_iff.mp hv).1]
      rfl
    · rw [field_overlay, value?, hsaid]
      rfl
    · have hrefused := (reported_iff c env t o).mp hreported
      rw [field_overlay]
      cases hvalue : value? env o with
      | none => rfl
      | some v =>
        obtain ⟨p, rfl, hmissing⟩ := Override.missing_of_isRefused hrefused hvalue
        exact (h p hmissing).symm

/-- **What is reported is not applied, but for a path that must exist.**  At every field the
environment is respected unless its variable says a path at which nothing is, but something must
be, and which the field did not hold before: that path is reported and put into the field all the
same.  The variables that are reported are those that say something from which nothing that fits is
read, and the fields without a variable stay as they are. -/
theorem overlay_respects_iff :
    let after := (c.overlay env t).1
    let errors := (c.overlay env t).2
    (∀ o, c.Respects after errors env t o ↔
      ∀ p, Missing env t o p → o.field c = .path (some p)) ∧
    (∀ o p, Missing env t o p →
      o.variableName ∈ errors.map EnvError.name ∧ o.field after = .path (some p)) ∧
    (∀ o, o.field after = (value? env o).getD (o.field c)) ∧
    errors.map EnvError.name = (Override.all.filter (isRefused env t)).map Override.variableName ∧
    after.projectName = c.projectName ∧ after.settings = c.settings := by
  intro after errors
  refine ⟨respects_iff c env t, fun o p hmissing => ⟨?_, ?_⟩, field_overlay c env t,
    names_overlay c env t, rfl, rfl⟩
  · exact (reported_iff c env t o).mpr (Override.isRefused_of_missing hmissing)
  · rw [field_overlay, Override.value?_of_missing hmissing]
    rfl

/-- The port of the environment is taken, its empty host is not.  The root of the repository is
not there, but it is the root that was configured before; the settings file in the home folder is
not there either, and another one was configured. -/
theorem overlay_of_missing_paths :
    let env := { Environment.ofTexts [("CIVIS_SIGNAL_SERVER_HOST", ""),
      ("CIVIS_SIGNAL_SERVER_PORT", " +80 "), ("CIVIS_SETTINGS_FILE", "~/absent.json"),
      ("CIVIS_REPO_ROOT", "gone")] with home := some "/home/u" }
    let t : FileTree := ⟨[], [], [], []⟩
    let c := { initial with repoRoot := some "gone", settingsFile := some "here.json" }
    let after := (c.overlay env t).1
    after.host = initial.host ∧ after.port = 80 ∧
      Missing env t .repoRoot "gone" ∧ c.Respects after (c.overlay env t).2 env t .repoRoot ∧
      Missing env t .settingsFile "/home/u/absent.json" ∧
      after.settingsFile = some ("/home/u/absent.json" : Path) ∧
      ¬ c.Respects after (c.overlay env t).2 env t .settingsFile := by
  intro env t c after
  obtain ⟨hrespects, hmissing, hfield, -⟩ := overlay_respects_iff c env t
  have hroot : Missing env t .repoRoot "gone" := ⟨rfl, by decide +kernel, by decide +kernel⟩
  have hfile : Missing env t .settingsFile "/home/u/absent.json" :=
    ⟨rfl, by decide +kernel, by decide +kernel⟩
  have hhost : value? env .host = none := by decide +kernel
  have hport : value? env .port = some (.number 80) := by decide +kernel
  refine ⟨?_, ?_, hroot, (hrespects _).mpr fun p hp => ?_, hfile, ?_, fun h => ?_⟩
  · have hafter := hfield .host
    rw [hhost] at hafter
    exact FieldValue.text.inj hafter
  · have hafter := hfield .port
    rw [hport] at hafter
    exact FieldValue.number.inj hafter
  · have hsame : p = "gone" := Option.some_inj.mp (hp.2.1.symm.trans hroot.2.1)
    rw [hsame]
    rfl
  · exact FieldValue.path.inj (hmissing _ _ hfile).2
  · exact absurd ((hrespects _).mp h _ hfile) (by decide +kernel)

/-- A settings file that is not there is reported, and it is configured all the same. -/
theorem missing_settings_file_is_applied :
    let env := Environment.ofTexts [("CIVIS_SETTINGS_FILE", "absent.json")]
    let t : FileTree := ⟨[], [], [], []⟩
    "CIVIS_SETTINGS_FILE" ∈ (initial.overlay env t).2.map EnvError.name ∧
      initial.settingsFile = none ∧
      (initial.overlay env t).1.settingsFile = some ("absent.json" : Path) ∧
      ¬ initial.Respects (initial.overlay env t).1 (initial.overlay env t).2 env t .settingsFile := by
  intro env t
  have hmissing : Missing env t .settingsFile "absent.json" :=
    ⟨rfl, by decide +kernel, by decide +kernel⟩
  refine ⟨?_, rfl, ?_, fun h => ?_⟩
  · exact (reported_iff initial env t .settingsFile).mpr (Override.isRefused_of_missing hmissing)
  · have hafter := field_overlay initial env t .settingsFile
    rw [Override.value?_of_missing hmissing] at hafter
    exact FieldValue.path.inj hafter
  · exact absurd ((respects_iff initial env t .settingsFile).mp h _ hmissing) (by decide +kernel)

end SessionConfig

end TestTelemetry
