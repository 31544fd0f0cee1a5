import CommandRelay.Launch.Start
import CommandRelay.Proofs.Config.Effective

/-!
# What the relay is started with

The relay runs with the configuration that its file and the variables come to, and with no other; if
they come to none, the program ends and names one fault of the configuration
(`only_sound_configurations_run`).  A file that is missing and one that is empty come to the same,
though the two are dealt with in different places.
-/

namespace CommandRelay.Launch

open Storage

/-! ## The log -/

/-- The fault that a detail gives. -/
def fault? : Detail → Option Fault
  | .fault f => some f
  | _ => none

/-- The faults that the errors of a log name. -/
def faults (log : List Line) : List Fault :=
  (log.filter (·.event.severity = .error)).flatMap fun l =>
    l.event.details.filterMap fun d => fault? d.2

/-! ## The configuration -/

section

variable {a : Arguments} {vars : Config.Variables} {files : FileSystem} {path : String}
  {words : Wording}

/-- Whether or not a file is there, either there is a configuration to run with or the log names
what is wrong. -/
theorem configuration_cases (files : FileSystem) (path : String) (vars : Config.Variables)
    (words : Wording) :
    (∃ f log, Config.outcome files path vars words = .error f ∧
      configuration files path vars words = (log, none) ∧ faults log = [f]) ∨
    ∃ c log, Config.outcome files path vars words = .ok c ∧
      configuration files path vars words = (log, some c) := by
  cases hthere : files.isThere (.ofText path) with
  | false =>
    rw [configuration, Config.loadFrom_of_missing hthere, Config.outcome_of_missing hthere]
    cases (default : Config).effective vars with
    | error f => exact .inl ⟨f, _, rfl, rfl, rfl⟩
    | ok c => exact .inr ⟨c, _, rfl, rfl⟩
  | true =>
    rw [configuration, Config.loadFrom_of_isThere hthere]
    cases Config.outcome files path vars words with
    | error f => exact .inl ⟨f, _, rfl, rfl, rfl⟩
    | ok c => exact .inr ⟨c, _, rfl, rfl⟩

/-- Where an initial configuration is asked for, nothing runs. -/
theorem start_of_init (hinit : a.init = true) (c : Config) :
    (start a vars files words).next ≠ .run c := by
  rw [start, if_pos hinit, writeDefault]
  split
  · exact fun h => by cases h
  · split <;> exact fun h => by cases h

/-- Without a configuration the program ends with a failure. -/
theorem start_of_none {log : List Line} (hinit : a.init = false)
    (h : configuration files (a.config.getD (defaultPath vars)) vars words = (log, none)) :
    start a vars files words = { log, files, next := .exit 1 } := by
  rw [start, hinit, h]
  rfl

/-- With a configuration the relay runs, unless only a check was asked for. -/
theorem start_of_some {log : List Line} {c : Config} (hinit : a.init = false)
    (h : configuration files (a.config.getD (defaultPath vars)) vars words = (log, some c)) :
    (start a vars files words).next = if a.check then .exit 0 else .run c := by
  rw [start, hinit, h]
  cases a.check <;> rfl

end

/-! ## The start -/

/-- **Only sound configurations run.**  Whatever the arguments, the variables and the files are:

* the relay runs with a configuration exactly if nothing else is asked for and it is what the file
  and the variables come to, all checked;
* if they come to nothing, the program ends with a failure and names one fault, of the
  configuration;
* where no file is, what comes of it is what a file that is there and empty is loaded as. -/
theorem only_sound_configurations_run (a : Arguments) (vars : Config.Variables)
    (files : FileSystem) (words : Wording) :
    let path := a.config.getD (defaultPath vars)
    (∀ c, (start a vars files words).next = .run c ↔
      a.init = false ∧ a.check = false ∧ Config.Effective files path vars c) ∧
    (a.init = false → (∀ c, ¬ Config.Effective files path vars c) →
      ∃ f, f.kind = .config ∧ (start a vars files words).next = .exit 1 ∧
        (start a vars files words).files = files ∧ faults (start a vars files words).log = [f]) ∧
    ∀ empty : FileSystem, files.isThere (.ofText path) = false →
      empty.isThere (.ofText path) = true → empty.read (.ofText path) = .ok [] →
      (∀ c, (configuration files path vars words).2 = some c ↔
        Config.loadFrom empty path vars words = .ok (some c)) ∧
      ∀ f, (configuration files path vars words).2 = none ∧
        faults (configuration files path vars words).1 = [f] ↔
        Config.loadFrom empty path vars words = .error f := by
  intro path
  refine ⟨fun c => ?_, fun hinit hnone => ?_, fun empty hmissing hthere hread => ?_⟩
  · rw [← Config.outcome_eq_ok_iff]
    cases hinit : a.init with
    | true => exact iff_of_false (start_of_init hinit c) fun h => by cases h.1
    | false =>
      rcases configuration_cases files path vars words
        with ⟨f, log, hf, hlog, -⟩ | ⟨c', log, hc', hlog⟩
      · rw [start_of_none hinit hlog, hf]
        exact iff_of_false (fun h => by cases h) fun h => by cases h.2.2
      · rw [start_of_some hinit hlog, hc']
        cases a.check <;> simp
  · rcases configuration_cases files path vars words
      with ⟨f, log, hf, hlog, hfaults⟩ | ⟨c, log, hc, -⟩
    · rw [start_of_none hinit hlog]
      exact ⟨f, Config.kind_of_outcome hf, rfl, rfl, hfaults⟩
    · exact absurd (Config.outcome_eq_ok_iff.mp hc) (hnone c)
  · -- an empty file spells what a missing one stands for
    have hsame : Config.outcome empty path vars words = Config.outcome files path vars words := by
      rw [Config.outcome_of_missing hmissing, Config.outcome, Config.filed_of_empty hthere hread]
      rfl
    rw [Config.loadFrom_of_isThere hthere, hsame]
    rcases configuration_cases files path vars words
      with ⟨f, log, hf, hlog, hfaults⟩ | ⟨c, log, hc, hlog⟩
    · rw [hf, hlog]
      simp [Except.map, hfaults]
    · rw [hc, hlog]
      simp [Except.map]

/-- Variables that give a host and a port. -/
def siteVariables (port : String) : Config.Variables := fun name =>
  [("CMDBRIDGE_EXTERNAL_HOST", "broker"), ("CMDBRIDGE_BUS_PORT", port)].lookup name

/-- A file system with nothing but an empty file. -/
def emptyFile : FileSystem := { entries := [(["relay.toml"], .file 0o600 [])] }

/-- The theorem at a site without a file: with a port that is a number the relay runs, as it would
with an empty file, and with the port zero it does not. -/
theorem site_without_file_runs :
    (start { config := some "relay.toml" } (siteVariables "+1884") {} {}).next =
      .run (({} : Config).overridden (siteVariables "+1884")) ∧
    Config.loadFrom emptyFile "relay.toml" (siteVariables "+1884") =
      .ok (some (({} : Config).overridden (siteVariables "+1884"))) ∧
    (({} : Config).overridden (siteVariables "+1884")).internal.connection.port = 1884 ∧
    (start { config := some "relay.toml" } (siteVariables "0") {} {}).next = .exit 1 := by
  obtain ⟨hrun, -, hempty⟩ :=
    only_sound_configurations_run { config := some "relay.toml" } (siteVariables "+1884") {} {}
  obtain ⟨-, hrefuse, -⟩ :=
    only_sound_configurations_run { config := some "relay.toml" } (siteVariables "0") {} {}
  have hoverridden : Config.outcome {} "relay.toml" (siteVariables "+1884") {} =
      .ok (({} : Config).overridden (siteVariables "+1884")) := rfl
  have heffective := Config.outcome_eq_ok_iff.mp hoverridden
  have hzero : Config.outcome {} "relay.toml" (siteVariables "0") {} =
      .error (.zeroPort "message_bus") := rfl
  have hnone : ∀ c, ¬ Config.Effective {} "relay.toml" (siteVariables "0") c := by
    intro c hc
    rw [Config.outcome_eq_ok_iff.mpr hc] at hzero
    cases hzero
  obtain ⟨-, -, hexit, -⟩ := hrefuse rfl hnone
  exact ⟨(hrun _).mpr ⟨rfl, rfl, heffective⟩,
    ((hempty emptyFile (by decide) (by decide) (by decide)).1 _).mp rfl, rfl, hexit⟩

end CommandRelay.Launch
