import FactScope.Proofs.Log.Install
import FactScope.Proofs.Session.Default
import FactScope.Proofs.Session.Version
import FactScope.Proofs.Settings.Dump
import FactScope.Setup
import Mathlib.Data.List.Forall2

namespace FactScope

namespace Log

/-- A handler that serves an output of settings with some level: it is a file's where the output
names no standard stream. -/
structure Handler.Serves (level : Level) (output : OutputSettings) (handler : Handler) : Prop where
  destination_eq : handler.destination = output.destination
  format_eq : handler.format = output.format
  level_eq : handler.level = output.level.getD level
  file_iff : (∃ path, handler.destination = .file path) ↔
    output.destination.text ≠ .ofString "stderr" ∧ output.destination.text ≠ .ofString "stdout"

theorem State.InForce.serves {s : State} {settings : LoggingSettings} (h : s.InForce settings)
    (hnormal : settings.Normal) :
    List.Forall₂ (Handler.Serves settings.level) settings.outputs s.handlers := by
  rw [h.handlers_eq, List.forall₂_map_right_iff, List.forall₂_same]
  intro output houtput
  exact ⟨rfl, rfl, rfl, (hnormal output houtput).exists_path_iff⟩

end Log

namespace World

variable {w : World} {settings : Settings}

theorem apply_of_openFault?
    (h : Log.State.openFault? w.log.tree settings.logging.outputs = none) :
    ∃ log, w.apply settings =
        (⟨{ w.session with default := settings.context.version }, log⟩, none) ∧
      log.InForce settings.logging := by
  obtain ⟨log, hlog, hforce⟩ := Log.State.configure_of_openFault? h
  refine ⟨log, ?_, hforce⟩
  rw [apply, hlog]

/-- Loading decides on all of a configuration. Where it fails the failure is that of the
configuration, and the world stays as it is. Otherwise its settings are in force, whatever was
before: the nodes stay, the default version is the settings' and every new root without a version
holds it, and there is one handler for each output, in order. -/
theorem configure_all_or_nothing (w : World) (sources : Sources)
    (hopens : ∀ settings, sources.load = .ok settings →
      Log.State.openFault? w.log.tree settings.logging.outputs = none) :
    (∀ failure, sources.load = .error failure → w.configure sources = (w, .error failure)) ∧
    ∀ settings, sources.load = .ok settings → ∃ after,
      w.configure sources = (after, .ok settings) ∧
      w.session.setDefault (.text settings.context.version.text) = .ok after.session ∧
      after.session.default = settings.context.version ∧
      after.session.forest = w.session.forest ∧
      after.log.rootLevel = settings.logging.level.number ∧
      List.Forall₂ (Log.Handler.Serves settings.logging.level) settings.logging.outputs
        after.log.handlers ∧
      ∀ later, Session.KeepsDefault later →
        let t := after.session.run later
        let past := after.session.history later
        let size := w.session.forest.size
        t.default = settings.context.version ∧ t.forest.size = size + past.length ∧
        ∀ k : Fin past.length, t.forest.isRoot (size + k) = true →
          (∀ value, (past.get k).supplied.get? Fact.version.name = some value →
            value.truthy = false) →
          (t.forest.facts (size + k)).get? Fact.version.name =
            some (.text settings.context.version.text) := by
  constructor
  · intro failure hload
    rw [configure, hload]
  · intro settings hload
    obtain ⟨log, happly, hforce⟩ := apply_of_openFault? (hopens settings hload)
    refine ⟨⟨{ w.session with default := settings.context.version }, log⟩, ?_, ?_, rfl, rfl,
      hforce.rootLevel_eq, hforce.serves (Sources.normal_of_load hload), ?_⟩
    · rw [configure, hload]
      simp only [happly]
    · rw [Session.setDefault, Version.choose_text]
      rfl
    · intro later hkeeps t past size
      obtain ⟨hdefault, hbirths⟩ := Session.default_run hkeeps
        { w.session with default := settings.context.version }
      have hdefaulted := Session.defaulted_run
        { w.session with default := settings.context.version } later
      refine ⟨hdefault, hdefaulted.size_eq, fun k hroot hfalsy => ?_⟩
      exact hdefaulted.get?_eq hbirths (List.getElem?_eq_getElem k.isLt)
        (Option.isNone_iff_eq_none.mp hroot) hfalsy

def usedWorld : World where
  session := Session.start.run [.newRoot [("class", .text "A")], .setDefault (.text "3.1.0")]
  log := { Log.State.start (.ofDirectories [Path.parse (.ofString "/var")]) with
    rootLevel := Level.critical.number
    handlers := [⟨.stdout, .json, .critical⟩, ⟨.stderr, .json, .error⟩] }

def fileSources : Sources where
  home := "/root"
  globalFile := none
  projectFile := some ⟨"/project.yaml", .ok (.object
    [("logging", .object
      [("level", .text "DEBUG"),
        ("outputs", .list
          [.object [("destination", .text "/var/log/events"), ("level", .text "ERROR")],
            .object [("format", .text "json"), ("destination", .text "stdout")]])])])⟩
  environment := [("ANNOSCOPE__CONTEXT__DEFAULT_VERSION", "3.0.0")]
  overrides := []

theorem configure_usedWorld :
    ∃ after settings, usedWorld.configure fileSources = (after, .ok settings) ∧
      after.session.default = .v300 ∧ after.session.forest = usedWorld.session.forest ∧
      after.log.rootLevel = Level.debug.number ∧ after.log.handlers.length = 2 := by
  have hload : fileSources.load = .ok
      ⟨⟨.debug, [⟨.console, .file (Path.parse (.ofString "/var/log/events")), some .error⟩,
        ⟨.json, .stdout, none⟩]⟩, ⟨.v300⟩⟩ := rfl
  have hopens : ∀ settings, fileSources.load = .ok settings →
      Log.State.openFault? usedWorld.log.tree settings.logging.outputs = none := by
    intro settings hsettings
    cases Except.ok.inj (hload.symm.trans hsettings)
    decide +kernel
  obtain ⟨-, hsettled⟩ := configure_all_or_nothing usedWorld fileSources hopens
  obtain ⟨after, hafter, -, hdefault, hforest, hroot, hserves, -⟩ := hsettled _ hload
  exact ⟨after, _, hafter, hdefault, hforest, hroot, hserves.length_eq.symm⟩

end World

end FactScope
