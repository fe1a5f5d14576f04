import FactScope.Log.Delivery

namespace FactScope.Log

namespace State

def openFault? : FileTree → List OutputSettings → Option Fault
  | _, [] => none
  | tree, output :: rest =>
      match openDestination tree output.destination with
      | (_, some fault) => some fault
      | (tree, none) => openFault? tree rest

variable {s s' : State} {settings : LoggingSettings}

theorem snd_install (level : Level) (outputs : List OutputSettings) (s : State) :
    (install level outputs s).2 = openFault? s.tree outputs := by
  induction outputs generalizing s with
  | nil => rfl
  | cons output rest ih =>
      rw [install, openFault?]
      rcases openDestination s.tree output.destination with ⟨tree, _ | fault⟩
      · exact ih _
      · rfl

theorem scanId_install (level : Level) (outputs : List OutputSettings) (s : State) :
    (install level outputs s).1.scanId = s.scanId := by
  induction outputs generalizing s with
  | nil => rfl
  | cons output rest ih =>
      rw [install]
      rcases openDestination s.tree output.destination with ⟨tree, _ | fault⟩
      · exact ih _
      · rfl

theorem scanId_configure (s : State) (settings : LoggingSettings) :
    (s.configure settings).1.scanId = s.scanId :=
  scanId_install ..

/-- The state of logging where some settings are in force. -/
structure InForce (s : State) (settings : LoggingSettings) : Prop where
  pipeline_eq : s.pipeline = ⟨settings.level.number, false⟩
  rootLevel_eq : s.rootLevel = settings.level.number
  handlers_eq : s.handlers = settings.outputs.map (.ofOutput settings.level)

theorem InForce.withScanId (h : s.InForce settings) (id : Value) :
    InForce { s with scanId := id } settings :=
  ⟨h.pipeline_eq, h.rootLevel_eq, h.handlers_eq⟩

theorem inForce_configure (h : s.configure settings = (s', none)) : s'.InForce settings := by
  obtain ⟨-, hroot, hpipeline, -⟩ := install_eq_append settings.level settings.outputs _ s' h
  exact ⟨hpipeline, hroot, handlers_configure h⟩

theorem configure_of_openFault? (h : openFault? s.tree settings.outputs = none) :
    ∃ s', s.configure settings = (s', none) ∧ s'.InForce settings := by
  have hinstalled : s.configure settings = ((s.configure settings).1, none) :=
    Prod.ext rfl ((snd_install _ _ _).trans h)
  exact ⟨_, hinstalled, inForce_configure hinstalled⟩

end State

end FactScope.Log
