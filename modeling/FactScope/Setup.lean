import FactScope.Forest.Query
import FactScope.Log.Delivery
import FactScope.Session
import FactScope.Settings.Loading

namespace FactScope

structure World where
  session : Session
  log : Log.State

namespace World

def start (tree : FileTree) : World := ⟨.start, .start tree⟩

/-- Puts settings into force, logging first. Existing trees stay as they are, and where logging
cannot be set up the default version stays too. -/
def apply (w : World) (settings : Settings) : World × Option Fault :=
  match w.log.configure settings.logging with
  | (log, some fault) => ({ w with log := log }, some fault)
  | (log, none) =>
      (⟨{ w.session with default := settings.context.version }, log⟩, none)

/-- Loads the settings and puts them into force; if they cannot be loaded nothing changes. -/
def configure (w : World) (sources : Sources) : World × Except LoadFailure Settings :=
  match sources.load with
  | .error failure => (w, .error failure)
  | .ok settings =>
      match w.apply settings with
      | (w, some fault) => (w, .error (.fault fault))
      | (w, none) => (w, .ok settings)

/-- Resolves a reference written at a node. An alias that leads to the name is logged, and a fault
that ends the logging ends the resolution. -/
def nameAt (w : World) (i : Nat) (reference : Value) (time : String) :
    List Log.Delivery × Except Fault Text.Points :=
  match w.session.forest.nameAt i reference with
  | .error fault => ([], .error fault)
  | .ok ⟨name, none⟩ => ([], .ok name)
  | .ok ⟨name, some use⟩ =>
      let emission := w.log.logAlias use.reference use.used use.resolved time
      (emission.deliveries, match emission.fault with
        | some fault => .error fault
        | none => .ok name)

end World

end FactScope
