/-
The configuration of a running program: its surroundings and the settings it has loaded. Settings
are loaded once and kept until they are forgotten; a failure is not kept. Each loading gets a
number, by which two uses of the same settings are told from two loadings with equal results.
-/
import RecordStore.Settings.App

namespace RecordStore

/-- Loaded settings and the number of their loading. -/
structure Loaded where
  number : Nat
  settings : AppSettings
  deriving Repr

/-- Surroundings and loaded settings. -/
structure Configuration where
  surroundings : Surroundings := {}
  loaded : Option Loaded := none
  /-- The loadings so far. -/
  loadings : Nat := 0
  deriving Repr

/-- What a client is configured with: nothing, so that it uses the loaded settings, the path
of its database, or arguments for its settings. -/
inductive ClientConfig where
  | shared
  | path (p : String)
  | arguments (as : Arguments)
  deriving Repr

namespace Configuration

/-- Sets a variable of the environment. -/
def setVariable (c : Configuration) (name value : String) :
    Except UnsettableVariable Configuration :=
  (c.surroundings.env.set name value).map fun env => { c with surroundings.env := env }

/-- Removes a variable of the environment. -/
def unsetVariable (c : Configuration) (name : String) : Configuration :=
  { c with surroundings.env := c.surroundings.env.unset name }

/-- Sets several variables, in order. -/
def setVariables (c : Configuration) (vs : Variables) : Except UnsettableVariable Configuration :=
  vs.foldlM (fun c v => c.setVariable v.1 v.2) c

/-- Writes the `.env` file, or removes it. -/
def writeFile (c : Configuration) (text : Option String) : Configuration :=
  { c with surroundings.file := text }

/-- Forgets the loaded settings. -/
def forget (c : Configuration) : Configuration := { c with loaded := none }

/-- The settings of the program: those that are loaded, else they are loaded now. -/
def settings (c : Configuration) : Configuration × Except SettingsFailure Loaded :=
  match c.loaded with
  | some l => (c, .ok l)
  | none =>
    match AppSettings.load c.surroundings with
    | .error e => (c, .error e)
    | .ok a =>
      let l : Loaded := ⟨c.loadings + 1, a⟩
      ({ c with loaded := some l, loadings := c.loadings + 1 }, .ok l)

/-- The database settings of a client with the given configuration. -/
def clientSettings (c : Configuration) :
    ClientConfig → Configuration × Except SettingsFailure DatabaseSettings
  | .shared =>
    let (c, r) := c.settings
    (c, r.map fun l => l.settings.db)
  | .path path => (c, DatabaseSettings.load c.surroundings [(.text "path", .value (.text path))])
  | .arguments as => (c, DatabaseSettings.load c.surroundings as)

end Configuration

end RecordStore
