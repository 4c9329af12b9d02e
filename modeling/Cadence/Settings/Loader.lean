import Cadence.Failure
import Cadence.Settings.Basic

/-!
# Loading settings

Settings are loaded in layers: settings to begin with, a file if one is named, and the variables of
the environment.  How the layers are read, laid over each other and turned into settings is up to a
loader, which is given them in this order.  Nothing is validated on loading.
-/

set_option autoImplicit false

namespace Cadence

/-- Which variables of the environment are settings, and what becomes of their texts. -/
structure Naming where
  -- what begins the names, before a first separator
  start : String
  -- what joins the parts of a name
  separator : String
  ignoresEmpty : Bool
  -- a text that is a truth value or a number stands for it
  parses : Bool

namespace Settings

/-- The names of variables that hold settings. -/
def naming : Naming := ⟨"PVFLOW", "__", true, true⟩

/-- What loads settings. -/
structure Loader where
  Source : Type
  Gathered : Type
  ofSettings : Settings → Except Interruption Source
  ofFile (name : String) : Source
  ofEnvironment (naming : Naming) (environment : List (String × String)) : Source
  -- each source is laid over the ones before it
  gather : List Source → Except Interruption Gathered
  read : Gathered → Except Interruption Settings

namespace Loader

variable (loader : Loader)

/-- The layers above the settings that loading begins with. -/
def layers (file : Option String) (environment : List (String × String)) : List loader.Source :=
  (file.map loader.ofFile).toList ++ [loader.ofEnvironment naming environment]

/-- Loads a file, if one is named, and the environment over given settings. -/
def load (base : Settings) (file : Option String) (environment : List (String × String)) :
    Except Interruption Settings := do
  let source ← loader.ofSettings base
  let gathered ← loader.gather (source :: loader.layers file environment)
  loader.read gathered

end Loader

end Settings

end Cadence
