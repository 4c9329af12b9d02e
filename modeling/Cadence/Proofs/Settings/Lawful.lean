import Cadence.Proofs.Settings.Leaves

/-!
# What is asked of a loader

A loader is known by the leaves that are seen in what it gathers.  It is lawful for a file and an
environment if these are laid over settings leaf by leaf, the later one first, if variables are found
by their names, in any case, unless they are empty, and if each leaf that settings use is converted
by itself.
-/

set_option autoImplicit false

namespace Cadence

open Settings (Setting)

def Naming.leaf? (naming : Naming) (environment : List (String × String)) (s : Setting) :
    Option Tree :=
  ((naming.entries environment).filterMap fun entry =>
    if entry.1 = s.name then some entry.2 else none).getLast?

namespace Settings.Loader

/-- What is seen of what a loader gathers: the leaves of settings, and the number of items that the
buffer has if it is written as a list. -/
structure View (loader : Loader) where
  leaf? : loader.Gathered → Setting → Option Tree
  items : loader.Gathered → Nat

section

variable (loader : Loader)

def Idle (source : loader.Source) : Prop :=
  ∀ lower, loader.gather (lower ++ [source]) = loader.gather lower

def Gathers (base : Settings) (file : Option String) (environment : List (String × String))
    (gathered : loader.Gathered) : Prop :=
  ∃ source, loader.ofSettings base = .ok source ∧
    loader.gather (source :: loader.layers file environment) = .ok gathered

variable {loader} (view : loader.View)

def View.own? (source : loader.Source) (s : Setting) : Option Tree :=
  (loader.gather [source]).toOption.bind fun gathered => view.leaf? gathered s

/-- What is relied upon when a file and an environment are loaded. -/
structure View.Lawful (file : Option String) (environment : List (String × String)) : Prop where
  /-- Settings are written as their leaves. -/
  written {base : Settings} (fits : base.Fits) :
    ∃ source gathered, loader.ofSettings base = .ok source ∧
      loader.gather [source] = .ok gathered ∧
      view.leaf? gathered = base.leaf? ∧ view.items gathered = 0
  /-- A leaf is that of the source laid last, or else it was there before. -/
  merged {upper : loader.Source} (layer : upper ∈ loader.layers file environment)
      {lower : List loader.Source} {gathered : loader.Gathered}
      (done : loader.gather (lower ++ [upper]) = .ok gathered) :
    ∃ below, loader.gather lower = .ok below ∧ ∀ s leaf, view.leaf? gathered s = some leaf →
      (view.own? upper s).or (view.leaf? below s) = some leaf
  /-- Over other settings, the layers lead to the same leaves where they have any. -/
  exchanged {base base' : Settings} (fits : base.Fits) (fits' : base'.Fits)
      {gathered : loader.Gathered} (gathers : loader.Gathers base file environment gathered) :
    ∃ gathered', loader.Gathers base' file environment gathered' ∧
      view.items gathered' = view.items gathered ∧
      ∀ s, view.leaf? gathered' s = view.leaf? gathered s ∨
        view.leaf? gathered s = base.leaf? s ∧ view.leaf? gathered' s = base'.leaf? s
  /-- Variables are found by their names in any case. -/
  named (s : Setting) :
    view.own? (loader.ofEnvironment naming environment) s = naming.leaf? environment s
  /-- Empty variables are ignored, as are all that are no settings. -/
  silent (none : naming.entries environment = []) :
    loader.Idle (loader.ofEnvironment naming environment)
  /-- Settings are read if the leaves that they use are those of the settings.  A buffer that is
  written as a list has no other items. -/
  converted {base settings : Settings} {gathered : loader.Gathered}
      (gathers : loader.Gathers base file environment gathered) :
    loader.read gathered = .ok settings ↔
      settings.Reads (view.leaf? gathered) ∧
        (view.items gathered = 0 ∨ view.items gathered = settings.width)

end

end Settings.Loader

end Cadence
