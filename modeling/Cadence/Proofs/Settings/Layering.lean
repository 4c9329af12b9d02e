import Cadence.Proofs.Settings.Reader

/-!
# Layers of settings

Settings are loaded from three layers: the settings before, a file and the environment.  Each leaf
that is read is that of the highest layer that has one, whatever the layers say about the others, and
leaves that the policy does not use are not read at all.

Loading the same layers over the result leads to the result again.
-/

set_option autoImplicit false

namespace Cadence.Settings.Loader

variable {loader : Loader} {view : loader.View} {base settings : Settings} {file : Option String}
  {environment : List (String × String)} {gathered : loader.Gathered}

/-- The leaf of a setting in the highest layer that has one: a variable, the file, or the settings
before. -/
def View.layered? (view : loader.View) (base : Settings) (file : Option String)
    (environment : List (String × String)) (s : Setting) : Option Tree :=
  (naming.leaf? environment s).or
    ((file.bind fun name => view.own? (loader.ofFile name) s).or (base.leaf? s))

theorem load_eq_ok : loader.load base file environment = .ok settings ↔
    ∃ gathered, loader.Gathers base file environment gathered ∧
      loader.read gathered = .ok settings := by
  constructor
  · intro loaded
    obtain ⟨source, written, loaded⟩ := Tree.ok_of_bind loaded
    obtain ⟨gathered, done, read⟩ := Tree.ok_of_bind loaded
    exact ⟨gathered, ⟨source, written, done⟩, read⟩
  · rintro ⟨gathered, ⟨source, written, done⟩, read⟩
    exact (Tree.bind_of_ok written).trans ((Tree.bind_of_ok done).trans read)

namespace View.Lawful

variable (lawful : view.Lawful file environment)
include lawful

theorem leaf_below {source : loader.Source} (fits : base.Fits)
    (written : loader.ofSettings base = .ok source)
    (done : loader.gather (source :: (file.map loader.ofFile).toList) = .ok gathered) {s : Setting}
    {leaf : Tree} (has : view.leaf? gathered s = some leaf) :
    (file.bind fun name => view.own? (loader.ofFile name) s).or (base.leaf? s) = some leaf := by
  obtain ⟨source', alone, written', single, leaves, -⟩ := lawful.written fits
  obtain rfl := Except.ok.inj (written.symm.trans written')
  cases file with
  | none =>
      obtain rfl := Except.ok.inj (done.symm.trans single)
      rw [← leaves]
      exact has
  | some name =>
      have layer : loader.ofFile name ∈ loader.layers (some name) environment := List.mem_cons_self
      have done : loader.gather ([source] ++ [loader.ofFile name]) = .ok gathered := done
      obtain ⟨below, lower, either⟩ := lawful.merged layer done
      obtain rfl := Except.ok.inj (lower.symm.trans single)
      rw [← leaves]
      exact either s leaf has

theorem layered_of_gathers (fits : base.Fits) (gathers : loader.Gathers base file environment gathered)
    {s : Setting} {leaf : Tree} (has : view.leaf? gathered s = some leaf) :
    view.layered? base file environment s = some leaf := by
  obtain ⟨source, written, done⟩ := gathers
  have layer : loader.ofEnvironment naming environment ∈ loader.layers file environment :=
    List.mem_append_right _ List.mem_cons_self
  have done : loader.gather ((source :: (file.map loader.ofFile).toList) ++
      [loader.ofEnvironment naming environment]) = .ok gathered := done
  obtain ⟨below, lower, either⟩ := lawful.merged layer done
  have highest := either s leaf has
  rw [lawful.named] at highest
  exact or_of_or highest (lawful.leaf_below fits written lower)

theorem reads_of_load (fits : base.Fits) (loaded : loader.load base file environment = .ok settings) :
    settings.Reads (view.layered? base file environment) := by
  obtain ⟨gathered, gathers, read⟩ := load_eq_ok.mp loaded
  exact ((lawful.converted gathers).mp read).1.mono fun s leaf has =>
    lawful.layered_of_gathers fits gathers has

/-- What leaves are used for does not depend on any others. -/
theorem load_of_leaves (gathers : loader.Gathers base file environment gathered)
    (long : view.items gathered = 0) (reads : settings.Reads (view.leaf? gathered)) :
    loader.load base file environment = .ok settings :=
  load_eq_ok.mpr ⟨gathered, gathers, (lawful.converted gathers).mpr ⟨reads, .inl long⟩⟩

theorem load_again (fits : base.Fits) (loaded : loader.load base file environment = .ok settings)
    (fits' : settings.Fits) : loader.load settings file environment = .ok settings := by
  obtain ⟨gathered, gathers, read⟩ := load_eq_ok.mp loaded
  obtain ⟨reads, items⟩ := (lawful.converted gathers).mp read
  obtain ⟨gathered', gathers', same, either⟩ := lawful.exchanged fits fits' gathers
  refine load_eq_ok.mpr ⟨gathered', gathers', (lawful.converted gathers').mpr ⟨?_, ?_⟩⟩
  · -- A leaf that no layer sets is now that of the result.
    intro s used
    rcases either s with now | ⟨-, now⟩
    · rw [now]
      exact reads s used
    · rw [now]
      exact settings.reads_leaf s used
  · rw [same]
    exact items

theorem load_nothing (fits : base.Fits) (empty : ∀ name ∈ file, loader.Idle (loader.ofFile name))
    (bare : naming.entries environment = []) : loader.load base file environment = .ok base := by
  obtain ⟨source, alone, written, single, leaves, long⟩ := lawful.written fits
  have silent : loader.gather (source :: loader.layers file environment) = .ok alone := by
    have below : loader.gather (source :: (file.map loader.ofFile).toList) = .ok alone := by
      cases file with
      | none => exact single
      | some name => exact (empty name rfl [source]).trans single
    exact (lawful.silent bare _).trans below
  refine lawful.load_of_leaves ⟨source, written, silent⟩ long ?_
  rw [leaves]
  exact base.reads_leaf

end View.Lawful

/-- Each leaf that settings are loaded from is that of the highest layer that has one.  The leaves
that the policy does not use have no influence: whatever else loads, and has the same of the others,
loads as the same settings, and layers do load if they are gathered with them in a buffer that is not
written as a list.  Loading the same layers over the settings leads to them again, if their numbers
can be written, and loading empty layers over settings leads to these. -/
theorem load_layered (loader : Loader) (view : loader.View) (file : Option String)
    (environment : List (String × String)) (lawful : view.Lawful file environment)
    (base : Settings) (fits : base.Fits) :
    (∀ settings, loader.load base file environment = .ok settings →
      settings.Reads (view.layered? base file environment) ∧
      (∀ (base' : Settings) file' environment' settings', base'.Fits →
        view.Lawful file' environment' → loader.load base' file' environment' = .ok settings' →
        (∀ s ∈ settings.uses,
          view.layered? base' file' environment' s = view.layered? base file environment s) →
        settings' = settings) ∧
      (∀ base' file' environment' gathered, view.Lawful file' environment' →
        loader.Gathers base' file' environment' gathered → view.items gathered = 0 →
        (∀ s ∈ settings.uses,
          view.leaf? gathered s = view.layered? base file environment s) →
        loader.load base' file' environment' = .ok settings) ∧
      (settings.Fits → loader.load settings file environment = .ok settings)) ∧
    ((∀ name ∈ file, loader.Idle (loader.ofFile name)) → naming.entries environment = [] →
      loader.load base file environment = .ok base) := by
  refine ⟨fun settings loaded => ?_, lawful.load_nothing fits⟩
  have reads := lawful.reads_of_load fits loaded
  refine ⟨reads, ?determined, ?undisturbed, lawful.load_again fits loaded⟩
  case determined =>
    intro base' file' environment' settings' fits' lawful' loaded' same
    exact reads.unique (lawful'.reads_of_load fits' loaded') same
  case undisturbed =>
    intro base' file' environment' gathered lawful' gathers long same
    refine lawful'.load_of_leaves gathers long fun s used => ?_
    rw [same s used]
    exact reads s used

/-- The cap is that of the base, the policy that of the file, and the length of its window that of a
variable; the capacity of the base and the length in the file play no part. -/
theorem load_layered_three_layers :
    let directory : Directory :=
      [("a.toml", "[buffer]\npolicy = \"time_window\"\nwindow_ms = 1000\n"), ("empty.toml", "")]
    let environment := [("PVFLOW__BUFFER__WINDOW_MS", "20"), ("PVFLOW__MAX_RATE_MS", "")]
    let loader := reader directory
    let base : Settings := ⟨some 50, .queue 4⟩
    let settings : Settings := ⟨some 50, .timeWindow 20⟩
    loader.load base (some "a.toml") environment = .ok settings ∧
      (readerView directory).layered? base (some "a.toml") environment .policy =
        some (.text "time_window") ∧
      loader.load settings (some "a.toml") environment = .ok settings ∧
      loader.load settings (some "empty.toml") [] = .ok settings := by
  intro directory environment loader base settings
  have loaded : loader.load base (some "a.toml") environment = .ok settings :=
    Tree.ok_of_toOption (by decide +kernel)
  have fits : base.Fits := ⟨by rintro _ ⟨⟩; decide, by rintro _ _ ⟨⟩; decide⟩
  have fits' : settings.Fits := ⟨by rintro _ ⟨⟩; decide, by rintro _ _ ⟨⟩; decide⟩
  have lawful : (readerView directory).Lawful (some "a.toml") environment := by
    refine lawful_reader ?_ ?_
    · rintro name ⟨⟩ layer parsed entry mem
      have keys : (((directory.text? "a.toml").bind Document.parse).map fun layer =>
          layer.map (·.1)) = some ["buffer"] := by decide +kernel
      rw [show _ = some layer from parsed, Option.map_some] at keys
      have key : entry.1 ∈ ["buffer"] := Option.some.inj keys ▸ List.mem_map_of_mem mem
      rw [List.mem_singleton.mp key, path_buffer]
      exact Path.keyed_map ["buffer"]
    · have keys : (naming.entries environment).map (·.1) = [Setting.name .windowMs] := by
        decide +kernel
      intro entry mem
      have key : entry.1 ∈ [Setting.name .windowMs] := keys ▸ List.mem_map_of_mem mem
      exact .inl ⟨.windowMs, List.mem_singleton.mp key⟩
  have empty : (directory.text? "empty.toml").bind Document.parse = some [] := by
    have none : (((directory.text? "empty.toml").bind Document.parse).map List.isEmpty) =
        some true := by decide +kernel
    obtain ⟨layer, parsed, is⟩ := Option.map_eq_some_iff.mp none
    rw [parsed, List.isEmpty_iff.mp is]
  have lawful' : (readerView directory).Lawful (some "empty.toml") [] := by
    refine lawful_reader ?_ nofun
    rintro name ⟨⟩ layer parsed
    obtain rfl := Option.some.inj (empty.symm.trans parsed)
    exact nofun
  obtain ⟨reads, -, -, again⟩ := (load_layered _ _ _ _ lawful base fits).1 settings loaded
  have nothing := (load_layered _ _ _ _ lawful' settings fits').2 ?_ rfl
  · exact ⟨loaded, reads.policy, again fits', nothing⟩
  · rintro name ⟨⟩ lower
    have idle : loader.ofFile "empty.toml" = some [] := empty
    rw [idle]
    exact gather_nothing lower

end Cadence.Settings.Loader
