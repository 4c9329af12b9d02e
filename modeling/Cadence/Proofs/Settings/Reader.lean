import Cadence.Proofs.Lists
import Cadence.Proofs.Settings.Lawful
import Cadence.Proofs.Settings.Reading

/-!
# The reader of a directory

The loader that reads the files of a directory is lawful, if no key counts a position in a list and
no variable sets what is above or below a setting.
-/

set_option autoImplicit false

namespace Cadence

open Settings (Setting)

namespace Settings

/-! ## The layer of settings -/

def policyFields (policy : Policy) : List (String × Tree) :=
  ("policy", .text policy.tag) ::
    (policy.size?.map fun size => (size.1.key, .integer size.2.toNat)).toList

def written (settings : Settings) : List (String × Tree) :=
  [("max_rate_ms", settings.maxRateMs.elim .absent fun millis => .integer millis.toNat),
    ("buffer", .table (policyFields settings.buffer))]

theorem numeral_of_fits {n : UInt64} (fits : (n.toNat : Int) ≤ wordMax) :
    numeral? n = some (.integer n.toNat) := if_pos fits

theorem toEntries_of_fits {settings : Settings} (fits : settings.Fits) :
    settings.toEntries? = some settings.written := by
  obtain ⟨rate, buffer⟩ := settings
  obtain ⟨rateFits, sizeFits⟩ := fits
  have size : ∀ s n, buffer.size? = some (s, n) → numeral? n = some (.integer n.toNat) :=
    fun s n has => numeral_of_fits (sizeFits s n has)
  cases rate with
  | none =>
      cases buffer with
      | latest => rfl
      | queue capacity =>
          simp only [toEntries?, size _ _ rfl]
          rfl
      | timeWindow windowMs =>
          simp only [toEntries?, size _ _ rfl]
          rfl
  | some millis =>
      have rate := numeral_of_fits (rateFits millis rfl)
      cases buffer with
      | latest =>
          simp only [toEntries?, rate]
          rfl
      | queue capacity =>
          simp only [toEntries?, rate, size _ _ rfl]
          rfl
      | timeWindow windowMs =>
          simp only [toEntries?, rate, size _ _ rfl]
          rfl

theorem fits_of_toEntries {settings : Settings} {entries : List (String × Tree)}
    (has : settings.toEntries? = some entries) : settings.Fits := by
  obtain ⟨rate, buffer⟩ := settings
  constructor
  · rintro millis rfl
    refine Decidable.byContradiction fun beyond => ?_
    have none : numeral? millis = none := if_neg beyond
    simp [toEntries?, none] at has
  · intro s n size
    refine Decidable.byContradiction fun beyond => ?_
    have none : numeral? n = none := if_neg beyond
    cases buffer <;> cases size <;> cases rate <;> simp [toEntries?, none] at has

theorem path_name (s : Setting) : Path.ofKey s.name = s.place.map .key := by
  cases s <;> rfl

theorem path_buffer : Path.ofKey "buffer" = [.key "buffer"] := rfl

theorem fold_of_lower {key : String} (lower : key.toList.map Char.toLower = key.toList) :
    Tree.fold key = key := by
  apply String.ext
  rw [Tree.fold, String.toList_map, lower]

theorem fold_place (s : Setting) : ∀ key ∈ s.place, Tree.fold key = key := by
  intro key mem
  apply fold_of_lower
  revert key
  cases s <;> decide

theorem fold_key (s : Setting) : Tree.fold s.key = s.key := by
  apply fold_place s
  cases s <;> decide

theorem merge_fields (policy : Policy) :
    (Tree.table []).merge (.table (policyFields policy)) = .table (policyFields policy) := by
  have name : Tree.fold "policy" = "policy" := fold_key .policy
  cases size : policy.size? with
  | none =>
      simp [policyFields, size, Tree.merge, Tree.mergeEntries, Tree.assign, name, Tree.entries]
  | some field =>
      have other : "policy" ≠ field.1.key := by
        rcases Policy.field_of_size size with is | is <;> rw [is] <;> decide
      simp [policyFields, size, Tree.merge, Tree.mergeEntries, Tree.assign, name, fold_key,
        Tree.entries, other]

theorem put_written (settings : Settings) :
    (Tree.table []).putAll settings.written = .ok (.table settings.written) := by
  have rate : Path.ofKey "max_rate_ms" = [.key "max_rate_ms"] := path_name .rate
  have rateName : Tree.fold "max_rate_ms" = "max_rate_ms" := fold_key .rate
  have bufferName : Tree.fold "buffer" = "buffer" := fold_place .policy "buffer" (by decide)
  have cap : ∀ tree, Tree.merge tree (settings.maxRateMs.elim .absent fun millis =>
      .integer millis.toNat) = settings.maxRateMs.elim .absent fun millis =>
        .integer millis.toNat := by
    intro tree
    cases settings.maxRateMs <;> exact Tree.merge_of_value rfl tree
  simp [written, Tree.putAll, rate, path_buffer, Tree.put, rateName, bufferName, Except.map,
    Except.bind, cap, Tree.find?, Tree.assign, merge_fields, Tree.entries]

theorem leaf_written (settings : Settings) : (Tree.table settings.written).leaf? = settings.leaf? := by
  funext s
  obtain ⟨cap, policy⟩ := settings
  cases s <;> cases cap <;> cases policy <;> rfl

theorem plain_written (settings : Settings) : Tree.Plain (.table settings.written) := by
  apply Tree.plain_table
  intro entry mem
  rcases List.mem_cons.mp mem with rfl | mem
  · cases settings.maxRateMs with
    | none => exact Tree.plain_of_value rfl
    | some millis => exact Tree.plain_of_value rfl
  · obtain rfl := List.mem_singleton.mp mem
    apply Tree.plain_table
    intro field mem
    rcases List.mem_cons.mp mem with rfl | mem
    · exact Tree.plain_of_value rfl
    · obtain ⟨size, -, rfl⟩ := Option.map_eq_some_iff.mp (Option.mem_toList.mp mem)
      exact Tree.plain_of_value rfl

/-! ## Laying layers -/

variable {tree new : Tree}

theorem lay_eq_ok {upper : Layer} :
    lay tree upper = .ok new ↔ ∃ layer, upper = some layer ∧ tree.putAll layer = .ok new := by
  constructor
  · intro laid
    cases upper with
    | none => cases laid
    | some layer =>
        rw [lay] at laid
        cases put : tree.putAll layer with
        | error panic =>
            rw [put] at laid
            cases laid
        | ok new =>
            rw [put] at laid
            obtain rfl := Except.ok.inj laid
            exact ⟨layer, rfl, put⟩
  · rintro ⟨layer, rfl, put⟩
    rw [lay, put]
    rfl

theorem gather_concat {directory : Directory} {lower : List Layer} {upper : Layer} :
    (reader directory).gather (lower ++ [upper]) = .ok new ↔
      ∃ below, (reader directory).gather lower = .ok below ∧ lay below upper = .ok new := by
  simp only [reader, List.foldlM_append, List.foldlM_cons, List.foldlM_nil, bind_pure]
  exact ⟨Tree.ok_of_bind, fun ⟨below, first, last⟩ => (Tree.bind_of_ok first).trans last⟩

theorem gather_singleton {directory : Directory} (layer : List (String × Tree)) :
    (reader directory).gather [some layer] = lay (.table []) (some layer) := by
  simp only [reader, List.foldlM_cons, List.foldlM_nil, bind_pure]

/-- A layer without values makes no difference. -/
theorem gather_nothing {directory : Directory} (lower : List Layer) :
    (reader directory).gather (lower ++ [some []]) = (reader directory).gather lower := by
  have nothing : ∀ tree, lay tree (some []) = pure tree := fun tree => rfl
  simp only [reader, List.foldlM_append, List.foldlM_cons, List.foldlM_nil, nothing, bind_pure]

/-- What the layers are laid over is a tree of the settings. -/
theorem gathers_iff {directory : Directory} {base : Settings} {file : Option String}
    {environment : List (String × String)} :
    (reader directory).Gathers base file environment new ↔
      base.Fits ∧ ((reader directory).layers file environment).foldlM lay (.table base.written) =
        .ok new := by
  have below : lay (.table []) (some base.written) = .ok (.table base.written) :=
    lay_eq_ok.mpr ⟨_, rfl, put_written base⟩
  have start : (reader directory).gather
        (some base.written :: (reader directory).layers file environment) =
      ((reader directory).layers file environment).foldlM lay (.table base.written) := by
    simp only [reader, List.foldlM_cons, below]
    rfl
  constructor
  · rintro ⟨source, written, done⟩
    cases has : base.toEntries? with
    | none =>
        simp only [reader, has] at written
        cases written
    | some entries =>
        have fits := fits_of_toEntries has
        obtain rfl := Option.some.inj (has.symm.trans (toEntries_of_fits fits))
        simp only [reader, has] at written
        obtain rfl := Except.ok.inj written
        exact ⟨fits, start.symm.trans done⟩
  · rintro ⟨fits, done⟩
    exact ⟨some base.written, by simp only [reader, toEntries_of_fits fits], start.trans done⟩

theorem paired_gather {o o' t t' : Tree} {uppers : List Layer}
    (paired : Tree.Paired True o o' t t') (done : uppers.foldlM lay t = .ok new) :
    ∃ new', uppers.foldlM lay t' = .ok new' ∧ Tree.Paired True o o' new new' := by
  induction uppers generalizing t t' with
  | nil =>
      obtain rfl := Except.ok.inj done
      exact ⟨t', rfl, paired⟩
  | cons upper rest ih =>
      obtain ⟨next, first, later⟩ := Tree.ok_of_bind done
      obtain ⟨layer, rfl, put⟩ := lay_eq_ok.mp first
      obtain ⟨next', put', paired⟩ := paired.putAll (.inl trivial) put
      obtain ⟨new', done', paired⟩ := ih paired later
      refine ⟨new', ?_, paired⟩
      rw [List.foldlM_cons, lay_eq_ok.mpr ⟨layer, rfl, put'⟩]
      exact done'

theorem find?_gather {key : String} {uppers : List Layer}
    (there : (Tree.find? tree.entries key).isSome = true)
    (done : uppers.foldlM lay tree = .ok new) : (Tree.find? new.entries key).isSome = true := by
  induction uppers generalizing tree with
  | nil =>
      obtain rfl := Except.ok.inj done
      exact there
  | cons upper rest ih =>
      obtain ⟨next, first, later⟩ := Tree.ok_of_bind done
      obtain ⟨layer, rfl, put⟩ := lay_eq_ok.mp first
      exact ih (Tree.find?_putAll there put) later

end Settings

namespace Tree

/-- A leaf that other trees show is the same in both, or each has that of its own. -/
theorem Paired.leaf_either {o o' t t' : Tree} (paired : Paired True o o' t t') (plain : Plain o)
    (plain' : Plain o') (s : Setting) :
    t'.leaf? s = t.leaf? s ∨ t.leaf? s = o.leaf? s ∧ t'.leaf? s = o'.leaf? s := by
  have long : o.Long := plain [.entry "buffer"]
  have long' : o'.Long := plain' [.entry "buffer"]
  have buffer := paired.child (.entry "buffer")
  by_cases table : t.Long
  · have table' : t'.Long := buffer.items_nil table
    rw [leaf_of_long table, leaf_of_long table', leaf_of_long long, leaf_of_long long']
    exact (paired (s.place.map .entry)).2.imp_left Eq.symm
  · by_cases rate : s = .rate
    · rw [leaf?, leaf?, leaf?, leaf?, if_pos rate, if_pos rate, if_pos rate, if_pos rate]
      exact (paired.child (.entry s.key)).root.2.imp_left Eq.symm
    · -- A list shows what was put into it and nothing else.
      rw [leaf?, leaf?, if_neg rate, if_neg rate]
      obtain ⟨items, is⟩ := list_of_items table
      obtain ⟨items', is'⟩ := list_of_items fun none =>
        table (List.length_eq_zero_iff.mp (buffer.length.trans (List.length_eq_zero_iff.mpr none)))
      have item := (buffer.child (.item s.index)).root.2
      rw [is, is'] at item ⊢
      rw [field_of_list, field_of_list]
      refine .inl ?_
      rcases item with same | ⟨before, before'⟩
      · exact same.symm
      · exact (before'.trans (item_of_plain long' _)).trans (before.trans (item_of_plain long _)).symm

/-! ## The environment -/

/-- A variable that is named like a setting, or leads elsewhere than to any. -/
def Apart (key : String) : Prop :=
  (∃ s : Setting, key = s.name) ∨
    (Path.ofKey key).Keyed ∧ ∀ s : Setting, (Path.ofKey key).parts s.place = true

theorem Apart.keyed {key : String} (apart : Apart key) : (Path.ofKey key).Keyed := by
  rcases apart with ⟨s, rfl⟩ | ⟨keyed, -⟩
  · rw [Settings.path_name]
    exact Path.keyed_map s.place
  · exact keyed

theorem parts_of_ne {s other : Setting} (ne : s ≠ other) :
    (Path.ofKey s.name).parts other.place = true := by
  have folds := Settings.fold_place s
  rw [Settings.path_name]
  cases s <;> cases other <;>
    first
    | exact absurd rfl ne
    | simp_all [Setting.place, Setting.key, Path.parts]

theorem Apart.parts {key : String} (apart : Apart key) {s : Setting} (ne : key ≠ s.name) :
    (Path.ofKey key).parts s.place = true := by
  rcases apart with ⟨other, rfl⟩ | ⟨-, parts⟩
  · exact parts_of_ne fun same => ne (congrArg Setting.name same)
  · exact parts s

section

variable {layer : List (String × Tree)} {tree new : Tree}

/-- Values that have no influence on each other are put where their keys lead. -/
theorem ok_putAll (apart : ∀ entry ∈ layer, Apart entry.1)
    (bare : ∀ entry ∈ layer, entry.2.value? = some entry.2) (plain : Plain tree) :
    ∃ new, tree.putAll layer = .ok new ∧ Plain new ∧ ∀ s : Setting, new.valueAt s.place =
      (layer.filterMap fun entry =>
        if entry.1 = s.name then some entry.2 else none).getLast?.or (tree.valueAt s.place) := by
  induction layer generalizing tree with
  | nil => exact ⟨tree, rfl, plain, fun s => rfl⟩
  | cons entry rest ih =>
      obtain ⟨key, value⟩ := entry
      have here : Apart key := apart _ List.mem_cons_self
      have leaf : value.value? = some value := bare _ List.mem_cons_self
      obtain ⟨next, first⟩ := ok_put here.keyed value tree
      obtain ⟨new, done, plain', values⟩ :=
        ih (fun entry mem => apart entry (List.mem_cons_of_mem _ mem))
          (fun entry mem => bare entry (List.mem_cons_of_mem _ mem))
          (plain_put leaf here.keyed plain first)
      refine ⟨new, by rw [putAll, first]; exact done, plain', fun s => ?_⟩
      rw [values, getLast?_filterMap_cons, Option.or_assoc]
      congr 1
      by_cases is : key = s.name
      · rw [if_pos is, Option.some_or]
        rw [is, Settings.path_name] at first
        exact valueAt_put leaf (Settings.fold_place s) first
      · rw [if_neg is, Option.none_or]
        exact valueAt_put_parts (here.parts is) first

end

end Tree

theorem Naming.value_parsed (text : String) :
    (parsed text).value? = some (parsed text) := by
  have number : ((((Decimal.float? text.toList).map Tree.real).getD (.text text)).value?) =
      some (((Decimal.float? text.toList).map Tree.real).getD (.text text)) := by
    cases Decimal.float? text.toList <;> rfl
  unfold parsed
  dsimp only
  split
  · rfl
  split
  · rfl
  split
  · split
    · rfl
    · exact number
  · exact number

theorem Naming.value_leaf (naming : Naming) (text : String) :
    (naming.leaf text).value? = some (naming.leaf text) := by
  rw [leaf]
  split
  · exact value_parsed text
  · rfl

theorem Naming.value_of_mem {naming : Naming} {environment : List (String × String)}
    {entry : String × Tree} (mem : entry ∈ naming.entries environment) :
    entry.2.value? = some entry.2 := by
  obtain ⟨⟨name, text⟩, -, is⟩ := List.mem_filterMap.mp mem
  rw [item?] at is
  split at is
  · cases is
  · obtain ⟨key, -, rfl⟩ := Option.map_eq_some_iff.mp is
    exact naming.value_leaf text

namespace Settings

/-! ## Laws -/

def readerView (directory : Directory) : (reader directory).View :=
  ⟨Tree.leaf?, fun tree => (tree.child (.entry "buffer")).items.length⟩

variable {directory : Directory} {file : Option String} {environment : List (String × String)}

theorem own_of_layer {layer : List (String × Tree)} {alone : Tree}
    (done : (Tree.table []).putAll layer = .ok alone) :
    (readerView directory).own? (some layer) = alone.leaf? := by
  funext s
  have gathered : (reader directory).gather [some layer] = .ok alone :=
    (gather_singleton layer).trans (lay_eq_ok.mpr ⟨layer, rfl, done⟩)
  change (((reader directory).gather [some layer]).toOption.bind fun tree => tree.leaf? s) = _
  rw [gathered]
  rfl

/-- A layer whose keys count no positions is laid leaf by leaf over any tree. -/
theorem merged_of_keyed {upper : Layer} {lower : List Layer} {new : Tree}
    (keyed : ∀ layer ∈ upper, Tree.Keyed layer)
    (done : (reader directory).gather (lower ++ [upper]) = .ok new) :
    ∃ below, (reader directory).gather lower = .ok below ∧ ∀ s leaf, new.leaf? s = some leaf →
      ((readerView directory).own? upper s).or (below.leaf? s) = some leaf := by
  obtain ⟨below, lower, last⟩ := gather_concat.mp done
  obtain ⟨layer, rfl, put⟩ := lay_eq_ok.mp last
  refine ⟨below, lower, fun s leaf has => ?_⟩
  have start : Tree.Paired False below (.table []) below (.table []) :=
    .of_alike (False.elim ·)
  obtain ⟨alone, own, paired⟩ := start.putAll (.inr (keyed layer rfl)) put
  rw [own_of_layer own]
  exact paired.leaf_or Tree.valueless_empty has

/-- The reader of a directory is lawful unless keys count positions or variables set what is above or
below a setting. -/
theorem lawful_reader
    (keyed : ∀ name ∈ file, ∀ layer ∈ (directory.text? name).bind Document.parse,
      Tree.Keyed layer)
    (apart : ∀ entry ∈ naming.entries environment, Tree.Apart entry.1) :
    (readerView directory).Lawful file environment := by
  obtain ⟨alone, done, plain, values⟩ :=
    Tree.ok_putAll apart (fun _ => Naming.value_of_mem) Tree.plain_empty
  refine ⟨?written, ?merged, ?exchanged, ?named, ?silent, ?converted⟩
  case written =>
    intro base fits
    refine ⟨some base.written, .table base.written, ?_, ?_, ?_, ?_⟩
    · simp only [reader, toEntries_of_fits fits]
    · exact (gather_singleton _).trans (lay_eq_ok.mpr ⟨_, rfl, put_written base⟩)
    · exact leaf_written base
    · exact List.length_eq_zero_iff.mpr (plain_written base [.entry "buffer"])
  case merged =>
    intro upper layer lower new done
    refine merged_of_keyed ?_ done
    rcases List.mem_append.mp layer with named | environment
    · obtain ⟨name, is, rfl⟩ := Option.map_eq_some_iff.mp (Option.mem_toList.mp named)
      exact keyed name is
    · obtain rfl := List.mem_singleton.mp environment
      rintro layer ⟨⟩ entry mem
      exact (apart entry mem).keyed
  case exchanged =>
    intro base base' fits fits' new gathers
    have plain := plain_written base
    have plain' := plain_written base'
    have start := Tree.Paired.of_alike fun _ : True => Tree.alike_of_plain plain plain'
    obtain ⟨new', done, paired⟩ := paired_gather start (gathers_iff.mp gathers).2
    refine ⟨new', gathers_iff.mpr ⟨fits', done⟩, (paired.child (.entry "buffer")).length.symm, ?_⟩
    rw [← leaf_written, ← leaf_written]
    exact paired.leaf_either plain plain'
  case named =>
    intro s
    have own : (readerView directory).own? (some (naming.entries environment)) = alone.leaf? :=
      own_of_layer done
    have long : alone.Long := plain [.entry "buffer"]
    exact (congrFun own s).trans ((Tree.leaf_of_long long s).trans
      ((values s).trans (by rw [Tree.valueAt_empty, Option.or_none]; rfl)))
  case silent =>
    intro none lower
    have bare : (reader directory).ofEnvironment naming environment = some [] := by
      simp only [reader, none]
    rw [bare]
    exact gather_nothing lower
  case converted =>
    intro base settings new gathers
    have done := (gathers_iff.mp gathers).2
    have read : (reader directory).read new = .ok settings ↔ ofTree? new = some settings := by
      simp only [reader]
      cases ofTree? new with
      | none => exact ⟨nofun, nofun⟩
      | some other => exact ⟨fun same => congrArg some (Except.ok.inj same), fun same =>
          congrArg Except.ok (Option.some.inj same)⟩
    rw [read]
    exact ofTree_iff (find?_gather rfl done) (find?_gather rfl done)

end Settings

end Cadence
