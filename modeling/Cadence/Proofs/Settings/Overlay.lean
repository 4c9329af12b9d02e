import Cadence.Settings.Path

/-!
# Trees laid over trees

A tree has a value at each of its places, which are reached from the root by keys of tables and
positions in lists.  Whatever is put into two trees is put into the same places of both, if their
lists are equally long: from then on, the trees have the same value at a place, or each has the
value that it had before.

A tree without its values shows what is put into it and nothing else.  The value at a place that
keys alone lead to was put there last.
-/

set_option autoImplicit false

namespace Cadence

namespace Tree

/-! ## Places -/

inductive Slot
  | entry (key : String)
  | item (index : Nat)

/-- A tree that may be missing; a missing one is an empty table. -/
def orEmpty : Option Tree → Tree
  | none => table []
  | some absent => table []
  | some tree => tree

/-- What a list has at a position; a missing item is an empty table, as a missing entry is. -/
def item (items : List Tree) (index : Nat) : Tree := orEmpty items[index]?

def child (tree : Tree) : Slot → Tree
  | .entry key => (find? tree.entries key).getD (table [])
  | .item index => item tree.items index

def reach (tree : Tree) (place : List Slot) : Tree := place.foldl child tree

def value? : Tree → Option Tree
  | table _ => none
  | list _ => none
  | leaf => some leaf

theorem eq_of_value {tree leaf : Tree} (value : tree.value? = some leaf) : tree = leaf := by
  cases tree <;> simp_all [value?]

theorem find?_cons (key : String) (value : Tree) (entries : List (String × Tree))
    (other : String) :
    find? ((key, value) :: entries) other =
      if key = other then some value else find? entries other := by
  by_cases same : key = other <;> simp [find?, same]

theorem find?_replaced (entries : List (String × Tree)) (key : String) (value : Tree)
    (other : String) :
    find? (entries.map fun entry => if entry.1 == key then (key, value) else entry) other =
      if key = other then (find? entries other).map fun _ => value else find? entries other := by
  induction entries with
  | nil => simp [find?]
  | cons entry rest ih =>
      obtain ⟨name, present⟩ := entry
      rw [List.map_cons, find?_cons]
      by_cases named : name = key
      · subst named
        rw [if_pos (beq_self_eq_true name), find?_cons, ih]
        split <;> rfl
      · have kept : (name == key) = false := by simpa using named
        rw [kept, if_neg Bool.false_ne_true, find?_cons, ih]
        by_cases same : key = other
        · subst same
          rw [if_pos rfl, if_pos rfl, if_neg named, if_neg named]
        · rw [if_neg same, if_neg same]

theorem find?_assign (entries : List (String × Tree)) (key : String) (value : Tree)
    (other : String) :
    find? (assign entries key value) other =
      if key = other then some value else find? entries other := by
  unfold assign
  split
  · rename_i present
    rw [find?_replaced]
    split
    · rename_i same
      obtain ⟨entry, mem, named⟩ := List.any_eq_true.mp present
      have found : (find? entries other).isSome = true := by
        rw [find?, Option.isSome_map, List.find?_isSome]
        exact ⟨entry, mem, by simpa [same] using named⟩
      obtain ⟨value, found⟩ := Option.isSome_iff_exists.mp found
      rw [found, Option.map_some]
    · rfl
  · rename_i missing
    have appended : find? (entries ++ [(key, value)]) other =
        (find? entries other).or (find? [(key, value)] other) := by
      simp only [find?, List.find?_append]
      cases entries.find? fun entry => entry.1 == other <;> rfl
    rw [appended, find?_cons]
    split
    · rename_i same
      have none : find? entries other = none := by
        rw [find?, Option.map_eq_none_iff, List.find?_eq_none]
        intro entry mem named
        exact missing (List.any_eq_true.mpr ⟨entry, mem, by simpa [same] using named⟩)
      rw [none, Option.none_or]
    · exact Option.or_none

theorem child_assign (tree : Tree) (key : String) (value : Tree) (other : String) :
    (table (assign tree.entries key value)).child (.entry other) =
      if key = other then value else tree.child (.entry other) := by
  rw [child, entries, find?_assign, child]
  split <;> rfl

theorem item_filledTo (index : Nat) (items : List Tree) (other : Nat) :
    item (filledTo index items) other = item items other := by
  unfold item filledTo
  by_cases inside : other < items.length
  · rw [List.getElem?_append_left inside]
  · have beyond := Nat.le_of_not_lt inside
    rw [List.getElem?_append_right beyond, List.getElem?_eq_none beyond, List.getElem?_replicate]
    split <;> rfl

theorem item_ne_absent (items : List Tree) (index : Nat) :
    (item items index).value? ≠ some absent := by
  rw [item, orEmpty.eq_def]
  split
  · exact nofun
  · exact nofun
  · rename_i present _
    intro value
    exact present (eq_of_value value)

theorem item_of_ne_absent {tree : Tree} (present : tree ≠ absent) : item [tree] 0 = tree := by
  cases tree with
  | absent => exact absurd rfl present
  | _ => rfl

theorem length_filledTo (index : Nat) (items : List Tree) :
    (filledTo index items).length = max (index + 1) items.length := by
  simp only [filledTo, List.length_append, List.length_replicate]
  omega

/-- What is set at a position is there, unless it is absent. -/
theorem item_set (index : Nat) (items : List Tree) (value : Tree) (other : Nat) :
    item ((filledTo index items).set index value) other =
      if index = other then item [value] 0 else item items other := by
  by_cases same : index = other
  · subst same
    have inside : index < (filledTo index items).length := by
      rw [length_filledTo]
      omega
    simp only [item, if_true, List.getElem?_set_self inside]
    rfl
  · rw [if_neg same, ← item_filledTo index items other]
    simp only [item, List.getElem?_set_ne same]

/-! ## Putting values -/

theorem ok_of_map {ε α β : Type} {x : Except ε α} {f : α → β} {b : β} (ok : x.map f = .ok b) :
    ∃ a, x = .ok a ∧ f a = b := by
  cases x with
  | error e => cases ok
  | ok a => exact ⟨a, rfl, Except.ok.inj ok⟩

theorem ok_of_bind {ε α β : Type} {x : Except ε α} {f : α → Except ε β} {b : β}
    (ok : x.bind f = .ok b) : ∃ a, x = .ok a ∧ f a = .ok b := by
  cases x with
  | error e => cases ok
  | ok a => exact ⟨a, rfl, ok⟩

theorem bind_of_ok {ε α β : Type} {x : Except ε α} {f : α → Except ε β} {a : α}
    (is : x = .ok a) : x.bind f = f a := by
  rw [is]
  rfl

theorem ok_of_toOption {ε α : Type} {x : Except ε α} {a : α} (some : x.toOption = some a) :
    x = .ok a := by
  cases x with
  | error e => cases some
  | ok b => exact congrArg Except.ok (Option.some.inj some)

/-- Puts a value below an item of a list; it replaces the item where the path ends there. -/
def putItem (value : Tree) : Path → Tree → Except Panic Tree
  | [], _ => .ok value
  | step :: rest, tree => put value (step :: rest) tree

theorem put_key (value : Tree) (name : String) (rest : Path) (tree : Tree) :
    put value (.key name :: rest) tree =
      (put value rest (tree.child (.entry (fold name)))).map fun new =>
        table (assign tree.entries (fold name) new) := rfl

/-- Below an item that is missing, values are put as they are below an empty table. -/
theorem putItem_item (value : Tree) (path : Path) (index : Nat) (items : List Tree) :
    putItem value path ((filledTo index items).getD index absent) =
      putItem value path (item items index) := by
  have start : putItem value path absent = putItem value path (table []) := by
    cases path with
    | nil => rfl
    | cons step rest =>
        cases step with
        | key name => rfl
        | index position => cases rest <;> rfl
  rw [← item_filledTo index items index, item, orEmpty.eq_def, List.getD_eq_getElem?_getD]
  cases there : (filledTo index items)[index]? with
  | none => exact start
  | some tree =>
      cases tree with
      | absent => exact start
      | _ => rfl

theorem put_index (value : Tree) (position : Int) (rest : Path) (tree : Tree) :
    put value (.index position :: rest) tree =
      (locate tree.items.length position).bind fun index =>
        (putItem value rest (tree.child (.item index))).map fun new =>
          list ((filledTo index tree.items).set index new) := by
  cases rest with
  | nil => cases found : locate tree.items.length position <;> simp [put, found] <;> rfl
  | cons step rest =>
      rw [put]
      · congr 1
        funext index
        exact congrArg (Except.map fun new => list ((filledTo index tree.items).set index new))
          (putItem_item value (step :: rest) index tree.items)
      · exact List.cons_ne_nil step rest

/-! ## Paths of keys -/

end Tree

def Path.Keyed (path : Path) : Prop := ∀ step ∈ path, ∃ name, step = .key name

namespace Path

theorem Keyed.tail {step : PathStep} {path : Path} (keyed : Keyed (step :: path)) : path.Keyed :=
  fun later mem => keyed later (List.mem_cons_of_mem _ mem)

theorem keyed_map (keys : List String) : Keyed (keys.map .key) := by
  intro step mem
  obtain ⟨key, -, rfl⟩ := List.mem_map.mp mem
  exact ⟨key, rfl⟩

theorem not_keyed_index {position : Int} {path : Path} : ¬ Keyed (.index position :: path) := by
  intro keyed
  obtain ⟨name, is⟩ := keyed _ List.mem_cons_self
  cases is

end Path

namespace Tree

def Keyed (layer : List (String × Tree)) : Prop := ∀ entry ∈ layer, (Path.ofKey entry.1).Keyed

/-! ## Pairs of trees -/

/-- Two trees that grew from `o` and `o'` in the same way: they have the same value or each has the
value that it had.  Their lists are equally long, if this matters. -/
def Agree (lists : Prop) (o o' t t' : Tree) : Prop :=
  (lists → t.items.length = t'.items.length) ∧
    (t.value? = t'.value? ∨ t.value? = o.value? ∧ t'.value? = o'.value?)

def Paired (lists : Prop) (o o' t t' : Tree) : Prop :=
  ∀ place, Agree lists (o.reach place) (o'.reach place) (t.reach place) (t'.reach place)

/-- The values that two lists of entries have for each key are paired. -/
def PairedEntries (lists : Prop) (o o' : Tree) (entries entries' : List (String × Tree)) : Prop :=
  ∀ key, Paired lists (o.child (.entry key)) (o'.child (.entry key))
    ((table entries).child (.entry key)) ((table entries').child (.entry key))

def Alike (t t' : Tree) : Prop :=
  ∀ place, (t.reach place).items.length = (t'.reach place).items.length

namespace Paired

variable {lists : Prop} {o o' t t' : Tree}

theorem same (o o' t : Tree) : Paired lists o o' t t := fun _ => ⟨fun _ => rfl, .inl rfl⟩

theorem of_alike (alike : lists → Alike o o') : Paired lists o o' o o' := fun place =>
  ⟨fun matter => alike matter place, .inr ⟨rfl, rfl⟩⟩

theorem root (paired : Paired lists o o' t t') : Agree lists o o' t t' := paired []

theorem length (paired : Paired True o o' t t') : t.items.length = t'.items.length :=
  paired.root.1 trivial

theorem items_nil (paired : Paired True o o' t t') (none : t.items = []) : t'.items = [] := by
  rw [← List.length_eq_zero_iff, ← paired.length, none, List.length_nil]

theorem child (paired : Paired lists o o' t t') (slot : Slot) :
    Paired lists (o.child slot) (o'.child slot) (t.child slot) (t'.child slot) := fun place =>
  paired (slot :: place)

theorem of_children (root : Agree lists o o' t t')
    (children : ∀ slot,
      Paired lists (o.child slot) (o'.child slot) (t.child slot) (t'.child slot)) :
    Paired lists o o' t t' := by
  intro place
  cases place with
  | nil => exact root
  | cons slot rest => exact children slot rest

theorem entries (paired : Paired lists o o' t t') :
    PairedEntries lists o o' t.entries t'.entries := fun key => paired.child (.entry key)

theorem of_entries {entries entries' : List (String × Tree)}
    (paired : PairedEntries lists o o' entries entries') :
    Paired lists o o' (table entries) (table entries') := by
  have root : Agree lists o o' (table entries) (table entries') := ⟨fun _ => rfl, .inl rfl⟩
  refine of_children root fun slot => ?_
  cases slot with
  | entry key => exact paired key
  | item index => exact same _ _ _

theorem of_items {items items' : List Tree} (length : items.length = items'.length)
    (children : ∀ index, Paired lists (o.child (.item index)) (o'.child (.item index))
      (item items index) (item items' index)) :
    Paired lists o o' (list items) (list items') := by
  have root : Agree lists o o' (list items) (list items') := ⟨fun _ => length, .inl rfl⟩
  refine of_children root fun slot => ?_
  cases slot with
  | entry key => exact same _ _ _
  | item index => exact children index

theorem assign {entries entries' : List (String × Tree)}
    (paired : PairedEntries lists o o' entries entries') {key : String} {new new' : Tree}
    (values : Paired lists (o.child (.entry key)) (o'.child (.entry key)) new new') :
    PairedEntries lists o o' (Tree.assign entries key new) (Tree.assign entries' key new') := by
  intro other
  have first := child_assign (table entries) key new other
  have second := child_assign (table entries') key new' other
  rw [Tree.entries] at first second
  rw [first, second]
  split
  · rename_i same
    exact same ▸ values
  · exact paired other

theorem set {items items' : List Tree} (length : items.length = items'.length)
    (paired : ∀ index, Paired lists (o.child (.item index)) (o'.child (.item index))
      (item items index) (item items' index)) {index : Nat} {new new' : Tree}
    (values : Paired lists (o.child (.item index)) (o'.child (.item index))
      (item [new] 0) (item [new'] 0)) :
    Paired lists o o' (list ((filledTo index items).set index new))
      (list ((filledTo index items').set index new')) := by
  apply of_items
  · rw [List.length_set, List.length_set, length_filledTo, length_filledTo, length]
  · intro other
    rw [item_set, item_set]
    split
    · rename_i same
      exact same ▸ values
    · exact paired other

/-- What is set at a position may be absent, but in both trees alike: no item is absent before. -/
theorem item_singleton {index : Nat}
    (paired : Paired lists (o.child (.item index)) (o'.child (.item index)) t t') :
    Paired lists (o.child (.item index)) (o'.child (.item index)) (item [t] 0) (item [t'] 0) := by
  have alike : t = absent ↔ t' = absent := by
    rcases paired.root.2 with value | ⟨value, value'⟩
    · exact ⟨fun is => eq_of_value (value.symm.trans (congrArg value? is)),
        fun is => eq_of_value (value.trans (congrArg value? is))⟩
    · exact ⟨fun is => absurd (value.symm.trans (congrArg value? is)) (item_ne_absent _ _),
        fun is => absurd (value'.symm.trans (congrArg value? is)) (item_ne_absent _ _)⟩
  by_cases is : t = absent
  · rw [is, alike.mp is]
    exact same _ _ _
  · rw [item_of_ne_absent is, item_of_ne_absent (mt alike.mpr is)]
    exact paired

theorem merge (paired : Paired lists o o' t t') (upper : Tree) :
    Paired lists o o' (t.merge upper) (t'.merge upper) := by
  refine Tree.merge.induct
    (fun t upper => ∀ o o' t', Paired lists o o' t t' →
      Paired lists o o' (t.merge upper) (t'.merge upper))
    (fun entries upper => ∀ o o' entries', PairedEntries lists o o' entries entries' →
      PairedEntries lists o o' (mergeEntries entries upper) (mergeEntries entries' upper))
    ?empty ?table ?absent ?boolean ?integer ?real ?text ?list ?done ?entry t upper o o' t' paired
  case empty =>
    intro t o o' t' paired
    simpa only [Tree.merge] using paired
  case table =>
    intro t entry rest ih o o' t' paired
    simp only [Tree.merge]
    exact of_entries (ih o o' t'.entries paired.entries)
  case done =>
    intro entries o o' entries' paired
    simpa only [mergeEntries] using paired
  case entry =>
    intro entries key value rest present ihValue ihRest o o' entries' paired
    simp only [mergeEntries]
    exact ihRest o o' _ (assign paired (ihValue _ _ _ (paired (fold key))))
  -- Any other tree takes the place of what it is laid over.
  all_goals
    intros
    simp only [Tree.merge]
    exact same _ _ _

/-- Putting a value into paired trees leaves them paired, and succeeds in both or in neither.  The
lengths of lists matter where a position is counted. -/
theorem put {value : Tree} {path : Path} {o o' t t' new : Tree} (paired : Paired lists o o' t t')
    (counted : lists ∨ path.Keyed) (done : Tree.put value path t = .ok new) :
    ∃ new', Tree.put value path t' = .ok new' ∧ Paired lists o o' new new' := by
  induction path generalizing o o' t t' new with
  | nil =>
      obtain rfl := Except.ok.inj done
      exact ⟨_, rfl, paired.merge value⟩
  | cons step rest ih =>
      have later := counted.imp_right Path.Keyed.tail
      cases step with
      | key name =>
          obtain ⟨inner, below, rfl⟩ := ok_of_map (put_key value name rest t ▸ done)
          obtain ⟨inner', below', values⟩ := ih (paired.child (.entry (fold name))) later below
          refine ⟨table (Tree.assign t'.entries (fold name) inner'), ?_,
            of_entries (assign paired.entries values)⟩
          rw [put_key, below']
          rfl
      | index position =>
          have length := paired.root.1 (counted.resolve_right Path.not_keyed_index)
          obtain ⟨index, found, done⟩ := ok_of_bind (put_index value position rest t ▸ done)
          obtain ⟨inner, below, rfl⟩ := ok_of_map done
          have items : ∀ index, Paired lists (o.child (.item index)) (o'.child (.item index))
              (item t.items index) (item t'.items index) := fun index => paired.child (.item index)
          have values : ∃ inner', putItem value rest (t'.child (.item index)) = .ok inner' ∧
              Paired lists (o.child (.item index)) (o'.child (.item index)) inner inner' := by
            cases rest with
            | nil =>
                obtain rfl := Except.ok.inj below
                exact ⟨_, rfl, same _ _ _⟩
            | cons step rest => exact ih (items index) later below
          obtain ⟨inner', below', values⟩ := values
          refine ⟨list ((filledTo index t'.items).set index inner'), ?_,
            set length items values.item_singleton⟩
          rw [put_index, ← length, found, Except.bind, below']
          rfl

theorem putAll {layer : List (String × Tree)} {o o' t t' new : Tree}
    (paired : Paired lists o o' t t') (counted : lists ∨ Keyed layer)
    (done : t.putAll layer = .ok new) :
    ∃ new', t'.putAll layer = .ok new' ∧ Paired lists o o' new new' := by
  induction layer generalizing t t' with
  | nil =>
      obtain rfl := Except.ok.inj done
      exact ⟨t', rfl, paired⟩
  | cons entry rest ih =>
      obtain ⟨key, value⟩ := entry
      obtain ⟨next, first, done⟩ := ok_of_bind done
      have here := counted.imp_right fun keyed => keyed (key, value) List.mem_cons_self
      have later := counted.imp_right fun keyed entry mem =>
        keyed entry (List.mem_cons_of_mem _ mem)
      obtain ⟨next', first', paired⟩ := paired.put here first
      obtain ⟨new', done', paired⟩ := ih paired later done
      refine ⟨new', ?_, paired⟩
      rw [Tree.putAll, first']
      exact done'

end Paired

/-! ## Trees without lists -/

/-- There is no list at any place of the tree, unless it is empty. -/
def Plain (tree : Tree) : Prop := ∀ place, (tree.reach place).items = []

theorem reach_empty (place : List Slot) : (table []).reach place = table [] := by
  induction place with
  | nil => rfl
  | cons slot rest ih =>
      have empty : (table []).child slot = table [] := by cases slot <;> rfl
      rw [reach, List.foldl_cons, empty]
      exact ih

theorem plain_empty : Plain (table []) := fun place => by
  rw [reach_empty]
  rfl

theorem plain_of_entries {tree : Tree} (none : tree.items = [])
    (entries : ∀ key, Plain (tree.child (.entry key))) : Plain tree := by
  intro place
  cases place with
  | nil => exact none
  | cons slot rest =>
      cases slot with
      | entry key => exact entries key rest
      | item index =>
          have missing : tree.child (.item index) = table [] := by
            rw [child, none]
            rfl
          rw [reach, List.foldl_cons, missing]
          exact plain_empty rest

theorem plain_of_value {tree leaf : Tree} (value : tree.value? = some leaf) : Plain tree := by
  have bare : tree.items = [] ∧ tree.entries = [] := by
    cases tree with
    | table entries => cases value
    | list items => cases value
    | _ => exact ⟨rfl, rfl⟩
  apply plain_of_entries bare.1
  intro key
  rw [child, bare.2]
  exact plain_empty

theorem plain_table {entries : List (String × Tree)}
    (values : ∀ entry ∈ entries, Plain entry.2) : Plain (table entries) := by
  apply plain_of_entries rfl
  intro key
  rw [child, Tree.entries, find?]
  cases found : entries.find? fun entry => entry.1 == key with
  | none => exact plain_empty
  | some entry => exact values entry (List.mem_of_find?_eq_some found)

theorem alike_of_plain {tree other : Tree} (plain : Plain tree) (plain' : Plain other) :
    Alike tree other := by
  intro place
  rw [plain place, plain' place]

/-! ## Entries stay -/

theorem splitOn_eq_cons (separator : Char) (text : List Char) :
    ∃ first rest, text.splitOn separator = first :: rest :=
  List.exists_cons_of_ne_nil (List.splitOn_ne_nil separator text)

/-- The path of a key starts with the key of a table. -/
theorem ofKey_eq_cons (key : String) : ∃ name rest, Path.ofKey key = .key name :: rest := by
  have start : ∀ part steps, Path.steps? part = some steps →
      ∃ name rest, steps = .key name :: rest := by
    intro part steps written
    rw [Path.steps?] at written
    split at written
    · cases written
    · split at written
      · obtain ⟨positions, _, rfl⟩ := Option.map_eq_some_iff.mp written
        exact ⟨_, _, rfl⟩
      · cases written
  rw [Path.ofKey]
  split
  · rename_i parts written
    obtain ⟨first, rest, split⟩ := splitOn_eq_cons '.' key.toList
    rw [split, List.mapM_cons] at written
    obtain ⟨steps, head, written⟩ := Option.bind_eq_some_iff.mp written
    obtain ⟨more, _, written⟩ := Option.bind_eq_some_iff.mp written
    obtain rfl := Option.some.inj written
    obtain ⟨name, rest, rfl⟩ := start first steps head
    exact ⟨name, rest ++ more.flatten, rfl⟩
  · exact ⟨key, [], rfl⟩

theorem find?_putAll {layer : List (String × Tree)} {tree new : Tree} {key : String}
    (there : (find? tree.entries key).isSome = true) (done : tree.putAll layer = .ok new) :
    (find? new.entries key).isSome = true := by
  induction layer generalizing tree with
  | nil =>
      obtain rfl := Except.ok.inj done
      exact there
  | cons entry rest ih =>
      obtain ⟨next, first, done⟩ := ok_of_bind done
      obtain ⟨name, below, path⟩ := ofKey_eq_cons entry.1
      rw [path, put_key] at first
      obtain ⟨value, _, rfl⟩ := ok_of_map first
      refine ih ?_ done
      rw [entries, find?_assign]
      split
      · rfl
      · exact there

/-! ## Values at keys -/

/-- The value of a tree at a place that keys alone lead to. -/
def valueAt (tree : Tree) (place : List String) : Option Tree :=
  (tree.reach (place.map .entry)).value?

theorem valueAt_empty (place : List String) : (table []).valueAt place = none := by
  rw [valueAt, reach_empty, value?]

theorem valueAt_assign (entries : List (String × Tree)) (name : String) (value : Tree)
    (key : String) (place : List String) :
    (table (assign entries name value)).valueAt (key :: place) =
      if name = key then value.valueAt place else (table entries).valueAt (key :: place) := by
  have there := child_assign (table entries) name value key
  rw [valueAt, List.map_cons, reach, List.foldl_cons, show (table (assign entries name value)).child
    (.entry key) = _ from there]
  split <;> rfl

theorem merge_of_value {value leaf : Tree} (bare : value.value? = some leaf) (tree : Tree) :
    tree.merge value = value := by
  cases value with
  | table entries => cases bare
  | _ => rw [Tree.merge]

end Tree

/-- The path leads elsewhere: it and the keys part where both go on. -/
def Path.parts : Path → List String → Bool
  | .key name :: path, key :: place => Tree.fold name != key || parts path place
  | _, _ => false

namespace Tree

section

variable {value leaf tree new : Tree} {path : Path} {place : List String}

theorem ok_put (keyed : path.Keyed) (value tree : Tree) : ∃ new, put value path tree = .ok new := by
  induction path generalizing tree with
  | nil => exact ⟨_, rfl⟩
  | cons step rest ih =>
      obtain ⟨name, rfl⟩ := keyed step List.mem_cons_self
      obtain ⟨inner, below⟩ := ih keyed.tail (tree.child (.entry (fold name)))
      exact ⟨_, by rw [put_key, below]; rfl⟩

theorem plain_put (bare : value.value? = some leaf) (keyed : path.Keyed) (plain : Plain tree)
    (done : put value path tree = .ok new) : Plain new := by
  induction path generalizing tree new with
  | nil =>
      obtain rfl := Except.ok.inj done
      rw [merge_of_value bare]
      exact plain_of_value bare
  | cons step rest ih =>
      obtain ⟨name, rfl⟩ := keyed step List.mem_cons_self
      obtain ⟨inner, below, rfl⟩ := ok_of_map (put_key value name rest tree ▸ done)
      have inside := ih keyed.tail (fun place => plain (.entry (fold name) :: place)) below
      apply plain_of_entries rfl
      intro key
      rw [child_assign]
      split
      · exact inside
      · exact fun place => plain (.entry key :: place)

theorem valueAt_put_parts (parts : path.parts place = true)
    (done : put value path tree = .ok new) : new.valueAt place = tree.valueAt place := by
  induction path generalizing tree new place with
  | nil => cases parts
  | cons step rest ih =>
      cases step with
      | index position => cases parts
      | key name =>
          cases place with
          | nil => cases parts
          | cons key place =>
              obtain ⟨inner, below, rfl⟩ := ok_of_map (put_key value name rest tree ▸ done)
              rw [valueAt_assign]
              split
              · rename_i same
                have later : Path.parts rest place = true := by simpa [Path.parts, same] using parts
                subst same
                exact ih later below
              · rfl

theorem valueAt_put (bare : value.value? = some leaf) (folded : ∀ key ∈ place, fold key = key)
    (done : put value (place.map .key) tree = .ok new) : new.valueAt place = some value := by
  induction place generalizing tree new with
  | nil =>
      obtain rfl := Except.ok.inj done
      rw [merge_of_value bare]
      exact eq_of_value bare ▸ bare
  | cons key place ih =>
      rw [List.map_cons] at done
      obtain ⟨inner, below, rfl⟩ := ok_of_map (put_key value key _ tree ▸ done)
      rw [valueAt_assign, if_pos (folded key List.mem_cons_self)]
      exact ih (fun key mem => folded key (List.mem_cons_of_mem _ mem)) below

end

end Tree

end Cadence
