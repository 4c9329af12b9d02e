import Cadence.Proofs.Settings.Leaves
import Cadence.Proofs.Settings.Overlay

/-!
# Reading trees as settings

A setting is found in a tree by the keys that lead to it or, if the buffer is written in short as a
list, by its position.  A tree reads as settings if it has their leaves, and no other items in a
buffer that is written in short.
-/

set_option autoImplicit false

namespace Cadence

namespace Settings.Setting

/-- The key under which a setting stands, `buffer` apart. -/
def key : Setting → String
  | rate => "max_rate_ms"
  | policy => "policy"
  | capacity => "capacity"
  | windowMs => "window_ms"

/-- The position of a setting in a buffer that is written in short. -/
def index : Setting → Nat
  | rate => 0
  | policy => 0
  | capacity => 1
  | windowMs => 1

def place (s : Setting) : List String := if s = rate then [s.key] else ["buffer", s.key]

theorem index_of_size {p : Policy} {s : Setting} {n : UInt64} (size : p.size? = some (s, n)) :
    s.index = 1 := by
  rcases Policy.field_of_size size with rfl | rfl <;> rfl

end Settings.Setting

namespace Tree

open Settings (Setting)

/-- A field of a buffer: an entry of its table, or an item of its list if it is written in short. -/
def field? (buffer : Tree) (s : Setting) : Option Tree :=
  (buffer.child (.entry s.key)).value?.or (buffer.child (.item s.index)).value?

def leaf? (tree : Tree) (s : Setting) : Option Tree :=
  if s = .rate then (tree.child (.entry s.key)).value?
  else (tree.child (.entry "buffer")).field? s

/-- The buffer is not written in short. -/
def Long (tree : Tree) : Prop := (tree.child (.entry "buffer")).items = []

theorem leaf_of_size {p : Policy} {s : Setting} {n : UInt64} (size : p.size? = some (s, n))
    (tree : Tree) : tree.leaf? s = (tree.child (.entry "buffer")).field? s := by
  rcases Policy.field_of_size size with rfl | rfl <;> rfl

/-! ## Fields -/

/-- What has entries has no items. -/
theorem item_of_entry {tree leaf : Tree} {key : String}
    (entry : (tree.child (.entry key)).value? = some leaf) (index : Nat) :
    (tree.child (.item index)).value? = none := by
  cases tree with
  | list items => cases entry
  | _ => rfl

theorem field_of_entry {tree leaf : Tree} {s : Setting}
    (entry : (tree.child (.entry s.key)).value? = some leaf) : tree.field? s = some leaf := by
  rw [field?, entry, Option.some_or]

theorem item_of_plain {tree : Tree} (none : tree.items = []) (index : Nat) :
    (tree.child (.item index)).value? = Option.none := by
  rw [child, none]
  rfl

theorem field_of_plain {tree : Tree} (none : tree.items = []) (s : Setting) :
    tree.field? s = (tree.child (.entry s.key)).value? := by
  rw [field?, item_of_plain none, Option.or_none]

theorem field_of_list (items : List Tree) (s : Setting) :
    (list items).field? s = (item items s.index).value? := by
  have missing : (list items).child (.entry s.key) = table [] := rfl
  rw [field?, missing]
  exact Option.none_or

theorem list_of_items {tree : Tree} (some : tree.items ≠ []) : ∃ items, tree = list items := by
  cases tree with
  | list items => exact ⟨items, rfl⟩
  | _ => exact absurd rfl some

theorem getElem?_of_value {items : List Tree} {index : Nat} {leaf : Tree}
    (value : (item items index).value? = some leaf) : items[index]? = some leaf := by
  rw [item] at value
  rcases there : items[index]? with _ | tree
  · rw [there] at value
    cases value
  · rw [there] at value
    cases tree <;> cases value <;> rfl

theorem leaf_of_long {tree : Tree} (long : tree.Long) (s : Setting) :
    tree.leaf? s = tree.valueAt s.place := by
  rw [leaf?, Setting.place]
  split
  · rfl
  · rw [field_of_plain long]
    rfl

theorem Paired.value_or {lists : Prop} {o o' t t' leaf : Tree}
    (paired : Paired lists o o' t t')
    (blank : o'.value? = none) (value : t.value? = some leaf) :
    t'.value?.or o.value? = some leaf := by
  rcases paired.root.2 with now | ⟨before, before'⟩
  · rw [← now, value, Option.some_or]
  · rw [before', blank, Option.none_or, ← before, value]

theorem Paired.value_none {lists : Prop} {o o' t t' : Tree}
    (paired : Paired lists o o' t t')
    (blank : o'.value? = none) (value : t.value? = none) : t'.value? = none := by
  rcases paired.root.2 with now | ⟨_, before'⟩
  · rw [← now, value]
  · rw [before', blank]

/-- What was put into a tree without values, or else what was there before, is the field. -/
theorem Paired.field_or {lists : Prop} {o o' t t' leaf : Tree}
    (paired : Paired lists o o' t t')
    (blank : ∀ slot, (o'.child slot).value? = none) {s : Setting}
    (field : t.field? s = some leaf) : (t'.field? s).or (o.field? s) = some leaf := by
  have entries := paired.child (.entry s.key)
  have items := paired.child (.item s.index)
  cases entry : (t.child (.entry s.key)).value? with
  | some value =>
      obtain rfl := Option.some.inj ((field_of_entry entry).symm.trans field)
      have nothing := items.value_none (blank _) (item_of_entry entry s.index)
      rw [field?, nothing, Option.or_none, field?, ← Option.or_assoc,
        entries.value_or (blank _) entry, Option.some_or]
  | none =>
      rw [field?, entry, Option.none_or] at field
      have nothing := entries.value_none (blank _) entry
      have item := items.value_or (blank _) field
      rw [field?, nothing, Option.none_or, field?]
      -- A buffer below that has the item has no entries.
      cases below : (o.child (.entry s.key)).value? with
      | none => rwa [Option.none_or]
      | some value =>
          rw [item_of_entry below s.index, Option.or_none] at item
          rw [item, Option.some_or]

def Valueless (tree : Tree) : Prop := ∀ place, (tree.reach place).value? = none

theorem valueless_empty : Valueless (table []) := fun place => by
  rw [reach_empty]
  rfl

theorem Paired.leaf_or {lists : Prop} {o o' t t' leaf : Tree}
    (paired : Paired lists o o' t t')
    (blank : Valueless o') {s : Setting} (has : t.leaf? s = some leaf) :
    (t'.leaf? s).or (o.leaf? s) = some leaf := by
  unfold leaf? at has ⊢
  split at has
  · rename_i isRate
    rw [if_pos isRate, if_pos isRate]
    exact (paired.child (.entry s.key)).value_or (blank [.entry s.key]) has
  · rename_i isField
    rw [if_neg isField, if_neg isField]
    exact (paired.child (.entry "buffer")).field_or (fun slot => blank [.entry "buffer", slot]) has

/-! ## Buffers -/

theorem value_of_rate {tree : Tree} {rate : Option UInt64} (reads : tree.rate? = some rate) :
    tree.value? = some tree := by
  cases tree with
  | list items => cases reads
  | table entries => cases reads
  | _ => rfl

theorem integer_of_word {tree : Tree} {n : UInt64} (reads : tree.word? = some n) :
    ∃ m, tree = integer m := by
  cases tree with
  | integer m => exact ⟨m, rfl⟩
  | _ => cases reads

theorem value_of_word {tree : Tree} {n : UInt64} (reads : tree.word? = some n) :
    tree.value? = some tree := by
  obtain ⟨m, rfl⟩ := integer_of_word reads
  rfl

theorem find?_of_value {tree leaf : Tree} {key : String}
    (value : (tree.child (.entry key)).value? = some leaf) :
    find? tree.entries key = some leaf := by
  rw [child] at value
  cases found : find? tree.entries key with
  | none =>
      rw [found] at value
      cases value
  | some there =>
      rw [found, Option.getD_some] at value
      rw [eq_of_value value]

theorem value_of_find? {tree leaf : Tree} {key : String}
    (found : find? tree.entries key = some leaf) (bare : leaf.value? = some leaf) :
    (tree.child (.entry key)).value? = some leaf := by
  rw [child, found, Option.getD_some, bare]

def Sized (p : Policy) (fieldOf : Setting → Option Tree) : Prop :=
  ∀ s n, p.size? = some (s, n) → ∃ leaf, fieldOf s = some leaf ∧ leaf.word? = some n

theorem sized_latest (fieldOf : Setting → Option Tree) : Sized .latest fieldOf := nofun

theorem sized_queue {fieldOf : Setting → Option Tree} {leaf : Tree} {n : UInt64}
    (has : fieldOf .capacity = some leaf) (word : leaf.word? = some n) :
    Sized (.queue n) fieldOf := by
  intro s n' size
  cases size
  exact ⟨leaf, has, word⟩

theorem sized_timeWindow {fieldOf : Setting → Option Tree} {leaf : Tree} {n : UInt64}
    (has : fieldOf .windowMs = some leaf) (word : leaf.word? = some n) :
    Sized (.timeWindow n) fieldOf := by
  intro s n' size
  cases size
  exact ⟨leaf, has, word⟩

theorem fields_of_table {entries : List (String × Tree)} {p : Policy}
    (reads : (table entries).policy? = some p) :
    find? entries "policy" = some (.text p.tag) ∧ Sized p fun s => find? entries s.key := by
  simp only [policy?] at reads
  split at reads
  · rename_i name named
    split at reads
    · rename_i is
      cases reads
      exact ⟨by rw [named, is, Policy.tag], sized_latest _⟩
    · split at reads
      · rename_i is
        obtain ⟨n, read, rfl⟩ := Option.map_eq_some_iff.mp reads
        obtain ⟨leaf, found, word⟩ := Option.bind_eq_some_iff.mp read
        exact ⟨by rw [named, is, Policy.tag], sized_queue found word⟩
      · split at reads
        · rename_i is
          obtain ⟨n, read, rfl⟩ := Option.map_eq_some_iff.mp reads
          obtain ⟨leaf, found, word⟩ := Option.bind_eq_some_iff.mp read
          exact ⟨by rw [named, is, Policy.tag], sized_timeWindow found word⟩
        · cases reads
  · cases reads

theorem items_of_list {items : List Tree} {p : Policy} (reads : (list items).policy? = some p) :
    ∃ size, items = .text p.tag :: size ∧ size.length = p.size?.toList.length ∧
      Sized p fun _ => size[0]? := by
  unfold policy? at reads
  split at reads
  · rename_i other
    cases other
  · rename_i name is
    cases is
    split at reads
    · rename_i is
      cases reads
      exact ⟨[], by rw [is]; rfl, rfl, sized_latest _⟩
    · cases reads
  · rename_i name size is
    cases is
    split at reads
    · rename_i is
      obtain ⟨n, word, rfl⟩ := Option.map_eq_some_iff.mp reads
      exact ⟨[size], by rw [is]; rfl, rfl, sized_queue rfl word⟩
    · split at reads
      · rename_i is
        obtain ⟨n, word, rfl⟩ := Option.map_eq_some_iff.mp reads
        exact ⟨[size], by rw [is]; rfl, rfl, sized_timeWindow rfl word⟩
      · cases reads
  · cases reads

/-- A buffer that is described has the fields of its policy, and no others if it is a list. -/
theorem fields_of_policy {buffer : Tree} {p : Policy} (reads : buffer.policy? = some p) :
    buffer.field? .policy = some (.text p.tag) ∧ Sized p buffer.field? ∧
      (buffer.items.length = 0 ∨ buffer.items.length = 1 + p.size?.toList.length) := by
  cases buffer with
  | table entries =>
      obtain ⟨policy, size⟩ := fields_of_table reads
      refine ⟨field_of_entry (value_of_find? policy rfl), fun s n has => ?_, .inl rfl⟩
      obtain ⟨leaf, found, word⟩ := size s n has
      exact ⟨leaf, field_of_entry (value_of_find? found (value_of_word word)), word⟩
  | list items =>
      obtain ⟨size, rfl, length, sized⟩ := items_of_list reads
      refine ⟨rfl, fun s n has => ?_, .inr ?_⟩
      · obtain ⟨leaf, first, word⟩ := sized s n has
        refine ⟨leaf, ?_, word⟩
        have first : size[0]? = some leaf := first
        have value : (item (text p.tag :: size) s.index).value? = some leaf := by
          rw [Setting.index_of_size has, item, List.getElem?_cons_succ, first]
          obtain ⟨m, rfl⟩ := integer_of_word word
          rfl
        rw [field_of_list, value]
      · rw [Tree.items, List.length_cons, length, Nat.add_comm]
  | _ => cases reads

theorem policy_of_items {items : List Tree} {p : Policy}
    (length : items.length = 1 + p.size?.toList.length)
    (policy : (list items).field? .policy = some (.text p.tag))
    (size : Sized p (list items).field?) : (list items).policy? = some p := by
  rw [field_of_list] at policy
  have named : items[0]? = some (.text p.tag) := getElem?_of_value policy
  have sized : ∀ s n, p.size? = some (s, n) → ∃ leaf, items[1]? = some leaf ∧
      leaf.word? = some n := by
    intro s n has
    obtain ⟨leaf, field, word⟩ := size s n has
    rw [field_of_list, Setting.index_of_size has] at field
    exact ⟨leaf, getElem?_of_value field, word⟩
  obtain ⟨rest, rfl⟩ : ∃ rest, items = .text p.tag :: rest := by
    cases items with
    | nil => cases named
    | cons first rest => exact ⟨rest, by rw [Option.some.inj named]⟩
  have one : ∀ s n, p.size? = some (s, n) → ∃ leaf, rest = [leaf] ∧ leaf.word? = some n := by
    intro s n has
    obtain ⟨leaf, there, word⟩ := sized s n has
    have length : rest.length = 1 := by simpa [has, Nat.add_comm] using length
    obtain ⟨only, rfl⟩ := List.length_eq_one_iff.mp length
    exact ⟨leaf, congrArg (fun only => [only]) (Option.some.inj there), word⟩
  cases p with
  | latest =>
      obtain rfl : rest = [] := List.length_eq_zero_iff.mp (by simpa [Policy.size?] using length)
      rfl
  | queue capacity =>
      obtain ⟨leaf, rfl, word⟩ := one .capacity capacity rfl
      simp [policy?, Policy.tag, word]
  | timeWindow windowMs =>
      obtain ⟨leaf, rfl, word⟩ := one .windowMs windowMs rfl
      simp [policy?, Policy.tag, word]

theorem policy_of_fields {buffer : Tree} {p : Policy} (none : buffer.items = [])
    (policy : buffer.field? .policy = some (.text p.tag)) (size : Sized p buffer.field?) :
    buffer.policy? = some p := by
  rw [field_of_plain none] at policy
  have named := find?_of_value policy
  have sized : Sized p fun s => find? buffer.entries s.key := by
    intro s n has
    obtain ⟨leaf, field, word⟩ := size s n has
    rw [field_of_plain none] at field
    exact ⟨leaf, find?_of_value field, word⟩
  cases buffer with
  | table entries =>
      have named : find? entries "policy" = some (.text p.tag) := named
      cases p with
      | latest =>
          simp only [policy?, named]
          rfl
      | queue capacity =>
          obtain ⟨leaf, found, word⟩ := sized .capacity capacity rfl
          have found : find? entries "capacity" = some leaf := found
          simp only [policy?, named, found, Option.bind_some, word, Option.map_some]
          rfl
      | timeWindow windowMs =>
          obtain ⟨leaf, found, word⟩ := sized .windowMs windowMs rfl
          have found : find? entries "window_ms" = some leaf := found
          simp only [policy?, named, found, Option.bind_some, word, Option.map_some]
          rfl
  | _ => cases named

end Tree

namespace Settings

/-! ## Reading -/

theorem ofTree_eq {tree : Tree} {settings : Settings}
    (rate : (Tree.find? tree.entries "max_rate_ms").isSome = true)
    (buffer : (Tree.find? tree.entries "buffer").isSome = true) :
    ofTree? tree = some settings ↔
      (tree.child (.entry "max_rate_ms")).rate? = some settings.maxRateMs ∧
        (tree.child (.entry "buffer")).policy? = some settings.buffer := by
  obtain ⟨rate, hasRate⟩ := Option.isSome_iff_exists.mp rate
  obtain ⟨buffer, hasBuffer⟩ := Option.isSome_iff_exists.mp buffer
  simp only [ofTree?, Tree.child, hasRate, hasBuffer, Option.getD_some]
  cases rate.rate? <;> cases buffer.policy? <;> cases settings <;> simp

/-- A tree reads as settings if its buffer is described and it has their rate. -/
theorem ofTree_of_buffer {tree leaf : Tree} {settings : Settings}
    (rate : (tree.child (.entry "max_rate_ms")).value? = some leaf)
    (means : leaf.rate? = some settings.maxRateMs)
    (buffer : (tree.child (.entry "buffer")).policy? = some settings.buffer) :
    ofTree? tree = some settings := by
  have hasRate := Tree.find?_of_value rate
  have hasBuffer : (Tree.find? tree.entries "buffer").isSome = true := by
    rw [Tree.child] at buffer
    cases found : Tree.find? tree.entries "buffer" with
    | some there => rfl
    | none =>
        rw [found] at buffer
        cases buffer
  refine (ofTree_eq (by rw [hasRate]; rfl) hasBuffer).mpr ⟨?_, buffer⟩
  rw [Tree.child, hasRate, Option.getD_some, means]

/-- A tree that has a rate cap and a buffer reads as the settings of its leaves, whatever else is in
it. -/
theorem ofTree_iff {tree : Tree} {settings : Settings}
    (rate : (Tree.find? tree.entries "max_rate_ms").isSome = true)
    (buffer : (Tree.find? tree.entries "buffer").isSome = true) :
    ofTree? tree = some settings ↔ settings.Reads tree.leaf? ∧
      ((tree.child (.entry "buffer")).items.length = 0 ∨
        (tree.child (.entry "buffer")).items.length = settings.width) := by
  constructor
  · intro read
    obtain ⟨rate, buffer⟩ := (ofTree_eq rate buffer).mp read
    obtain ⟨policy, size, width⟩ := Tree.fields_of_policy buffer
    refine ⟨.of_leaves ⟨_, Tree.value_of_rate rate, rate⟩ policy fun s n has => ?_, width⟩
    rw [Tree.leaf_of_size has]
    exact size s n has
  · rintro ⟨reads, width⟩
    obtain ⟨leaf, cap, means⟩ := reads.rate
    refine ofTree_of_buffer cap means ?_
    have size : Tree.Sized settings.buffer (tree.child (.entry "buffer")).field? := by
      intro s n has
      rw [← Tree.leaf_of_size has]
      exact reads.size has
    rcases width with none | width
    · exact Tree.policy_of_fields (List.length_eq_zero_iff.mp none) reads.policy size
    · have policy := reads.policy
      rw [Tree.leaf?, if_neg (by decide)] at policy
      generalize tree.child (.entry "buffer") = buffer at width policy size ⊢
      cases buffer with
      | list items => exact Tree.policy_of_items width policy size
      | _ =>
          have none : 0 = 1 + settings.buffer.size?.toList.length := width
          omega

end Settings

end Cadence
