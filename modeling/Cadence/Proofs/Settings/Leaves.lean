import Cadence.Settings.Load

/-!
# The leaves of settings

Settings are read from a few leaves: a rate cap, the name of a policy, and the size that this policy
has.  Each leaf is converted by itself, and leaves that the policy does not use are not read.  The
leaves that are read determine the settings, and settings are read from the leaves that they are
written as.
-/

set_option autoImplicit false

namespace Cadence

inductive Settings.Setting
  | rate
  | policy
  | capacity
  | windowMs
  deriving DecidableEq

namespace Settings.Setting

def name : Setting → String
  | rate => "max_rate_ms"
  | policy => "buffer.policy"
  | capacity => "buffer.capacity"
  | windowMs => "buffer.window_ms"

end Settings.Setting

namespace Policy

open Settings (Setting)

def tag : Policy → String
  | latest => "latest"
  | queue _ => "queue"
  | timeWindow _ => "time_window"

def size? : Policy → Option (Setting × UInt64)
  | latest => none
  | queue capacity => some (.capacity, capacity)
  | timeWindow windowMs => some (.windowMs, windowMs)

theorem field_of_tag {p q : Policy} (same : p.tag = q.tag) :
    p.size?.map (·.1) = q.size?.map (·.1) := by
  cases p <;> cases q <;> simp_all [size?, Policy.tag]

theorem field_of_size {p : Policy} {field : Setting} {n : UInt64}
    (size : p.size? = some (field, n)) : field = .capacity ∨ field = .windowMs := by
  cases p <;> cases size
  · exact .inl rfl
  · exact .inr rfl

theorem eq_of_tag {p q : Policy} (tag : p.tag = q.tag) (size : p.size? = q.size?) : p = q := by
  cases p <;> cases q <;> simp_all [size?, Policy.tag]

end Policy

namespace Settings

/-! ## What settings are read from -/

/-- What has a bearing on the settings; a policy uses no other field than its own. -/
def uses (settings : Settings) : List Setting :=
  .rate :: .policy :: (settings.buffer.size?.map (·.1)).toList

/-- The leaf, converted, is what the settings have. -/
def Setting.Means (settings : Settings) (leaf : Tree) : Setting → Prop
  | rate => leaf.rate? = some settings.maxRateMs
  | policy => leaf = .text settings.buffer.tag
  | field => ∃ n, leaf.word? = some n ∧ settings.buffer.size? = some (field, n)

/-- The settings are those of the leaves. -/
def Reads (settings : Settings) (leafOf : Setting → Option Tree) : Prop :=
  ∀ s ∈ settings.uses, ∃ leaf, leafOf s = some leaf ∧ s.Means settings leaf

def leaf? (settings : Settings) : Setting → Option Tree
  | .rate => some (settings.maxRateMs.elim .absent fun millis => .integer millis.toNat)
  | .policy => some (.text settings.buffer.tag)
  | field =>
      settings.buffer.size?.bind fun size =>
        if size.1 = field then some (.integer size.2.toNat) else none

/-- The number of items of a buffer that is written in short, as a list. -/
def width (settings : Settings) : Nat := 1 + settings.buffer.size?.toList.length

def Fits (settings : Settings) : Prop :=
  (∀ millis, settings.maxRateMs = some millis → (millis.toNat : Int) ≤ wordMax) ∧
    ∀ s n, settings.buffer.size? = some (s, n) → (n.toNat : Int) ≤ wordMax

/-! ## Reading -/

namespace Reads

variable {settings settings' : Settings} {leafOf leafOf' : Setting → Option Tree}

theorem rate (reads : settings.Reads leafOf) :
    ∃ leaf, leafOf .rate = some leaf ∧ leaf.rate? = some settings.maxRateMs :=
  reads .rate (by simp [uses])

theorem policy (reads : settings.Reads leafOf) :
    leafOf .policy = some (.text settings.buffer.tag) := by
  obtain ⟨leaf, has, rfl⟩ := reads .policy (by simp [uses])
  exact has

theorem size (reads : settings.Reads leafOf) {s : Setting} {n : UInt64}
    (size : settings.buffer.size? = some (s, n)) :
    ∃ leaf, leafOf s = some leaf ∧ leaf.word? = some n := by
  obtain ⟨leaf, has, means⟩ := reads s (by simp [uses, size])
  have means : ∃ n', leaf.word? = some n' ∧ settings.buffer.size? = some (s, n') := by
    rcases Policy.field_of_size size with rfl | rfl <;> exact means
  obtain ⟨n', word, size'⟩ := means
  obtain ⟨-, rfl⟩ := Prod.mk.inj (Option.some.inj (size.symm.trans size'))
  exact ⟨leaf, has, word⟩

theorem of_leaves (rate : ∃ leaf, leafOf .rate = some leaf ∧ leaf.rate? = some settings.maxRateMs)
    (policy : leafOf .policy = some (.text settings.buffer.tag))
    (size : ∀ s n, settings.buffer.size? = some (s, n) →
      ∃ leaf, leafOf s = some leaf ∧ leaf.word? = some n) : settings.Reads leafOf := by
  intro s used
  rcases List.mem_cons.mp used with rfl | used
  · exact rate
  · rcases List.mem_cons.mp used with rfl | used
    · exact ⟨_, policy, rfl⟩
    · obtain ⟨⟨field, n⟩, has, rfl⟩ := Option.map_eq_some_iff.mp (Option.mem_toList.mp used)
      obtain ⟨leaf, is, word⟩ := size field n has
      refine ⟨leaf, is, ?_⟩
      rcases Policy.field_of_size has with rfl | rfl <;> exact ⟨n, word, has⟩

theorem mono (reads : settings.Reads leafOf)
    (more : ∀ s leaf, leafOf s = some leaf → leafOf' s = some leaf) : settings.Reads leafOf' := by
  intro s used
  obtain ⟨leaf, has, means⟩ := reads s used
  exact ⟨leaf, more s leaf has, means⟩

/-- The leaves that settings use determine them. -/
theorem unique (reads : settings.Reads leafOf) (reads' : settings'.Reads leafOf')
    (same : ∀ s ∈ settings.uses, leafOf' s = leafOf s) : settings' = settings := by
  have rates : settings'.maxRateMs = settings.maxRateMs := by
    obtain ⟨leaf, has, means⟩ := reads.rate
    obtain ⟨leaf', has', means'⟩ := reads'.rate
    rw [same .rate (by simp [uses]), has] at has'
    obtain rfl := Option.some.inj has'
    exact Option.some.inj (means'.symm.trans means)
  have tags : settings'.buffer.tag = settings.buffer.tag := by
    have named := reads'.policy
    rw [same .policy (by simp [uses]), reads.policy] at named
    exact (Tree.text.inj (Option.some.inj named)).symm
  have fields := Policy.field_of_tag tags
  have sizes : settings'.buffer.size? = settings.buffer.size? := by
    cases size : settings.buffer.size? with
    | none =>
        rw [size, Option.map_none, Option.map_eq_none_iff] at fields
        exact fields
    | some field =>
        rw [size, Option.map_some] at fields
        obtain ⟨⟨s, n'⟩, size', rfl⟩ := Option.map_eq_some_iff.mp fields
        obtain ⟨leaf', has', word'⟩ := reads'.size size'
        obtain ⟨leaf, has, word⟩ := reads.size size
        rw [same field.1 (by simp [uses, size]), has] at has'
        obtain rfl := Option.some.inj has'
        rw [size', Option.some.inj (word'.symm.trans word)]
  cases settings
  cases settings'
  cases rates
  cases Policy.eq_of_tag tags sizes
  rfl

end Reads

/-! ## Reading what is written -/

theorem rate_written (rate : Option UInt64) :
    (rate.elim Tree.absent fun millis => .integer millis.toNat).rate? = some rate := by
  cases rate with
  | none => rfl
  | some millis => simp [Tree.rate?]

theorem word_written (n : UInt64) : (Tree.integer n.toNat).word? = some n := by
  simp [Tree.word?]

theorem leaf_of_size {settings : Settings} {s : Setting} {n : UInt64}
    (size : settings.buffer.size? = some (s, n)) :
    settings.leaf? s = some (.integer n.toNat) := by
  rcases Policy.field_of_size size with rfl | rfl <;> simp [leaf?, size]

theorem reads_leaf (settings : Settings) : settings.Reads settings.leaf? :=
  .of_leaves ⟨_, rfl, rate_written settings.maxRateMs⟩ rfl fun _ n size =>
    ⟨_, leaf_of_size size, word_written n⟩

end Settings

end Cadence
