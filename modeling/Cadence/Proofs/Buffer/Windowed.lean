import Cadence.Proofs.Buffer.Access
import Cadence.Proofs.Time.Order
import Mathlib.Data.List.Induction

/-!
# What a time window returns

A time window prunes on reading, by the value at the end of what is left.  Its history tells the
same thing without the buffer: a value is kept as long as its timestamp lies in the interval that
the value accepted last allows, at each read since it was written.  The two agree because pruning
either leaves the last value in place or leaves nothing at all.

Where timestamps never decrease, the reads that came before make no difference.
-/

set_option autoImplicit false

namespace Cadence

variable {α : Type}

/-- How many values a time window holds, those that the next read prunes among them. -/
def Window.retained (w : Window α) : Nat := w.entries.length

namespace Buffer

/-! ## Histories -/

def Access.stamped? (stampOf : α → Option Timestamp) : Access α → Option (α × Timestamp)
  | write (some value) => (stampOf value).map fun stamp => (value, stamp)
  | write none => none
  | read => none

section History

variable (length : Duration) (stampOf : α → Option Timestamp)

def windowed (history : List (Access α)) : Buffer α :=
  (Buffer.window stampOf (.empty length)).after history

def accepted (history : List (Access α)) : List (α × Timestamp) :=
  history.filterMap (Access.stamped? stampOf)

def newest? (history : List (Access α)) : Option Timestamp :=
  (accepted stampOf history).getLast?.map (·.2)

/-- For each read of `history`, the timestamp of the value accepted last before it, where `last` is
that of the value accepted last before `history`. -/
def watermarks (last : Timestamp) : List (Access α) → List Timestamp
  | [] => []
  | .write value :: rest =>
      watermarks (((Access.write value).stamped? stampOf).elim last (·.2)) rest
  | .read :: rest => last :: watermarks last rest

/-- The accepted values whose timestamps lay within `length` before the watermark at each read since
they were written. -/
def kept : List (Access α) → List (α × Timestamp)
  | [] => []
  | access :: rest =>
      ((access.stamped? stampOf).toList.filter fun entry =>
          (watermarks stampOf entry.2 rest).all fun watermark =>
            (length.before watermark).contains entry.2) ++
        kept rest

def within (newest : Option Timestamp) (entry : α × Timestamp) : Bool :=
  newest.all fun watermark => (length.before watermark).contains entry.2

end History

section Windowed

variable {length : Duration} {stampOf : α → Option Timestamp}

theorem within_some (watermark : Timestamp) :
    within (α := α) length (some watermark) =
      fun entry => (length.before watermark).contains entry.2 := rfl

theorem accepted_concat (stampOf : α → Option Timestamp) (history : List (Access α))
    (access : Access α) :
    accepted stampOf (history ++ [access]) =
      accepted stampOf history ++ (access.stamped? stampOf).toList := by
  cases entry : access.stamped? stampOf <;> simp [accepted, entry]

theorem newest?_concat (history : List (Access α)) (access : Access α) :
    newest? stampOf (history ++ [access]) =
      ((access.stamped? stampOf).map (·.2)).or (newest? stampOf history) := by
  rw [newest?, accepted_concat, newest?]
  cases access.stamped? stampOf <;> simp

theorem newest?_cons (access : Access α) (rest : List (Access α)) :
    newest? stampOf (access :: rest) =
      (newest? stampOf rest).or ((access.stamped? stampOf).map (·.2)) := by
  have split : accepted stampOf (access :: rest) =
      (access.stamped? stampOf).toList ++ accepted stampOf rest := by
    cases entry : access.stamped? stampOf <;> simp [accepted, entry]
  rw [newest?, split, List.getLast?_append, newest?]
  cases access.stamped? stampOf <;> cases (accepted stampOf rest).getLast? <;> rfl

theorem newest?_append_idle (history : List (Access α)) {idle : List (Access α)}
    (nothing : accepted stampOf idle = []) :
    newest? stampOf (history ++ idle) = newest? stampOf history := by
  simp only [accepted] at nothing
  simp [newest?, accepted, nothing]

theorem newest?_eq_none {history : List (Access α)} (none : newest? stampOf history = none) :
    accepted stampOf history = [] := by
  simpa [newest?] using none

/-! ## Keeping values -/

theorem kept_sublist (history : List (Access α)) :
    (kept length stampOf history).Sublist (accepted stampOf history) := by
  induction history with
  | nil => exact .slnil
  | cons access rest ih =>
      cases entry : access.stamped? stampOf with
      | none => simpa [kept, accepted, entry] using ih
      | some entry =>
          simp only [kept, accepted, List.filterMap_cons, entry, Option.toList_some]
          exact List.Sublist.append (List.filter_sublist (l := [_])) ih

theorem kept_nil {history : List (Access α)} (nothing : accepted stampOf history = []) :
    kept length stampOf history = [] :=
  List.sublist_nil.mp (nothing ▸ kept_sublist history)

theorem watermarks_concat_write (last : Timestamp) (history : List (Access α)) (value : Option α) :
    watermarks stampOf last (history ++ [.write value]) = watermarks stampOf last history := by
  induction history generalizing last with
  | nil => rfl
  | cons access rest ih => cases access <;> simp [watermarks, ih]

theorem watermarks_concat_read (last : Timestamp) (history : List (Access α)) :
    watermarks stampOf last (history ++ [.read]) =
      watermarks stampOf last history ++ [(newest? stampOf history).getD last] := by
  induction history generalizing last with
  | nil => rfl
  | cons access rest ih =>
      rw [newest?_cons]
      cases access with
      | read => simp [watermarks, ih, Access.stamped?]
      | write value =>
          rw [List.cons_append, watermarks, ih, watermarks, List.append_cancel_left_eq]
          cases newest? stampOf rest <;> cases (Access.write value).stamped? stampOf <;> rfl

theorem kept_concat_write (history : List (Access α)) (value : Option α) :
    kept length stampOf (history ++ [.write value]) =
      kept length stampOf history ++ ((Access.write value).stamped? stampOf).toList := by
  induction history with
  | nil => cases entry : (Access.write value).stamped? stampOf <;> simp [kept, entry, watermarks]
  | cons access rest ih =>
      simp only [List.cons_append, kept, ih, watermarks_concat_write, List.append_assoc]

theorem kept_concat_read (history : List (Access α)) :
    kept length stampOf (history ++ [.read]) =
      (kept length stampOf history).filter (within length (newest? stampOf history)) := by
  induction history with
  | nil => rfl
  | cons access rest ih =>
      -- Only a value that `rest` does not supersede lends its own timestamp to the last watermark.
      have tail : kept length stampOf (rest ++ [.read]) =
          (kept length stampOf rest).filter
            (within length (newest? stampOf (access :: rest))) := by
        cases newest : newest? stampOf rest with
        | none =>
            have nothing := newest?_eq_none newest
            have later : accepted stampOf (rest ++ [.read]) = [] := by
              rw [accepted_concat, nothing]
              rfl
            rw [kept_nil nothing, kept_nil later, List.filter_nil]
        | some watermark => rw [ih, newest?_cons, newest, Option.some_or]
      rw [List.cons_append, kept, kept, List.filter_append, tail, newest?_cons]
      congr 1
      rw [List.filter_filter]
      apply List.filter_congr
      intro entry mem
      rw [Option.mem_toList.mp mem, Option.map_some, watermarks_concat_read, List.all_append,
        Bool.and_comm]
      cases newest? stampOf rest <;> simp [within]

theorem newest?_kept (history : List (Access α)) (left : kept length stampOf history ≠ []) :
    (kept length stampOf history).getLast?.map (·.2) = newest? stampOf history := by
  induction history using List.reverseRecOn with
  | nil => exact absurd rfl left
  | append_singleton history access ih =>
      rw [newest?_concat]
      cases access with
      | write value =>
          rw [kept_concat_write] at left ⊢
          cases entry : (Access.write value).stamped? stampOf with
          | none =>
              rw [entry, Option.toList_none, List.append_nil] at left
              simpa using ih left
          | some entry => simp
      | read =>
          rw [kept_concat_read] at left ⊢
          obtain ⟨entry, survives⟩ := List.exists_mem_of_ne_nil _ left
          obtain ⟨held, admits⟩ := List.mem_filter.mp survives
          have ends := ih (List.ne_nil_of_mem held)
          obtain ⟨last, at_end⟩ := Option.ne_none_iff_exists'.mp
            (mt List.getLast?_eq_none_iff.mp (List.ne_nil_of_mem held))
          obtain ⟨front, split⟩ := List.getLast?_eq_some_iff.mp at_end
          rw [at_end, Option.map_some] at ends
          have stays : within length (newest? stampOf history) last = true := by
            rw [← ends] at admits ⊢
            exact Duration.before_contains_self admits
          simp [split, List.filter_append, stays, ends, Access.stamped?]

/-! ## The buffer -/

theorem windowed_eq (length : Duration) (stampOf : α → Option Timestamp)
    (history : List (Access α)) :
    windowed length stampOf history =
      .window stampOf ⟨length, kept length stampOf history⟩ := by
  induction history using List.reverseRecOn with
  | nil => rfl
  | append_singleton history access ih =>
      rw [windowed, after_concat, ← windowed, ih]
      cases access with
      | write value =>
          rw [kept_concat_write]
          cases value with
          | none => simp [Buffer.access, write, Access.stamped?]
          | some value =>
              cases stamp : stampOf value <;>
                simp [Buffer.access, write, store, stamp, Window.write, Access.stamped?]
      | read =>
          rw [kept_concat_read]
          by_cases left : kept length stampOf history = []
          · simp [left, Buffer.access, read, Window.read, Window.prune, Window.allowed?,
              Window.watermark?]
          · have ends := newest?_kept history left
            cases newest : newest? stampOf history with
            | none =>
                rw [newest, Option.map_eq_none_iff, List.getLast?_eq_none_iff] at ends
                exact absurd ends left
            | some watermark =>
                rw [newest] at ends
                simp [Buffer.access, read, Window.read, Window.prune, Window.allowed?,
                  Window.watermark?, ends, within_some]

theorem read_windowed (history : List (Access α)) :
    (windowed length stampOf history).read.2 =
      (kept length stampOf (history ++ [.read])).map (·.1) := by
  have held := windowed_eq length stampOf (history ++ [.read])
  rw [windowed, after_concat, ← windowed, windowed_eq length stampOf history] at held
  rw [windowed_eq length stampOf history]
  obtain ⟨-, entries⟩ := Buffer.window.inj held
  exact congrArg (fun w => w.entries.map (·.1)) entries

/-- Nothing more is pruned before a value is accepted. -/
theorem kept_idle (history : List (Access α)) {idle : List (Access α)}
    (nothing : accepted stampOf idle = []) :
    kept length stampOf (history ++ .read :: idle) =
      kept length stampOf (history ++ [.read]) := by
  induction idle using List.reverseRecOn with
  | nil => rfl
  | append_singleton idle access ih =>
      rw [accepted_concat, List.append_eq_nil_iff, Option.toList_eq_nil_iff] at nothing
      obtain ⟨before, entry⟩ := nothing
      rw [← List.cons_append, ← List.append_assoc]
      cases access with
      | write value =>
          rw [kept_concat_write, entry, Option.toList_none, List.append_nil, ih before]
      | read =>
          have same : newest? stampOf (history ++ .read :: idle) = newest? stampOf history :=
            newest?_append_idle history (by simpa [accepted, Access.stamped?] using before)
          rw [kept_concat_read, ih before, kept_concat_read, same, List.filter_filter]
          simp

/-! ## Timestamps that never decrease -/

/-- The timestamps of the accepted values never decrease. -/
def Ascending (stampOf : α → Option Timestamp) (history : List (Access α)) : Prop :=
  (accepted stampOf history).Pairwise fun earlier later => earlier.2 ≤ later.2

/-- `length` before the timestamp of each accepted value there is a timestamp. -/
def Unclamped (length : Duration) (stampOf : α → Option Timestamp) (history : List (Access α)) :
    Prop :=
  ∀ entry ∈ accepted stampOf history, ∃ start : Timestamp,
    start.total = entry.2.total - length.nanos

theorem newest?_mem {history : List (Access α)} {newest : Timestamp}
    (is : newest? stampOf history = some newest) :
    ∃ entry ∈ accepted stampOf history, entry.2 = newest := by
  obtain ⟨entry, last, rfl⟩ := Option.map_eq_some_iff.mp is
  exact ⟨entry, List.mem_of_getLast? last, rfl⟩

theorem Ascending.le_newest {history : List (Access α)} (ascending : Ascending stampOf history)
    {newest : Timestamp} (is : newest? stampOf history = some newest) {entry : α × Timestamp}
    (mem : entry ∈ accepted stampOf history) : entry.2.total ≤ newest.total := by
  obtain ⟨last, at_end, rfl⟩ := Option.map_eq_some_iff.mp is
  obtain ⟨front, split⟩ := List.getLast?_eq_some_iff.mp at_end
  rw [Ascending, split, List.pairwise_append] at ascending
  rw [split, List.mem_append, List.mem_singleton] at mem
  rcases mem with earlier | rfl
  · exact (Timestamp.le_iff_total_le _ _).mp
      (ascending.2.2 entry earlier last (List.mem_singleton_self last))
  · exact Int.le_refl _

/-- For timestamps that never decrease, whatever lies within the window before some later instant
has been kept. -/
theorem kept_filter_of_ascending {history : List (Access α)} (ascending : Ascending stampOf history)
    (unclamped : Unclamped length stampOf history) (instant : Int)
    (later : ∀ newest, newest? stampOf history = some newest → newest.total ≤ instant) :
    (kept length stampOf history).filter (fun entry => instant - length.nanos ≤ entry.2.total) =
      (accepted stampOf history).filter fun entry =>
        instant - length.nanos ≤ entry.2.total := by
  induction history using List.reverseRecOn with
  | nil => rfl
  | append_singleton history access ih =>
      have before := accepted_concat stampOf history access
      have ascended : Ascending stampOf history := by
        rw [Ascending, before] at ascending
        exact (List.pairwise_append.mp ascending).1
      have exact : Unclamped length stampOf history := fun entry mem =>
        unclamped entry (before ▸ List.mem_append_left _ mem)
      have earlier : ∀ newest, newest? stampOf history = some newest →
          newest.total ≤ instant := by
        intro newest is
        obtain ⟨entry, mem, rfl⟩ := newest?_mem is
        cases now : newest? stampOf (history ++ [access]) with
        | none =>
            have nothing := newest?_eq_none now
            rw [before, List.append_eq_nil_iff] at nothing
            rw [nothing.1] at mem
            cases mem
        | some latest =>
            exact Int.le_trans (ascending.le_newest now (before ▸ List.mem_append_left _ mem))
              (later latest now)
      have same := ih ascended exact earlier
      cases access with
      | write value => rw [kept_concat_write, before, List.filter_append, List.filter_append, same]
      | read =>
          rw [before, Access.stamped?, Option.toList_none, List.append_nil, ← same,
            kept_concat_read, List.filter_filter]
          apply List.filter_congr
          intro entry held
          have mem := (kept_sublist history).subset held
          rw [Bool.and_eq_left_iff_imp, decide_eq_true_iff]
          intro recent
          cases newest : newest? stampOf history with
          | none => rfl
          | some watermark =>
              obtain ⟨last, is_last, rfl⟩ := newest?_mem newest
              obtain ⟨start, starts⟩ := exact last is_last
              have := earlier _ newest
              exact (Duration.before_contains_iff starts entry.2).mpr
                ⟨by omega, ascended.le_newest newest mem⟩

/-- For timestamps that never decrease, the next read keeps every accepted value that lies within
the window before the newest. -/
theorem kept_read_of_ascending {history : List (Access α)} (ascending : Ascending stampOf history)
    (unclamped : Unclamped length stampOf history) :
    kept length stampOf (history ++ [.read]) =
      (accepted stampOf history).filter fun entry =>
        (newest? stampOf history).all fun newest =>
          newest.total - length.nanos ≤ entry.2.total := by
  rw [kept_concat_read]
  cases newest : newest? stampOf history with
  | none =>
      have nothing := newest?_eq_none newest
      rw [kept_nil nothing, nothing, List.filter_nil, List.filter_nil]
  | some watermark =>
      have newestIs : ∀ latest, newest? stampOf history = some latest →
          latest.total ≤ watermark.total := by
        intro latest is
        obtain rfl := Option.some.inj (newest.symm.trans is)
        exact Int.le_refl _
      have whole := kept_filter_of_ascending ascending unclamped watermark.total newestIs
      simp only [Option.all_some]
      rw [← whole]
      apply List.filter_congr
      intro entry held
      obtain ⟨last, is_last, rfl⟩ := newest?_mem newest
      obtain ⟨start, starts⟩ := unclamped last is_last
      have le := ascending.le_newest newest ((kept_sublist history).subset held)
      rw [Bool.eq_iff_iff, decide_eq_true_iff, within, Option.all_some,
        Duration.before_contains_iff starts]
      exact ⟨fun admits => admits.1, fun recent => ⟨recent, le⟩⟩

/-! ## Main result -/

/-- A read of a time window returns the accepted values that were within the window at each read
since they were written, and they are what stays in the buffer.  Until another value is accepted,
every read returns the same; a value is accepted if it has a timestamp.  For timestamps that never
decrease, and from which the length of the window can be taken without clamping, a read returns
whatever was accepted within the window before the newest timestamp. -/
theorem windowed_contents (length : Duration) (stampOf : α → Option Timestamp)
    (history : List (Access α)) :
    (windowed length stampOf history).read.2 =
        (kept length stampOf (history ++ [.read])).map (·.1) ∧
      (∃ w, (windowed length stampOf history).read.1 = .window stampOf w ∧
        w.retained = (windowed length stampOf history).read.2.length) ∧
      (∀ idle, accepted stampOf idle = [] →
        (windowed length stampOf (history ++ .read :: idle)).read.2 =
          (windowed length stampOf history).read.2) ∧
      (∀ value, ((windowed length stampOf history).write value).2.accepted =
        ((Access.write value).stamped? stampOf).isSome) ∧
      (Ascending stampOf history → Unclamped length stampOf history →
        (windowed length stampOf history).read.2 =
          ((accepted stampOf history).filter fun entry =>
            (newest? stampOf history).all fun newest =>
              newest.total - length.nanos ≤ entry.2.total).map (·.1)) := by
  refine ⟨read_windowed history, ?retained, ?idle, ?writes, ?ascending⟩
  case retained =>
    rw [windowed_eq length stampOf history]
    exact ⟨_, rfl, by simp [read, Window.read, Window.retained]⟩
  case idle =>
    intro idle nothing
    have again : accepted stampOf (idle ++ [.read]) = [] := by
      rw [accepted_concat, nothing]
      rfl
    rw [read_windowed, read_windowed, List.append_assoc, List.cons_append, kept_idle history again]
  case writes =>
    intro value
    rw [windowed_eq length stampOf history]
    cases value with
    | none => rfl
    | some value =>
        cases stamp : stampOf value <;>
          simp [write, store, stamp, Access.stamped?, Writing.accepted]
  case ascending =>
    intro ascending unclamped
    rw [read_windowed, kept_read_of_ascending ascending unclamped]

/-- A window of ten seconds over values that are their own seconds.  Zero has no timestamp and is
dropped, and the read in the middle takes nothing that the last read could return. -/
theorem windowed_contents_ascending :
    let stampOf := fun seconds : Nat => if seconds = 0 then none else some (Timestamp.of seconds 0)
    let history : List (Access Nat) :=
      [.write (some 100), .write (some 104), .read, .write (some 0), .write (some 112)]
    Ascending stampOf history ∧ Unclamped (.ofSeconds 10) stampOf history ∧
      (windowed (.ofSeconds 10) stampOf history).read.2 = [104, 112] := by
  intro stampOf history
  have stamped : accepted stampOf history =
      [(100, .of 100 0), (104, .of 104 0), (112, .of 112 0)] := by decide
  have ascending : Ascending stampOf history := by
    rw [Ascending, stamped]
    decide
  have unclamped : Unclamped (.ofSeconds 10) stampOf history := by
    intro entry mem
    simp only [stamped, List.mem_cons, List.not_mem_nil, or_false] at mem
    rcases mem with rfl | rfl | rfl
    · exact ⟨.of 90 0, by decide⟩
    · exact ⟨.of 94 0, by decide⟩
    · exact ⟨.of 102 0, by decide⟩
  have last := (windowed_contents (.ofSeconds 10) stampOf history).2.2.2.2 ascending unclamped
  exact ⟨ascending, unclamped, last.trans (by decide)⟩

/-- A late value is pruned by its own arrival where the window is negative, and so is everything
else. -/
example :
    (windowed (.ofNanos (-1)) (fun seconds : Nat => some (Timestamp.of seconds 0))
      [.write (some 5), .write (some 3)]).read.2 = [] := by decide

end Windowed

end Buffer

end Cadence
