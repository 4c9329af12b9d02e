import Cadence.Proofs.Pacer.Spacing

/-!
# The connections of a source

A source is read on one side and written on the other, and each side is connected or not.  A pacer
keeps the flag of each side apart from the kinds that are pending.  An open pacer has the flags that
were signalled last, and one of them changes only together with the kind that tells of it, until a
cycle takes what is pending.
-/

set_option autoImplicit false

namespace Cadence

inductive Side
  | read
  | write

namespace Side

def kind : Side → EventKind
  | read => .readConnection
  | write => .writeConnection

def connected : Side → Snapshot → Bool
  | read, snapshot => snapshot.readConnected
  | write, snapshot => snapshot.writeConnected

def told? : Side → Signal → Option Bool
  | read, s => s.readConnection?
  | write, s => s.writeConnection?

def flag : Side → List Signal → Bool
  | read, signals => Signal.readFlag signals
  | write, signals => Signal.writeFlag signals

theorem flag_eq (side : Side) (signals : List Signal) :
    side.flag signals = (signals.filterMap side.told?).getLast?.getD false := by
  cases side <;> rfl

theorem kind_ne_value (side : Side) : side.kind ≠ .value := by
  cases side <;> exact EventKind.noConfusion

end Side

namespace Pacer

def Operation.told? (side : Side) : Operation → Option Bool
  | signal s _ => side.told? s
  | _ => none

/-- The snapshot of an open pacer changes when a signal is recorded and when a cycle starts. -/
theorem snapshot_step {p : Pacer} {op : Operation} (stillOpen : (p.step op).1.closed = false) :
    (∃ s now, op = .signal s now ∧ (p.step op).1.snapshot = (p.record s).snapshot) ∨
    (∃ cycle now, op = .begin cycle now ∧
      (p.step op).1.snapshot = (p.started cycle now).snapshot) ∨
    ((∀ s now, op ≠ .signal s now) ∧ (p.step op).1.snapshot = p.snapshot) := by
  obtain ⟨isOpen, other⟩ := open_of_step stillOpen
  cases op with
  | signal s now =>
      refine .inl ⟨s, now, rfl, ?_⟩
      rcases p.signal_cases s now with ⟨isClosed, _⟩ | ⟨_, _, _, h⟩ | ⟨_, _, _, h⟩ | ⟨_, _, h⟩
      · rw [isOpen] at isClosed
        cases isClosed
      all_goals exact congrArg (fun moved => moved.1.snapshot) h
  | begin cycle now =>
      rcases p.begin_cases cycle now with ⟨isClosed, _⟩ | ⟨_, _, h⟩ | ⟨_, _, h⟩
      · rw [isOpen] at isClosed
        cases isClosed
      · exact .inr (.inl ⟨cycle, now, rfl, by simp only [step, h]⟩)
      · exact .inr (.inr ⟨fun _ _ => Operation.noConfusion, by simp only [step, h]⟩)
  | markDispatched cycle =>
      refine .inr (.inr ⟨fun _ _ => Operation.noConfusion, ?_⟩)
      rcases p.markDispatched_cases cycle with ⟨_, _, h⟩ | ⟨_, h⟩ <;>
        exact congrArg (fun marked => marked.1.snapshot) h
  | ready cycle now =>
      refine .inr (.inr ⟨fun _ _ => Operation.noConfusion, ?_⟩)
      rcases p.ready_cases cycle now with ⟨_, h⟩ | ⟨_, _, h⟩ <;>
        simp only [step, h, snapshot_finish]
  | skip cycle now =>
      refine .inr (.inr ⟨fun _ _ => Operation.noConfusion, ?_⟩)
      rcases p.skip_cases cycle now with ⟨_, _, h⟩ | ⟨_, h⟩ <;>
        simp only [step, h, snapshot_finish]
  | pause => exact .inr (.inr ⟨fun _ _ => Operation.noConfusion, rfl⟩)
  | resume now =>
      refine .inr (.inr ⟨fun _ _ => Operation.noConfusion, ?_⟩)
      rcases p.resume_cases now with ⟨_, h⟩ | ⟨_, _, _, h⟩ | ⟨_, _, h⟩ <;>
        exact congrArg (fun resumed => resumed.1.snapshot) h
  | close => exact absurd rfl other

theorem connected_record (side : Side) (p : Pacer) (s : Signal) :
    side.connected (p.record s).snapshot = (side.told? s).getD (side.connected p.snapshot) := by
  cases side with
  | read => exact readConnected_record p s
  | write => exact writeConnected_record p s

/-- A signal that leaves the kind of the side unrecorded says nothing new of the side. -/
theorem connected_of_unrecorded {side : Side} {p : Pacer} {s : Signal}
    (unrecorded : (p.record s).pending.has side.kind = false) :
    side.connected (p.record s).snapshot = side.connected p.snapshot := by
  have changes : ∀ connected, side.told? s = some connected →
      connected = side.connected p.snapshot := by
    intro connected told
    by_contra differs
    cases side with
    | read =>
        cases s with
        | readConnection flag =>
            obtain rfl : flag = connected := Option.some.inj told
            have new : ¬ p.readConnected = flag := fun same => differs same.symm
            simp [record, new, Side.kind] at unrecorded
        | _ => cases told
    | write =>
        cases s with
        | writeConnection flag =>
            obtain rfl : flag = connected := Option.some.inj told
            have new : ¬ p.writeConnected = flag := fun same => differs same.symm
            simp [record, new, Side.kind] at unrecorded
        | _ => cases told
  rw [connected_record]
  cases told : side.told? s with
  | none => rfl
  | some connected => exact changes connected told

/-- The flag of an open pacer is the last one that it was told, if it was told one. -/
theorem connected_after (side : Side) {p : Pacer} {ops : List Operation}
    (stillOpen : (p.after ops).closed = false) :
    side.connected (p.after ops).snapshot =
      (ops.filterMap (Operation.told? side)).getLast?.getD (side.connected p.snapshot) := by
  induction ops generalizing p with
  | nil => rfl
  | cons op rest ih =>
      have first : side.connected (p.step op).1.snapshot =
          (op.told? side).getD (side.connected p.snapshot) := by
        rcases snapshot_step (open_of_after stillOpen) with
          ⟨s, now, rfl, same⟩ | ⟨cycle, now, rfl, same⟩ | ⟨other, same⟩
        · rw [same]
          exact connected_record side p s
        · rw [same]
          cases side <;> rfl
        · rw [same]
          cases op with
          | signal s now => exact absurd rfl (other s now)
          | _ => rfl
      rw [after, ih stillOpen, first]
      cases told : op.told? side with
      | none => rw [List.filterMap_cons_none told, Option.getD_none]
      | some connected =>
          rw [List.filterMap_cons_some told, List.getLast?_cons, Option.getD_some,
            Option.getD_some]

/-- As long as no cycle starts, a flag changes only if the kind of its side is pending. -/
theorem connected_of_not_pending {side : Side} {p : Pacer} {ops : List Operation}
    (noStart : ∀ op ∈ ops, op.begins? = none) (stillOpen : (p.after ops).closed = false)
    (quiet : (p.after ops).pending.has side.kind = false) :
    p.pending.has side.kind = false ∧
      side.connected (p.after ops).snapshot = side.connected p.snapshot := by
  induction ops generalizing p with
  | nil => exact ⟨quiet, rfl⟩
  | cons op rest ih =>
      obtain ⟨then_quiet, then_same⟩ := ih (fun later member =>
        noStart later (List.mem_cons_of_mem op member)) stillOpen quiet
      rcases snapshot_step (open_of_after stillOpen) with
        ⟨s, now, rfl, same⟩ | ⟨cycle, now, rfl, _⟩ | ⟨_, same⟩
      · have pending : (p.step (.signal s now)).1.pending = (p.record s).pending :=
          congrArg Snapshot.kinds same
        rw [pending] at then_quiet
        refine ⟨?_, ?_⟩
        · by_contra has
          rw [pending_record (Bool.not_eq_false _ ▸ has) s] at then_quiet
          cases then_quiet
        · rw [after, then_same, same]
          exact connected_of_unrecorded then_quiet
      · cases noStart _ List.mem_cons_self
      · have pending : (p.step op).1.pending = p.pending := congrArg Snapshot.kinds same
        rw [pending] at then_quiet
        refine ⟨then_quiet, ?_⟩
        rw [after, then_same, same]

end Pacer

end Cadence
