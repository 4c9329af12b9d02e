import Cadence.Pacer.Basic

/-!
# Quiet cycles

A cycle is quiet as long as no signal has arrived since it started.  Every cycle starts quiet, and a
quiet cycle asks for no other when it ends, whether it is skipped or readied.
-/

set_option autoImplicit false

namespace Cadence.Pacer

theorem finish_of_quiet (p : Pacer) (now : Nat) (quiet : p.eventWhileBusy = false) :
    (p.finish now).2 = .ignored ∨ (p.finish now).2 = .idle := by
  unfold finish
  simp only [quiet]
  split
  · exact .inl rfl
  · exact .inr rfl

theorem begin_quiet {p : Pacer} {cycle now : Nat} {snapshot : Snapshot}
    (started : (p.begin cycle now).2 = some snapshot) :
    (p.begin cycle now).1.eventWhileBusy = false ∧
      (p.begin cycle now).1.phase = .inFlight cycle false := by
  unfold begin at *
  split at started
  · simp at started
  · rename_i isOpen
    rw [if_neg isOpen]
    split at started
    · rename_i scheduled
      rw [if_pos scheduled]
      exact ⟨rfl, rfl⟩
    · simp at started

theorem skip_of_quiet (p : Pacer) (cycle now : Nat) (quiet : p.eventWhileBusy = false) :
    (p.skip cycle now).2 = .ignored ∨ (p.skip cycle now).2 = .idle := by
  unfold skip
  split
  · split
    · exact p.finish_of_quiet now quiet
    · exact .inr rfl
  · exact .inr rfl

theorem eventWhileBusy_markDispatched (p : Pacer) (cycle : Nat) :
    (p.markDispatched cycle).1.eventWhileBusy = p.eventWhileBusy := by
  unfold markDispatched
  split
  · split <;> rfl
  · rfl

theorem ready_of_quiet {p : Pacer} {cycle now : Nat} {transition : Transition}
    (quiet : p.eventWhileBusy = false) (done : (p.ready cycle now).2 = .ok transition) :
    transition = .ignored ∨ transition = .idle := by
  unfold ready at done
  split at done
  · simp at done
  · split at done <;> simp at done
  · split at done
    · split at done
      · have same := p.finish_of_quiet now quiet
        simp only [Except.ok.injEq] at done
        exact done ▸ same
      · simp at done
    · simp at done

end Cadence.Pacer
