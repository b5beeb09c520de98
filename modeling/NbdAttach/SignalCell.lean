import NbdAttach.Process

/-!
# The signal cell

Signals that ask a run to end arrive at any moment; all that is done at that moment is to note the
number and to set a flag. The run looks at the flag when it suits it. Several signals before a look
count as one request, which carries the number of the last.
-/

namespace NbdAttach

/-- The one place where a signal is kept until the run looks for it. -/
structure SignalCell where
  pending : Bool := false
  /-- The number of the last signal. -/
  last : Signal := 0
deriving DecidableEq, Repr, Inhabited

namespace SignalCell

/-- A signal arrives. -/
def record (_ : SignalCell) (signal : Signal) : SignalCell :=
  ⟨true, signal⟩

/-- The run looks for a request, and takes it. -/
def take (cell : SignalCell) : Option Signal × SignalCell :=
  if cell.pending then (some cell.last, { cell with pending := false }) else (none, cell)

theorem take_record (cell : SignalCell) (signal : Signal) :
    (cell.record signal).take = (some signal, ⟨false, signal⟩) := rfl

theorem take_take (cell : SignalCell) : cell.take.2.take = (none, cell.take.2) := by
  obtain ⟨pending, last⟩ := cell
  cases pending <;> rfl

/-- After a look nothing is pending. -/
theorem pending_of_take {cell cell' : SignalCell} {answer : Option Signal}
    (htake : cell.take = (answer, cell')) : cell'.pending = false := by
  unfold take at htake
  split at htake
  · rw [← (Prod.mk.inj htake).2]
  · next hpending =>
    rw [← (Prod.mk.inj htake).2]
    exact Bool.eq_false_iff.mpr hpending

end SignalCell

end NbdAttach
