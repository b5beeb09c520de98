import NbdAttach.SystemError

/-!
# Waiting for a file

The server is ready when its socket is there. The wait looks for it again and again, with pauses
between, until it is there, a look fails for another reason, or the time is used up.

At every look the file counts before the clock: a socket that appears at the last moment is still
found. The last pause is cut so that the last look is no later than the time allows.
-/

namespace NbdAttach

/-- What a wait needs: looks, a clock that counts from the start of the wait, and sleep. -/
structure Watch (σ : Type) where
  look : σ → Except IoError Unit × σ
  elapsed : σ → Nat × σ
  sleep : Nat → σ → σ

namespace Watch

variable {σ : Type}

/-- The pause after a look at which `elapsed` of the time was used up. -/
def pause (interval budget elapsed : Nat) : Nat :=
  min interval (budget - elapsed)

/-- Waits, with at most the given number of looks: was the file there in time? -/
def await (w : Watch σ) (interval budget : Nat) : σ → Nat → Option (Except IoError Bool × σ)
  | _, 0 => none
  | s, looks + 1 =>
    match w.look s with
    | (.ok (), s) => some (.ok true, s)
    | (.error e, s) =>
      if !e.isNotFound then some (.error e, s)
      else
        match w.elapsed s with
        | (elapsed, s) =>
          if budget ≤ elapsed then some (.ok false, s)
          else w.await interval budget (w.sleep (pause interval budget elapsed) s) looks

end Watch

end NbdAttach
