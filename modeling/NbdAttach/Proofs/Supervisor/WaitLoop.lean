import NbdAttach.Proofs.Adversary
import NbdAttach.SignalCell

/-!
# Signals during a wait

A wait for any child looks for a request, looks at the registry, and then asks the host to wait.
Signals arrive between any two of these steps, so the steps are taken apart here:

* `WaitStep` is one step of a wait, between two of its stations; `WaitSteps` are steps in a row.
  `waitSteps_iff_followWait` says that steps in a row are what `Session.followWait` does.
* `SignalledWait` puts the signal cell beside the wait, and `SignalledWait.Moves` lets a signal
  arrive at every station. The host's wait is cut short by a signal that arrives during it, and by
  no other.

A signal that arrives after the look for a request and before the host's wait is the one that the
wait misses: nobody looks for it again until the wait ends, and it does not end the wait. This is
the only way in which a wait can miss a request (`SignalledWait.overlooks_iff`).
-/

namespace NbdAttach

/-! ### The steps of a wait -/

/-- Where a wait stands between two steps. -/
inductive WaitStation
  /-- Outside: the wait has not begun. -/
  | away
  /-- About to look for a request. -/
  | polling
  /-- No request was there; about to look at the registry. -/
  | looking
  /-- Asleep, for there is no child to wait for. -/
  | idling
  /-- In the host's wait for any child. -/
  | blocked
  | returned (result : Except IoError WaitOutcome)

/-- Is the wait in the host's wait? -/
def WaitStation.isBlocked : WaitStation → Bool
  | .blocked => true
  | _ => false

/-- One step of a wait, with the event that it adds to the trace if it is a request to the host. -/
inductive WaitStep (blocks : Bool) :
    WaitStation → Registry → Option Event → WaitStation → Registry → Prop
  | take (r : Registry) (signal : Signal) :
    WaitStep blocks .polling r (some (.takePending (some signal)))
      (.returned (.ok .interrupted)) r
  | goOn (r : Registry) : WaitStep blocks .polling r (some (.takePending none)) .looking r
  | noneLeft {r : Registry} (hempty : r.pids = []) (hblocks : blocks = false) :
    WaitStep blocks .looking r none (.returned (.ok .noneLeft)) r
  | sleep {r : Registry} (hempty : r.pids = []) (hblocks : blocks = true) :
    WaitStep blocks .looking r none .idling r
  | wake (r : Registry) : WaitStep blocks .idling r (some .idle) .polling r
  | block {r : Registry} (hsome : r.pids ≠ []) : WaitStep blocks .looking r none .blocked r
  | failed (r : Registry) (cause : IoError) :
    WaitStep blocks .blocked r (some (.waitAny (.error cause))) (.returned (.error cause)) r
  | cutShort (r : Registry) :
    WaitStep blocks .blocked r (some (.waitAny (.ok .interrupted))) .polling r
  | untracked {r : Registry} {pid : Pid} (hpid : pid ∉ r.pids) :
    WaitStep blocks .blocked r (some (.waitAny (.ok (.child pid)))) .polling r
  | exited {r : Registry} {pid : Pid} (hpid : pid ∈ r.pids) :
    WaitStep blocks .blocked r (some (.waitAny (.ok (.child pid))))
      (.returned (.ok (.exited pid))) (r.erase pid)

/-- Steps in a row, with the events that they add. -/
inductive WaitSteps (blocks : Bool) :
    WaitStation → Registry → List Event → WaitStation → Registry → Prop
  | refl (station : WaitStation) (r : Registry) : WaitSteps blocks station r [] station r
  | head {station station₁ station' : WaitStation} {r r₁ r' : Registry} {e : Option Event}
      {es : List Event} (hstep : WaitStep blocks station r e station₁ r₁)
      (hrest : WaitSteps blocks station₁ r₁ es station' r') :
    WaitSteps blocks station r (e.toList ++ es) station' r'

/-- What the events that are still to come have to do with the calls of the wait: those before are
known from the station. -/
def WaitStation.Completes (blocks : Bool) (r : Registry) (es : List Event)
    (result : Except IoError WaitOutcome) (r' : Registry) : WaitStation → Prop
  | .away => False
  | .polling => WaitCalls blocks r es (some result) r'
  | .looking => WaitCalls blocks r (.takePending none :: es) (some result) r'
  | .idling => r.pids = [] → blocks = true →
      WaitCalls blocks r (.takePending none :: es) (some result) r'
  | .blocked => r.pids ≠ [] → WaitCalls blocks r (.takePending none :: es) (some result) r'
  | .returned result' => es = [] ∧ result' = result ∧ r = r'

/-- One step at the front of the calls. -/
theorem WaitStep.completes {blocks : Bool} {station station₁ : WaitStation} {r r₁ r' : Registry}
    {e : Option Event} {es : List Event} {result : Except IoError WaitOutcome}
    (hstep : WaitStep blocks station r e station₁ r₁)
    (hrest : station₁.Completes blocks r₁ es result r') :
    station.Completes blocks r (e.toList ++ es) result r' := by
  cases hstep with
  | take _ signal =>
    obtain ⟨rfl, rfl, rfl⟩ := hrest
    exact .interrupted _ signal
  | goOn => exact hrest
  | noneLeft hempty hblocks =>
    obtain ⟨rfl, rfl, rfl⟩ := hrest
    exact .noneLeft hempty hblocks
  | sleep hempty hblocks => exact hrest hempty hblocks
  | wake =>
    intro hempty hblocks
    exact .idle hempty hblocks hrest
  | block hsome => exact hrest hsome
  | failed _ cause =>
    obtain ⟨rfl, rfl, rfl⟩ := hrest
    intro hsome
    exact .failed hsome cause
  | cutShort =>
    intro hsome
    exact .cutShort hsome hrest
  | untracked hpid =>
    intro hsome
    exact .untracked hsome hpid hrest
  | exited hpid =>
    obtain ⟨rfl, rfl, rfl⟩ := hrest
    intro _
    exact .exited hpid

/-- Steps to the end of a wait complete its calls from wherever they begin. -/
theorem WaitSteps.completes {blocks : Bool} {station station' : WaitStation} {r r' : Registry}
    {es : List Event} {result : Except IoError WaitOutcome}
    (hsteps : WaitSteps blocks station r es station' r') (hstation : station' = .returned result) :
    station.Completes blocks r es result r' := by
  -- backwards from the end, where no events are to come any more
  induction hsteps with
  | refl =>
    rw [hstation]
    exact ⟨rfl, rfl, rfl⟩
  | head hstep _ ih => exact hstep.completes (ih hstation)

/-- The calls of a wait, taken apart into steps. -/
theorem WaitCalls.steps {blocks : Bool} {r r' : Registry} {es : List Event}
    {result? : Option (Except IoError WaitOutcome)} {result : Except IoError WaitOutcome}
    (hcalls : WaitCalls blocks r es result? r') (hresult : result? = some result) :
    WaitSteps blocks .polling r es (.returned result) r' := by
  induction hcalls with
  -- a wait that has not returned has no result
  | goesOn => cases hresult
  | interrupted signal =>
    cases hresult
    exact .head (.take _ signal) (.refl _ _)
  | noneLeft hempty hblocks =>
    cases hresult
    exact .head (.goOn _) (.head (.noneLeft hempty hblocks) (.refl _ _))
  | idle hempty hblocks _ ih =>
    exact .head (.goOn _) (.head (.sleep hempty hblocks) (.head (.wake _) (ih hresult)))
  | failed hsome cause =>
    cases hresult
    exact .head (.goOn _) (.head (.block hsome) (.head (.failed _ cause) (.refl _ _)))
  | cutShort hsome _ ih =>
    exact .head (.goOn _) (.head (.block hsome) (.head (.cutShort _) (ih hresult)))
  | untracked hsome hpid _ ih =>
    exact .head (.goOn _) (.head (.block hsome) (.head (.untracked hpid) (ih hresult)))
  | exited hpid =>
    cases hresult
    exact .head (.goOn _) (.head (.block (List.ne_nil_of_mem hpid))
      (.head (.exited hpid) (.refl _ _)))

/-- **The steps are those of the wait.** Steps in a row lead from the begin of a wait to its end
exactly where some host makes `followWait` do the same. -/
theorem waitSteps_iff_followWait {blocks : Bool} {r r' : Registry} {es : List Event}
    {result : Except IoError WaitOutcome} :
    WaitSteps blocks .polling r es (.returned result) r' ↔
      ∃ (σ : Type) (h : Host σ) (s s' : Session σ) (rounds : Nat), s.registry = r ∧
        s.followWait h blocks rounds = ⟨some result, s'⟩ ∧ s.Leads es s' ∧ s'.registry = r' := by
  constructor
  · intro hsteps
    have hcalls : WaitCalls blocks r es (some result) r' := hsteps.completes rfl
    -- the adversary plays the events of the steps
    let s : Session (List Event) := { host := es, registry := r }
    have hhost : s.host = es ++ [] := (List.append_nil es).symm
    obtain ⟨rounds, s', hfollow, hleads, hregistry, -⟩ := hcalls.happens rfl hhost
    exact ⟨_, .adversary, s, s', rounds, rfl, hfollow, hleads, hregistry⟩
  · rintro ⟨σ, h, s, s', rounds, rfl, hfollow, hleads, rfl⟩
    obtain ⟨es', hleads', hcalls⟩ := Session.followWait_follows h blocks s rounds
    rw [hfollow] at hleads' hcalls
    -- both lists are what the trace has gained
    obtain rfl : es' = es := List.append_cancel_left (hleads'.trace.symm.trans hleads.trace)
    exact hcalls.steps rfl

/-! ### Signals between the steps -/

/-- A wait, beside the cell that the signal handler writes to. -/
structure SignalledWait where
  station : WaitStation := .away
  blocks : Bool := false
  registry : Registry := {}
  cell : SignalCell := {}
  /-- Has a signal arrived while the host waits? Only then may it answer that it was cut short. -/
  cut : Bool := false

/-- What happens next. -/
inductive Move
  /-- A signal arrives, and the handler notes it. -/
  | signal (number : Signal)
  /-- The wait takes a step. -/
  | step (e : Option Event)
  /-- A new wait begins, whatever was done with the registry since the last. -/
  | call (blocks : Bool) (r : Registry)

namespace Move

def isSignal : Move → Bool
  | .signal _ => true
  | _ => false

/-- Does the wait look for a request? -/
def isPoll : Move → Bool
  | .step (some (.takePending _)) => true
  | _ => false

theorem eq_signal {m : Move} (hm : m.isSignal = true) : ∃ number, m = .signal number := by
  cases m with
  | signal number => exact ⟨number, rfl⟩
  | _ => cases hm

end Move

namespace SignalledWait

/-- May the cell and the host give the answer that stands in the event, and what is in the cell
afterwards? A look for a request takes it. -/
def Answers (w : SignalledWait) : Option Event → SignalCell → Prop
  | some (.takePending answer), cell => w.cell.take = (answer, cell)
  | some (.waitAny (.ok .interrupted)), cell => w.cut = true ∧ cell = w.cell
  | _, cell => cell = w.cell

/-- A wait does what happens next. -/
inductive Moves : SignalledWait → Move → SignalledWait → Prop
  | signal (w : SignalledWait) (number : Signal) :
    Moves w (.signal number) { w with
      cell := w.cell.record number
      cut := w.cut || w.station.isBlocked }
  | step {w : SignalledWait} {e : Option Event} {station : WaitStation} {r : Registry}
      {cell : SignalCell} (hstep : WaitStep w.blocks w.station w.registry e station r)
      (hanswer : w.Answers e cell) :
    Moves w (.step e) { w with station, registry := r, cell, cut := false }
  | call {w : SignalledWait} (hstation : w.station = .away ∨ ∃ result, w.station = .returned result)
      (blocks : Bool) (r : Registry) :
    Moves w (.call blocks r) { w with station := .polling, blocks, registry := r }

/-- What a new supervisor and its signal cell can come to, with all that happened on the way. -/
inductive Reaches : List Move → SignalledWait → Prop
  | new : Reaches [] {}
  | next {ms : List Move} {m : Move} {w w' : SignalledWait} (hreach : Reaches ms w)
      (hmove : Moves w m w') : Reaches (ms ++ [m]) w'

/-- The request that arrived as one of the moves was there when the wait in which the host now is
began, and it still is: no look for a request came after it, and since the begin of the wait there
were signals only. -/
def Overlooks (ms : List Move) : Prop :=
  ∃ (before : List Move) (number : Signal) (between since : List Move),
    ms = before ++ .signal number :: (between ++ .step none :: since) ∧
    (∀ m ∈ between, m.isPoll = false) ∧ ∀ m ∈ since, m.isSignal = true

/-! ### Which requests a wait overlooks -/

/-- What the moves say about a wait that looks at the registry, or in which the host waits. `gap`
are the signals since it looked for a request, and `since` those since the host's wait began. -/
def Recent (w : SignalledWait) (ms : List Move) : Prop :=
  match w.station with
  | .looking => ∃ before gap : List Move, ms = before ++ .step (some (.takePending none)) :: gap ∧
      (∀ m ∈ gap, m.isSignal = true) ∧ (w.cell.pending = true ↔ gap ≠ [])
  | .blocked => ∃ before gap since : List Move,
      ms = before ++ .step (some (.takePending none)) :: (gap ++ .step none :: since) ∧
      (∀ m ∈ gap, m.isSignal = true) ∧ (∀ m ∈ since, m.isSignal = true) ∧
      (w.cell.pending = true ↔ gap ≠ [] ∨ since ≠ []) ∧ (w.cut = true ↔ since ≠ [])
  | _ => True

/-- **Invariant preservation.** A signal is added to the last part of the history; a look that finds
no request, and the begin of the host's wait, open a new part. -/
theorem Recent.move {w w' : SignalledWait} {m : Move} {ms : List Move} (hw : Recent w ms)
    (hmove : Moves w m w') : Recent w' (ms ++ [m]) := by
  cases hmove with
  | signal number =>
    obtain ⟨station, blocks, registry, cell, cut⟩ := w
    cases station with
    | looking =>
      obtain ⟨before, gap, rfl, hgap, -⟩ := hw
      refine ⟨before, gap ++ [.signal number], by simp, ?_, by simp [SignalCell.record]⟩
      simpa [or_imp, forall_and, Move.isSignal] using hgap
    | blocked =>
      obtain ⟨before, gap, since, rfl, hgap, hsince, -, -⟩ := hw
      refine ⟨before, gap, since ++ [.signal number], by simp, hgap, ?_,
        by simp [SignalCell.record], by simp [WaitStation.isBlocked]⟩
      simpa [or_imp, forall_and, Move.isSignal] using hsince
    -- at the other stations the invariant says nothing
    | _ => exact trivial
  | @step e station r cell hstep hanswer =>
    obtain ⟨station, blocks, registry, cell₀, cut⟩ := w
    cases hstep with
    | goOn =>
      -- the gap begins here
      have hpending : cell.pending = false := SignalCell.pending_of_take hanswer
      exact ⟨ms, [], rfl, by simp, by simp [hpending]⟩
    | block hsome =>
      -- the gap ends here, and nothing has arrived since
      obtain ⟨before, gap, rfl, hgap, hpending⟩ := hw
      obtain rfl : cell = cell₀ := hanswer
      exact ⟨before, gap, [], by simp, hgap, by simp, by simpa using hpending, by simp⟩
    | _ => exact trivial
  | call hstation blocks r => exact trivial

/-- What the moves say holds in every state that can be reached. -/
theorem recent_of_reaches {w : SignalledWait} {ms : List Move} (hreach : Reaches ms w) :
    Recent w ms := by
  induction hreach with
  | new => exact trivial
  | next _ hmove ih => exact ih.move hmove

/-- Two ways to split a history at its last move that is no signal. -/
private theorem append_step_inj {before before' since since' : List Move}
    (heq : before ++ .step none :: since = before' ++ .step none :: since')
    (hsince : ∀ m ∈ since, m.isSignal = true) (hsince' : ∀ m ∈ since', m.isSignal = true) :
    before = before' := by
  rcases List.append_eq_append_iff.mp heq with ⟨mid, rfl, hmid⟩ | ⟨mid, rfl, hmid⟩
  · cases mid with
    | nil => exact (List.append_nil _).symm
    | cons m mid =>
      obtain ⟨-, rfl⟩ := List.cons.inj hmid
      have hstep := hsince (.step none) (by simp)
      cases hstep
  · cases mid with
    | nil => exact List.append_nil _
    | cons m mid =>
      obtain ⟨-, rfl⟩ := List.cons.inj hmid
      have hstep := hsince' (.step none) (by simp)
      cases hstep

/-- **The gap.** In every state in which the host waits, the last look for a request found none, and
then came a gap of signals, the begin of the host's wait, and the signals since. The wait overlooks
a request if and only if there is a signal in the gap. A request is pending if there is a signal in
one of the two parts, but the host's wait is cut short only by one of the later ones. -/
theorem overlooks_iff {w : SignalledWait} {ms : List Move} (hreach : Reaches ms w)
    (hblocked : w.station = .blocked) :
    ∃ before gap since : List Move,
      ms = before ++ .step (some (.takePending none)) :: (gap ++ .step none :: since) ∧
      (∀ m ∈ gap, m.isSignal = true) ∧ (∀ m ∈ since, m.isSignal = true) ∧
      (Overlooks ms ↔ gap ≠ []) ∧
      (w.cell.pending = true ↔ gap ≠ [] ∨ since ≠ []) ∧ (w.cut = true ↔ since ≠ []) := by
  have hrecent := recent_of_reaches hreach
  rw [Recent, hblocked] at hrecent
  obtain ⟨before, gap, since, rfl, hgap, hsince, hpending, hcut⟩ := hrecent
  refine ⟨before, gap, since, rfl, hgap, hsince, ⟨?_, ?_⟩, hpending, hcut⟩
  · rintro ⟨before', number, between, since', heq, hbetween, hsince'⟩ rfl
    -- the last look for a request would come after the signal
    have hlast : before ++ [.step (some (.takePending none))] =
        before' ++ .signal number :: between :=
      append_step_inj (by simpa using heq) hsince hsince'
    have hpoll : .step (some (.takePending none)) ∈ Move.signal number :: between := by
      refine List.mem_of_getLast? ?_
      have hgetLast := congrArg List.getLast? hlast
      rw [List.getLast?_append_cons, List.getLast?_append_cons] at hgetLast
      exact hgetLast.symm
    rcases List.mem_cons.mp hpoll with hsignal | hmem
    · cases hsignal
    · cases hbetween _ hmem
  · -- the first signal of the gap is overlooked
    intro hne
    obtain ⟨m, gap', rfl⟩ := List.exists_cons_of_ne_nil hne
    obtain ⟨number, rfl⟩ := Move.eq_signal (hgap m (by simp))
    refine ⟨before ++ [.step (some (.takePending none))], number, gap', since, by simp, ?_, hsince⟩
    intro m hm
    obtain ⟨number', rfl⟩ := Move.eq_signal (hgap m (by simp [hm]))
    rfl

/-! ### A lost request -/

/-- A wait for the child 100 looks for a request, then signal 15 arrives, then the host's wait
begins. -/
def lostMoves : List Move :=
  [.call false ⟨[100]⟩, .step (some (.takePending none)), .signal 15, .step none]

/-- What they lead to: the request is pending, and the host's wait is not cut short. -/
def lostWait : SignalledWait where
  station := .blocked
  registry := ⟨[100]⟩
  cell := ⟨true, 15⟩

/-- The state is one that can be reached. -/
theorem reaches_lostWait : Reaches lostMoves lostWait := by
  -- one move at a time
  have hcalled := Reaches.next .new (.call (Or.inl rfl) false ⟨[100]⟩)
  have hpolled := Reaches.next hcalled (.step (.goOn _) rfl)
  have hsignalled := Reaches.next hpolled (.signal _ 15)
  have hblocked := Reaches.next hsignalled (.step (.block (by simp)) rfl)
  exact hblocked

/-- In this state the gap is one signal long, and nothing has arrived since. -/
theorem lostWait_overlooks_iff :
    Reaches lostMoves lostWait ∧ lostWait.station = .blocked ∧
      ∃ before gap since : List Move,
        lostMoves = before ++ .step (some (.takePending none)) :: (gap ++ .step none :: since) ∧
        (∀ m ∈ gap, m.isSignal = true) ∧ (∀ m ∈ since, m.isSignal = true) ∧
        (Overlooks lostMoves ↔ gap ≠ []) ∧
        (lostWait.cell.pending = true ↔ gap ≠ [] ∨ since ≠ []) ∧
        (lostWait.cut = true ↔ since ≠ []) :=
  ⟨reaches_lostWait, rfl, overlooks_iff reaches_lostWait rfl⟩

/-- There are waits that overlook a request. -/
theorem not_forall_not_overlooks :
    ¬∀ ms w, Reaches ms w → w.station = .blocked → ¬Overlooks ms := by
  intro hnever
  refine hnever lostMoves lostWait reaches_lostWait rfl ?_
  exact ⟨[.call false ⟨[100]⟩, .step (some (.takePending none))], 15, [], [], rfl, by simp, by simp⟩

end SignalledWait

end NbdAttach
