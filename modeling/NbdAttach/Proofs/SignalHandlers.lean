import Mathlib
import NbdAttach.SignalCell

/-!
# Handlers of signals

The handler of a signal interrupts whatever runs: the reader of the signal cell, or another handler.
So `SignalCell.record` and `SignalCell.take` are taken apart here into the steps that nothing can
interrupt. A handler stores its number and then sets the flag; the reader takes the flag, and loads
the number if the flag was set.

* `SharedCell` is the cell with the handlers in progress and the reader, and `SharedCell.Moves` is
  one step of one of them. The innermost handler goes on first, and the reader when there is none.
* `SharedCell.IsTake` says which moves are one take, with the handlers that run before its two
  steps.
* `SharedCell.Account` is what the moves so far say about the state. It is kept by every move
  (`Account.move`), and counts them: a request that is taken was set by a handler, and that handler
  had stored its number.

The order of the steps carries this. When the flag is set the number is there already, and when the
number is loaded the flag has been taken back, so a signal that comes in between is found by the
next take.
-/

namespace NbdAttach

/-! ### The steps -/

namespace SignalCell

/-- The number of a signal is noted. -/
def store (cell : SignalCell) (signal : Signal) : SignalCell :=
  { cell with last := signal }

/-- The flag is set. -/
def raise (cell : SignalCell) : SignalCell :=
  { cell with pending := true }

/-- The flag is taken back. -/
def lower (cell : SignalCell) : SignalCell :=
  { cell with pending := false }

@[simp] theorem pending_store (cell : SignalCell) (signal : Signal) :
    (cell.store signal).pending = cell.pending := rfl

@[simp] theorem last_store (cell : SignalCell) (signal : Signal) :
    (cell.store signal).last = signal := rfl

@[simp] theorem pending_raise (cell : SignalCell) : cell.raise.pending = true := rfl

@[simp] theorem last_raise (cell : SignalCell) : cell.raise.last = cell.last := rfl

@[simp] theorem pending_lower (cell : SignalCell) : cell.lower.pending = false := rfl

@[simp] theorem last_lower (cell : SignalCell) : cell.lower.last = cell.last := rfl

/-- To record a signal is to store its number and to set the flag, in this order. -/
theorem record_eq (cell : SignalCell) (signal : Signal) :
    cell.record signal = (cell.store signal).raise := rfl

/-- To take is to take the flag back, and to load the number if it was set. -/
theorem take_eq (cell : SignalCell) :
    cell.take = (if cell.pending then some cell.lower.last else none, cell.lower) := by
  obtain ⟨pending, last⟩ := cell
  cases pending <;> rfl

end SignalCell

/-- The signals that have a handler: a hang-up, an interrupt, a quit and a request to terminate. -/
def handledSignals : List Signal :=
  [1, 2, 3, 15]

/-- No signal has the number that stands in a new cell. -/
theorem ne_zero_of_handled {signal : Signal} (hsignal : signal ∈ handledSignals) : signal ≠ 0 := by
  rintro rfl
  revert hsignal
  decide

/-- A handler that has begun. -/
structure Handler where
  signal : Signal
  /-- Is its number noted? -/
  stored : Bool := false

/-- The signal cell between its handlers and its reader. -/
structure SharedCell where
  cell : SignalCell := {}
  /-- The handlers in progress; each has interrupted the one behind it. -/
  handlers : List Handler := []
  /-- Has the reader found the flag set, and the number still to load? -/
  loading : Bool := false

/-- What happens next to the cell. -/
inductive CellMove
  /-- A signal arrives, and its handler begins. -/
  | enter (signal : Signal)
  /-- The innermost handler stores its number. -/
  | store (signal : Signal)
  /-- The innermost handler sets the flag, and is done. -/
  | raise
  /-- The reader takes the flag. If it was not set, the take is over. -/
  | swap (found : Bool)
  /-- The reader loads the number, and the take is over. -/
  | load (signal : Signal)
deriving DecidableEq

namespace CellMove

def isEnter : CellMove → Bool
  | .enter _ => true
  | _ => false

def isSwap : CellMove → Bool
  | .swap _ => true
  | _ => false

def isLoad : CellMove → Bool
  | .load _ => true
  | _ => false

def isStore : CellMove → Bool
  | .store _ => true
  | _ => false

/-- Is it the move of a handler? -/
def isHandler : CellMove → Bool
  | .enter _ | .store _ | .raise => true
  | .swap _ | .load _ => false

def stored? : CellMove → Option Signal
  | .store signal => some signal
  | _ => none

/-- What a take returns with this move. -/
def answer? : CellMove → Option (Option Signal)
  | .swap false => some none
  | .load signal => some (some signal)
  | _ => none

end CellMove

namespace SharedCell

/-! ### Moves and runs -/

/-- What the takes have returned. -/
def answers (ms : List CellMove) : List (Option Signal) :=
  ms.filterMap CellMove.answer?

/-- The number that was stored last. -/
def lastStored (ms : List CellMove) : Option Signal :=
  (ms.filterMap CellMove.stored?).getLast?

/-- A handler has set the flag, and no take has found it set since. -/
def Raised (ms : List CellMove) : Prop :=
  ∃ before since, ms = before ++ .raise :: since ∧ .swap true ∉ since

/-- The moves of one take, with what it returns. Handlers may run before each of its two steps. -/
inductive IsTake : List CellMove → Option Signal → Prop
  | nothing {early : List CellMove} (hearly : ∀ m ∈ early, m.isHandler = true) :
    IsTake (early ++ [.swap false]) none
  | request {early late : List CellMove} (hearly : ∀ m ∈ early, m.isHandler = true)
      (hlate : ∀ m ∈ late, m.isHandler = true) (signal : Signal) :
    IsTake (early ++ .swap true :: (late ++ [.load signal])) (some signal)

/-- One step of a handler or of the reader. -/
inductive Moves : SharedCell → CellMove → SharedCell → Prop
  | enter (b : SharedCell) {signal : Signal} (hsignal : signal ∈ handledSignals) :
    Moves b (.enter signal) { b with handlers := { signal } :: b.handlers }
  | store {b : SharedCell} {signal : Signal} {outer : List Handler}
      (hinner : b.handlers = { signal } :: outer) :
    Moves b (.store signal) { b with
      cell := b.cell.store signal
      handlers := { signal, stored := true } :: outer }
  | raise {b : SharedCell} {signal : Signal} {outer : List Handler}
      (hinner : b.handlers = { signal, stored := true } :: outer) :
    Moves b .raise { b with cell := b.cell.raise, handlers := outer }
  | swap {b : SharedCell} {found : Bool} (hnone : b.handlers = []) (hloading : b.loading = false)
      (hfound : b.cell.pending = found) :
    Moves b (.swap found) { b with cell := b.cell.lower, loading := found }
  | load {b : SharedCell} {signal : Signal} (hnone : b.handlers = []) (hloading : b.loading = true)
      (hlast : b.cell.last = signal) :
    Moves b (.load signal) { b with loading := false }

/-- Moves in a row. -/
inductive Runs : SharedCell → List CellMove → SharedCell → Prop
  | refl (b : SharedCell) : Runs b [] b
  | head {b b₁ b' : SharedCell} {m : CellMove} {ms : List CellMove} (hmove : Moves b m b₁)
      (hrest : Runs b₁ ms b') : Runs b (m :: ms) b'

section Runs

variable {b b₁ b' : SharedCell} {m : CellMove} {ms ms' : List CellMove}

theorem runs_nil_iff : Runs b [] b' ↔ b' = b := by
  constructor
  · rintro ⟨⟩
    rfl
  · rintro rfl
    exact .refl _

theorem runs_cons_iff : Runs b (m :: ms) b' ↔ ∃ b₁, Moves b m b₁ ∧ Runs b₁ ms b' := by
  constructor
  · rintro (_ | ⟨hmove, hrest⟩)
    exact ⟨_, hmove, hrest⟩
  · rintro ⟨b₁, hmove, hrest⟩
    exact .head hmove hrest

/-- The reader takes the flag while no handler is in progress, and only at the begin of a take. -/
theorem moves_swap_iff {found : Bool} :
    Moves b (.swap found) b' ↔ b.handlers = [] ∧ b.loading = false ∧ b.cell.pending = found ∧
      b' = { b with cell := b.cell.lower, loading := found } := by
  constructor
  · rintro ⟨⟩
    exact ⟨‹_›, ‹_›, ‹_›, rfl⟩
  · rintro ⟨hnone, hloading, hfound, rfl⟩
    exact .swap hnone hloading hfound

/-- The reader loads the number where it has found the flag set, again while no handler is in
progress. -/
theorem moves_load_iff {signal : Signal} :
    Moves b (.load signal) b' ↔ b.handlers = [] ∧ b.loading = true ∧ b.cell.last = signal ∧
      b' = { b with loading := false } := by
  constructor
  · rintro ⟨⟩
    exact ⟨‹_›, ‹_›, ‹_›, rfl⟩
  · rintro ⟨hnone, hloading, hlast, rfl⟩
    exact .load hnone hloading hlast

theorem Runs.single (hmove : Moves b m b') : Runs b [m] b' :=
  .head hmove (.refl b')

theorem Runs.trans (hruns : Runs b ms b₁) (hruns' : Runs b₁ ms' b') : Runs b (ms ++ ms') b' := by
  induction hruns with
  | refl => exact hruns'
  | head hmove _ ih => exact .head hmove (ih hruns')

theorem Runs.split (hruns : Runs b (ms ++ ms') b') : ∃ b₁, Runs b ms b₁ ∧ Runs b₁ ms' b' := by
  induction ms generalizing b with
  | nil => exact ⟨b, .refl b, hruns⟩
  | cons m ms ih =>
    -- the first move belongs to the first part
    obtain ⟨b₀, hmove, hrest⟩ := runs_cons_iff.mp hruns
    obtain ⟨b₁, hfirst, hsecond⟩ := ih hrest
    exact ⟨b₁, .head hmove hfirst, hsecond⟩

/-- The move at a place of a run, with the states around it. -/
theorem Runs.exists_move (hruns : Runs b (ms ++ m :: ms') b') :
    ∃ b₁ b₂, Runs b ms b₁ ∧ Moves b₁ m b₂ ∧ Runs b₂ ms' b' := by
  obtain ⟨b₁, hbefore, hafter⟩ := hruns.split
  obtain ⟨b₂, hmove, hrest⟩ := runs_cons_iff.mp hafter
  exact ⟨b₁, b₂, hbefore, hmove, hrest⟩

end Runs

/-! ### Histories that go on -/

section append

variable {ms ms' : List CellMove} {m : CellMove}

/-- A move sets the flag itself, or leaves it set unless it takes it. -/
theorem raised_append_singleton : Raised (ms ++ [m]) ↔ m = .raise ∨ Raised ms ∧ m ≠ .swap true := by
  constructor
  · rintro ⟨before, since, heq, hsince⟩
    -- the last move has set the flag itself, or has left it as it was
    rcases List.eq_nil_or_concat since with rfl | ⟨since, last, rfl⟩
    · have hlast := (List.append_inj' heq rfl).2
      exact .inl (List.singleton_inj.mp hlast)
    · have hsplit : ms ++ [m] = (before ++ .raise :: since) ++ [last] := by simpa using heq
      obtain ⟨rfl, hlast⟩ := List.append_inj' hsplit rfl
      obtain rfl := List.singleton_inj.mp hlast
      have hnot : .swap true ∉ since ∧ m ≠ .swap true := by simpa [eq_comm] using hsince
      exact .inr ⟨⟨before, since, rfl, hnot.1⟩, hnot.2⟩
  · rintro (rfl | ⟨⟨before, since, rfl, hsince⟩, hm⟩)
    · exact ⟨ms, [], rfl, List.not_mem_nil⟩
    · exact ⟨before, since ++ [m], by simp, by simp [hsince, hm.symm]⟩

/-- A request outlasts all moves that do not take it. -/
theorem Raised.append (hraised : Raised ms) (hnone : .swap true ∉ ms') : Raised (ms ++ ms') := by
  obtain ⟨before, since, rfl, hsince⟩ := hraised
  exact ⟨before, since ++ ms', by simp, by simp [hsince, hnone]⟩

theorem Raised.prepend (hraised : Raised ms') (ms : List CellMove) : Raised (ms ++ ms') := by
  obtain ⟨before, since, rfl, hsince⟩ := hraised
  exact ⟨ms ++ before, since, by simp, hsince⟩

/-- The flag is set where a handler has set it and nobody takes it. -/
theorem raised_of_mem (hraise : .raise ∈ ms) (hnone : .swap true ∉ ms) : Raised ms := by
  obtain ⟨before, since, rfl⟩ := List.append_of_mem hraise
  exact ⟨before, since, rfl, fun hswap => hnone (by simp [hswap])⟩

theorem swap_notMem (hnone : ∀ m ∈ ms, m.isSwap = false) (found : Bool) : .swap found ∉ ms := by
  intro hswap
  cases hnone _ hswap

theorem isSwap_of_isHandler {m : CellMove} (hm : m.isHandler = true) : m.isSwap = false := by
  cases m <;> simp_all [CellMove.isHandler, CellMove.isSwap]

/-- The number that was stored last is one of the later moves, if these have stored any. -/
theorem lastStored_append (ms ms' : List CellMove) :
    lastStored (ms ++ ms') = (lastStored ms').or (lastStored ms) := by
  simp [lastStored, List.getLast?_append]

/-- A number was stored last if and only if one was stored. -/
theorem exists_lastStored_iff :
    (∃ signal, lastStored ms = some signal) ↔ 0 < ms.countP CellMove.isStore := by
  rw [← Option.isSome_iff_exists, lastStored, List.getLast?_isSome, ← List.length_pos_iff,
    List.length_filterMap_eq_countP]
  refine iff_of_eq (congrArg _ (List.countP_congr fun m _ => ?_))
  cases m <;> simp [CellMove.stored?, CellMove.isStore]

/-- Requests are returned by loads and by nothing else. -/
theorem countP_isSome_answers (ms : List CellMove) :
    (answers ms).countP Option.isSome = ms.countP CellMove.isLoad := by
  rw [answers, List.countP_filterMap]
  refine List.countP_congr fun m _ => ?_
  rcases m with _ | _ | _ | (_ | _) | _ <;> simp [CellMove.answer?, CellMove.isLoad]

end append

/-! ### The account -/

/-- What the moves so far say about the state. -/
structure Account (ms : List CellMove) (b : SharedCell) : Prop where
  pending_iff : b.cell.pending = true ↔ Raised ms
  last : b.cell.last = (lastStored ms).getD 0
  /-- Every number has come with a signal. -/
  handled : ∀ signal, lastStored ms = some signal ∨ signal ∈ b.handlers.map (·.signal) →
    signal ∈ handledSignals
  /-- Each handler that has begun has stored its number, or is in progress. -/
  stores : ms.countP CellMove.isStore + b.handlers.countP (!·.stored) = ms.countP CellMove.isEnter
  /-- Each handler that has begun has set the flag, or is in progress. -/
  raises : ms.count .raise + b.handlers.length = ms.countP CellMove.isEnter
  /-- Each request was set by a handler, whether it was returned, is being returned or is
  pending. -/
  requests : ms.countP CellMove.isLoad + b.loading.toNat + b.cell.pending.toNat ≤ ms.count .raise

theorem account_nil : Account [] {} where
  pending_iff := by simp [Raised]
  last := rfl
  handled := by simp [lastStored]
  stores := rfl
  raises := rfl
  requests := le_rfl

section move

variable {ms : List CellMove} {m : CellMove} {b b' : SharedCell}

/-- Handlers set the flag and swaps take it, as the account of requests says. -/
theorem Account.pending_iff_move (hb : Account ms b) (hmove : Moves b m b') :
    b'.cell.pending = true ↔ Raised (ms ++ [m]) := by
  rw [raised_append_singleton, ← hb.pending_iff]
  cases hmove with
  | raise => simp
  -- a swap takes the flag back, whether it was set or not
  | swap _ _ hfound => simp [hfound]
  | _ => simp

/-- Only a store changes the number. -/
theorem Account.last_move (hb : Account ms b) (hmove : Moves b m b') :
    b'.cell.last = (lastStored (ms ++ [m])).getD 0 := by
  rw [lastStored_append]
  cases hmove with
  | store => rfl
  | _ => exact hb.last

/-- No number comes from anywhere but a signal that has a handler. -/
theorem Account.handled_move (hb : Account ms b) (hmove : Moves b m b') (signal : Signal)
    (hsignal : lastStored (ms ++ [m]) = some signal ∨ signal ∈ b'.handlers.map (·.signal)) :
    signal ∈ handledSignals := by
  rw [lastStored_append] at hsignal
  cases hmove with
  -- the new handler has the number of its signal
  | enter hentered =>
    rcases hsignal with hstored | hhandler
    · exact hb.handled signal (.inl hstored)
    · rcases List.mem_cons.mp hhandler with rfl | houter
      · exact hentered
      · exact hb.handled signal (.inr houter)
  | @store number outer hinner =>
    -- the number was in the handler before
    have hhandler : signal ∈ (⟨number, true⟩ :: outer : List Handler).map (·.signal) := by
      rcases hsignal with hstored | hhandler
      · exact List.mem_cons.mpr (.inl (Option.some.inj hstored).symm)
      · exact hhandler
    refine hb.handled signal (.inr ?_)
    rw [hinner]
    exact hhandler
  | raise hinner =>
    refine hb.handled signal (hsignal.imp_right fun houter => ?_)
    rw [hinner]
    exact List.mem_cons_of_mem _ houter
  | swap => exact hb.handled signal hsignal
  | load => exact hb.handled signal hsignal

/-- A handler that begins is counted on both sides, and one that stores changes its place on the
left. -/
theorem Account.stores_move (hb : Account ms b) (hmove : Moves b m b') :
    (ms ++ [m]).countP CellMove.isStore + b'.handlers.countP (!·.stored) =
      (ms ++ [m]).countP CellMove.isEnter := by
  have hstores := hb.stores
  cases hmove with
  | enter => grind [CellMove.isStore, CellMove.isEnter]
  | store hinner => grind [CellMove.isStore, CellMove.isEnter]
  | raise hinner => simpa [hinner, CellMove.isStore, CellMove.isEnter] using hstores
  | _ => simpa [CellMove.isStore, CellMove.isEnter] using hstores

/-- A handler that sets the flag is done, and changes its place on the left. -/
theorem Account.raises_move (hb : Account ms b) (hmove : Moves b m b') :
    (ms ++ [m]).count .raise + b'.handlers.length = (ms ++ [m]).countP CellMove.isEnter := by
  have hraises := hb.raises
  cases hmove with
  | enter => grind [CellMove.isEnter]
  | store hinner => simpa [hinner, CellMove.isEnter] using hraises
  | raise hinner => grind [CellMove.isEnter]
  | _ => simpa [CellMove.isEnter] using hraises

/-- A request is passed on from the flag to the reader, and from the reader to the answers. -/
theorem Account.requests_move (hb : Account ms b) (hmove : Moves b m b') :
    (ms ++ [m]).countP CellMove.isLoad + b'.loading.toNat + b'.cell.pending.toNat ≤
      (ms ++ [m]).count .raise := by
  have hrequests := hb.requests
  cases hmove with
  -- the only move that can add a request is counted on the right
  | raise => grind [CellMove.isLoad, SignalCell.pending_raise]
  -- the request goes over to the reader, who had none
  | swap _ hloading hfound => simpa [CellMove.isLoad, hloading, hfound] using hrequests
  | load _ hloading => simpa [CellMove.isLoad, hloading] using hrequests
  | _ => simpa [CellMove.isLoad] using hrequests

/-- **Invariant preservation.** -/
theorem Account.move (hb : Account ms b) (hmove : Moves b m b') : Account (ms ++ [m]) b' where
  pending_iff := hb.pending_iff_move hmove
  last := hb.last_move hmove
  handled := hb.handled_move hmove
  stores := hb.stores_move hmove
  raises := hb.raises_move hmove
  requests := hb.requests_move hmove

/-- The account is kept by runs. -/
theorem Account.runs {ms' : List CellMove} (hb : Account ms b) (hruns : Runs b ms' b') :
    Account (ms ++ ms') b' := by
  induction hruns generalizing ms with
  | refl => rwa [List.append_nil]
  | head hmove _ ih => simpa using ih (hb.move hmove)

end move

/-! ### Requests -/

section requests

variable {ms : List CellMove} {b b' : SharedCell}

/-- Where a handler has set the flag, a number is stored. -/
theorem Account.exists_lastStored (hb : Account ms b) (hraise : 0 < ms.count .raise) :
    ∃ signal, lastStored ms = some signal ∧ b.cell.last = signal ∧ signal ∈ handledSignals := by
  have hinProgress : b.handlers.countP (!·.stored) ≤ b.handlers.length := List.countP_le_length
  have hstores := hb.stores
  have hraises := hb.raises
  -- who has set the flag is no longer in progress, and had stored the number before
  obtain ⟨signal, hsignal⟩ : ∃ signal, lastStored ms = some signal :=
    exists_lastStored_iff.mpr (by omega)
  exact ⟨signal, hsignal, by rw [hb.last, hsignal, Option.getD_some], hb.handled _ (.inl hsignal)⟩

/-- A request that is pending has a number. -/
theorem Account.exists_lastStored_of_raised (hb : Account ms b) (hraised : Raised ms) :
    ∃ signal, lastStored ms = some signal ∧ b.cell.last = signal ∧ signal ∈ handledSignals := by
  obtain ⟨before, since, rfl, -⟩ := hraised
  exact hb.exists_lastStored (by simp)

/-- A request that is pending is found by the next take. -/
theorem Account.take_of_raised (hb : Account ms b) (hraised : Raised ms)
    {rest later : List CellMove} {answer : Option Signal} (hrest : ∀ m ∈ rest, m.isSwap = false)
    (htake : IsTake later answer) (hruns : Runs b (rest ++ later) b') :
    ∃ signal, answer = some signal := by
  cases htake with
  | request _ _ signal => exact ⟨signal, rfl⟩
  | @nothing early hearly =>
    -- up to the swap nothing takes the flag back, so it is found set
    rw [← List.append_assoc] at hruns
    obtain ⟨b₁, b₂, hbefore, hmove, -⟩ := hruns.exists_move
    have hnone : ∀ m ∈ rest ++ early, m.isSwap = false := by
      intro m hm
      rcases List.mem_append.mp hm with hm | hm
      · exact hrest m hm
      · exact isSwap_of_isHandler (hearly m hm)
    -- the invariant holds at the swap, too
    have hpending : b₁.cell.pending = true :=
      (hb.runs hbefore).pending_iff.mpr (hraised.append (swap_notMem hnone true))
    rw [(moves_swap_iff.mp hmove).2.2.1] at hpending
    cases hpending

/-- The number that is loaded is the one that was stored last. -/
theorem Account.loaded (hb : Account ms b) {signal : Signal} (hmove : Moves b (.load signal) b') :
    lastStored ms = some signal ∧ signal ∈ handledSignals := by
  obtain ⟨-, hloading, hlast, -⟩ := moves_load_iff.mp hmove
  have hrequests := hb.requests
  -- the request that is being returned is one that a handler has set
  rw [hloading, Bool.toNat_true] at hrequests
  obtain ⟨_, hstored, rfl, hhandled⟩ := hb.exists_lastStored (by omega)
  rw [← hlast]
  exact ⟨hstored, hhandled⟩

/-- Handlers that interrupt each other do together what one handler does. -/
theorem Account.burst (hb : Account ms b) (hnone : b.handlers = []) {hs : List CellMove}
    (hne : hs ≠ []) (hhs : ∀ m ∈ hs, m.isHandler = true) (hruns : Runs b hs b')
    (hnone' : b'.handlers = []) :
    ∃ signal, lastStored hs = some signal ∧ b'.cell = b.cell.record signal := by
  have hb' := hb.runs hruns
  -- as many handlers have begun as have stored their number and set the flag, and one has begun
  have hcounts : hs.countP CellMove.isStore = hs.countP CellMove.isEnter ∧
      hs.count .raise = hs.countP CellMove.isEnter := by
    have hstores := hb.stores
    have hraises := hb.raises
    have hstores' := hb'.stores
    have hraises' := hb'.raises
    simp only [hnone, hnone', List.countP_append, List.count_append, List.countP_nil,
      List.length_nil] at hstores hraises hstores' hraises'
    omega
  have hbegun : 0 < hs.countP CellMove.isEnter := by
    obtain ⟨m, hm⟩ := List.exists_mem_of_ne_nil hs hne
    cases m with
    | enter signal => exact List.countP_pos_iff.mpr ⟨_, hm, rfl⟩
    | store signal =>
      rw [← hcounts.1]
      exact List.countP_pos_iff.mpr ⟨_, hm, rfl⟩
    | raise =>
      rw [← hcounts.2]
      exact List.count_pos_iff.mpr hm
    | swap found => cases hhs _ hm
    | load signal => cases hhs _ hm
  have hnoSwap : .swap true ∉ hs :=
    swap_notMem (fun m hm => isSwap_of_isHandler (hhs m hm)) true
  have hraised : Raised hs :=
    raised_of_mem (List.count_pos_iff.mp (hcounts.2 ▸ hbegun)) hnoSwap
  obtain ⟨signal, hsignal⟩ := exists_lastStored_iff.mpr (hcounts.1 ▸ hbegun)
  refine ⟨signal, hsignal, ?_⟩
  -- so the state is known, whatever the order of the moves was
  have hpending : b'.cell.pending = true := hb'.pending_iff.mpr (hraised.prepend ms)
  have hlast : b'.cell.last = signal := by
    rw [hb'.last, lastStored_append, hsignal, Option.some_or, Option.getD_some]
  rw [SignalCell.record, ← hpending, ← hlast]

/-! ### Takes that are not interrupted -/

/-- A take during which no handler runs. -/
def QuietTake (b : SharedCell) (answer : Option Signal) (b' : SharedCell) : Prop :=
  ∃ later, IsTake later answer ∧ (∀ m ∈ later, m.isHandler = false) ∧ Runs b later b'

theorem eq_nil_of_quiet {ms : List CellMove} (hhandler : ∀ m ∈ ms, m.isHandler = true)
    (hquiet : ∀ m ∈ ms, m.isHandler = false) : ms = [] := by
  refine List.eq_nil_iff_forall_not_mem.mpr fun m hm => ?_
  have hfalse := hquiet m hm
  rw [hhandler m hm] at hfalse
  cases hfalse

/-- Such a take has one step or two. -/
theorem quietTake_iff_runs {answer : Option Signal} :
    QuietTake b answer b' ↔ Runs b [.swap false] b' ∧ answer = none ∨
      ∃ signal, Runs b [.swap true, .load signal] b' ∧ answer = some signal := by
  constructor
  · rintro ⟨later, htake, hquiet, hruns⟩
    cases htake with
    | nothing hearly =>
      obtain rfl := eq_nil_of_quiet hearly fun m hm => hquiet m (by simp [hm])
      exact .inl ⟨hruns, rfl⟩
    | request hearly hlate signal =>
      obtain rfl := eq_nil_of_quiet hearly fun m hm => hquiet m (by simp [hm])
      obtain rfl := eq_nil_of_quiet hlate fun m hm => hquiet m (by simp [hm])
      exact .inr ⟨signal, hruns, rfl⟩
  · rintro (⟨hruns, rfl⟩ | ⟨signal, hruns, rfl⟩)
    · exact ⟨[] ++ [.swap false], .nothing (List.forall_mem_nil _), by simp [CellMove.isHandler],
        hruns⟩
    · exact ⟨[] ++ .swap true :: ([] ++ [.load signal]),
        .request (List.forall_mem_nil _) (List.forall_mem_nil _) signal,
        by simp [CellMove.isHandler], hruns⟩

/-- Without handlers between its steps a take is that of the cell. -/
theorem quietTake_iff {answer : Option Signal} :
    QuietTake b answer b' ↔ b.handlers = [] ∧ b.loading = false ∧ b.cell.take.1 = answer ∧
      b' = { b with cell := b.cell.take.2 } := by
  rw [quietTake_iff_runs, SignalCell.take_eq]
  simp only [runs_cons_iff, runs_nil_iff]
  constructor
  · rintro (⟨⟨_, hswap, rfl⟩, rfl⟩ | ⟨signal, ⟨_, hswap, _, hload, rfl⟩, rfl⟩)
    · obtain ⟨hnone, hloading, hfound, rfl⟩ := moves_swap_iff.mp hswap
      exact ⟨hnone, hloading, by simp [hfound], by rw [hloading]⟩
    · obtain ⟨hnone, hloading, hfound, rfl⟩ := moves_swap_iff.mp hswap
      obtain ⟨-, -, rfl, rfl⟩ := moves_load_iff.mp hload
      exact ⟨hnone, hloading, by simp [hfound], by rw [hloading]⟩
  · rintro ⟨hnone, hloading, rfl, rfl⟩
    -- the flag decides whether there is a second step
    cases hpending : b.cell.pending with
    | false => exact .inl ⟨⟨_, .swap hnone hloading hpending, by rw [hloading]⟩, rfl⟩
    | true =>
      exact .inr ⟨_, ⟨_, .swap hnone hloading hpending, _, .load hnone rfl rfl, by rw [hloading]⟩,
        rfl⟩

/-- Handlers in progress can end, if no more signals arrive. -/
theorem exists_finish (b : SharedCell) :
    ∃ hs b', (∀ m ∈ hs, m.isSwap = false ∧ m.isEnter = false) ∧ Runs b hs b' ∧
      b'.handlers = [] ∧ b'.loading = b.loading := by
  obtain ⟨cell, handlers, loading⟩ := b
  -- from the innermost handler outwards
  induction handlers generalizing cell with
  | nil => exact ⟨[], _, nofun, .refl _, rfl, rfl⟩
  | cons handler outer ih =>
    -- a handler that has not stored its number has two moves left, and otherwise one
    obtain ⟨signal, _ | _⟩ := handler
    · obtain ⟨hs, b', hhs, hruns, hnone, hloading⟩ := ih (cell.store signal).raise
      exact ⟨.store signal :: .raise :: hs, b',
        List.forall_mem_cons.mpr ⟨⟨rfl, rfl⟩, List.forall_mem_cons.mpr ⟨⟨rfl, rfl⟩, hhs⟩⟩,
        .head (.store rfl) (.head (.raise rfl) hruns), hnone, hloading⟩
    · obtain ⟨hs, b', hhs, hruns, hnone, hloading⟩ := ih cell.raise
      exact ⟨.raise :: hs, b', List.forall_mem_cons.mpr ⟨⟨rfl, rfl⟩, hhs⟩,
        .head (.raise rfl) hruns, hnone, hloading⟩

/-- Handlers in progress and a take can end, if no more signals arrive. -/
theorem exists_rest (b : SharedCell) :
    ∃ rest b', (∀ m ∈ rest, m.isSwap = false ∧ m.isEnter = false) ∧ Runs b rest b' ∧
      b'.handlers = [] ∧ b'.loading = false := by
  obtain ⟨hs, b₁, hhs, hruns, hnone, -⟩ := exists_finish b
  -- then a take that is under way has one move left
  cases hloading : b₁.loading with
  | false => exact ⟨hs, b₁, hhs, hruns, hnone, hloading⟩
  | true =>
    refine ⟨hs ++ [.load b₁.cell.last], { b₁ with loading := false }, ?_,
      hruns.trans (.single (.load hnone hloading rfl)), hnone, rfl⟩
    intro m hm
    rcases List.mem_append.mp hm with hm | hm
    · exact hhs m hm
    · rw [List.mem_singleton.mp hm]
      exact ⟨rfl, rfl⟩

/-- From every state the next take can return, if no more signals arrive. -/
theorem exists_next_take (b : SharedCell) :
    ∃ rest later answer b', (∀ m ∈ rest, m.isSwap = false) ∧ IsTake later answer ∧
      (∀ m ∈ rest ++ later, m.isEnter = false) ∧ Runs b (rest ++ later) b' := by
  obtain ⟨rest, b₁, hrest, hruns, hnone, hloading⟩ := exists_rest b
  -- the next take can then go through its steps without a handler in between
  obtain ⟨later, htake, hquiet, hlater⟩ := quietTake_iff.mpr ⟨hnone, hloading, rfl, rfl⟩
  refine ⟨rest, later, _, _, fun m hm => (hrest m hm).1, htake, ?_, hruns.trans hlater⟩
  intro m hm
  rcases List.mem_append.mp hm with hm | hm
  · exact (hrest m hm).2
  · have hhandler := hquiet m hm
    cases m <;> simp_all [CellMove.isHandler, CellMove.isEnter]

/-- Requests that no take has found yet are one request, with the number that was stored last. -/
theorem Account.coalesce (hb : Account ms b) (hraised : Raised ms) {b₁ b₂ : SharedCell}
    {answer answer' : Option Signal} (htake : QuietTake b answer b₁)
    (htake' : QuietTake b₁ answer' b₂) :
    (∃ signal, lastStored ms = some signal ∧ answer = some signal) ∧ answer' = none := by
  obtain ⟨-, -, rfl, rfl⟩ := quietTake_iff.mp htake
  obtain ⟨-, -, rfl, -⟩ := quietTake_iff.mp htake'
  obtain ⟨signal, hsignal, hlast, -⟩ := hb.exists_lastStored_of_raised hraised
  refine ⟨⟨signal, hsignal, ?_⟩, ?_⟩
  · rw [SignalCell.take_eq, if_pos (hb.pending_iff.mpr hraised), SignalCell.last_lower, hlast]
  · -- the second take finds the flag taken back
    rw [SignalCell.take_take]

end requests

/-! ### The theorem -/

/-- What holds of the cell after any moves of its handlers and its reader. -/
structure HandlerLaw (ms : List CellMove) (b : SharedCell) : Prop where
  /-- The flag is set if and only if a handler has set it and no take has found it set since. -/
  pending_iff : b.cell.pending = true ↔ Raised ms
  /-- Then the next take returns a request, whatever else happens until it returns. -/
  next_take : Raised ms → ∀ rest later answer b', (∀ m ∈ rest, m.isSwap = false) →
    IsTake later answer → Runs b (rest ++ later) b' → ∃ signal, answer = some signal
  /-- The next take is never stuck: it returns even if no more signals arrive. -/
  returns : ∃ rest later answer b', (∀ m ∈ rest, m.isSwap = false) ∧ IsTake later answer ∧
    (∀ m ∈ rest ++ later, m.isEnter = false) ∧ Runs b (rest ++ later) b'
  /-- No request is invented: there are at most as many as handlers that have set the flag. -/
  count_le : (answers ms).countP Option.isSome ≤ ms.count .raise ∧
    ms.count .raise ≤ ms.countP CellMove.isEnter
  /-- A number that is returned is the one that was stored last, and a signal has brought it. -/
  loaded : ∀ before signal after, ms = before ++ .load signal :: after →
    lastStored before = some signal ∧ signal ∈ handledSignals ∧ signal ≠ 0
  /-- What handlers do between two steps of the reader is one record of a signal. -/
  burst : b.handlers = [] → ∀ hs b', hs ≠ [] → (∀ m ∈ hs, m.isHandler = true) → Runs b hs b' →
    b'.handlers = [] → ∃ signal, lastStored hs = some signal ∧ b'.cell = b.cell.record signal
  /-- What the reader does without handlers in between is one take. -/
  quietTake_iff : ∀ answer b', QuietTake b answer b' ↔ b.handlers = [] ∧ b.loading = false ∧
    b.cell.take.1 = answer ∧ b' = { b with cell := b.cell.take.2 }
  /-- Any number of signals before such a take count as one request, and there is none after it. -/
  coalesce : Raised ms → ∀ answer answer' b₁ b₂, QuietTake b answer b₁ → QuietTake b₁ answer' b₂ →
    (∃ signal, lastStored ms = some signal ∧ answer = some signal) ∧ answer' = none

/-- **No request is lost, and none is invented.** Handlers may interrupt the reader and each other
at every step. -/
theorem handler_law {ms : List CellMove} {b : SharedCell} (hruns : Runs {} ms b) :
    HandlerLaw ms b := by
  have hb : Account ms b := account_nil.runs hruns
  exact {
    pending_iff := hb.pending_iff
    next_take := fun hraised _ _ _ _ hrest htake hlater =>
      hb.take_of_raised hraised hrest htake hlater
    returns := exists_next_take b
    count_le := by
      -- returned requests are counted against handlers that are done, and these against signals
      have hraises := hb.raises
      have hrequests := hb.requests
      rw [countP_isSome_answers]
      constructor <;> omega
    loaded := by
      rintro before signal after rfl
      obtain ⟨b₁, b₂, hbefore, hmove, -⟩ := hruns.exists_move
      obtain ⟨hstored, hhandled⟩ := (account_nil.runs hbefore).loaded hmove
      exact ⟨hstored, hhandled, ne_zero_of_handled hhandled⟩
    burst := fun hnone _ _ hne hhs hhandlers hnone' => hb.burst hnone hne hhs hhandlers hnone'
    quietTake_iff := fun _ _ => SharedCell.quietTake_iff
    coalesce := fun hraised _ _ _ _ htake htake' => hb.coalesce hraised htake htake' }

/-- Signal 15 interrupts the handler of signal 2 before that has stored its number, and signal 1
interrupts the take. -/
def interruptedMoves : List CellMove :=
  [.enter 2, .enter 15, .store 15, .raise, .store 2, .raise,
    .swap true, .enter 1, .store 1, .raise, .load 1]

/-- The take has returned signal 1, and the request is still there. -/
def interruptedCell : SharedCell where
  cell := ⟨true, 1⟩

/-- The moves of the example can happen. -/
theorem runs_interruptedCell : Runs {} interruptedMoves interruptedCell := by
  -- one move at a time
  refine .head (.enter _ (by decide)) (.head (.enter _ (by decide)) ?_)
  refine .head (.store rfl) (.head (.raise rfl) ?_)
  refine .head (.store rfl) (.head (.raise rfl) ?_)
  refine .head (.swap rfl rfl rfl) ?_
  refine .head (.enter _ (by decide)) ?_
  refine .head (.store rfl) (.head (.raise rfl) ?_)
  exact .single (.load rfl rfl rfl)

/-- The request of the signal that interrupted the take is found by the next one. -/
theorem interruptedCell_handler_law :
    Runs {} interruptedMoves interruptedCell ∧ Raised interruptedMoves ∧
      QuietTake interruptedCell (some 1) { cell := ⟨false, 1⟩ } ∧
      HandlerLaw interruptedMoves interruptedCell :=
  ⟨runs_interruptedCell, (handler_law runs_interruptedCell).pending_iff.mp rfl,
    quietTake_iff.mpr ⟨rfl, rfl, rfl, rfl⟩, handler_law runs_interruptedCell⟩

end SharedCell

end NbdAttach
