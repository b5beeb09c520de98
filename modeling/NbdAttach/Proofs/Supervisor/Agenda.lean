import NbdAttach.Proofs.Trace
import NbdAttach.Script

/-!
# Hosts with an agenda

What it takes of a host for every wait against it to end. Such a host has an `Agenda`: what the next
waits report, who can still exit, and what the next looks for a request find. Waits and looks work
it off (`Agenda.Answers`, `Agenda.Looks`), and a host that is idle for too long puts a request on it
(`Agenda.Idles`).

`Host.Scripted` says that a host keeps to its agenda, and `Script.host_scripted` that the scripted
host does. The reports may be anything, also exits of strangers and failures. Nothing is assumed of
the requests that are neither waits nor looks: a start may fail, or hand out the number of a process
that is still there, and the step into the background may bring anything onto the agenda.

`Agenda.left` counts what is left on an agenda. A wait that goes on has made it smaller
(`Agenda.Answers.left_lt`), unless there was nobody to wait for.
-/

namespace NbdAttach

variable {σ : Type}

/-- What a host has on its agenda for waits. -/
structure Agenda where
  /-- What the next waits report. -/
  reports : List (Except IoError Reaped)
  /-- The processes that exit when no report is left. -/
  live : Finset Pid
  /-- What the next looks for a request find. Those after them find none. -/
  looks : List (Option Signal)
  /-- How often the host was idle since it last had to see to a request. -/
  idles : Nat

namespace Agenda

/-- Some look to come finds a request. -/
def Queued (agenda : Agenda) : Prop :=
  ∃ signal, some signal ∈ agenda.looks

/-- A process whose exit was reported can exit no more. -/
def leave (agenda : Agenda) : Except IoError Reaped → Agenda
  | .ok (.child pid) => { agenda with live := agenda.live.erase pid }
  | _ => agenda

/-- How a wait is answered. -/
inductive Answers : Agenda → Except IoError Reaped → Agenda → Prop
  | reported {agenda : Agenda} {answer : Except IoError Reaped}
      {rest : List (Except IoError Reaped)} (hreports : agenda.reports = answer :: rest) :
    Answers agenda answer ({ agenda with reports := rest }.leave answer)
  | exited {agenda : Agenda} {pid : Pid} (hreports : agenda.reports = [])
      (hpid : pid ∈ agenda.live) :
    Answers agenda (.ok (.child pid)) (agenda.leave (.ok (.child pid)))
  | nobody {agenda : Agenda} (hreports : agenda.reports = []) (hlive : agenda.live = ∅)
      (cause : IoError) : Answers agenda (.error cause) agenda

/-- How a look for a request is answered. -/
inductive Looks : Agenda → Option Signal → Agenda → Prop
  | planned {agenda : Agenda} {found : Option Signal} {rest : List (Option Signal)}
      (hlooks : agenda.looks = found :: rest) : Looks agenda found { agenda with looks := rest }
  | unplanned {agenda : Agenda} (hlooks : agenda.looks = []) : Looks agenda none agenda

/-- What a host does when it is idle. Where it is quiet while no request is in line, the limit is
not reached yet. -/
inductive Idles : Agenda → Agenda → Prop
  | quiet {agenda : Agenda} (hidles : agenda.idles + 1 < Script.idleLimit) :
    Idles agenda { agenda with idles := agenda.idles + 1 }
  | queued {agenda : Agenda} (hqueued : agenda.Queued) (idles : Nat) :
    Idles agenda { agenda with idles }
  | asks {agenda : Agenda} {more : List (Option Signal)} (hmore : ∃ signal, some signal ∈ more)
      (idles : Nat) : Idles agenda { agenda with looks := agenda.looks ++ more, idles }

end Agenda

/-- The host answers waits and looks from an agenda, which is read off its state. -/
structure Host.Scripted (h : Host σ) (agenda : σ → Agenda) : Prop where
  answers : ∀ host, (agenda host).Answers (h.waitAny host).1 (agenda (h.waitAny host).2)
  looks : ∀ host, (agenda host).Looks (h.takePending host).1 (agenda (h.takePending host).2)
  idles : ∀ host, (agenda host).Idles (agenda (h.idle host))

namespace Agenda

variable {agenda agenda' : Agenda}

/-! ### What is left on an agenda -/

/-- How much is left for waits and looks. -/
def left (agenda : Agenda) : Nat :=
  agenda.reports.length + agenda.live.card + agenda.looks.length

/-- An exit that is reported adds nothing to the agenda. -/
theorem left_leave_le (agenda : Agenda) (answer : Except IoError Reaped) :
    (agenda.leave answer).left ≤ agenda.left := by
  have hcard : ∀ pid, (agenda.live.erase pid).card ≤ agenda.live.card :=
    fun pid => Finset.card_erase_le
  rcases answer with cause | (pid | _)
  · exact le_rfl
  · specialize hcard pid
    simp only [left, leave]
    omega
  · exact le_rfl

/-- Every wait that does not fail takes something off the agenda. -/
theorem Answers.left_lt {reaped : Reaped} (hanswers : Answers agenda (.ok reaped) agenda') :
    agenda'.left < agenda.left := by
  generalize hanswer : (Except.ok reaped : Except IoError Reaped) = answer at hanswers
  cases hanswers with
  | reported hreports =>
    -- the report itself is off the agenda, whatever it says
    refine (left_leave_le _ _).trans_lt ?_
    simp [left, hreports]
  | exited hreports hpid =>
    have hcard := Finset.card_erase_lt_of_mem hpid
    simp only [left, leave]
    omega
  | nobody _ _ cause => cases hanswer

theorem Looks.left_le {found : Option Signal} (hlooks : Looks agenda found agenda') :
    agenda'.left ≤ agenda.left := by
  cases hlooks with
  | planned hlooks => simp [left, hlooks]
  | unplanned _ => exact le_rfl

theorem Looks.left_lt {signal : Signal} (hlooks : Looks agenda (some signal) agenda') :
    agenda'.left < agenda.left := by
  cases hlooks with
  | planned hlooks => simp [left, hlooks]

/-! ### Requests in line -/

/-- A look does not count as being idle. -/
theorem Looks.idles_eq {found : Option Signal} (hlooks : Looks agenda found agenda') :
    agenda'.idles = agenda.idles := by
  cases hlooks <;> rfl

/-- A host that is idle only adds to what looks will find. -/
theorem Idles.looks_eq (hidles : Idles agenda agenda') :
    ∃ more, agenda'.looks = agenda.looks ++ more := by
  cases hidles with
  | quiet _ => exact ⟨[], (List.append_nil _).symm⟩
  | queued _ _ => exact ⟨[], (List.append_nil _).symm⟩
  | asks _ _ => exact ⟨_, rfl⟩

/-- As long as no request is in line, the host comes nearer to the limit each time it is idle. -/
theorem Idles.queued_or (hidles : Idles agenda agenda') :
    agenda'.Queued ∨ (agenda'.idles = agenda.idles + 1 ∧ agenda'.idles < Script.idleLimit) := by
  cases hidles with
  | quiet hidles => exact Or.inr ⟨rfl, hidles⟩
  | queued hqueued _ => exact Or.inl hqueued
  | asks hmore _ =>
    obtain ⟨signal, hmem⟩ := hmore
    exact Or.inl ⟨signal, List.mem_append_right _ hmem⟩

end Agenda

/-! ### Scripts have an agenda -/

namespace Script

/-- What the looks for a request find, up to the one that finds the signal. -/
def looksFor (planned : PlannedSignal) : List (Option Signal) :=
  List.replicate planned.after none ++ [some planned.signal]

def agenda (s : Script) : Agenda where
  reports := s.reports.map (Except.mapError IoError.system)
  live := s.live.toFinset
  looks := s.signals.flatMap looksFor
  idles := s.idles % idleLimit

/-- Who exits next is still there. -/
theorem mem_live_of_nextExit? {s : Script} {pid : Pid} (hnext : s.nextExit? = some pid) :
    pid ∈ s.live := by
  rw [nextExit?] at hnext
  split at hnext
  · next found hfind =>
    rw [← Option.some.inj hnext]
    exact List.contains_iff_mem.mp (List.find?_some hfind)
  · exact List.mem_of_head? hnext

/-- Nobody exits next only where nobody is left. -/
theorem live_of_nextExit?_eq_none {s : Script} (hnext : s.nextExit? = none) : s.live = [] := by
  rw [nextExit?] at hnext
  split at hnext
  · cases hnext
  · exact List.head?_eq_none_iff.mp hnext

/-- An exit takes the process off the agenda. -/
theorem agenda_exit (s : Script) (pid : Pid) :
    (s.exit pid).2.agenda = s.agenda.leave (.ok (.child pid)) := by
  -- a script may list a process more than once, and all its entries go
  have hlive : (s.live.filter (· != pid)).toFinset = s.live.toFinset.erase pid := by
    ext pid'
    simp [and_comm]
  simp only [exit, agenda, Agenda.leave, hlive]

/-- A wait is answered from the agenda of the script. -/
theorem agenda_answers (s : Script) : s.agenda.Answers s.waitAny.1 s.waitAny.2.agenda := by
  rw [waitAny]
  cases hreports : s.reports with
  | nil =>
    have hnone : s.agenda.reports = [] := by
      rw [agenda, hreports]
      rfl
    cases hnext : s.nextExit? with
    | some pid =>
      dsimp only
      -- all reports are used up, and a process that is left exits
      rw [agenda_exit]
      exact .exited hnone (List.mem_toFinset.mpr (mem_live_of_nextExit? hnext))
    | none =>
      have hlive : s.agenda.live = ∅ := by
        rw [agenda, live_of_nextExit?_eq_none hnext]
        rfl
      exact .nobody hnone hlive _
  | cons report rest =>
    have hsome : s.agenda.reports =
        report.mapError .system :: { s with reports := rest }.agenda.reports := by
      rw [agenda, hreports]
      rfl
    have hreported : s.agenda.Answers (report.mapError .system)
        ({ s with reports := rest }.agenda.leave (report.mapError .system)) := .reported hsome
    -- the report that is next on the agenda; only an exit has further consequences
    rcases report with number | (pid | _)
    · exact hreported
    · dsimp only
      rw [agenda_exit]
      exact hreported
    · exact hreported

/-- A look is answered from the agenda of the script. -/
theorem agenda_looks (s : Script) : s.agenda.Looks s.takePending.1 s.takePending.2.agenda := by
  rw [takePending]
  cases hsignals : s.signals with
  | nil =>
    refine .unplanned ?_
    rw [agenda, hsignals]
    rfl
  | cons planned rest =>
    dsimp only
    by_cases hafter : planned.after = 0
    · rw [if_pos hafter]
      have hlooks : s.agenda.looks =
          some planned.signal :: { s with signals := rest }.agenda.looks := by
        simp [agenda, hsignals, looksFor, hafter]
      exact .planned hlooks
    · -- the signal is not due yet, and comes nearer by one look
      rw [if_neg hafter]
      obtain ⟨after, hsucc⟩ := Nat.exists_eq_succ_of_ne_zero hafter
      have hlooks : s.agenda.looks = none :: { s with
          signals := { planned with after := planned.after - 1 } :: rest }.agenda.looks := by
        simp [agenda, hsignals, looksFor, hsucc, List.replicate_succ]
      exact .planned hlooks

/-- A script that is idle counts, and asks when the limit is reached and no signal is planned. -/
theorem agenda_idles (s : Script) : s.agenda.Idles s.idle.agenda := by
  rw [idle]
  dsimp only
  by_cases hasks : (s.idles + 1) % idleLimit = 0 ∧ s.signals = []
  · rw [if_pos hasks]
    have hagenda : { s with idles := s.idles + 1, signals := [⟨0, idleSignal⟩] }.agenda =
        { s.agenda with
          looks := s.agenda.looks ++ [some idleSignal]
          idles := (s.idles + 1) % idleLimit } := by
      simp [agenda, hasks.2, looksFor]
    rw [hagenda]
    exact .asks ⟨idleSignal, List.mem_singleton_self _⟩ _
  · rw [if_neg hasks]
    have hagenda : { s with idles := s.idles + 1 }.agenda =
        { s.agenda with idles := (s.idles + 1) % idleLimit } := rfl
    rw [hagenda]
    by_cases hsignals : s.signals = []
    · -- no signal is planned, so the limit is not reached
      have hlimit : (s.idles + 1) % idleLimit ≠ 0 := fun hzero => hasks ⟨hzero, hsignals⟩
      have hidles : (s.idles + 1) % idleLimit = s.idles % idleLimit + 1 := by
        rw [idleLimit] at hlimit ⊢
        omega
      rw [hidles]
      refine .quiet ?_
      change s.idles % idleLimit + 1 < idleLimit
      rw [← hidles]
      exact Nat.mod_lt _ (by decide)
    · -- a planned signal is a request in line, so the count does not matter
      obtain ⟨planned, rest, hsignals⟩ := List.exists_cons_of_ne_nil hsignals
      have hqueued : s.agenda.Queued := ⟨planned.signal, by simp [agenda, hsignals, looksFor]⟩
      exact .queued hqueued _

end Script

/-- The scripted host keeps to the agenda of its script. -/
theorem Script.host_scripted : Script.host.Scripted Script.agenda where
  answers := agenda_answers
  looks := agenda_looks
  idles := agenda_idles

end NbdAttach
