import Mathlib
import NbdAttach.Supervisor.Session

/-!
# Traces

What the rest of the theory says about traces, independently of what a run does.

* `Session.Leads` says which events stand between two sessions; `Session.Follows` says in addition
  that these events, with the registries before and after, are those of a given relation. The
  relations themselves are about registries, events and results alone: they know neither the host
  nor its state, and what is proved from them holds of every host.
* `Always` is the form of the safety properties: at every event of a trace, something holds of the
  event and of all that happened before it.
* `commands` are the commands that a trace tries to start.
-/

namespace NbdAttach

variable {σ α : Type}

namespace Session

/-! ### From one session to a later one -/

@[simp] theorem trace_tell (s : Session σ) (n : Notice) : (s.tell n).trace = s.trace := by
  simp [trace, tell, Entry.event?]

@[simp] theorem registry_tell (s : Session σ) (n : Notice) :
    (s.tell n).registry = s.registry := rfl

/-- The remarks of the host are notices, so an answered request adds its own event alone. -/
@[simp] theorem trace_answered (h : Host σ) (s : Session σ) (e : Event) (host : σ) :
    (s.answered h e host).trace = s.trace ++ [e] := by
  have hremarks : ∀ ns : List Notice, (ns.map Entry.notice).filterMap Entry.event? = [] := by
    intro ns
    rw [List.filterMap_map]
    exact List.filterMap_eq_nil_iff.mpr fun _ _ => rfl
  -- the record has the latest entry first, the trace the earliest
  simp only [trace, answered, List.reverse_cons, List.reverse_append, List.filterMap_append,
    ← List.map_reverse, hremarks, List.append_nil]
  rfl

/-- The events `es` lead from one session to another, and no child overflows the registry on the
way. -/
structure Leads (s : Session σ) (es : List Event) (s' : Session σ) : Prop where
  trace : s'.trace = s.trace ++ es
  overflowed : s'.overflowed = s.overflowed

namespace Leads

variable {s s₁ s₂ : Session σ} {es es' : List Event}

theorem refl (s : Session σ) : s.Leads [] s where
  trace := (List.append_nil _).symm
  overflowed := rfl

theorem trans (h₁ : s.Leads es s₁) (h₂ : s₁.Leads es' s₂) : s.Leads (es ++ es') s₂ where
  trace := by rw [h₂.trace, h₁.trace, List.append_assoc]
  overflowed := h₂.overflowed.trans h₁.overflowed

/-- The two sessions determine what stands between them. -/
theorem unique (h₁ : s.Leads es s₁) (h₂ : s.Leads es' s₁) : es = es' :=
  List.append_cancel_left (h₁.trace.symm.trans h₂.trace)

theorem tell (h₁ : s.Leads es s₁) (n : Notice) : s.Leads es (s₁.tell n) where
  trace := by rw [trace_tell, h₁.trace]
  overflowed := h₁.overflowed

/-- The registry may be replaced at the end: it is no part of the trace. -/
theorem setRegistry (h₁ : s.Leads es s₁) (registry : Registry) :
    s.Leads es { s₁ with registry } where
  trace := h₁.trace
  overflowed := h₁.overflowed

end Leads

/-- Any request that is answered leads on by its event. -/
theorem leads_answered (h : Host σ) (s : Session σ) (e : Event) (host : σ) :
    s.Leads [e] (s.answered h e host) where
  trace := trace_answered h s e host
  overflowed := rfl

/-- A request adds its event, with the answer that was given. -/
theorem leads_of_ask {h : Host σ} {e : α → Event} {answer : α × σ} {s s' : Session σ} {a : α}
    (hask : s.ask h e answer = (a, s')) : s.Leads [e a] s' := by
  obtain ⟨rfl, rfl⟩ := Prod.mk.inj hask
  exact leads_answered h s _ _

/-- A request leaves the registry alone. -/
theorem registry_of_ask {h : Host σ} {e : α → Event} {answer : α × σ} {s s' : Session σ} {a : α}
    (hask : s.ask h e answer = (a, s')) : s'.registry = s.registry := by
  obtain ⟨rfl, rfl⟩ := Prod.mk.inj hask
  rfl

/-- Between the two sessions stand events that belong to a relation, given the registry before, the
result and the registry after. -/
def Follows (s : Session σ) (calls : Registry → List Event → α → Registry → Prop) (a : α)
    (s' : Session σ) : Prop :=
  ∃ es, s.Leads es s' ∧ calls s.registry es a s'.registry

end Session

/-! ### Safety properties of traces -/

/-- At every event of the trace, the property holds of what happened before and of the event. -/
def Always (P : List Event → Event → Prop) (es : List Event) : Prop :=
  ∀ before e after, es = before ++ e :: after → P before e

namespace Always

variable {P : List Event → Event → Prop} {es es' : List Event}

theorem of_forall (h : ∀ e ∈ es, ∀ before, P before e) : Always P es := by
  rintro before e after rfl
  exact h e (by simp) before

theorem nil : Always P [] := of_forall (by simp)

/-- Along a concatenation the second part is judged with the first part before it. -/
theorem append_iff :
    Always P (es ++ es') ↔ Always P es ∧ Always (fun before e => P (es ++ before) e) es' := by
  constructor
  · intro h
    constructor
    · rintro before e after rfl
      exact h before e (after ++ es') (by simp)
    · rintro before e after rfl
      exact h (es ++ before) e after (by simp)
  · rintro ⟨h₁, h₂⟩ before e after heq
    -- where the two splits part, the event is on one side or the other
    rcases List.append_eq_append_iff.mp heq with ⟨mid, rfl, hmid⟩ | ⟨mid, rfl, hmid⟩
    · -- the event stands in the second part
      exact h₂ mid e after hmid
    · cases mid with
      | nil =>
        -- the event is the first of the second part
        rw [List.nil_append] at hmid
        simpa using h₂ [] e after (by simpa using hmid.symm)
      | cons e' rest =>
        -- the event stands in the first part
        obtain ⟨rfl, rfl⟩ := List.cons.inj hmid
        exact h₁ before e rest rfl

/-- A single event is judged with nothing before it. -/
theorem singleton_iff {e : Event} : Always P [e] ↔ P [] e := by
  constructor
  · intro h
    exact h [] e [] rfl
  · intro h before e' after heq
    cases before with
    | nil =>
      obtain ⟨rfl, -⟩ := List.cons.inj heq
      exact h
    | cons _ _ => simp at heq

end Always

/-! ### Kinds of events -/

namespace Event

/-- The command that an event tries to start. -/
def command? : Event → Option Command
  | .spawn c _ => some c
  | _ => none

/-- Is the event a request to terminate a process? -/
def isTerminate : Event → Bool
  | .terminate .. => true
  | _ => false

/-- Is the event the step into the background? -/
def isBackground : Event → Bool
  | .background .. => true
  | _ => false

/-- Is the event an attempt to remove the socket? -/
def isRemoval : Event → Bool
  | .removeSocket .. => true
  | _ => false

/-- The events that only a teardown has: requests to terminate, and the removal of the socket. -/
def isTeardown (e : Event) : Bool :=
  e.isTerminate || e.isRemoval

/-- The events of which waits are made: looks for a request, sleeps, and waits for a child. -/
def isWaiting : Event → Bool
  | .takePending _ | .idle | .waitAny _ => true
  | _ => false

/-- Does the event look for a request to end? -/
def isLook : Event → Bool
  | .takePending _ => true
  | _ => false

/-- Does the event take a request to end? -/
def isTaken : Event → Bool
  | .takePending (some _) => true
  | _ => false

/-- Is the event a wait for any child, by the host? -/
def isHostWait : Event → Bool
  | .waitAny _ => true
  | _ => false

/-- The events of which reaps are made. A reap never sleeps. -/
def isReaping (e : Event) : Bool :=
  e.isLook || e.isHostWait

theorem isTeardown_of_isWaiting {e : Event} (he : e.isWaiting = true) : e.isTeardown = false := by
  cases e <;> first | rfl | cases he

/-- The events of which teardowns are made. They bring nothing up. -/
def isEnding (e : Event) : Bool :=
  e.isWaiting || e.isTeardown

theorem isEnding_of_isWaiting {e : Event} (he : e.isWaiting = true) : e.isEnding = true := by
  rw [isEnding, he, Bool.true_or]

theorem isEnding_of_isTerminate {e : Event} (he : e.isTerminate = true) : e.isEnding = true := by
  rw [isEnding, isTeardown, he, Bool.true_or, Bool.or_true]

/-- In a teardown no command is tried, the start of the helper apart, which comes before it. -/
theorem command?_of_isEnding {e : Event} (he : e.isEnding = true) : e.command? = none := by
  cases e <;> first | rfl | cases he

/-- A teardown stays where it is, in the background or not. -/
theorem isBackground_of_isEnding {e : Event} (he : e.isEnding = true) : e.isBackground = false := by
  cases e <;> first | rfl | cases he

end Event

/-- The commands that a trace tries to start, in order. -/
def commands (es : List Event) : List Command :=
  es.filterMap Event.command?

@[simp] theorem commands_nil : commands [] = [] := rfl

/-- The tries of a trace come part by part. -/
@[simp] theorem commands_append (es es' : List Event) :
    commands (es ++ es') = commands es ++ commands es' :=
  List.filterMap_append

@[simp] theorem commands_spawn (c : Command) (answer : Except IoError Pid) (es : List Event) :
    commands (.spawn c answer :: es) = c :: commands es := rfl

theorem mem_commands {c : Command} {answer : Except IoError Pid} {es : List Event}
    (hmem : .spawn c answer ∈ es) : c ∈ commands es :=
  List.mem_filterMap.mpr ⟨_, hmem, rfl⟩

/-- A trace tries nothing if none of its events is a start. -/
theorem commands_eq_nil_iff {es : List Event} :
    commands es = [] ↔ ∀ e ∈ es, e.command? = none :=
  List.filterMap_eq_nil_iff

/-- This is how a teardown is seen to start nothing. -/
theorem commands_eq_nil_of_isEnding {es : List Event} (hes : ∀ e ∈ es, e.isEnding = true) :
    commands es = [] :=
  commands_eq_nil_iff.mpr fun e he => Event.command?_of_isEnding (hes e he)

/-- And this is how it is seen not to step into the background. -/
theorem countP_isBackground_of_isEnding {es : List Event} (hes : ∀ e ∈ es, e.isEnding = true) :
    es.countP Event.isBackground = 0 := by
  refine List.countP_eq_zero.mpr fun e he => ?_
  rw [Event.isBackground_of_isEnding (hes e he)]
  exact Bool.false_ne_true

/-- A start that is tried nowhere else in a trace splits it in one way only. -/
theorem eq_of_append_spawn_eq {c : Command} {answer answer' : Except IoError Pid}
    {before before' after after' : List Event}
    (heq : before ++ .spawn c answer :: after = before' ++ .spawn c answer' :: after')
    (hbefore : c ∉ commands before) (hafter : c ∉ commands after) :
    before = before' ∧ answer = answer' ∧ after = after' := by
  -- the starts stand at one place, or one of them stands in a part of the other split
  rcases List.append_eq_append_iff.mp heq with ⟨mid, rfl, hmid⟩ | ⟨mid, rfl, hmid⟩
  · cases mid with
    | nil =>
      obtain ⟨hevent, rfl⟩ := List.cons.inj hmid
      injection hevent with _ hanswer
      exact ⟨(List.append_nil _).symm, hanswer, rfl⟩
    | cons e mid =>
      -- the other start would stand in the second part
      obtain ⟨-, rfl⟩ := List.cons.inj hmid
      simp at hafter
  · cases mid with
    | nil =>
      obtain ⟨hevent, rfl⟩ := List.cons.inj hmid
      injection hevent with _ hanswer
      exact ⟨List.append_nil _, hanswer.symm, rfl⟩
    | cons e mid =>
      -- the other start would stand in the first part
      obtain ⟨rfl, -⟩ := List.cons.inj hmid
      simp at hbefore

end NbdAttach
