import NbdAttach.Proofs.Supervisor.Calls

/-!
# What a wait does, call by call

Properties of the calls of a wait that carry over to waits in a row, for they are about neighbouring
calls, or about each call and what happened before it:

* after a wait by the host comes a look for a request, or the wait is over (`Event.LookNext`);
* the host is asked to wait only while a child is registered (`WaitsRegistered`);
* a request that is taken is the last thing a wait does (`EndsTaken`).
-/

namespace NbdAttach

/-! ### Looks after waits -/

/-- After a wait by the host comes a look for a request. -/
def Event.LookNext (e e' : Event) : Prop :=
  e.isHostWait = true → e'.isLook = true

/-- A wait begins with a look for a request. -/
theorem WaitCalls.begins {blocks : Bool} {r r' : Registry} {es : List Event}
    {result : Option (Except IoError WaitOutcome)} (hcalls : WaitCalls blocks r es result r') :
    ∀ e ∈ es.head?, e.isLook = true := by
  cases hcalls <;> simp [Event.isLook]

/-- A pass is in front of the passes that follow it. -/
private theorem isChain_pass {e : Event} {es : List Event} (hes : es.IsChain Event.LookNext)
    (hbegins : ∀ e ∈ es.head?, e.isLook = true) :
    (.takePending none :: e :: es).IsChain Event.LookNext := by
  rw [List.isChain_cons_cons, List.isChain_cons]
  exact ⟨nofun, fun e' he' _ => hbegins e' he', hes⟩

/-- Within a wait a look comes after each wait by the host. -/
theorem WaitCalls.isChain {blocks : Bool} {r r' : Registry} {es : List Event}
    {result : Option (Except IoError WaitOutcome)} (hcalls : WaitCalls blocks r es result r') :
    es.IsChain Event.LookNext := by
  induction hcalls with
  | goesOn => exact .nil
  | interrupted signal => exact .singleton _
  | noneLeft _ _ => exact .singleton _
  | idle _ _ hrest ih => exact isChain_pass ih hrest.begins
  | failed _ cause => exact isChain_pass .nil (by simp)
  | cutShort _ hrest ih => exact isChain_pass ih hrest.begins
  | untracked _ _ hrest ih => exact isChain_pass ih hrest.begins
  | exited _ => exact isChain_pass .nil (by simp)

/-- Waits in a row begin with a look, also where the first of them has made no calls. -/
theorem WaitRow.begins {blocks : Bool} {r r' : Registry} {es : List Event}
    (hrow : WaitRow blocks r es r') : ∀ e ∈ es.head?, e.isLook = true := by
  induction hrow with
  | last hwait => exact hwait.begins
  | @more _ _ _ es _ _ hwait _ ih =>
    cases es with
    | nil => exact ih
    | cons e rest => exact hwait.begins

/-- Also over the end of a wait, where the next one begins. -/
theorem WaitRow.isChain {blocks : Bool} {r r' : Registry} {es : List Event}
    (hrow : WaitRow blocks r es r') : es.IsChain Event.LookNext := by
  induction hrow with
  | last hwait => exact hwait.isChain
  | more hwait hrest ih =>
    -- the waits that follow begin with a look, whatever was before
    exact List.isChain_append.mpr ⟨hwait.isChain, ih, fun _ _ e' he' _ => hrest.begins e' he'⟩

/-- What comes right after a wait by the host. -/
theorem looks_of_isChain {before after : List Event} {answer : Except IoError Reaped}
    (hes : (before ++ .waitAny answer :: after).IsChain Event.LookNext) :
    after = [] ∨ ∃ found rest, after = .takePending found :: rest := by
  have hafter := (List.isChain_append.mp hes).2.1
  cases after with
  | nil => exact Or.inl rfl
  | cons e rest =>
    have hlook : e.isLook = true := (List.isChain_cons_cons.mp hafter).1 rfl
    cases e with
    | takePending found => exact Or.inr ⟨found, rest, rfl⟩
    | _ => cases hlook

/-! ### Waits for registered children -/

/-- Whenever the host is asked to wait, a child is registered. -/
def WaitsRegistered (pids : List Pid) : List Event → Prop :=
  Always fun before e => e.isHostWait = true → registeredAfter pids before ≠ []

namespace WaitsRegistered

variable {pids : List Pid} {es es' : List Event}

theorem append_iff :
    WaitsRegistered pids (es ++ es') ↔
      WaitsRegistered pids es ∧ WaitsRegistered (registeredAfter pids es) es' :=
  Always.append_registered_iff (P := fun pids e => e.isHostWait = true → pids ≠ [])

/-- One pass with a child registered, whatever the answer to its wait. -/
theorem pass {answer : Except IoError Reaped} (hpids : pids ≠ []) :
    WaitsRegistered pids [.takePending none, .waitAny answer] := by
  change WaitsRegistered pids ([.takePending none] ++ [.waitAny answer])
  refine append_iff.mpr ⟨?_, ?_⟩
  · exact Always.singleton_iff.mpr nofun
  · exact Always.singleton_iff.mpr fun _ => hpids

/-- Where nothing is registered and nothing is started, the host is not asked to wait. -/
theorem none_left {before after : List Event} (hes : WaitsRegistered pids (before ++ after))
    (hempty : registeredAfter pids before = []) (hafter : commands after = []) :
    ∀ e ∈ after, e.isHostWait = false := by
  intro e he
  obtain ⟨mid, rest, rfl⟩ := List.append_of_mem he
  have hregistered := (append_iff.mp hes).2 mid e rest rfl
  rw [hempty] at hregistered
  -- nothing was started in between, so there is nothing registered still
  have hmid : commands mid = [] := by
    rw [commands_append] at hafter
    exact (List.append_eq_nil_iff.mp hafter).1
  have hlength := length_registeredAfter_le [] mid
  rw [hmid] at hlength
  exact Bool.eq_false_iff.mpr fun hwait =>
    hregistered hwait (List.eq_nil_of_length_eq_zero (Nat.le_zero.mp hlength))

end WaitsRegistered

/-- A wait asks the host only for children that are registered. -/
theorem WaitCalls.waitsRegistered {blocks : Bool} {r r' : Registry} {es : List Event}
    {result : Option (Except IoError WaitOutcome)} (hcalls : WaitCalls blocks r es result r') :
    WaitsRegistered r.pids es := by
  induction hcalls with
  | goesOn => exact Always.nil
  | interrupted signal => exact Always.singleton_iff.mpr nofun
  | noneLeft _ _ => exact Always.singleton_iff.mpr nofun
  -- to sleep is no wait by the host
  | idle _ _ _ ih =>
    change WaitsRegistered r.pids ([.takePending none, .idle] ++ _)
    refine WaitsRegistered.append_iff.mpr ⟨?_, ih⟩
    refine Always.of_forall fun e he _ hwait => ?_
    rcases List.mem_pair.mp he with rfl | rfl <;> cases hwait
  | failed hsome => exact .pass hsome
  | cutShort hsome _ ih =>
    change WaitsRegistered r.pids ([_, _] ++ _)
    exact WaitsRegistered.append_iff.mpr ⟨.pass hsome, ih⟩
  | @untracked _ _ _ pid hsome hpid _ ih =>
    change WaitsRegistered r.pids ([_, _] ++ _)
    refine WaitsRegistered.append_iff.mpr ⟨.pass hsome, ?_⟩
    -- a process that is not registered takes no entry with it
    change WaitsRegistered (r.pids.erase pid) _
    rw [List.erase_of_not_mem hpid]
    exact ih
  | exited hpid => exact .pass (List.ne_nil_of_mem hpid)

/-- Waits in a row ask the host only for children that are registered, for each of them begins with
what the one before it has left. -/
theorem WaitRow.waitsRegistered {blocks : Bool} {r r' : Registry} {es : List Event}
    (hrow : WaitRow blocks r es r') : WaitsRegistered r.pids es := by
  induction hrow with
  | last hwait => exact hwait.waitsRegistered
  | more hwait _ ih =>
    refine WaitsRegistered.append_iff.mpr ⟨hwait.waitsRegistered, ?_⟩
    rw [← hwait.track]
    exact ih

/-! ### What is left after a wait -/

/-- A wait that reports an exit found the child in the registry, and took it out. -/
theorem WaitCalls.of_exited {blocks : Bool} {r r' : Registry} {es : List Event} {pid : Pid}
    (hcalls : WaitCalls blocks r es (some (.ok (.exited pid))) r') :
    pid ∈ r.pids ∧ r' = r.erase pid := by
  -- on all results, for the passes before the last have none
  generalize hresult : some (Except.ok (WaitOutcome.exited pid)) = result at hcalls
  induction hcalls with
  | exited hpid =>
    cases hresult
    exact ⟨hpid, rfl⟩
  | idle _ _ _ ih => exact ih hresult
  | cutShort _ _ ih => exact ih hresult
  | untracked _ _ _ ih => exact ih hresult
  | _ => cases hresult

/-- A wait that has found nobody left had nobody to wait for, and was not to block. -/
theorem WaitCalls.of_noneLeft {blocks : Bool} {r r' : Registry} {es : List Event}
    (hcalls : WaitCalls blocks r es (some (.ok .noneLeft)) r') :
    r.pids = [] ∧ blocks = false := by
  generalize hresult : some (Except.ok WaitOutcome.noneLeft) = result at hcalls
  induction hcalls with
  | noneLeft hempty hblocks => exact ⟨hempty, hblocks⟩
  | idle _ _ _ ih => exact ih hresult
  | cutShort _ _ ih => exact ih hresult
  | untracked _ _ _ ih => exact ih hresult
  | _ => cases hresult

/-! ### Requests that are taken -/

/-- No request is taken. -/
def Untaken (es : List Event) : Prop :=
  ∀ e ∈ es, e.isTaken = false

/-- The last event takes a request, and no other does. -/
def EndsTaken (es : List Event) : Prop :=
  ∃ before signal, es = before ++ [.takePending (some signal)] ∧ Untaken before

/-- A request is taken only if `P`, and then it is the last thing. -/
def TakesOnlyIf (P : Prop) (es : List Event) : Prop :=
  Untaken es ∨ (EndsTaken es ∧ P)

theorem Untaken.append {es es' : List Event} (hes : Untaken es) (hes' : Untaken es') :
    Untaken (es ++ es') :=
  fun e he => (List.mem_append.mp he).elim (hes e) (hes' e)

/-- The request that is taken at the end of the second part is at the end of both. -/
theorem Untaken.append_endsTaken {es es' : List Event} (hes : Untaken es)
    (hes' : EndsTaken es') : EndsTaken (es ++ es') := by
  obtain ⟨before, signal, rfl, hbefore⟩ := hes'
  exact ⟨es ++ before, signal, (List.append_assoc ..).symm, hes.append hbefore⟩

/-- What takes no request may come first. -/
theorem Untaken.append_takesOnlyIf {P : Prop} {es es' : List Event} (hes : Untaken es)
    (hes' : TakesOnlyIf P es') : TakesOnlyIf P (es ++ es') := by
  rcases hes' with huntaken | ⟨htaken, hP⟩
  · exact Or.inl (hes.append huntaken)
  · exact Or.inr ⟨hes.append_endsTaken htaken, hP⟩

theorem TakesOnlyIf.mono {P Q : Prop} {es : List Event} (hes : TakesOnlyIf P es) (hPQ : P → Q) :
    TakesOnlyIf Q es :=
  hes.imp id fun htaken => ⟨htaken.1, hPQ htaken.2⟩

theorem TakesOnlyIf.untaken {P : Prop} {es : List Event} (hes : TakesOnlyIf P es) (hP : ¬P) :
    Untaken es :=
  hes.resolve_right fun htaken => hP htaken.2

/-- There is only one request to find, and it is at the end. -/
theorem EndsTaken.eq_append {es before after : List Event} {signal : Signal} (hes : EndsTaken es)
    (heq : es = before ++ .takePending (some signal) :: after) : after = [] ∧ Untaken before := by
  obtain ⟨before', signal', rfl, huntaken⟩ := hes
  rcases List.eq_nil_or_concat after with rfl | ⟨mid, last, rfl⟩
  · obtain ⟨rfl, -⟩ := List.append_inj' heq rfl
    exact ⟨rfl, huntaken⟩
  · -- the request would stand before the last one
    rw [List.concat_eq_append, ← List.cons_append, ← List.append_assoc] at heq
    obtain ⟨rfl, -⟩ := List.append_inj' heq rfl
    cases huntaken (.takePending (some signal)) (by simp)

/-- Where a request is taken after events that take none, it is the last thing, and `P`. -/
theorem TakesOnlyIf.of_taken {P : Prop} {es es' before after : List Event} {signal : Signal}
    (hes' : TakesOnlyIf P es') (hes : Untaken es)
    (heq : es ++ es' = before ++ .takePending (some signal) :: after) :
    after = [] ∧ P ∧ ∃ rest, before = es ++ rest ∧ es' = rest ++ [.takePending (some signal)] := by
  rcases hes' with huntaken | ⟨htaken, hP⟩
  · -- the request that stands there was taken, so the second part takes one
    have hnone := hes.append huntaken (.takePending (some signal)) (by rw [heq]; simp)
    cases hnone
  · obtain ⟨rfl, -⟩ := (hes.append_endsTaken htaken).eq_append heq
    obtain ⟨rest, signal', rfl, -⟩ := htaken
    rw [← List.append_assoc] at heq
    obtain ⟨rfl, hlast⟩ := List.append_inj' heq rfl
    rw [hlast]
    exact ⟨rfl, hP, rest, rfl, rfl⟩

/-- At most one request is taken. -/
theorem TakesOnlyIf.countP_le {P : Prop} {es : List Event} (hes : TakesOnlyIf P es) :
    es.countP Event.isTaken ≤ 1 := by
  -- only the last event can take one
  have hnone : ∀ {es}, Untaken es → es.countP Event.isTaken = 0 := fun huntaken =>
    List.countP_eq_zero.mpr fun e he => Bool.eq_false_iff.mp (huntaken e he)
  rcases hes with huntaken | ⟨⟨before, signal, rfl, huntaken⟩, -⟩
  · rw [hnone huntaken]
    exact Nat.zero_le 1
  · rw [List.countP_append, hnone huntaken]
    exact Nat.le_refl 1

/-- A pass that takes no request. -/
private theorem untaken_pass {e : Event} (he : e.isTaken = false) :
    Untaken [.takePending none, e] := by
  intro e' he'
  rcases List.mem_pair.mp he' with rfl | rfl
  · rfl
  · exact he

/-- A wait takes a request only where it is interrupted. -/
theorem WaitCalls.takesOnlyIf {blocks : Bool} {r r' : Registry} {es : List Event}
    {result : Option (Except IoError WaitOutcome)} (hcalls : WaitCalls blocks r es result r') :
    TakesOnlyIf (result = some (.ok .interrupted)) es := by
  induction hcalls with
  | goesOn => exact Or.inl nofun
  | interrupted signal => exact Or.inr ⟨⟨[], signal, rfl, nofun⟩, rfl⟩
  | noneLeft _ _ => exact Or.inl (by simp [Untaken, Event.isTaken])
  | idle _ _ _ ih => exact (untaken_pass rfl).append_takesOnlyIf ih
  | failed _ _ => exact Or.inl (untaken_pass rfl)
  | cutShort _ _ ih => exact (untaken_pass rfl).append_takesOnlyIf ih
  | untracked _ _ _ ih => exact (untaken_pass rfl).append_takesOnlyIf ih
  | exited _ => exact Or.inl (untaken_pass rfl)

end NbdAttach
