import NbdAttach.Proofs.Trace

/-!
# Children by the trace

The registry is a function of what happened: every child that was started stands in it, in the order
of the starts, until its exit is reported. This module has that function, `registeredAfter`, and
what follows from it for any trace at all.

* `perm_registeredAfter` is the account of the children: those registered before and those started
  are, as multisets, those whose exit was reported while registered and those registered after.
* `registeredAfter_eq_unreported` reads the registered children off the trace without a replay,
  provided that the system never gives a new child the number of a registered one.
-/

namespace NbdAttach

open scoped List

namespace Event

/-- What an event does to the registered children. A start appends the child, and the report of an
exit takes out the earliest entry with its number, if there is one. -/
def track (pids : List Pid) : Event → List Pid
  | .spawn _ (.ok pid) => pids ++ [pid]
  | .waitAny (.ok (.child pid)) => pids.erase pid
  | _ => pids

/-- The child that an event started. -/
def spawned? : Event → Option Pid
  | .spawn _ (.ok pid) => some pid
  | _ => none

/-- The registered child whose exit an event reports. -/
def reaped? (pids : List Pid) : Event → Option Pid
  | .waitAny (.ok (.child pid)) => if pid ∈ pids then some pid else none
  | _ => none

/-- Does an event report the exit of a process with this number? -/
def isExitOf (pid : Pid) : Event → Bool
  | .waitAny (.ok (.child p)) => p == pid
  | _ => false

end Event

/-- Only a start that has succeeded has started a child. -/
theorem Event.spawned?_eq_some_iff {e : Event} {pid : Pid} :
    e.spawned? = some pid ↔ ∃ c, e = .spawn c (.ok pid) := by
  cases e with
  | spawn c answer => cases answer <;> simp [spawned?]
  | _ => simp [spawned?]

/-- The children that are registered after the events, where `pids` were registered before. -/
def registeredAfter (pids : List Pid) (es : List Event) : List Pid :=
  es.foldl Event.track pids

/-- The children that were started, in order. -/
def spawnedPids (es : List Event) : List Pid :=
  es.filterMap Event.spawned?

/-- The children whose exit was reported while they were registered, in the order of the reports. -/
def reapedPids : List Pid → List Event → List Pid
  | _, [] => []
  | pids, e :: es => (e.reaped? pids).toList ++ reapedPids (e.track pids) es

/-- The children that were started and whose exit was not reported afterwards. -/
def unreported : List Event → List Pid
  | [] => []
  | e :: es =>
    match e.spawned? with
    | some pid => if es.any (Event.isExitOf pid) then unreported es else pid :: unreported es
    | none => unreported es

@[simp] theorem registeredAfter_nil (pids : List Pid) : registeredAfter pids [] = pids := rfl

@[simp] theorem registeredAfter_cons (pids : List Pid) (e : Event) (es : List Event) :
    registeredAfter pids (e :: es) = registeredAfter (e.track pids) es := rfl

@[simp] theorem registeredAfter_append (pids : List Pid) (es es' : List Event) :
    registeredAfter pids (es ++ es') = registeredAfter (registeredAfter pids es) es' :=
  List.foldl_append

/-- Where a property is about the children that are registered when an event happens, the second
part of a concatenation begins with those that the first part leaves. -/
theorem Always.append_registered_iff {P : List Pid → Event → Prop} {pids : List Pid}
    {es es' : List Event} :
    Always (fun before e => P (registeredAfter pids before) e) (es ++ es') ↔
      Always (fun before e => P (registeredAfter pids before) e) es ∧
        Always (fun before e => P (registeredAfter (registeredAfter pids es) before) e) es' := by
  simp only [Always.append_iff, registeredAfter_append]

/-- Only a start can add an entry. -/
theorem length_registeredAfter_le (pids : List Pid) (es : List Event) :
    (registeredAfter pids es).length ≤ pids.length + (commands es).length := by
  induction es generalizing pids with
  | nil => simp
  | cons e es ih =>
    have htail := ih (e.track pids)
    rw [registeredAfter_cons]
    cases e with
    | spawn c answer =>
      rw [commands_spawn, List.length_cons]
      cases answer with
      | error cause =>
        simp only [Event.track] at htail ⊢
        omega
      | ok pid =>
        -- the new entry is paid for by the command
        simp only [Event.track, List.length_append, List.length_singleton] at htail ⊢
        omega
    | waitAny answer =>
      rcases answer with _ | (pid | _)
      · exact htail
      · have herase : (pids.erase pid).length ≤ pids.length := List.length_erase_le ..
        exact htail.trans (Nat.add_le_add_right herase _)
      · exact htail
    | _ => exact htail

/-! ### The account of the children -/

/-- One event keeps the account. -/
theorem Event.perm_track (pids : List Pid) (e : Event) :
    pids ++ e.spawned?.toList ~ (e.reaped? pids).toList ++ e.track pids := by
  cases e with
  | waitAny answer =>
    rcases answer with _ | (pid | _)
    · simp [spawned?, reaped?, track]
    · -- a registered child changes sides, and another process is not counted
      by_cases hpid : pid ∈ pids
      · simpa [spawned?, reaped?, track, hpid] using List.perm_cons_erase hpid
      · simp [spawned?, reaped?, track, hpid, List.erase_of_not_mem]
    · simp [spawned?, reaped?, track]
  | spawn c answer => cases answer <;> simp [spawned?, reaped?, track]
  | _ => simp [spawned?, reaped?, track]

/-- **The account of the children.** No child gets lost, none is counted twice. -/
theorem perm_registeredAfter (pids : List Pid) (es : List Event) :
    pids ++ spawnedPids es ~ reapedPids pids es ++ registeredAfter pids es := by
  induction es generalizing pids with
  | nil => simp [spawnedPids, reapedPids]
  | cons e es ih =>
    have hspawned : spawnedPids (e :: es) = e.spawned?.toList ++ spawnedPids es := by
      cases he : e.spawned? <;> simp [spawnedPids, he]
    calc pids ++ spawnedPids (e :: es)
        = (pids ++ e.spawned?.toList) ++ spawnedPids es := by
          rw [hspawned, List.append_assoc]
      _ ~ ((e.reaped? pids).toList ++ e.track pids) ++ spawnedPids es :=
          (e.perm_track pids).append_right _
      _ = (e.reaped? pids).toList ++ (e.track pids ++ spawnedPids es) := List.append_assoc ..
      _ ~ (e.reaped? pids).toList ++
            (reapedPids (e.track pids) es ++ registeredAfter (e.track pids) es) :=
          (ih (e.track pids)).append_left _
      _ = reapedPids pids (e :: es) ++ registeredAfter pids (e :: es) := by
          rw [← List.append_assoc]
          rfl

/-! ### Registered children without a replay -/

/-- The system never gives a new child the number of a registered one. -/
def FreshPids (es : List Event) : Prop :=
  ∀ before c pid after, es = before ++ .spawn c (.ok pid) :: after →
    pid ∉ registeredAfter [] before

theorem FreshPids.of_append {es es' : List Event} (h : FreshPids (es ++ es')) : FreshPids es := by
  rintro before c pid after rfl
  exact h before c pid (after ++ es') (by simp)

/-- A new event takes the children off the list whose exit it reports, and may add one. -/
theorem unreported_concat (es : List Event) (e : Event) :
    unreported (es ++ [e]) =
      (unreported es).filter (fun pid => !e.isExitOf pid) ++ e.spawned?.toList := by
  induction es with
  | nil => cases he : e.spawned? <;> simp [unreported, he]
  | cons e' es ih =>
    rw [List.cons_append]
    cases he' : e'.spawned? with
    | none => simp only [unreported, he', ih]
    | some pid =>
      -- the new event may be the first to report the exit of this child
      by_cases hes : es.any (Event.isExitOf pid) = true
      · simp [unreported, he', ih, hes]
      · by_cases he : e.isExitOf pid = true <;> simp [unreported, he', ih, hes, he]

/-- While no number stands twice, the earliest entry with a number is the only one. -/
theorem Event.track_eq_filter {pids : List Pid} (hpids : pids.Nodup) (e : Event) :
    e.track pids = pids.filter (fun pid => !e.isExitOf pid) ++ e.spawned?.toList := by
  cases e with
  | waitAny answer =>
    rcases answer with _ | (pid | _)
    · simp [spawned?, isExitOf, track]
    · -- the one entry that is erased is all that the filter takes out
      rw [track, hpids.erase_eq_filter]
      simp only [isExitOf, spawned?, Option.toList_none, List.append_nil]
      refine List.filter_congr fun p _ => ?_
      rw [bne, Bool.beq_comm]
    · simp [spawned?, isExitOf, track]
  | spawn c answer => cases answer <;> simp [spawned?, isExitOf, track]
  | _ => simp [spawned?, isExitOf, track]

/-- **Registered children without a replay.** With fresh numbers the registered children are
pairwise distinct, and they are those that were started and not reported since. -/
theorem registeredAfter_eq_unreported {es : List Event} (hes : FreshPids es) :
    (registeredAfter [] es).Nodup ∧ registeredAfter [] es = unreported es := by
  induction es using List.reverseRecOn with
  | nil => exact ⟨List.nodup_nil, rfl⟩
  | append_singleton es e ih =>
    obtain ⟨hnodup, heq⟩ := ih hes.of_append
    have hafter : registeredAfter [] (es ++ [e]) = e.track (registeredAfter [] es) := by
      simp
    -- the entries are distinct so far, so the event removes what a filter removes
    have htrack := e.track_eq_filter hnodup
    rw [hafter, htrack]
    refine ⟨?_, by rw [heq, unreported_concat]⟩
    refine (hnodup.filter _).append ?_ ?_
    · cases e.spawned? <;> simp
    · -- a child that was just started was not registered
      intro pid hpid hnew
      obtain ⟨c, rfl⟩ := Event.spawned?_eq_some_iff.mp (Option.mem_toList.mp hnew)
      exact hes es c pid [] rfl (List.mem_of_mem_filter hpid)

/-! ### The children an entry stands for -/

/-- The entries with a number, before and after an event. -/
theorem Event.count_track (pid : Pid) (pids : List Pid) (e : Event) :
    (e.track pids).count pid =
      (pids.count pid - if e.isExitOf pid then 1 else 0) +
        if e.spawned? = some pid then 1 else 0 := by
  cases e with
  | waitAny answer =>
    rcases answer with _ | (p | _)
    · simp [spawned?, isExitOf, track]
    · by_cases hp : p = pid
      · subst hp
        simp [spawned?, isExitOf, track]
      · simp [spawned?, isExitOf, track, hp, List.count_erase_of_ne (Ne.symm hp)]
    · simp [spawned?, isExitOf, track]
  | spawn c answer =>
    rcases answer with _ | p
    · simp [spawned?, isExitOf, track]
    · simp [spawned?, isExitOf, track, List.count_singleton]
  | _ => simp [spawned?, isExitOf, track]

/-- Of the entries with a number, the one with `n` others before it stands for a child that was
started when there were as many others before it as are left now and have exited since. -/
theorem exists_spawn_of_lt_count {pids : List Pid} {es : List Event} {pid : Pid} {n : Nat}
    (hpids : pids.count pid ≤ n) (hn : n < (registeredAfter pids es).count pid) :
    ∃ before c since, es = before ++ .spawn c (.ok pid) :: since ∧
      (registeredAfter pids before).count pid = n + since.countP (Event.isExitOf pid) := by
  induction es using List.reverseRecOn generalizing n with
  | nil => exact absurd hn (not_lt.mpr hpids)
  | append_singleton es e ih =>
    have htrack := e.count_track pid (registeredAfter pids es)
    rw [registeredAfter_append, registeredAfter_cons, registeredAfter_nil] at hn
    -- the child was started before the last event, which may have been an exit
    have hearlier : ∀ m, pids.count pid ≤ m → m < (registeredAfter pids es).count pid →
        m = n + [e].countP (Event.isExitOf pid) →
        ∃ before c since, es ++ [e] = before ++ .spawn c (.ok pid) :: since ∧
          (registeredAfter pids before).count pid = n + since.countP (Event.isExitOf pid) := by
      rintro m hpids hm rfl
      obtain ⟨before, c, since, rfl, hcount⟩ := ih hpids hm
      refine ⟨before, c, since ++ [e], by simp, ?_⟩
      rw [hcount, List.countP_append]
      omega
    -- an exit has taken away one of the entries before it, so the entry was further back until now
    by_cases hexit : e.isExitOf pid = true
    · have hspawned : e.spawned? ≠ some pid := by
        cases e <;> first | cases hexit | exact nofun
      rw [if_pos hexit, if_neg hspawned] at htrack
      exact hearlier (n + 1) (by omega) (by omega) (by simp [hexit])
    · rw [if_neg hexit] at htrack
      by_cases hlast : n < (registeredAfter pids es).count pid
      · exact hearlier n hpids hlast (by simp [hexit])
      · -- the last event is the start
        split at htrack
        · next hspawned =>
          obtain ⟨c, rfl⟩ := Event.spawned?_eq_some_iff.mp hspawned
          exact ⟨es, c, [], rfl, by rw [List.countP_nil]; omega⟩
        · omega

/-! ### Room for a new child -/

/-- Whenever a child is to be started, fewer are registered than the registry can hold. -/
def StartsWithRoom (pids : List Pid) : List Event → Prop :=
  Always fun before e => ∀ c, e.command? = some c →
    (registeredAfter pids before).length < registryCapacity

namespace StartsWithRoom

variable {pids : List Pid} {es es' : List Event}

theorem append_iff :
    StartsWithRoom pids (es ++ es') ↔
      StartsWithRoom pids es ∧ StartsWithRoom (registeredAfter pids es) es' :=
  Always.append_registered_iff (P := fun pids e => ∀ c, e.command? = some c →
    pids.length < registryCapacity)

theorem of_commands_eq_nil (hes : commands es = []) : StartsWithRoom pids es := by
  refine Always.of_forall fun e he before c hc => ?_
  rw [commands_eq_nil_iff.mp hes e he] at hc
  cases hc

/-- Where children are started only with room, the registry never gets beyond its capacity. -/
theorem length_le (hes : StartsWithRoom pids es) (hpids : pids.length ≤ registryCapacity) :
    (registeredAfter pids es).length ≤ registryCapacity := by
  induction es using List.reverseRecOn with
  | nil => exact hpids
  | append_singleton es e ih =>
    -- the last event is either a start with room, or adds nothing
    obtain ⟨hbefore, hroom⟩ := append_iff.mp hes
    have hlength := ih hbefore
    rw [registeredAfter_append]
    change (e.track (registeredAfter pids es)).length ≤ registryCapacity
    cases e with
    | spawn c answer =>
      cases answer with
      | error cause => exact hlength
      | ok pid =>
        -- there was room for the child before it was started
        have hlt := Always.singleton_iff.mp hroom c rfl
        simp only [Event.track, List.length_append, List.length_singleton, registeredAfter_nil]
          at hlt ⊢
        omega
    | waitAny answer =>
      rcases answer with _ | (pid | _)
      · exact hlength
      · exact (List.length_erase_le ..).trans hlength
      · exact hlength
    | _ => exact hlength

end StartsWithRoom

end NbdAttach
