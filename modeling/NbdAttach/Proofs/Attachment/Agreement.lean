import NbdAttach.Proofs.Attachment.StartUp
import NbdAttach.Proofs.Attachment.Residue
import NbdAttach.Proofs.CommandLine.Device

/-!
# Server and client agree

Three argument vectors are built apart from one another, and a run waits for a socket and removes it
in yet other places. That all of them mean the same device, the same socket and the same mode is
`AgreementLaw`.

Its part on the modes goes back to the tokens of the command line (`Invocation.readOnly_iff`). Its
part on the run goes back to the calls that a run makes: each of them is about the attachment's own
commands and socket (`RunCalls.concerns`), the client is not tried before the socket was found
(`RunCalls.polled`), and a run that has returned has tried to remove it (`RunCalls.removed`).
-/

namespace NbdAttach

variable {σ : Type}

/-! ### The modes in the commands -/

/-- The server's own flags in an argument vector: what stands between the program and the filter. -/
def baseFlags (argv : List String) : List String :=
  argv.tail.takeWhile fun token => !begins "--filter=" token

namespace Invocation

/-- The arguments of the plugin that come from the flags of the command line. -/
def pluginArgs (settings : Settings) (inv : Invocation) : List String :=
  inv.params.map fun (name, value) => settings.paramPrefix ++ name ++ "=" ++ value

/-- The argument vector of the server, part by part. -/
theorem serverCommand_argv (settings : Settings) (endpoint : Endpoint) (inv : Invocation) :
    (inv.serverCommand settings endpoint).argv =
      settings.serverExecutable :: (modeFlags inv.mode ++
        ["--filter=" ++ settings.exitFilter, "--unix", endpoint.path.text] ++ inv.serverFlags ++
        [settings.pluginName] ++ inv.pluginArgs settings ++
        [settings.bucketParam ++ "=" ++ inv.bucket] ++ inv.extraParams) := rfl

/-- The server's own flags are those of its mode: the first token behind them is the filter. -/
theorem baseFlags_serverCommand (settings : Settings) (endpoint : Endpoint) (inv : Invocation) :
    baseFlags (inv.serverCommand settings endpoint).argv = modeFlags inv.mode := by
  have hmodes : ∀ token ∈ modeFlags inv.mode, (!begins "--filter=" token) = true := by
    obtain ⟨_ | _, _ | _, _ | _⟩ := inv.mode <;> decide
  have hfilter : ∀ rest, (("--filter=" ++ settings.exitFilter) :: rest).takeWhile
      (fun token => !begins "--filter=" token) = [] :=
    fun rest => List.takeWhile_cons_of_neg (by simp)
  rw [baseFlags, serverCommand_argv, List.tail_cons]
  simp only [List.append_assoc, List.cons_append]
  -- the run of flags ends right at the filter
  rw [List.takeWhile_append_of_pos hmodes, hfilter, List.append_nil]

/-- Of the flags of a mode, one says that nothing is to be written. -/
theorem readOnly_mem_modeFlags_iff (mode : Mode) :
    "--read-only" ∈ modeFlags mode ↔ mode.readOnly = true := by
  obtain ⟨_ | _, _ | _, _ | _⟩ := mode <;> decide

/-- The end of the client's argument vector tells in which mode it is. -/
theorem clientCommand_suffix (settings : Settings) (endpoint : Endpoint) (inv : Invocation) :
    (["-nofork", "-readonly", inv.device.text] <:+ (inv.clientCommand settings endpoint).argv ↔
      inv.mode.readOnly = true) ∧
    (["-nofork", inv.device.text] <:+ (inv.clientCommand settings endpoint).argv ↔
      ¬inv.mode.readOnly = true) := by
  cases hreadOnly : inv.mode.readOnly with
  | true => simp [Command.argv, clientCommand, argIf, hreadOnly, List.suffix_cons_iff]
  | false => simp [Command.argv, clientCommand, argIf, hreadOnly, List.suffix_cons_iff]

end Invocation

/-! ### The switch to read only -/

/-- The spellings of the switch to read only. -/
def IsReadOnlyToken (token : String) : Prop :=
  token = "--readOnly" ∨ ∃ value, SaysTrue value ∧ token = "--readOnly=" ++ value

/-- A token switches something on where the table declares a switch of the name, and the token is
its bare name or gives it a value that stands for yes. -/
theorem Flag.means_switch_iff {table : FlagTable} {token name : String}
    (hname : '=' ∉ name.toList) :
    Flag.Means table token (.switch name) ↔ table.Declares name .boolean ∧
      (token = "--" ++ name ∨ ∃ value, SaysTrue value ∧ token = "--" ++ name ++ "=" ++ value) := by
  constructor
  · rintro (_ | _ | ⟨hspells, hdeclared, hvalue⟩ | _)
    refine ⟨hdeclared, ?_⟩
    -- only the third reading of a token is a switch
    cases hspells with
    | bare _ => exact Or.inl rfl
    | assigned _ value => exact Or.inr ⟨value, hvalue value rfl, rfl⟩
  · rintro ⟨hdeclared, rfl | ⟨value, hvalue, rfl⟩⟩
    · exact .switch (.bare hname) hdeclared nofun
    · exact .switch (.assigned hname value) hdeclared fun | _, rfl => hvalue

/-- The switch to read only is written as any switch is. -/
theorem Flag.means_readOnly_iff {table : FlagTable} {token : String} :
    Flag.Means table token (.switch "readOnly") ↔
      table.Declares "readOnly" .boolean ∧ IsReadOnlyToken token :=
  Flag.means_switch_iff (by decide)

/-- Such a token is none of the flags that go to the server as they are. -/
theorem IsReadOnlyToken.not_begins_nbd {token : String} (htoken : IsReadOnlyToken token) :
    begins "--nbd" token = false := by
  rcases htoken with rfl | ⟨value, -, rfl⟩
  · rfl
  · have hspells : Spells ("--" ++ "readOnly" ++ "=" ++ value) "readOnly" (some value) :=
      .assigned (by decide) value
    exact hspells.begins_nbd_eq

namespace Invocation

variable {table : FlagTable} {args : List String} {inv : Invocation}

/-- An accepted line is read only where the table has this switch and the line uses it. -/
theorem readOnly_iff (hparse : parse table args = .ok inv) :
    inv.mode.readOnly = true ↔
      table.Declares "readOnly" .boolean ∧ ∃ token ∈ flagRun args, IsReadOnlyToken token := by
  obtain ⟨-, bucket, device, flags, -, hmeans, rfl⟩ := parse_eq_ok_iff.mp hparse
  simp only [Mode.ofFlags, List.contains_iff_mem, mem_flags_iff begins_of_mem_flagTokens hmeans,
    Flag.means_readOnly_iff, mem_flagTokens_iff]
  -- tokens for the server are set aside, and none of them is such a switch
  constructor
  · rintro ⟨token, ⟨htoken, -⟩, hdeclared, hspelled⟩
    exact ⟨hdeclared, token, htoken, hspelled⟩
  · rintro ⟨hdeclared, token, htoken, hspelled⟩
    exact ⟨token, ⟨htoken, hspelled.not_begins_nbd⟩, hdeclared, hspelled⟩

/-- Of the switch to read only the plugin is told as well. -/
theorem readOnly_mem_params (hparse : parse table args = .ok inv)
    (hreadOnly : inv.mode.readOnly = true) : ("readOnly", "true") ∈ inv.params := by
  obtain ⟨-, bucket, device, flags, -, -, rfl⟩ := parse_eq_ok_iff.mp hparse
  have hflag : .switch "readOnly" ∈ flags := List.contains_iff_mem.mp hreadOnly
  exact List.mem_filterMap.mpr ⟨_, hflag, rfl⟩

end Invocation

/-! ### What a run is about -/

/-- The event is about the commands and the socket of the attachment, if it is about a command or a
socket at all. -/
def Attachment.Concerns (a : Attachment) : Event → Prop
  | .spawn command _ => command ∈ [a.server, a.client, a.disconnect]
  | .awaitSocket path _ | .removeSocket path _ => path = a.endpoint.path
  | _ => True

/-- The client is tried only once the socket was found. -/
def Attachment.Polled (a : Attachment) (before : List Event) (e : Event) : Prop :=
  e.command? = some a.client → .awaitSocket a.endpoint.path (.ok true) ∈ before

section Events

variable {a : Attachment} {r r' : Registry} {server : Pid} {es : List Event}

/-- The calls of a wait name no command and no socket. -/
theorem Attachment.concerns_of_isWaiting {e : Event} (he : e.isWaiting = true) : a.Concerns e := by
  cases e with
  | takePending _ => trivial
  | idle => trivial
  | waitAny _ => trivial
  | _ => cases he

/-- A start is about the command that is started. -/
theorem SpawnCalls.concerns {c : Command} {result : Except SpawnError Pid}
    (hcalls : SpawnCalls c r es result r') (hc : c ∈ [a.server, a.client, a.disconnect]) :
    ∀ e ∈ es, a.Concerns e := by
  intro e he
  obtain ⟨answer, rfl⟩ := hcalls.eq_spawn he
  exact hc

/-- The wait for the process of the server and the step into the background are about neither. -/
theorem LauncherCalls.concerns {result : Option (Except RunError Unit)}
    (hcalls : LauncherCalls a server r es result r') : ∀ e ∈ es, a.Concerns e := by
  have hwaiting : ∀ {es' result' r''}, WaitCalls false r es' result' r'' →
      ∀ e ∈ es', a.Concerns e :=
    fun hwait e he => Attachment.concerns_of_isWaiting (hwait.isWaiting e he)
  cases hcalls with
  | goesOn hwait => exact hwaiting hwait
  | waitFailed hwait => exact hwaiting hwait
  | interrupted hwait => exact hwaiting hwait
  | noneLeft hwait => exact hwaiting hwait
  | stranger _ hwait => exact hwaiting hwait
  | exited hwait answer =>
    -- the step into the background is about no command
    rw [List.forall_mem_append]
    exact ⟨hwaiting hwait, List.forall_mem_singleton.mpr trivial⟩

/-- The socket that is looked for is the one of the endpoint. -/
theorem AttachCalls.concerns {result : Except RunError Pid}
    (hcalls : AttachCalls a r es result r') : ∀ e ∈ es, a.Concerns e := by
  have hclient : a.client ∈ [a.server, a.client, a.disconnect] := by simp
  cases hcalls with
  | failed => exact List.forall_mem_singleton.mpr rfl
  | timedOut => exact List.forall_mem_singleton.mpr rfl
  | spawnFailed hspawn => exact List.forall_mem_cons.mpr ⟨rfl, hspawn.concerns hclient⟩
  | attached hspawn => exact List.forall_mem_cons.mpr ⟨rfl, hspawn.concerns hclient⟩

/-- The start of a run is about the attachment, in either mode. -/
theorem StartCalls.concerns {result : Option (Except RunError Pid)}
    (hcalls : StartCalls a server r es result r') : ∀ e ∈ es, a.Concerns e := by
  cases hcalls with
  | foreground _ hattach => exact hattach.concerns
  | goesOn _ hlauncher => exact hlauncher.concerns
  | failed _ hlauncher => exact hlauncher.concerns
  | background _ hlauncher hattach =>
    rw [List.forall_mem_append]
    exact ⟨hlauncher.concerns, hattach.concerns⟩

/-- A teardown for the same endpoint removes the same socket. -/
theorem TeardownCalls.concerns {spared : Option Pid} {disconnectError : Option SpawnError}
    {report : Option TeardownReport}
    (hcalls : TeardownCalls a.endpoint.path spared disconnectError r es report r') :
    ∀ e ∈ es, a.Concerns e := by
  have hkills : ∀ {pids kills}, KillCalls pids kills → ∀ e ∈ kills, a.Concerns e := by
    intro pids kills hkill e he
    -- a request to terminate is about no socket
    have hterminate := hkill.isTerminate e he
    cases e with
    | terminate _ _ => trivial
    | _ => cases hterminate
  have hreaps : ∀ {r₁ reaps reaped r₂}, ReapCalls r₁ reaps reaped r₂ →
      ∀ e ∈ reaps, a.Concerns e :=
    fun hreap e he => Attachment.concerns_of_isWaiting (hreap.waitRow.isWaiting e he)
  cases hcalls with
  | goesOn hkill hreap =>
    rw [List.forall_mem_append]
    exact ⟨hkills hkill, hreaps hreap⟩
  | done hkill hreap answer =>
    -- the last call removes the socket of the endpoint
    rw [List.forall_mem_append, List.forall_mem_append]
    exact ⟨⟨hkills hkill, hreaps hreap⟩, List.forall_mem_singleton.mpr rfl⟩

/-- The helper of a shutdown is the third of the commands. -/
theorem ShutdownCalls.concerns {report : Option TeardownReport}
    (hcalls : ShutdownCalls a.endpoint.path a.disconnect r es report r') :
    ∀ e ∈ es, a.Concerns e := by
  cases hcalls with
  | detach hspawn hteardown =>
    rw [List.forall_mem_append]
    exact ⟨hspawn.concerns (by simp), hteardown.concerns⟩

/-- Every call of a run is about the attachment. -/
theorem RunCalls.concerns {result : Option (Except RunError Unit)}
    (hcalls : RunCalls a r es result r') : ∀ e ∈ es, a.Concerns e := by
  have hserver : a.server ∈ [a.server, a.client, a.disconnect] := by simp
  have hsupervision : ∀ {server client r₁ es' result' r₂},
      SupervisionCalls a server client r₁ es' result' r₂ → ∀ e ∈ es', a.Concerns e :=
    fun hsupervise e he => Attachment.concerns_of_isWaiting (hsupervise.isWaiting e he)
  -- part by part; what is registered does not matter here
  cases hcalls with
  | notStarted hspawn => exact hspawn.concerns hserver
  | starting hspawn hstart =>
    rw [List.forall_mem_append]
    exact ⟨hspawn.concerns hserver, hstart.concerns⟩
  | aborted hspawn hstart habort =>
    rw [List.forall_mem_append, List.forall_mem_append]
    exact ⟨⟨hspawn.concerns hserver, hstart.concerns⟩, habort.concerns⟩
  | supervising hspawn hstart hsupervise =>
    rw [List.forall_mem_append, List.forall_mem_append]
    exact ⟨⟨hspawn.concerns hserver, hstart.concerns⟩, hsupervision hsupervise⟩
  | supervised hspawn hstart hsupervise hshutdown =>
    rw [List.forall_mem_append, List.forall_mem_append, List.forall_mem_append]
    exact ⟨⟨⟨hspawn.concerns hserver, hstart.concerns⟩, hsupervision hsupervise⟩,
      hshutdown.concerns⟩

/-! ### The client waits for the socket -/

/-- Where the client is not tried there is nothing to show, whatever happened before. -/
theorem Attachment.polled_of_notMem (hes : a.client ∉ commands es) (past : List Event) :
    Always (fun before e => a.Polled (past ++ before) e) es :=
  Always.of_forall fun e he _ hcommand => absurd (List.mem_filterMap.mpr ⟨e, he, hcommand⟩) hes

/-- The try to start one command is not a try of another. -/
theorem SpawnCalls.notMem_commands {c c' : Command} {result : Except SpawnError Pid}
    (hcalls : SpawnCalls c r es result r') (hne : c' ≠ c) : c' ∉ commands es := by
  intro hmem
  obtain ⟨e, he, hcommand⟩ := List.mem_filterMap.mp hmem
  obtain ⟨answer, rfl⟩ := hcalls.eq_spawn he
  exact hne (Option.some.inj hcommand).symm

/-- The client is tried right behind a look that has found the socket. -/
theorem AttachCalls.polled {result : Except RunError Pid} (hcalls : AttachCalls a r es result r')
    (past : List Event) : Always (fun before e => a.Polled (past ++ before) e) es := by
  have hfound : ∀ es', Always (fun before e => a.Polled (past ++ before) e)
      (.awaitSocket a.endpoint.path (.ok true) :: es') := by
    intro es'
    rw [← List.singleton_append, Always.append_iff]
    refine ⟨Attachment.polled_of_notMem (by simp [commands, Event.command?]) past, ?_⟩
    -- from here on the find is among the events before
    exact Always.of_forall fun e _ before _ => by simp
  cases hcalls with
  | failed => exact Attachment.polled_of_notMem (by simp [commands, Event.command?]) past
  | timedOut => exact Attachment.polled_of_notMem (by simp [commands, Event.command?]) past
  | spawnFailed hspawn => exact hfound _
  | attached hspawn => exact hfound _

/-- This holds also behind the step into the background, for which nothing is started. -/
theorem StartCalls.polled {result : Option (Except RunError Pid)}
    (hcalls : StartCalls a server r es result r') (past : List Event) :
    Always (fun before e => a.Polled (past ++ before) e) es := by
  have hlaunching : ∀ {es' result' r''}, LauncherCalls a server r es' result' r'' →
      Always (fun before e => a.Polled (past ++ before) e) es' := by
    intro es' result' r'' hlauncher
    refine Attachment.polled_of_notMem ?_ past
    rw [hlauncher.commands_eq_nil]
    exact List.not_mem_nil
  cases hcalls with
  | foreground _ hattach => exact hattach.polled past
  | goesOn _ hlauncher => exact hlaunching hlauncher
  | failed _ hlauncher => exact hlaunching hlauncher
  | background _ hlauncher hattach =>
    rw [Always.append_iff]
    refine ⟨hlaunching hlauncher, ?_⟩
    simp only [← List.append_assoc]
    exact hattach.polled _

/-- In a run the client is tried only once the socket was found. -/
theorem RunCalls.polled {result : Option (Except RunError Unit)}
    (hcalls : RunCalls a r es result r') : Always a.Polled es := by
  -- the other parts of a run do not try the client
  have hspawned : ∀ {es' result' r₁}, SpawnCalls a.server r es' result' r₁ →
      Always a.Polled es' :=
    fun hspawn => Attachment.polled_of_notMem (hspawn.notMem_commands a.server_ne_client.symm) []
  have hending : ∀ {es'}, (∀ e ∈ es', e.isEnding = true) → ∀ past,
      Always (fun before e => a.Polled (past ++ before) e) es' := by
    intro es' hes' past
    refine Attachment.polled_of_notMem ?_ past
    rw [commands_eq_nil_of_isEnding hes']
    exact List.not_mem_nil
  cases hcalls with
  | notStarted hspawn => exact hspawned hspawn
  | starting hspawn hstart =>
    rw [Always.append_iff]
    exact ⟨hspawned hspawn, hstart.polled _⟩
  | aborted hspawn hstart habort =>
    rw [Always.append_iff, Always.append_iff]
    exact ⟨⟨hspawned hspawn, hstart.polled _⟩, hending habort.isEnding _⟩
  | supervising hspawn hstart hsupervise =>
    rw [Always.append_iff, Always.append_iff]
    exact ⟨⟨hspawned hspawn, hstart.polled _⟩, hending hsupervise.isEnding _⟩
  | supervised hspawn hstart hsupervise hshutdown =>
    rw [Always.append_iff, Always.append_iff, Always.append_iff]
    refine ⟨⟨⟨hspawned hspawn, hstart.polled _⟩, hending hsupervise.isEnding _⟩, ?_⟩
    refine Attachment.polled_of_notMem ?_ _
    cases hshutdown with
    | detach hdetach hteardown =>
      -- the only command in a shutdown is the helper
      rw [commands_append, commands_eq_nil_of_isEnding hteardown.isEnding, List.append_nil]
      exact hdetach.notMem_commands a.client_ne_disconnect

/-! ### The removal of the socket -/

/-- Events that end with the removal have it as the last of them. -/
theorem EndsWithRemoval.exists_last {path : Path} (hends : EndsWithRemoval path es r) :
    ∃ before answer, es = before ++ [.removeSocket path answer] := by
  obtain ⟨before, last, answer, rfl, -, -⟩ := hends
  exact ⟨before ++ [last], answer, by rw [List.append_assoc]; rfl⟩

/-- A start that has failed has started nobody. -/
theorem SpawnCalls.started_notMem {c : Command} {error : SpawnError}
    (hcalls : SpawnCalls c r es (.error error) r') (pid : Pid) : .spawn c (.ok pid) ∉ es := by
  cases hcalls with
  | full _ => exact List.not_mem_nil
  | failed _ cause => simp

/-- A run that has returned has tried to remove the socket in the end, if its server was started. -/
theorem RunCalls.removed {result : Except RunError Unit}
    (hcalls : RunCalls a r es (some result) r')
    (hserver : ∃ server, .spawn a.server (.ok server) ∈ es) :
    ∃ before answer, es = before ++ [.removeSocket a.endpoint.path answer] := by
  generalize hresult : some result = result? at hcalls
  cases hcalls with
  | notStarted hspawn =>
    -- the one attempt to start the server has failed
    obtain ⟨server, hmem⟩ := hserver
    exact absurd hmem (hspawn.started_notMem server)
  | starting => cases hresult
  | @aborted _ _ _ _ _ _ _ _ report hspawn hstart habort =>
    cases report with
    | none => cases hresult
    | some report =>
      -- a start that has failed is torn down as well
      obtain ⟨before, answer, rfl⟩ := habort.endsWithRemoval.exists_last
      exact ⟨_, answer, (List.append_assoc ..).symm⟩
  | supervising => cases hresult
  | @supervised _ _ _ _ _ _ _ _ _ _ _ report _ _ _ hshutdown =>
    cases report with
    | none => cases hresult
    | some report =>
      obtain ⟨before, answer, rfl⟩ := hshutdown.endsWithRemoval.exists_last
      exact ⟨_, answer, (List.append_assoc ..).symm⟩

end Events

/-! ### The theorem -/

/-- What holds of the events of a run, or of as much of it as there is after some rounds, with
regard to the attachment that it is about. -/
structure Attachment.Kept (a : Attachment) (returned : Prop) (es : List Event) : Prop where
  /-- Only the commands of the attachment are tried, and it is always its socket that is waited for
  and removed. -/
  concerns : ∀ e ∈ es, a.Concerns e
  /-- The client is tried only once the socket was found. -/
  polled : Always a.Polled es
  /-- A run that has returned has tried to remove the socket in the end, if its server was
  started. -/
  removed : returned → (∃ server, .spawn a.server (.ok server) ∈ es) →
    ∃ before answer, es = before ++ [.removeSocket a.endpoint.path answer]

/-- Server, client and helper agree on the mode, the device and the socket, and so does every run
with them. `run` is the flag run of the command line that the attachment is for. -/
structure AgreementLaw (table : FlagTable) (run : List String) (a : Attachment) : Prop where
  /-- The client may only read where the server is told so among its own flags. -/
  readOnly_iff : "--read-only" ∈ baseFlags a.server.argv ↔
    ["-nofork", "-readonly", a.inv.device.text] <:+ a.client.argv
  writable_iff : "--read-only" ∉ baseFlags a.server.argv ↔
    ["-nofork", a.inv.device.text] <:+ a.client.argv
  /-- Where the table has the switch, it decides. -/
  switched_iff : table.Declares "readOnly" .boolean →
    ("--read-only" ∈ baseFlags a.server.argv ↔ ∃ token ∈ run, IsReadOnlyToken token)
  /-- The server is told of the socket right behind the filter. -/
  server : a.server.argv =
    a.settings.serverExecutable :: (baseFlags a.server.argv ++
      ["--filter=" ++ a.settings.exitFilter, "--unix", a.endpoint.path.text] ++
      a.inv.serverFlags ++ [a.settings.pluginName] ++ a.inv.pluginArgs a.settings ++
      [a.settings.bucketParam ++ "=" ++ a.inv.bucket] ++ a.inv.extraParams)
  /-- Where the server may only read, the plugin is told as well. -/
  plugin : "--read-only" ∈ baseFlags a.server.argv →
    a.settings.paramPrefix ++ "readOnly=true" ∈ a.inv.pluginArgs a.settings
  /-- The client is told of the same socket. -/
  client : ∃ rest, a.client.argv =
    a.settings.clientExecutable :: "-unix" :: a.endpoint.path.text :: rest
  /-- The device is detached by the program that attached it. -/
  disconnect : a.disconnect.argv = [a.settings.clientExecutable, "-d", a.inv.device.text]
  /-- Every run is about these commands and this socket. -/
  kept : ∀ (σ : Type) (h : Host σ) (s : Session σ) (rounds : Nat),
    ∃ es, (a.followRun h s rounds).session.trace = s.trace ++ es ∧
      a.Kept ((a.followRun h s rounds).result? ≠ none) es

/-- **Server and client agree**, for every command line that is accepted. -/
theorem agreement {table : FlagTable} {args : List String} {inv : Invocation} (settings : Settings)
    (endpoint : Endpoint) (hparse : Invocation.parse table args = .ok inv) :
    ∃ run, Divides args run [inv.bucket, inv.device.text] ∧
      AgreementLaw table run ⟨settings, inv, endpoint⟩ := by
  have hdivides := divides_flagRun args
  rw [Invocation.operands_of_parse hparse] at hdivides
  refine ⟨flagRun args, hdivides, ?_⟩
  -- both sides go by the mode of the invocation
  have hserver : "--read-only" ∈ baseFlags (inv.serverCommand settings endpoint).argv ↔
      inv.mode.readOnly = true := by
    rw [Invocation.baseFlags_serverCommand]
    exact Invocation.readOnly_mem_modeFlags_iff inv.mode
  obtain ⟨hreadOnly, hwritable⟩ := Invocation.clientCommand_suffix settings endpoint inv
  constructor
  case readOnly_iff => exact hserver.trans hreadOnly.symm
  case writable_iff => exact hserver.not.trans hwritable.symm
  case switched_iff =>
    intro hdeclared
    rw [Attachment.server, hserver, Invocation.readOnly_iff hparse]
    exact and_iff_right hdeclared
  case server =>
    rw [Attachment.server, Invocation.baseFlags_serverCommand]
    exact Invocation.serverCommand_argv settings endpoint inv
  case plugin =>
    intro hmem
    have hparam := Invocation.readOnly_mem_params hparse (hserver.mp hmem)
    refine List.mem_map.mpr ⟨_, hparam, ?_⟩
    calc settings.paramPrefix ++ "readOnly" ++ "=" ++ "true"
        _ = settings.paramPrefix ++ ("readOnly" ++ ("=" ++ "true")) := by
          rw [String.append_assoc, String.append_assoc]
        _ = settings.paramPrefix ++ "readOnly=true" := rfl
  case client => exact ⟨_, rfl⟩
  case disconnect => rfl
  case kept =>
    intro σ h s rounds
    obtain ⟨es, hleads, hcalls⟩ := Attachment.followRun_follows ⟨settings, inv, endpoint⟩ h s rounds
    refine ⟨es, hleads.trace, hcalls.concerns, hcalls.polled, fun hreturned hstarted => ?_⟩
    obtain ⟨result, hresult⟩ := Option.ne_none_iff_exists'.mp hreturned
    rw [hresult] at hcalls
    exact hcalls.removed hstarted

/-- On the sample line, which spells the switch out as `--readOnly=TRUE`. -/
theorem sampleLine_agreement :
    ∃ inv, Invocation.parse .plugin Invocation.sampleLine = .ok inv ∧
      FlagTable.plugin.Declares "readOnly" .boolean ∧
      ∃ run, Divides Invocation.sampleLine run [inv.bucket, inv.device.text] ∧
        AgreementLaw .plugin run ⟨{}, inv, ⟨⟨"/run/5_1"⟩⟩⟩ :=
  ⟨_, rfl, FlagTable.declares_iff.mpr (by decide), agreement {} ⟨⟨"/run/5_1"⟩⟩ rfl⟩

end NbdAttach
