import NbdAttach.CommandLine.Commands
import NbdAttach.Supervisor.Teardown

/-!
# Attachments

An attachment is what a run keeps up: the server on one side, the client that holds the device on
the other. Either all of it comes up or nothing is left running, for every way out after the start
of the server leads through a teardown.

* `followStart` brings the client up once the server is ready.
* `followSupervision` waits until the server ends or somebody asks the run to end. The exit of the
  client alone does not end the run.
* `followRun` puts the parts together; `run` is the run where it returns.
-/

namespace NbdAttach

/-- What a run is about: the settings of the installation, the invocation and the endpoint. -/
structure Attachment where
  settings : Settings
  inv : Invocation
  endpoint : Endpoint
deriving Repr

namespace Attachment

variable {σ : Type}

def server (a : Attachment) : Command :=
  a.inv.serverCommand a.settings a.endpoint

def client (a : Attachment) : Command :=
  a.inv.clientCommand a.settings a.endpoint

def disconnect (a : Attachment) : Command :=
  a.inv.disconnectCommand a.settings

/-- In the background the process that was started as the server goes away when the server runs;
the run follows it there. -/
def followLauncher (a : Attachment) (h : Host σ) (server : Pid) (s : Session σ) (rounds : Nat) :
    Progress σ (Except RunError Unit) :=
  match s.followWait h false rounds with
  | ⟨none, s⟩ => ⟨none, s⟩
  | ⟨some (.error cause), s⟩ => ⟨some (.error (.wait cause)), s⟩
  | ⟨some (.ok .interrupted), s⟩ => ⟨some (.error .setupInterrupted), s⟩
  | ⟨some (.ok .noneLeft), s⟩ => ⟨some (.error (.unexpectedExit server)), s⟩
  | ⟨some (.ok (.exited pid)), s⟩ =>
    if pid = server then
      match s.background h a.inv with
      | (answer, s) => ⟨some answer, s⟩
    else ⟨some (.error (.unexpectedExit pid)), s⟩

/-- Waits for the socket of the server, then starts the client. -/
def attach (a : Attachment) (h : Host σ) (s : Session σ) : Except RunError Pid × Session σ :=
  let path := a.endpoint.path
  match s.awaitSocket h path a.settings.readiness with
  | (.error cause, s) => (.error (.readiness path cause), s)
  | (.ok false, s) =>
    (.error (.readinessTimeout a.settings.serverExecutable a.settings.readiness.maxWait.toNat), s)
  | (.ok true, s) =>
    match ((s.tell (.appeared path)).tell (.ready path)).spawn h a.client with
    | (.error error, s) => (.error (.spawn error), s)
    | (.ok pid, s) => (.ok pid, s)

/-- Brings the client up, after the step into the background where there is one. -/
def followStart (a : Attachment) (h : Host σ) (server : Pid) (s : Session σ) (rounds : Nat) :
    Progress σ (Except RunError Pid) :=
  if a.inv.mode.foreground then
    match a.attach h s with
    | (result, s) => ⟨some result, s⟩
  else
    match a.followLauncher h server s rounds with
    | ⟨none, s⟩ => ⟨none, s⟩
    | ⟨some (.error e), s⟩ => ⟨some (.error e), s⟩
    | ⟨some (.ok ()), s⟩ =>
      match a.attach h s with
      | (result, s) => ⟨some result, s⟩

/-- Waits for the end of the run. `client` is the client while its exit was not reported. -/
def followSupervision (a : Attachment) (h : Host σ) (server : Pid) :
    Option Pid → Session σ → Nat → Progress σ (Except RunError Unit)
  | _, s, 0 => ⟨none, s⟩
  | client, s, rounds + 1 =>
    match s.followWait h (!a.inv.mode.foreground) (rounds + 1) with
    | ⟨none, s⟩ => ⟨none, s⟩
    | ⟨some (.error cause), s⟩ => ⟨some (.error (.wait cause)), s⟩
    | ⟨some (.ok .interrupted), s⟩ => ⟨some (.ok ()), s.tell .terminationRequested⟩
    | ⟨some (.ok .noneLeft), s⟩ => ⟨some (.ok ()), s⟩
    | ⟨some (.ok (.exited pid)), s⟩ =>
      if some pid = client then
        a.followSupervision h server none
          (s.tell (.memberExited a.settings.clientExecutable pid)) rounds
      else if pid = server then
        ⟨some (.ok ()), s.tell (.memberExited a.settings.serverExecutable pid)⟩
      else ⟨some (.ok ()), s.tell (.childExited pid)⟩

/-- The result of a run that was supervised: the first of the three things that can go wrong. -/
def verdict (supervised : Except RunError Unit) (report : TeardownReport) : Except RunError Unit :=
  match supervised, report.disconnectError, report.reapError with
  | .error e, _, _ => .error e
  | .ok (), some error, _ => .error (.spawn error)
  | .ok (), none, some cause => .error (.wait cause)
  | .ok (), none, none => .ok ()

/-- Runs until the server ends or somebody asks the run to end. -/
def followRun (a : Attachment) (h : Host σ) (s : Session σ) (rounds : Nat) :
    Progress σ (Except RunError Unit) :=
  match s.spawn h a.server with
  | (.error error, s) => ⟨some (.error (.spawn error)), s⟩
  | (.ok server, s) =>
    match a.followStart h server s rounds with
    | ⟨none, s⟩ => ⟨none, s⟩
    | ⟨some (.error e), s⟩ =>
      match (s.tell (.aborting e)).followAbort h a.endpoint rounds with
      | ⟨none, s⟩ => ⟨none, s⟩
      | ⟨some _, s⟩ => ⟨some (.error e), s⟩
    | ⟨some (.ok client), s⟩ =>
      match a.followSupervision h server (some client) s rounds with
      | ⟨none, s⟩ => ⟨none, s⟩
      | ⟨some supervised, s⟩ =>
        match s.followShutdown h a.endpoint a.disconnect rounds with
        | ⟨none, s⟩ => ⟨none, s⟩
        | ⟨some report, s⟩ =>
          ⟨some (verdict supervised report), s.tell (.disconnected a.inv.bucket a.inv.device)⟩

/-- The run, where it returns within the rounds. -/
def run (a : Attachment) (h : Host σ) (s : Session σ) (rounds : Nat) :
    Option (Except RunError Unit × Session σ) :=
  (a.followRun h s rounds).returned

end Attachment

end NbdAttach
