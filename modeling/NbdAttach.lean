import NbdAttach.Main
import NbdAttach.Script
import NbdAttach.Proofs.Attachment.Residue
import NbdAttach.Proofs.Attachment.StartUp
import NbdAttach.Proofs.Supervisor.History
import NbdAttach.Proofs.Supervisor.WaitLoop
import NbdAttach.Proofs.Supervisor.InStep
import NbdAttach.Proofs.Supervisor.Phases
import NbdAttach.Proofs.Supervisor.TeardownOrder
import NbdAttach.Proofs.Supervisor.SignalSource
import NbdAttach.Proofs.SignalHandlers
import NbdAttach.Proofs.Attachment.Supervision
import NbdAttach.Proofs.Attachment.Requests
import NbdAttach.Proofs.Attachment.Capacity
import NbdAttach.Proofs.Attachment.Terminations
import NbdAttach.Proofs.Attachment.Returns
import NbdAttach.Proofs.Attachment.Verdicts
import NbdAttach.Proofs.Attachment.Agreement
import NbdAttach.Proofs.CommandLine.ServerArgv
import NbdAttach.Proofs.CommandLine.Rearrangement
import NbdAttach.Proofs.CommandLine.Respelling
import NbdAttach.Proofs.CommandLine.Operands
import NbdAttach.Proofs.CommandLine.Device
import NbdAttach.Proofs.Endpoint.Clearing
import NbdAttach.Proofs.Program.Ending
import NbdAttach.Proofs.Program.Questions
import NbdAttach.Proofs.Readiness.Bounds
import NbdAttach.Proofs.Settings.RoundTrip
