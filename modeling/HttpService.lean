import HttpService.Proofs.Access.Carrier
import HttpService.Proofs.Access.Permission
import HttpService.Proofs.Client.Deadline
import HttpService.Proofs.Context.Isolation
import HttpService.Proofs.Failure.Chain
import HttpService.Proofs.Files.Routes
import HttpService.Proofs.Identity.Enrolment
import HttpService.Proofs.Identity.Expiry
import HttpService.Proofs.Identity.Sessions
import HttpService.Proofs.Limit.Words
import HttpService.Proofs.Message.Payload
import HttpService.Proofs.Route.Flattening
import HttpService.Proofs.Route.Grammar
import HttpService.Proofs.Route.Selection
import HttpService.Proofs.Server.Draining
import HttpService.Proofs.Server.Presence
import HttpService.Proofs.Settings.Client
import HttpService.Proofs.Settings.Conversion
import HttpService.Proofs.Settings.Lifetime
import HttpService.Proofs.Settings.Overlay
import HttpService.Proofs.Signal.Confinement
import HttpService.Proofs.Stage.Counting
import HttpService.Proofs.Stage.RequestId
import HttpService.Proofs.Stage.TimeLimit
import HttpService.Proofs.Token.Signature
import HttpService.Proofs.Transaction.Abandonment
import HttpService.Scenario.Diagnostics
import HttpService.Scenario.Run
import HttpService.Scenario.Signals
import HttpService.Scenario.Tokens
import HttpService.Telemetry.Sampler
