import DisplaySession.Main
import DisplaySession.Rehearsal
import DisplaySession.Proofs.Run
import DisplaySession.Proofs.Bootstrap.Phase
import DisplaySession.Proofs.Bootstrap.Gate
import DisplaySession.Proofs.Bootstrap.Trail
import DisplaySession.Proofs.Bootstrap.SessionCheck
import DisplaySession.Proofs.Bootstrap.History
import DisplaySession.Proofs.Text.Utf8
import DisplaySession.Proofs.Toml.Text
import DisplaySession.Proofs.Toml.Document
import DisplaySession.Proofs.Toml.WellFormed
import DisplaySession.Proofs.Config.Overlay
import DisplaySession.Proofs.Config.RoundTrip
import DisplaySession.Proofs.Config.Decode
import DisplaySession.Proofs.Config.FixedPoint
import DisplaySession.Proofs.Config.Layers
import DisplaySession.Proofs.Launch.Plan
import DisplaySession.Proofs.Launch.Framebuffer
import DisplaySession.Proofs.Launch.Endpoint
import DisplaySession.Proofs.Bootstrap.Interference
import DisplaySession.Proofs.Account.Agreement
import DisplaySession.Proofs.Account.Written
import DisplaySession.Proofs.Account.Littered
import DisplaySession.Proofs.Bootstrap.Readiness
import DisplaySession.Proofs.Launch.Variables
import DisplaySession.Proofs.Launch.Defect
import DisplaySession.Proofs.Session.Ensure
import DisplaySession.Proofs.Session.Polling
import DisplaySession.Proofs.Privilege.Reach
import DisplaySession.Proofs.Account.Grammar
import DisplaySession.Proofs.Account.Findable
import DisplaySession.Proofs.Config.Order
