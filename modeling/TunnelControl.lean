import TunnelControl.Code.Cause
import TunnelControl.Code.Value
import TunnelControl.Scenario.Run
import TunnelControl.Proofs.Endpoint.Effect
import TunnelControl.Proofs.Endpoint.Operation
import TunnelControl.Proofs.Endpoint.Coherence
import TunnelControl.Proofs.Endpoint.Move
import TunnelControl.Proofs.Endpoint.Bijection
import TunnelControl.Proofs.Endpoint.Retirement
import TunnelControl.Proofs.Endpoint.Transmission
import TunnelControl.Proofs.Endpoint.Answering
import TunnelControl.Proofs.Element.Grammar
import TunnelControl.Proofs.Element.RoundTrip
import TunnelControl.Proofs.Element.Nesting
import TunnelControl.Proofs.Element.Editing
import TunnelControl.Proofs.Element.Content
import TunnelControl.Proofs.Octets.Bounds
import TunnelControl.Proofs.Element.Bounds
import TunnelControl.Proofs.Message.RoundTrip
import TunnelControl.Proofs.Message.Header
import TunnelControl.Proofs.Message.NormalForm
import TunnelControl.Proofs.Message.Inversion
import TunnelControl.Proofs.Message.Bounds
import TunnelControl.Proofs.Endpoint.Registration
import TunnelControl.Proofs.Message.Bucketing
import TunnelControl.Proofs.Endpoint.Numbering
import TunnelControl.Proofs.Endpoint.Ownership
import TunnelControl.Proofs.Endpoint.Underway
import TunnelControl.Proofs.Endpoint.Interleaving
import TunnelControl.Proofs.Endpoint.Automatic
import TunnelControl.Proofs.Element.Pruning
import TunnelControl.Proofs.Endpoint.Gate
import TunnelControl.Proofs.Message.Pruning
import TunnelControl.Proofs.Endpoint.Finality
import TunnelControl.Proofs.Session.Handover
import TunnelControl.Proofs.Result
import TunnelControl.Proofs.Identity.Digits
import TunnelControl.Proofs.Identity.Plmn
import TunnelControl.Proofs.Identity.Name
import TunnelControl.Proofs.Value.RoundTrip
import TunnelControl.Proofs.Element.Carriage
import TunnelControl.Proofs.Message.Accounting
import TunnelControl.Proofs.Session.Request
import TunnelControl.Proofs.Session.Fidelity
import TunnelControl.Proofs.Endpoint.Proper
import TunnelControl.Proofs.Endpoint.Creation
import TunnelControl.Proofs.Endpoint.Sender
import TunnelControl.Proofs.Element.Lengths
import TunnelControl.Proofs.Message.Framing
import TunnelControl.Proofs.Message.Lengths
import TunnelControl.Proofs.Session.Acceptance
import TunnelControl.Proofs.Session.Bearer
import TunnelControl.Proofs.Value.Inversion
import TunnelControl.Proofs.Value.Network
import TunnelControl.Proofs.Value.Pco
import TunnelControl.Proofs.Session.DefaultBearer
import TunnelControl.Proofs.Value.Extent
import TunnelControl.Proofs.Endpoint.Rejection
import TunnelControl.Proofs.Endpoint.InFlight
