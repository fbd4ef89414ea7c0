import ChatHost.Link.Exchange
import ChatHost.Main
import ChatHost.Proofs.Address.RoundTrip
import ChatHost.Proofs.Store.MemoryLaws
import ChatHost.Server.Host
import ChatHost.Server.Site
import ChatHost.Server.Stage
import ChatHost.Proofs.Store.TableLaws
import ChatHost.Proofs.Presence.Sound
import ChatHost.Proofs.Server.Service
import ChatHost.Proofs.Store.BackingLaws
import ChatHost.Proofs.Server.Moves
import ChatHost.Proofs.Server.PresenceInvariant
import ChatHost.Proofs.Broadcast.FanOut
import ChatHost.Proofs.Server.Acceptance
import ChatHost.Proofs.Server.Viewing
import ChatHost.Proofs.Server.Turns
import ChatHost.Proofs.Server.Isolation
import ChatHost.Proofs.Server.Failures
import ChatHost.Proofs.Server.Sweeps
import ChatHost.Proofs.Server.Answers
import ChatHost.Proofs.Store.Insertion
import ChatHost.Proofs.Store.Interchange
import ChatHost.Proofs.Store.Working
import ChatHost.Proofs.Link.Reassembly
import ChatHost.Proofs.Wire.Fields
import ChatHost.Proofs.Wire.RoundTrip
import ChatHost.Proofs.Broadcast.Carriage
import ChatHost.Proofs.Link.Arrival
import ChatHost.Proofs.Server.Replies
import ChatHost.Proofs.Server.Rejections
import ChatHost.Proofs.Server.History
import ChatHost.Proofs.Server.Concord
import ChatHost.Proofs.Server.Standing
import ChatHost.Proofs.Server.Verdicts
import ChatHost.Proofs.Link.Routing
import ChatHost.Proofs.Store.Integrity
import ChatHost.Proofs.Server.Premises
import ChatHost.Proofs.Command.Failing
import ChatHost.Proofs.Broadcast.Batches
import ChatHost.Proofs.Link.Transmission
import ChatHost.Proofs.Link.Separation
import ChatHost.Proofs.Wire.Delimiting
import ChatHost.Proofs.Broadcast.Grouping
import ChatHost.Proofs.Link.Bookkeeping
import ChatHost.Proofs.Link.Datagrams
import ChatHost.Proofs.Base64.RoundTrip
import ChatHost.Proofs.Address.Invitations
