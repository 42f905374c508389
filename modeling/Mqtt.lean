import Mqtt.Main
import Mqtt.Proofs.Stream.Drain
import Mqtt.Proofs.Stream.Chunking
import Mqtt.Proofs.Stream.Reentrancy
import Mqtt.Proofs.Wire.Recognition
import Mqtt.Proofs.Wire.RemainingLength
import Mqtt.Proofs.Stream.Completion
import Mqtt.Proofs.Stream.Frames
import Mqtt.Proofs.Packet.Headers
import Mqtt.Proofs.Packet.Bodies
import Mqtt.Proofs.Packet.Forms
import Mqtt.Proofs.Stream.Forms
import Mqtt.Proofs.Stream.RoundTrip
import Mqtt.Proofs.Broker.Subscriptions
import Mqtt.Proofs.Broker.Turns
import Mqtt.Proofs.Broker.Consistency
import Mqtt.Proofs.Broker.Conversation
import Mqtt.Proofs.Broker.Delivery
import Mqtt.Proofs.Broker.Actor
import Mqtt.Proofs.Broker.Queues
import Mqtt.Proofs.Broker.Clientele
import Mqtt.Proofs.Broker.GapFree
import Mqtt.Proofs.Broker.WireForms
import Mqtt.Proofs.Broker.Agreement
import Mqtt.Proofs.Broker.Isolation
import Mqtt.Proofs.Broker.Control
import Mqtt.Proofs.Packet.Faults
import Mqtt.Proofs.Stream.Parser
import Mqtt.Proofs.Broker.Endings
import Mqtt.Proofs.Broker.Residue
import Mqtt.Proofs.Broker.SlowClients
import Mqtt.Proofs.Stream.Mismatch
import Mqtt.Proofs.Broker.FanOut
import Mqtt.Proofs.Broker.Hub
import Mqtt.Proofs.Broker.Quiescence
import Mqtt.Proofs.Broker.Room
import Mqtt.Proofs.Broker.Splitting
import Mqtt.Proofs.Broker.Overflow
import Mqtt.Proofs.Broker.Refinement
import Mqtt.Proofs.Broker.Histories
import Mqtt.Proofs.Packet.Atomicity
import Mqtt.Proofs.Broker.Granting
import Mqtt.Proofs.Broker.Reordering
import Mqtt.Proofs.Packet.FixedHeader
import Mqtt.Proofs.Stream.Precheck
import Mqtt.Proofs.Packet.Building
import Mqtt.Proofs.Stream.Termination
import Mqtt.Proofs.Text.Numeral
import Mqtt.Proofs.Config.Port
import Mqtt.Proofs.Stream.Locality
import Mqtt.Proofs.Packet.Entries
