import Mathlib.Logic.Relation
import Ppaass.Agent.Transport
import Ppaass.Lib.Select

/-!
# A client connection as a whole (`agent/src/server.rs`, `agent/src/transport/socks/mod.rs`)

The task of a connection whose client has asked for a UDP association goes on with `udpRelay`: one
branch of its `select!` reads the client connection up to its end, the other relays datagrams.
`Connection` is that task with the relay tasks it may have spawned instead, and `AgentServer` all
connections that were accepted so far. They run side by side, and any answer is possible.
-/

namespace Ppaass.Agent

open Wire Prog
open Framed (Fault)

/-- `check_udp_relay_tcp_connection`. -/
def checkUdpRelayTcpConnection : AgentM Unit :=
  ExceptT.mk (iterate (fun _ => do
    match ← await .clientRead with
    | .error e => return .inr (.error (.err (.io e)))
    | .ok [] => return .inr (.ok ())
    | .ok (_ :: _) => return .inl ()) ())

/-- The two branches of an association. -/
abbrev Association := Select agentSig (Except (Fault AgentError) Unit)

/-- `ClientTransportRelay::udp_relay`. -/
def udpRelay (config : AgentConfig) (info : ClientTransportUdpDataRelay) : Association :=
  .new checkUdpRelayTcpConnection.run (relayUdpData config info.clientUdpRestrictAddress).run

/-- The packet of a well-formed datagram of the client. -/
def clientPacket (restrict : PpaassUnifiedAddress) (datagram : Bytes) (sender : SocketAddr) :
    Option Socks5UdpDataPacket :=
  if restrict = .ip sender then (udpPacket datagram).toOption else none

/-- The message that carries a packet to the proxy. -/
def packetPayload (restrict : PpaassUnifiedAddress) (packet : Socks5UdpDataPacket) :
    PpaassAgentMessagePayload :=
  .udp ⟨restrict, packet.address.toUnified, packet.data, true⟩

/-- `handle_client_connection`: the handshake with the relay tasks it spawns, and the
association. -/
structure Connection where
  tasks : Tasks agentSig (Except (Fault AgentError) (Option ClientTransportUdpDataRelay))
  association : Option Association

namespace Connection

variable (http : HttpLib) (config : AgentConfig)

/-- A connection that was accepted from this address. -/
def accepted (clientSocketAddress : SocketAddr) : Connection where
  tasks := .new (handleClientConnection http config clientSocketAddress).run
  association := none

inductive Step : Connection → Option (Event agentSig) → Connection → Prop
  | task {c : Connection} {side : Option Side} {e : Option (Event agentSig)}
      {tasks : Tasks agentSig (Except (Fault AgentError) (Option ClientTransportUdpDataRelay))}
      (h : Tasks.Step (spawn config) c.tasks side e tasks) : Step c e { c with tasks }
  | udpRelay {c : Connection} {info : ClientTransportUdpDataRelay}
      (hmain : c.tasks.main.prog = .ret (.ok (some info))) (hnone : c.association = none) :
      Step c none { c with association := some (udpRelay config info) }
  | associated {c : Connection} {a a' : Association} {e : Option (Event agentSig)}
      (ha : c.association = some a) (h : a.Step e a') : Step c e { c with association := some a' }

/-- What all tasks and branches of the connection have done. -/
def events (c : Connection) : Trace agentSig :=
  c.tasks.events ++ c.association.elim [] fun a => a.left.trace ++ a.right.trace

end Connection

/-! ## The server -/

structure AgentServer where
  connections : List Connection

namespace AgentServer

variable (http : HttpLib) (config : AgentConfig)

inductive Step : AgentServer → AgentServer → Prop
  | accept (cs : List Connection) (clientSocketAddress : SocketAddr) :
      Step ⟨cs⟩ ⟨cs ++ [.accepted http config clientSocketAddress]⟩
  | connection (pre post : List Connection) {c c' : Connection} {e : Option (Event agentSig)}
      (h : c.Step config e c') : Step ⟨pre ++ c :: post⟩ ⟨pre ++ c' :: post⟩

/-- A state the server can reach. -/
def Reachable : AgentServer → Prop := Relation.ReflTransGen (Step http config) ⟨[]⟩

end AgentServer

end Ppaass.Agent
