import Ppaass.Agent.Proof.Association
import Ppaass.Agent.Proof.Guard
import Ppaass.Agent.Proof.Handover
import Ppaass.Agent.Proof.Packet

/-!
# How a UDP association is told its client

A client declares the endpoint that it sends from in its request, as an address or as text
(`opens_iff`: the association is restricted to what the request says). The address a datagram comes
from is never text, so that the association of a client that declares text forwards nothing.

`endpoint_encoding_iff`: for an IPv4 endpoint the two encodings come to the same, which is that the
packets of the endpoint are forwarded, exactly where the endpoint sends none.
-/

namespace Ppaass.Agent

open Wire Prog
open Framed (Fault)

/-! ## The associations of two requests -/

/-- The SOCKS5 request for an association. -/
def associateBytes (reserved : UInt8) (client : Socks5Address) : Bytes :=
  SOCKS_V5 :: 3 :: reserved :: client.toBytes

/-- A connection, over which a method selection and then the request were read, comes to this
association. -/
def Opens (http : HttpLib) (config : AgentConfig) (clientSocketAddress : SocketAddr)
    (request : Bytes) (info : ClientTransportUdpDataRelay) : Prop :=
  ∃ auth n, MethodSelection auth ∧
    Exec TcpNetwork.Answers (handleClientConnection http config clientSocketAddress).run
      (.start [auth, request]) (.ok (some info)) n

/-- What a UDP message forwards, by its destination and its data. -/
def datagram? : PpaassAgentMessagePayload → Option (PpaassUnifiedAddress × Bytes)
  | .udp payload => some (payload.dstAddress, payload.data)
  | .tcp _ => none

/-- A well-formed datagram of this sender, by its destination and its data. -/
def Arrival.wellFormed? (sender : SocketAddr) (x : Arrival) :
    Option (PpaassUnifiedAddress × Bytes) :=
  (x.packet? (.ip sender)).map fun packet => (packet.address.toUnified, packet.data)

/-- Wherever the relay of the association cannot go on, it has forwarded the well-formed datagrams
of the endpoint, in order, and nothing else. -/
def ForwardsExactly (config : AgentConfig) (info : ClientTransportUdpDataRelay)
    (endpoint : SocketAddr) (arrivals : List Arrival) : Prop :=
  ∀ a n, Select.Reaches UdpNetwork.Answers (udpRelay config info, .start arrivals) (a, n) →
    Stuck a n → n.sent.filterMap datagram? = arrivals.filterMap (Arrival.wellFormed? endpoint)

/-- The endpoint sends a well-formed datagram. -/
def Sends (endpoint : SocketAddr) (arrivals : List Arrival) : Prop :=
  ∃ x ∈ arrivals, x.sender = endpoint ∧ ∃ packet, udpPacket x.datagram = .ok packet

/-! ## Opening an association -/

section
variable {http : HttpLib} {config : AgentConfig} {clientSocketAddress : SocketAddr}
  {n : TcpNetwork} {reserved : UInt8} {client : Socks5Address}

theorem associateBytes_requestOf (h : client.Sendable) :
    RequestOf (associateBytes reserved client) ⟨.udpAssociate, client⟩ :=
  requestOf_toBytes (show Socks5InitCommandType.tryFrom 3 = .ok .udpAssociate from rfl) reserved h

theorem readCommand_associate (h : client.Sendable) :
    Always TcpNetwork.Answers (fun r n' => r = .ok ⟨.udpAssociate, client⟩ ∧ n' = .start [])
      Socks5ClientTransport.readCommand.run (.start [associateBytes reserved client]) := by
  have hreads : (TcpNetwork.start [associateBytes reserved client]).reads =
      [associateBytes reserved client ++ []] := by rw [List.append_nil]; rfl
  exact Socks5ClientTransport.readCommand_always (associateBytes_requestOf h) hreads

theorem authenticate_alone {auth : Bytes} (hauth : MethodSelection auth) :
    Always TcpNetwork.Answers (fun r n' => r = .ok () ∧ n' = n)
      (Socks5ClientTransport.authenticate auth).run n := by
  have hauthenticate := Socks5ClientTransport.authenticate_always (n := n) hauth []
  rwa [List.append_nil] at hauthenticate

/-- What the request says is what the association is restricted to, if the socket for it can be
bound. -/
theorem execCommand_associate (srcAddress : PpaassUnifiedAddress) :
    Always TcpNetwork.Answers (fun r _ => r = .ok (.udp ⟨client.toUnified⟩) ∨ ∃ e, r = .error e)
      (Socks5ClientTransport.execCommand config srcAddress ⟨.udpAssociate, client⟩).run n := by
  refine .run_bind (.run_bind (always_awaitM (.udpBind _) ⟨_, _, .udpBind n _ (.ok ())⟩
    fun bound n' ha => ?_))
  cases ha
  cases bound with
  | error e => exact .run_bind (.ret (.inr ⟨_, rfl⟩))
  | ok u =>
    refine .run_bind (.ret (.run_bind (always_awaitM .udpLocalAddr
      ⟨_, _, .udpLocalAddr n (.error "")⟩ fun addr n' ha => ?_)))
    cases ha
    cases addr with
    | error e => exact .run_bind (.ret (.inr ⟨_, rfl⟩))
    | ok addr =>
      refine .run_bind (.ret (.run_bind ((Socks5ClientTransport.replySucceeded_always _).mono ?_)))
      rintro r n' ⟨rfl, rfl⟩
      exact .ret (.ret (.inl rfl))

/-- Every connection with the request comes to that association, or to an error. -/
theorem connection_associate (h : client.Sendable) {auth : Bytes} (hauth : MethodSelection auth) :
    Always TcpNetwork.Answers
      (fun r _ => r = .ok (some ⟨client.toUnified⟩) ∨ ∃ e, r = .error e)
      (handleClientConnection http config clientSocketAddress).run
      (.start [auth, associateBytes reserved client]) := by
  obtain ⟨bs, hbs⟩ := hauth.exists_cons
  have hhandshake : Always TcpNetwork.Answers
      (fun r _ => r = .ok (.udp ⟨client.toUnified⟩) ∨ ∃ e, r = .error e)
      (Socks5ClientTransport.handshake config (.ip clientSocketAddress) auth).run
      (.start [associateBytes reserved client]) := by
    refine .run_bind ((authenticate_alone hauth).mono ?_)
    rintro r n' ⟨rfl, rfl⟩
    refine .run_bind ((readCommand_associate h).mono ?_)
    rintro r n' ⟨rfl, rfl⟩
    exact execCommand_associate _
  refine connection_always http config clientSocketAddress hbs hhandshake ?_ ?_ ?_
  · rintro info n (hr | ⟨e, hr⟩) <;> cases hr
  · rintro info n (hr | ⟨e, hr⟩) <;> cases hr
    exact .inl rfl
  · rintro e n -
    exact .inr ⟨e, rfl⟩

/-- One such connection. -/
theorem exists_exec_associate (h : client.Sendable) {auth : Bytes} (hauth : MethodSelection auth) :
    ∃ n, Exec TcpNetwork.Answers (handleClientConnection http config clientSocketAddress).run
      (.start [auth, associateBytes reserved client]) (.ok (some ⟨client.toUnified⟩)) n := by
  obtain ⟨bs, hbs⟩ := hauth.exists_cons
  have hassociate : Exec TcpNetwork.Answers
      (Socks5ClientTransport.handleUdpAssociateCommand client.toUnified).run (.start [])
      (.ok ⟨client.toUnified⟩) (.start []) := by
    refine .run_bind (.vis (.udpBind _ _ (.ok ())) (.ret _ _)) (.run_bind (.ret _ _) ?_)
    refine .run_bind (.vis (.udpLocalAddr _ (.ok (.v4 ⟨0, 0, 0, 0⟩ 0))) (.ret _ _))
      (.run_bind (.ret _ _) ?_)
    exact .run_bind (Always.exec_of_eq (Socks5ClientTransport.replySucceeded_always _)) (.ret _ _)
  have hhandshake : Exec TcpNetwork.Answers
      (Socks5ClientTransport.handshake config (.ip clientSocketAddress) auth).run
      (.start [associateBytes reserved client]) (.ok (.udp ⟨client.toUnified⟩)) (.start []) := by
    refine .run_bind (authenticate_alone hauth).exec_of_eq ?_
    refine .run_bind (readCommand_associate h).exec_of_eq ?_
    exact .run_bind hassociate (.ret _ _)
  refine ⟨.start [], .run_bind (dispatch_socks5 rfl hbs).exec_of_eq ?_⟩
  exact .run_bind hhandshake (.ret _ _)

/-- **The association that a request opens** is restricted to what the request says. -/
theorem opens_iff (h : client.Sendable) {info : ClientTransportUdpDataRelay} :
    Opens http config clientSocketAddress (associateBytes reserved client) info ↔
      info = ⟨client.toUnified⟩ := by
  constructor
  · rintro ⟨auth, n, hauth, hexec⟩
    rcases (connection_associate h hauth).exec hexec with hr | ⟨e, hr⟩
    · cases hr
      rfl
    · cases hr
  · rintro rfl
    obtain ⟨n, hexec⟩ := exists_exec_associate h methodSelection_noAuthentication
    exact ⟨_, n, methodSelection_noAuthentication, hexec⟩

end

/-! ## What an association forwards -/

section
variable {config : AgentConfig} {endpoint : SocketAddr} {arrivals : List Arrival}
  {restrict : PpaassUnifiedAddress}

theorem wellFormed?_eq_none {x : Arrival} :
    x.wellFormed? endpoint = none ↔ x.packet? (.ip endpoint) = none := by
  rw [Arrival.wellFormed?, Option.map_eq_none_iff]

theorem not_sends_iff : ¬ Sends endpoint arrivals ↔
    ∀ x ∈ arrivals, x.packet? (.ip endpoint) = none := by
  constructor
  · intro hnot x hx
    by_cases hsender : x.sender = endpoint
    · cases hpacket : udpPacket x.datagram with
      | ok packet => exact absurd ⟨x, hx, hsender, packet, hpacket⟩ hnot
      | error e => simp [Arrival.packet?, clientPacket, hpacket, Except.toOption]
    · have hne : PpaassUnifiedAddress.ip endpoint ≠ .ip x.sender := by
        intro heq
        cases heq
        exact hsender rfl
      rw [Arrival.packet?, clientPacket, if_neg hne]
  · rintro hnone ⟨x, hx, rfl, packet, hpacket⟩
    have := hnone x hx
    simp [Arrival.packet?, clientPacket, hpacket, Except.toOption] at this

theorem filterMap_wellFormed_eq_nil : arrivals.filterMap (Arrival.wellFormed? endpoint) = [] ↔
    ¬ Sends endpoint arrivals := by
  rw [List.filterMap_eq_nil_iff, not_sends_iff]
  exact forall₂_congr fun x _ => wellFormed?_eq_none

/-- The address a datagram comes from is no text. -/
theorem packet?_domain (host : String) (port : UInt16) (x : Arrival) :
    x.packet? (.domain host port) = none := by
  have hne : PpaassUnifiedAddress.domain host port ≠ .ip x.sender := by
    intro heq
    cases heq
  rw [Arrival.packet?, clientPacket, if_neg hne]

/-- An association for which no packet arrives forwards nothing. -/
theorem forwardsExactly_of_not_sends (hrestrict : ∀ x ∈ arrivals, x.packet? restrict = none)
    (hsends : ¬ Sends endpoint arrivals) : ForwardsExactly config ⟨restrict⟩ endpoint arrivals := by
  intro a n hreach hstuck
  have hlost : NothingLost restrict arrivals := by
    intro pre x post harrivals _ y hy
    exact hrestrict y (by simp [harrivals, hy])
  have hsent := survives_of_nothingLost restrict hlost a n hreach hstuck
  rw [(packetPayloads_eq_nil restrict).2 hrestrict] at hsent
  rw [hsent, filterMap_wellFormed_eq_nil.2 hsends]
  rfl

/-- The association of a client that declares text forwards nothing. -/
theorem ForwardsExactly.not_sends {host : String} {port : UInt16}
    (h : ForwardsExactly config ⟨.domain host port⟩ endpoint arrivals) :
    ¬ Sends endpoint arrivals := by
  have hends : ∀ y ∈ arrivals, ¬ y.Ends (.domain host port) := by
    rintro y - ⟨heq, -⟩
    cases heq
  obtain ⟨a, n, hreach, -, hstuck, hsent⟩ := exists_waiting (.domain host port) config hends
  have hforwards := h a n hreach hstuck
  rw [hsent, (packetPayloads_eq_nil _).2 fun y _ => packet?_domain host port y] at hforwards
  exact filterMap_wellFormed_eq_nil.1 hforwards.symm

end

/-- **The encoding of the declared endpoint makes no difference exactly where the endpoint sends no
well-formed datagram**: text is never the address of a sender, so that the association of a client
that has declared its endpoint as text forwards nothing. -/
theorem endpoint_encoding_iff (http : HttpLib) (config : AgentConfig)
    (clientSocketAddress : SocketAddr) (a : Ipv4Addr) (p : UInt16) (reserved reserved' : UInt8)
    (byAddress byName : ClientTransportUdpDataRelay)
    (haddress : Opens http config clientSocketAddress
      (associateBytes reserved (.ip (.v4 a p))) byAddress)
    (hname : Opens http config clientSocketAddress
      (associateBytes reserved' (.domain a.display p)) byName)
    (arrivals : List Arrival) :
    (ForwardsExactly config byAddress (.v4 a p) arrivals ∧
      ForwardsExactly config byName (.v4 a p) arrivals) ↔ ¬ Sends (.v4 a p) arrivals := by
  have hv4 : (Socks5Address.ip (.v4 a p)).Sendable := trivial
  obtain rfl := (opens_iff hv4).1 haddress
  obtain rfl := (opens_iff sendable_dotted).1 hname
  constructor
  · rintro ⟨-, hdomain⟩
    exact hdomain.not_sends
  · intro hsends
    exact ⟨forwardsExactly_of_not_sends (not_sends_iff.1 hsends) hsends,
      forwardsExactly_of_not_sends (fun x _ => packet?_domain _ _ x) hsends⟩

/-- Only another endpoint sends. -/
theorem endpoint_encoding_stranger :
    ForwardsExactly ⟨"user1", none⟩ ⟨.ip (.v4 ⟨10, 0, 0, 1⟩ 5000)⟩ (.v4 ⟨10, 0, 0, 1⟩ 5000)
        [associationPacket .closed] ∧
      ForwardsExactly ⟨"user1", none⟩ ⟨.domain (Ipv4Addr.display ⟨10, 0, 0, 1⟩) 5000⟩
        (.v4 ⟨10, 0, 0, 1⟩ 5000) [associationPacket .closed] := by
  have hv4 : (Socks5Address.ip (.v4 ⟨10, 0, 0, 1⟩ 5000)).Sendable := trivial
  refine (endpoint_encoding_iff .none ⟨"user1", none⟩ (.v4 ⟨10, 0, 0, 1⟩ 4000) ⟨10, 0, 0, 1⟩ 5000
    0 0 _ _ ((opens_iff hv4).2 rfl) ((opens_iff sendable_dotted).2 rfl)
    [associationPacket .closed]).2 ?_
  rintro ⟨x, hx, hsender, -⟩
  rw [List.mem_singleton.1 hx] at hsender
  cases hsender

/-- One packet of the endpoint, which its address lets through and its text does not. -/
theorem declared_by_name_not_forwarded :
    Opens .none ⟨"user1", none⟩ associationClient
      (associateBytes 0 (.domain (Ipv4Addr.display ⟨192, 168, 0, 2⟩) 5000))
      ⟨.domain (Ipv4Addr.display ⟨192, 168, 0, 2⟩) 5000⟩ ∧
    ¬ ForwardsExactly ⟨"user1", none⟩ ⟨.domain (Ipv4Addr.display ⟨192, 168, 0, 2⟩) 5000⟩
      associationClient [associationPacket .closed] := by
  refine ⟨(opens_iff sendable_dotted).2 rfl, fun h => h.not_sends ?_⟩
  exact ⟨_, List.mem_singleton.2 rfl, rfl, _,
    udpPacket_of_addressAt 0 0 0 (.ipv4 8 8 8 8 53 [104, 105])⟩

end Ppaass.Agent
