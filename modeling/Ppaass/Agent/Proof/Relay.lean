import Ppaass.Agent.Connection

/-!
# What the relay of an association does

`RelayView` is what the trace of the relay shows: the packets of the client that it accepted, the
connections with the proxy that it made, and the reply on the last of them. For each packet it makes
one connection, where it sends the packet and nothing else, and what it sends to the client is the
reply on this connection (`relayUdpData_allowed`).
-/

namespace Ppaass.Agent

open Wire Prog
open Framed (Fault)

structure RelayView where
  /-- the packets of the client -/
  accepted : List Socks5UdpDataPacket
  /-- how many connections with the proxy were made -/
  connected : Nat
  /-- the proxy's message on the last of them -/
  reply : Option PpaassProxyMessage

namespace RelayView

variable (restrict : PpaassUnifiedAddress)

def start : RelayView := ⟨[], 0, none⟩

/-- The view after an event. -/
def next (v : RelayView) : Event agentSig → RelayView
  | ⟨.udpRecvFrom, .ok (datagram, sender)⟩ =>
    { v with accepted := v.accepted ++ (clientPacket restrict datagram sender).toList }
  | ⟨.proxyConnect, some (.ok ())⟩ => { v with connected := v.connected + 1, reply := none }
  | ⟨.proxyNext, some (.ok message)⟩ => { v with reply := some message }
  | _ => v

def of (t : Trace agentSig) : RelayView := t.foldl (next restrict) start

@[simp] theorem of_snoc (t : Trace agentSig) (e : Event agentSig) :
    of restrict (t ++ [e]) = (of restrict t).next restrict e := List.foldl_append

section
variable {restrict} {v : RelayView} {e : Event agentSig}

theorem accepted_next : v.accepted <+: (v.next restrict e).accepted := by
  unfold next
  split
  · exact List.prefix_append _ _
  · exact List.prefix_rfl
  · exact List.prefix_rfl
  · exact List.prefix_rfl

theorem connected_next (he : e ≠ ⟨.proxyConnect, some (.ok ())⟩) :
    (v.next restrict e).connected = v.connected := by
  unfold next
  split
  · rfl
  · exact (he rfl).elim
  · rfl
  · rfl

theorem reply_next {message : PpaassProxyMessage} (h : message ∈ (v.next restrict e).reply) :
    message ∈ v.reply ∨ e = ⟨.proxyNext, some (.ok message)⟩ := by
  unfold next at h
  split at h
  · exact .inl h
  · cases h
  · cases h
    exact .inr rfl
  · exact .inl h

end

end RelayView

/-- A message of the proxy, as it goes to the client. -/
inductive Forwards (message : PpaassProxyMessage) : Bytes → List SocketAddr → Prop
  | mk {srcAddress dstAddress : PpaassUnifiedAddress} {data : Bytes} {addrs : List SocketAddr}
      (hm : message.payload = .udp ⟨srcAddress, dstAddress, data⟩)
      (haddrs : ∀ addr, srcAddress = .ip addr → addrs = [addr]) :
      Forwards message (Socks5UdpDataPacket.toBytes ⟨0, .ofUnified dstAddress, data⟩) addrs

/-- What the relay may do next. -/
def RelayMayDo (restrict : PpaassUnifiedAddress) (v : RelayView) : AgentOp → Prop
  | .udpRecvFrom => v.connected = v.accepted.length
  | .proxyConnect => v.accepted.length = v.connected + 1
  | .proxyFeed message => v.connected = v.accepted.length ∧
      ∃ p ∈ v.accepted.getLast?, message.payload = packetPayload restrict p
  | .udpSendTo bytes addrs => v.connected = v.accepted.length ∧
      ∃ message ∈ v.reply, Forwards message bytes addrs
  | .newUuid | .random32Bytes | .proxySetNodelay | .proxyNext | .proxyFlush | .lookup _ => True
  | _ => False

/-- The assertion of the relay. -/
def relayAssertion (restrict : PpaassUnifiedAddress) : Assertion agentSig
  | none, _ => True
  | some op, t => RelayMayDo restrict (.of restrict t) op

section
variable {restrict : PpaassUnifiedAddress} {t : Trace agentSig} {packet : Socks5UdpDataPacket}

/-! ## Packets -/

theorem clientPacket_eq_some {datagram : Bytes} {sender : SocketAddr} :
    clientPacket restrict datagram sender = some packet ↔
      restrict = .ip sender ∧ udpPacket datagram = .ok packet := by
  unfold clientPacket
  cases udpPacket datagram <;> simp [Except.toOption]

/-- What was accepted came from the client, as a well-formed datagram. -/
theorem accepted_spec (h : packet ∈ (RelayView.of restrict t).accepted) :
    (∃ client, restrict = .ip client) ∧ ∃ datagram, udpPacket datagram = .ok packet := by
  induction t using List.reverseRecOn with
  | nil => simp [RelayView.of, RelayView.start] at h
  | append_singleton t e ih =>
    rw [RelayView.of_snoc] at h
    unfold RelayView.next at h
    split at h
    · next datagram sender =>
      rcases List.mem_append.1 h with h | h
      · exact ih h
      · obtain ⟨hsender, hpacket⟩ := clientPacket_eq_some.1 (Option.mem_toList.1 h)
        exact ⟨⟨sender, hsender⟩, datagram, hpacket⟩
    · exact ih h
    · exact ih h
    · exact ih h

/-- Every packet but the last has had its connection. -/
theorem accepted_le (h : Respects (relayAssertion restrict) t) :
    (RelayView.of restrict t).accepted.length ≤ (RelayView.of restrict t).connected + 1 := by
  induction h with
  | nil => exact Nat.zero_le _
  | @snoc t e _ he ih =>
    rw [RelayView.of_snoc]
    unfold RelayView.next
    split
    · next datagram sender =>
      have hready : (RelayView.of restrict t).connected = _ := he
      have hlen : (clientPacket restrict datagram sender).toList.length ≤ 1 := by
        cases clientPacket restrict datagram sender <;> simp
      rw [List.length_append, ← hready]
      exact Nat.add_le_add_left hlen _
    · exact ih.trans (Nat.le_succ _)
    · exact ih
    · exact ih

/-! ## A packet -/

/-- Every packet that was accepted has had its connection. -/
def Ready (v : RelayView) : Prop := v.connected = v.accepted.length

/-- A packet was accepted, and no connection was made for it yet. -/
structure Accepted (packet : Socks5UdpDataPacket) (v : RelayView) : Prop where
  last : v.accepted.getLast? = some packet
  connected : v.accepted.length = v.connected + 1

/-- A connection was made for the packet that was accepted last. -/
structure Exchanging (packet : Socks5UdpDataPacket) (v : RelayView) : Prop where
  last : v.accepted.getLast? = some packet
  connected : v.connected = v.accepted.length

/-- An error ends the relay, and nothing is said about it. -/
abbrev IfOk {ε α : Type} (K : α → Trace agentSig → Prop) : Except ε α → Trace agentSig → Prop :=
  OkOr K fun _ => True

theorem createConnection_accepted (config : AgentConfig)
    (h : Accepted packet (.of restrict t)) :
    wp (relayAssertion restrict) (createConnection config).run
      (IfOk fun _ t => Exchanging packet (.of restrict t)) t := by
  refine wp_run_bind.2 ((wp_awaitM .proxyConnect).2 ⟨h.connected, fun r => ?_⟩)
  rcases r with _ | e | u
  · exact trivial
  · exact trivial
  have hview := RelayView.of_snoc restrict t ⟨.proxyConnect, some (.ok u)⟩
  refine wp_run_bind.2 ((wp_awaitM .proxySetNodelay).2 ⟨trivial, fun r => (wp_orFail _ _).2 ?_⟩)
  cases r with
  | error e => exact trivial
  | ok u =>
    constructor
    · rw [RelayView.of_snoc, hview]
      exact h.last
    · rw [RelayView.of_snoc, hview]
      exact h.connected.symm

theorem Exchanging.quiet {e : Event agentSig} (h : Exchanging packet (.of restrict t))
    (he : (RelayView.of restrict t).next restrict e = .of restrict t) :
    Exchanging packet (.of restrict (t ++ [e])) := by
  rw [RelayView.of_snoc, he]
  exact h

theorem proxySend_exchanging {message : PpaassAgentMessage}
    (hm : message.payload = packetPayload restrict packet)
    (h : Exchanging packet (.of restrict t)) :
    wp (relayAssertion restrict) (proxySend message)
      (fun _ t => Exchanging packet (.of restrict t)) t := by
  refine wp_bind.2 ((wp_await (.proxyFeed message)).2
    ⟨⟨h.connected, packet, h.last, hm⟩, fun r => ?_⟩)
  have h := h.quiet (e := ⟨.proxyFeed message, r⟩) rfl
  cases r with
  | error e => exact h
  | ok u => exact (wp_await .proxyFlush).2 ⟨trivial, fun _ => h.quiet rfl⟩

/-- The reply of an exchange. -/
structure Replied (packet : Socks5UdpDataPacket) (message : PpaassProxyMessage) (v : RelayView) :
    Prop where
  exchanging : Exchanging packet v
  reply : v.reply = some message

theorem Replied.quiet {message : PpaassProxyMessage} {e : Event agentSig}
    (h : Replied packet message (.of restrict t))
    (he : (RelayView.of restrict t).next restrict e = .of restrict t) :
    Replied packet message (.of restrict (t ++ [e])) := by
  rw [RelayView.of_snoc, he]
  exact h

/-- An IP address stands for itself. -/
theorem toSocketAddrs_replied {message : PpaassProxyMessage} (address : PpaassUnifiedAddress)
    (h : Replied packet message (.of restrict t)) :
    wp (relayAssertion restrict) (toSocketAddrs address) (IfOk fun addrs t =>
      Replied packet message (.of restrict t) ∧ ∀ addr, address = .ip addr → addrs = [addr]) t := by
  cases address with
  | ip addr =>
    refine ⟨h, fun addr' ha => ?_⟩
    cases ha
    rfl
  | domain host port =>
    refine wp_bind.2 ((wp_await _).2 ⟨trivial, fun r => ?_⟩)
    cases r with
    | error e => exact trivial
    | ok addrs => exact ⟨h.quiet rfl, fun addr ha => by cases ha⟩

theorem udpReply_replied {message : PpaassProxyMessage}
    (h : Replied packet message (.of restrict t)) :
    wp (relayAssertion restrict) (udpReply message).run
      (IfOk fun _ t => Exchanging packet (.of restrict t)) t := by
  obtain ⟨messageId, userToken, encryption, payload⟩ := message
  rcases payload with payload | ⟨srcAddress, dstAddress, data⟩
  · exact trivial
  refine wp_run_bind.2 (wp_lift.2 (wp_mono (toSocketAddrs_replied srcAddress h) fun r t hr => ?_))
  cases r with
  | error e => exact trivial
  | ok addrs =>
    obtain ⟨h, haddrs⟩ := hr
    refine wp_run_bind.2 (wp_run_bind.2 ((wp_awaitM (.udpSendTo _ addrs)).2
      ⟨⟨h.exchanging.connected, _, h.reply, .mk rfl haddrs⟩, fun r => (wp_orFail _ _).2 ?_⟩))
    cases r with
    | error e => exact trivial
    | ok u => exact h.exchanging.quiet rfl

/-- **A packet is exchanged** with the proxy, and the client gets the reply. -/
theorem relayUdpPacket_accepted (config : AgentConfig)
    (payloadEncryption : PpaassMessagePayloadEncryption)
    (h : Accepted packet (.of restrict t)) :
    wp (relayAssertion restrict) (relayUdpPacket config restrict payloadEncryption packet).run
      (IfOk fun _ t => Ready (.of restrict t)) t := by
  refine wp_run_bind.2 ((wp_awaitM .newUuid).2 ⟨trivial, fun messageId => ?_⟩)
  have h : Accepted packet (.of restrict (t ++ [⟨.newUuid, messageId⟩])) := by
    rw [RelayView.of_snoc]
    exact h
  refine wp_run_seq (createConnection_accepted config h) (fun _ t h => ?_) fun _ _ h => h
  refine wp_run_bind.2 (wp_lift.2 (wp_mono (proxySend_exchanging rfl h) fun r t h => ?_))
  cases r with
  | error e => exact trivial
  | ok u =>
    refine wp_run_bind.2 (wp_run_bind.2 ((wp_awaitM .proxyNext).2 ⟨trivial, fun r => ?_⟩))
    rcases r with _ | e | message
    · exact (h.quiet (e := ⟨.proxyNext, none⟩) rfl).connected
    · exact trivial
    have hreplied : Replied packet message
        (.of restrict (t ++ [⟨.proxyNext, some (.ok message)⟩])) := by
      rw [RelayView.of_snoc]
      exact ⟨⟨h.last, h.connected⟩, rfl⟩
    refine wp_run_bind.2 (wp_run_bind.2 (wp_mono (udpReply_replied hreplied) fun r t h => ?_))
    cases r with
    | error e => exact trivial
    | ok u => exact h.connected

/-! ## The relay -/

theorem relayUdpRound_allowed (config : AgentConfig)
    (payloadEncryption : PpaassMessagePayloadEncryption)
    (h : Ready (.of restrict t)) :
    wp (relayAssertion restrict) (relayUdpRound config restrict payloadEncryption).run
      (IfOk fun _ t => Ready (.of restrict t)) t := by
  refine wp_run_bind.2 ((wp_awaitM .udpRecvFrom).2 ⟨h, fun r => ?_⟩)
  rcases r with e | ⟨datagram, sender⟩
  · exact trivial
  have hview : RelayView.of restrict (t ++ [⟨.udpRecvFrom, .ok (datagram, sender)⟩]) =
      { RelayView.of restrict t with
        accepted := (RelayView.of restrict t).accepted ++
          (clientPacket restrict datagram sender).toList } := RelayView.of_snoc _ _ _
  refine wp_run_bind.2 ?_
  change wp _ (ExceptT.run (ite _ _ _)) _ _
  by_cases hsender : restrict = .ip sender
  · rw [if_neg (by simp [hsender])]
    cases hpacket : udpPacket datagram with
    | error f => exact trivial
    | ok packet =>
      have haccepts : clientPacket restrict datagram sender = some packet :=
        clientPacket_eq_some.2 ⟨hsender, hpacket⟩
      refine wp_run_bind.2 (relayUdpPacket_accepted config payloadEncryption ?_)
      rw [hview, haccepts]
      constructor
      · simp
      · simpa using h.symm
  · rw [if_pos (by simpa using hsender)]
    have hnone : clientPacket restrict datagram sender = none := if_neg hsender
    show Ready (.of restrict _)
    rw [hview, hnone]
    simpa [Ready] using h

/-- **The relay does what it may do.** -/
theorem relayUdpData_allowed (config : AgentConfig) (restrict : PpaassUnifiedAddress) :
    wp (relayAssertion restrict) (relayUdpData config restrict).run (fun _ _ => True) [] := by
  refine wp_run_bind.2 (wp_run_bind.2 ((wp_awaitM .random32Bytes).2 ⟨trivial, fun token => ?_⟩))
  refine wp_iterate (fun _ t => Ready (.of restrict t)) rfl ?_
  intro i t h
  refine ⟨trivial, wp_bind.2 (wp_mono (relayUdpRound_allowed config _ h) fun r t h => ?_)⟩
  rcases r with f | _ | _
  · exact trivial
  · exact trivial
  · exact h

end

end Ppaass.Agent
