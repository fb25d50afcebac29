import Ppaass.Agent.Connection
import Ppaass.Lib.Environment

/-!
# Which datagrams of an association reach the proxy

`UdpNetwork` is what surrounds the association of a client whose control connection stays open: the
datagrams that are to arrive, each with the outcome that an exchange with the proxy for it would
have, and what was sent to the proxy.

A datagram of the client *ends* the association if it is malformed, or if its exchange ends without
a reply that the client can be sent (`Arrival.Ends`). Up to the first that does, each packet of the
client is sent to the proxy once and in order, and nothing after that is (`relayUdpData_spec`), so
that an association survives exactly the arrivals where nothing is lost after such a datagram
(`survives_iff`).
-/

namespace Ppaass.Agent

open Wire Prog
open Framed (Fault)

/-! ## The network -/

/-- How the exchange with the proxy for a datagram ends. -/
inductive Outcome where
  /-- with a UDP reply: where its source address resolves to, and whether it can be sent there -/
  | reply (payload : ProxyUdpPayload) (resolved : Except StdIoError (List SocketAddr))
      (sent : Except StdIoError Unit)
  /-- the proxy closes the connection without a reply -/
  | closed

/-- A datagram, its sender, and the outcome of its exchange if there is one. -/
structure Arrival where
  datagram : Bytes
  sender : SocketAddr
  outcome : Outcome

structure UdpNetwork where
  arrivals : List Arrival
  /-- of the datagram that was received last -/
  outcome : Outcome
  /-- what was fed to the connections with the proxy -/
  sent : List PpaassAgentMessagePayload

namespace UdpNetwork

/-- Nothing has arrived yet. -/
def start (arrivals : List Arrival) : UdpNetwork := ⟨arrivals, .closed, []⟩

/-- Every connection with the proxy is made; the control connection is read without an end. -/
inductive Answers : UdpNetwork → Event agentSig → UdpNetwork → Prop
  | newUuid (n : UdpNetwork) (id : String) : Answers n ⟨.newUuid, id⟩ n
  | random32Bytes (n : UdpNetwork) (token : BlockMode.Block 32) :
      Answers n ⟨.random32Bytes, token⟩ n
  | clientRead (n : UdpNetwork) (b : UInt8) (bs : Bytes) :
      Answers n ⟨.clientRead, .ok (b :: bs)⟩ n
  | udpRecvFrom {n : UdpNetwork} {x : Arrival} {rest : List Arrival} (h : n.arrivals = x :: rest) :
      Answers n ⟨.udpRecvFrom, .ok (x.datagram, x.sender)⟩
        { n with arrivals := rest, outcome := x.outcome }
  | proxyConnect (n : UdpNetwork) : Answers n ⟨.proxyConnect, some (.ok ())⟩ n
  | proxySetNodelay (n : UdpNetwork) : Answers n ⟨.proxySetNodelay, .ok ()⟩ n
  | proxyFeed (n : UdpNetwork) (message : PpaassAgentMessage) :
      Answers n ⟨.proxyFeed message, .ok ()⟩ { n with sent := n.sent ++ [message.payload] }
  | proxyFlush (n : UdpNetwork) : Answers n ⟨.proxyFlush, .ok ()⟩ n
  | reply {n : UdpNetwork} {payload : ProxyUdpPayload}
      {resolved : Except StdIoError (List SocketAddr)} {sent : Except StdIoError Unit}
      (h : n.outcome = .reply payload resolved sent) (messageId userToken : String)
      (encryption : PpaassMessagePayloadEncryption) :
      Answers n ⟨.proxyNext, some (.ok ⟨messageId, userToken, encryption, .udp payload⟩)⟩ n
  | closed {n : UdpNetwork} (h : n.outcome = .closed) : Answers n ⟨.proxyNext, none⟩ n
  | lookup {n : UdpNetwork} {payload : ProxyUdpPayload}
      {resolved : Except StdIoError (List SocketAddr)} {sent : Except StdIoError Unit}
      (h : n.outcome = .reply payload resolved sent) (address : String) :
      Answers n ⟨.lookup address, resolved⟩ n
  | udpSendTo {n : UdpNetwork} {payload : ProxyUdpPayload}
      {resolved : Except StdIoError (List SocketAddr)} {sent : Except StdIoError Unit}
      (h : n.outcome = .reply payload resolved sent) (data : Bytes) (addrs : List SocketAddr) :
      Answers n ⟨.udpSendTo data addrs, sent⟩ n

end UdpNetwork

/-! ## What is to be sent -/

variable (restrict : PpaassUnifiedAddress)

/-- The packet of a well-formed datagram of the client. -/
def Arrival.packet? (x : Arrival) : Option Socks5UdpDataPacket :=
  clientPacket restrict x.datagram x.sender

/-- What the arrivals have to make the agent send: each packet of the client once, in order. -/
def packetPayloads (arrivals : List Arrival) : List PpaassAgentMessagePayload :=
  (arrivals.filterMap (Arrival.packet? restrict)).map (packetPayload restrict)

/-- The relay has returned, or awaits what the network does not answer. -/
def Stuck (a : Association) (n : UdpNetwork) : Prop :=
  (∀ th, ¬ Thread.Step a.right none th) ∧
    ∀ e th n', Thread.Step a.right (some e) th → ¬ n.Answers e n'

/-- The association survives the arrivals: wherever its relay cannot go on, what has been sent is
what all of them have to make the agent send. -/
def Survives (config : AgentConfig) (arrivals : List Arrival) : Prop :=
  ∀ a n, Select.Reaches UdpNetwork.Answers (udpRelay config ⟨restrict⟩, .start arrivals) (a, n) →
    Stuck a n → n.sent = packetPayloads restrict arrivals

/-! ## What ends an association -/

/-- A reply can be sent to the client. -/
def Outcome.Delivered : Outcome → Prop
  | .reply ⟨.ip _, _, _⟩ _ sent => sent.isOk = true
  | .reply ⟨.domain _ _, _, _⟩ resolved sent => resolved.isOk = true ∧ sent.isOk = true
  | .closed => False

/-- It comes from the client, and it is malformed or its exchange brings no reply for the client. -/
def Arrival.Ends (x : Arrival) : Prop :=
  restrict = .ip x.sender ∧ ∀ packet, udpPacket x.datagram = .ok packet → ¬ x.outcome.Delivered

section
variable {restrict} {x : Arrival} {packet : Socks5UdpDataPacket}

theorem packetPayloads_append (xs ys : List Arrival) :
    packetPayloads restrict (xs ++ ys) =
      packetPayloads restrict xs ++ packetPayloads restrict ys := by
  simp [packetPayloads]

theorem packetPayloads_cons_append (xs ys : List Arrival) (y : Arrival) :
    packetPayloads restrict (xs ++ y :: ys) =
      packetPayloads restrict (xs ++ [y]) ++ packetPayloads restrict ys := by
  rw [List.append_cons xs y ys, packetPayloads_append]

theorem packetPayloads_of_packet (hx : restrict = .ip x.sender)
    (hpacket : udpPacket x.datagram = .ok packet) :
    packetPayloads restrict [x] = [packetPayload restrict packet] := by
  simp [packetPayloads, Arrival.packet?, clientPacket, hx, hpacket, Except.toOption]

theorem packetPayloads_of_error (hx : restrict = .ip x.sender) {f : Fault AgentError}
    (hpacket : udpPacket x.datagram = .error f) : packetPayloads restrict [x] = [] := by
  simp [packetPayloads, Arrival.packet?, clientPacket, hx, hpacket, Except.toOption]

theorem packetPayloads_of_ne (hx : restrict ≠ .ip x.sender) : packetPayloads restrict [x] = [] := by
  simp [packetPayloads, Arrival.packet?, clientPacket, hx]

end

/-! ## One round of the relay -/

open UdpNetwork (Answers)

section
variable (config : AgentConfig) (payloadEncryption : PpaassMessagePayloadEncryption)
  {n : UdpNetwork}

/-- An operation that the network answers. -/
theorem wpIn_awaitM (e : AgentOp) {Q : Except (Fault AgentError) e.Ans → UdpNetwork → Prop}
    (hanswer : ∃ a n', n.Answers ⟨e, a⟩ n') (h : ∀ a n', n.Answers ⟨e, a⟩ n' → Q (.ok a) n') :
    wpIn Answers (Answerable Answers) (awaitM e).run Q n := ⟨hanswer, h⟩

theorem createConnection_spec : wpIn Answers (Answerable Answers) (createConnection config).run
    (fun r n' => r = .ok () ∧ n' = n) n := by
  refine wpIn_run_bind (wpIn_awaitM .proxyConnect ⟨_, _, .proxyConnect n⟩ fun a n' ha => ?_)
  cases ha
  refine wpIn_run_bind (wpIn_awaitM .proxySetNodelay ⟨_, _, .proxySetNodelay n⟩ fun a n' ha => ?_)
  cases ha
  exact ⟨rfl, rfl⟩

theorem proxySend_spec (message : PpaassAgentMessage) :
    wpIn Answers (Answerable Answers) (proxySend message)
      (fun r n' => r = .ok () ∧ n' = { n with sent := n.sent ++ [message.payload] }) n := by
  refine wpIn_bind ⟨⟨_, _, .proxyFeed n message⟩, fun a n' ha => ?_⟩
  cases ha
  refine ⟨⟨_, _, .proxyFlush _⟩, fun a n' ha => ?_⟩
  cases ha
  exact ⟨rfl, rfl⟩

/-- A reply is sent to the client, if it can be. -/
theorem udpReply_spec {payload : ProxyUdpPayload} {resolved : Except StdIoError (List SocketAddr)}
    {sent : Except StdIoError Unit} (houtcome : n.outcome = .reply payload resolved sent)
    (messageId userToken : String) (encryption : PpaassMessagePayloadEncryption) :
    wpIn Answers (Answerable Answers)
      (udpReply ⟨messageId, userToken, encryption, .udp payload⟩).run
      (fun r n' => n' = n ∧ (r = .ok () ↔ n.outcome.Delivered)) n := by
  obtain ⟨srcAddress, dstAddress, data⟩ := payload
  have hsend : ∀ addrs (D : Prop), (sent.isOk = true ↔ D) → wpIn Answers (Answerable Answers)
      (do orFail (fun e => .err (.io e)) (← awaitM (.udpSendTo
        (Socks5UdpDataPacket.toBytes ⟨0, .ofUnified dstAddress, data⟩) addrs)) : AgentM Unit).run
      (fun r n' => n' = n ∧ (r = .ok () ↔ D)) n := by
    intro addrs D hD
    refine wpIn_run_bind (wpIn_awaitM _ ⟨_, _, .udpSendTo houtcome _ addrs⟩ fun a n' ha => ?_)
    cases ha with
    | udpSendTo h =>
      cases houtcome.symm.trans h
      rw [← hD]
      cases sent with
      | ok => exact ⟨rfl, iff_of_true rfl rfl⟩
      | error e => exact ⟨rfl, iff_of_false (by simp) (by simp [Except.isOk, Except.toBool])⟩
  rw [houtcome]
  cases srcAddress with
  | ip addr => exact wpIn_run_bind (wpIn_run_bind (hsend [addr] _ Iff.rfl))
  | domain host port =>
    refine wpIn_run_bind (wpIn_lift (wpIn_bind ⟨⟨_, _, .lookup houtcome _⟩, fun a n' ha => ?_⟩))
    cases ha with
    | lookup h =>
      cases houtcome.symm.trans h
      cases resolved with
      | ok addrs =>
        refine wpIn_run_bind (hsend addrs _ ?_)
        simp [Outcome.Delivered, Except.isOk, Except.toBool]
      | error e =>
        refine ⟨rfl, iff_of_false (by simp) ?_⟩
        simp [Outcome.Delivered, Except.isOk, Except.toBool]

/-- **A packet is sent to the proxy**, and the relay goes on if the client gets the reply. -/
theorem relayUdpPacket_spec (packet : Socks5UdpDataPacket) :
    wpIn Answers (Answerable Answers)
      (relayUdpPacket config restrict payloadEncryption packet).run
      (fun r n' => n' = { n with sent := n.sent ++ [packetPayload restrict packet] } ∧
        (r = .ok true ↔ n.outcome.Delivered)) n := by
  refine wpIn_run_bind (wpIn_awaitM .newUuid ⟨_, _, .newUuid n ""⟩ fun messageId n ha => ?_)
  cases ha
  refine wpIn_run_bind (wpIn_mono (createConnection_spec config) ?_)
  intro r n hr
  obtain ⟨rfl, rfl⟩ := hr
  refine wpIn_run_bind (wpIn_lift (wpIn_mono (proxySend_spec _) ?_))
  intro r n' hr
  obtain ⟨rfl, rfl⟩ := hr
  obtain ⟨outcome, houtcome⟩ : ∃ outcome, n.outcome = outcome := ⟨_, rfl⟩
  cases outcome with
  | closed =>
    refine wpIn_run_bind (wpIn_run_bind (wpIn_awaitM .proxyNext ⟨_, _, .closed houtcome⟩ ?_))
    intro a n' ha
    cases ha with
    | reply h => cases houtcome.symm.trans h
    | closed h => exact ⟨rfl, iff_of_false (by simp) (by rw [houtcome]; exact id)⟩
  | reply payload resolved sent =>
    refine wpIn_run_bind (wpIn_run_bind
      (wpIn_awaitM .proxyNext ⟨_, _, .reply (by exact houtcome) "" "" .plain⟩ ?_))
    intro a n' ha
    cases ha with
    | closed h => cases houtcome.symm.trans h
    | reply h messageId userToken encryption =>
      cases houtcome.symm.trans h
      refine wpIn_run_bind (wpIn_run_bind (wpIn_mono (udpReply_spec (by exact houtcome) _ _ _) ?_))
      intro r n' hr
      obtain ⟨rfl, hr⟩ := hr
      cases r with
      | ok => exact ⟨rfl, iff_of_true rfl (hr.1 rfl)⟩
      | error e => exact ⟨rfl, iff_of_false (by simp) (mt hr.2 (by simp))⟩

/-- **One datagram**: its packet is sent if it is one of the client, and the relay goes on unless it
ends the association. -/
theorem relayUdpRound_spec {x : Arrival} {rest : List Arrival} (hx : n.arrivals = x :: rest) :
    wpIn Answers (Answerable Answers) (relayUdpRound config restrict payloadEncryption).run
      (fun r n' => n'.arrivals = rest ∧ n'.sent = n.sent ++ packetPayloads restrict [x] ∧
        (r = .ok true ↔ ¬ x.Ends restrict)) n := by
  refine wpIn_run_bind (wpIn_awaitM .udpRecvFrom ⟨_, _, .udpRecvFrom hx⟩ fun a n' ha => ?_)
  cases ha with
  | udpRecvFrom h =>
    cases hx.symm.trans h
    refine wpIn_run_bind ?_
    change wpIn Answers _ (ExceptT.run (ite _ _ _)) _ _
    unfold Arrival.Ends
    by_cases hsender : restrict = .ip x.sender
    · rw [if_neg (by simp [hsender])]
      cases hpacket : udpPacket x.datagram with
      | error f =>
        refine wpIn_run_bind ⟨rfl, ?_, iff_of_false (by simp) ?_⟩
        · rw [packetPayloads_of_error hsender hpacket, List.append_nil]
        · exact not_not.2 ⟨hsender, by simp⟩
      | ok packet =>
        refine wpIn_run_bind ?_
        change wpIn Answers _ (relayUdpPacket config restrict payloadEncryption packet).run _ _
        refine wpIn_mono (relayUdpPacket_spec restrict config payloadEncryption packet) ?_
        intro r n' hr
        obtain ⟨rfl, hr⟩ := hr
        refine ⟨rfl, by rw [packetPayloads_of_packet hsender hpacket], ?_⟩
        simp [hr, hsender]
    · rw [if_pos (by simpa using hsender)]
      refine ⟨rfl, ?_, iff_of_true rfl fun h => hsender h.1⟩
      rw [packetPayloads_of_ne hsender, List.append_nil]

/-! ## The relay -/

/-- Datagrams were received, of which none ends the association, and their packets were sent. -/
def Passed (arrivals : List Arrival) (n : UdpNetwork) : Prop :=
  ∃ done, arrivals = done ++ n.arrivals ∧ (∀ y ∈ done, ¬ y.Ends restrict) ∧
    n.sent = packetPayloads restrict done

/-- The packets up to the first datagram that ends the association were sent. -/
def Ended (arrivals : List Arrival) (n : UdpNetwork) : Prop :=
  ∃ done x rest, arrivals = done ++ x :: rest ∧ (∀ y ∈ done, ¬ y.Ends restrict) ∧
    x.Ends restrict ∧ n.sent = packetPayloads restrict (done ++ [x])

/-- The relay goes on, or it awaits a datagram and all packets were sent. -/
def GoesOn (arrivals : List Arrival) : Option AgentOp → UdpNetwork → Prop
  | none, _ => True
  | some op, n => Answerable (S := agentSig) Answers (some op) n ∨
      n.sent = packetPayloads restrict arrivals

theorem Passed.snoc {arrivals : List Arrival} {x : Arrival} {rest : List Arrival} {n' : UdpNetwork}
    (h : Passed restrict arrivals n) (hx : n.arrivals = x :: rest) (hrest : n'.arrivals = rest)
    (hsent : n'.sent = n.sent ++ packetPayloads restrict [x]) :
    (¬ x.Ends restrict → Passed restrict arrivals n') ∧
      (x.Ends restrict → Ended restrict arrivals n') := by
  obtain ⟨done, harrivals, hdone, hn⟩ := h
  rw [hx] at harrivals
  rw [hn, ← packetPayloads_append] at hsent
  refine ⟨fun hnot => ⟨done ++ [x], ?_, fun y hy => ?_, hsent⟩,
    fun hends => ⟨done, x, rest, harrivals, hdone, hends, hsent⟩⟩
  · rw [harrivals, hrest, List.append_assoc]
    rfl
  · rcases List.mem_append.1 hy with hy | hy
    · exact hdone y hy
    · exact List.mem_singleton.1 hy ▸ hnot

/-- **Up to the first datagram that ends the association, every packet is sent,** and the relay
returns where there is one. -/
theorem relayUdpData_spec (arrivals : List Arrival) :
    wpIn Answers (GoesOn restrict arrivals) (relayUdpData config restrict).run
      (fun _ => Ended restrict arrivals) (.start arrivals) := by
  refine wpIn_run_bind (wpIn_run_bind ⟨.inl ⟨_, _, .random32Bytes _ ⟨List.replicate 32 0, rfl⟩⟩,
    fun token n ha => ?_⟩)
  cases ha
  refine wpIn_iterate (fun _ => Passed restrict arrivals) ⟨[], rfl, by simp, rfl⟩ ?_
  intro i n hpassed
  refine ⟨trivial, wpIn_bind ?_⟩
  cases hx : n.arrivals with
  | nil =>
    -- nothing is left to be received
    obtain ⟨done, harrivals, -, hn⟩ := hpassed
    rw [hx, List.append_nil] at harrivals
    refine wpIn_run_bind ⟨.inr (harrivals ▸ hn), fun a n' ha => ?_⟩
    cases ha with
    | udpRecvFrom h => cases hx.symm.trans h
  | cons x rest =>
    refine wpIn_mono (relayUdpRound_spec restrict config _ hx) (fun r n' hr => ?_) fun o n ho => ?_
    · obtain ⟨hrest, hsent, hgoes⟩ := hr
      have hsnoc := hpassed.snoc restrict hx hrest hsent
      rcases r with f | _ | _
      · exact hsnoc.2 (not_not.1 fun h => by simpa using hgoes.2 h)
      · exact hsnoc.2 (not_not.1 fun h => by simpa using hgoes.2 h)
      · exact hsnoc.1 (hgoes.1 rfl)
    · cases o with
      | none => exact ho.elim
      | some op => exact .inl ho

end

/-! ## Runs -/

section
variable {config : AgentConfig} {arrivals : List Arrival}

/-- The control connection is read, and nothing else. -/
def OnlyReads : Option AgentOp → UdpNetwork → Prop
  | none, _ => True
  | some op, _ => op = .clientRead

/-- What holds along a run: the control connection has not ended, and the relay is on its way. -/
structure AssociationInv (arrivals : List Arrival) (a : Association) (n : UdpNetwork) : Prop where
  check : ∀ n, wpIn Answers OnlyReads a.left.prog (fun _ _ => False) n
  relay : wpIn Answers (GoesOn restrict arrivals) a.right.prog (fun _ => Ended restrict arrivals) n

theorem checkUdpRelayTcpConnection_spec (n : UdpNetwork) :
    wpIn Answers OnlyReads checkUdpRelayTcpConnection.run (fun _ _ => False) n := by
  refine wpIn_iterate (fun _ _ => True) trivial fun _ n _ => ⟨trivial, wpIn_bind ⟨rfl, ?_⟩⟩
  intro a n' ha
  cases ha
  exact trivial

theorem AssociationInv.step {a a' : Association} {n n' : UdpNetwork}
    (h : AssociationInv restrict arrivals a n) (hstep : Select.In Answers (a, n) (a', n')) :
    AssociationInv restrict arrivals a' n' := by
  cases hstep with
  | @mk _ _ e _ _ hs he =>
    cases hs with
    | right hleft hs => exact { h with relay := wpIn_threadStep hs he h.relay }
    | left hright hs =>
      -- the control connection is read the same in every state of the network
      cases e with
      | none =>
        cases he
        exact { h with check := fun n => wpIn_threadStep hs rfl (h.check n) }
      | some e =>
        obtain ⟨op, answer⟩ := e
        have hread : op = .clientRead := allowed_of_threadStep hs (h.check n)
        subst hread
        cases he with
        | clientRead b bs =>
          exact { h with check := fun n => wpIn_threadStep hs (.clientRead n b bs) (h.check n) }

theorem reaches_inv {a : Association} {n : UdpNetwork}
    (h : Select.Reaches Answers (udpRelay config ⟨restrict⟩, .start arrivals) (a, n)) :
    AssociationInv restrict arrivals a n := by
  generalize hx : (a, n) = x at h
  induction h generalizing a n with
  | refl =>
    cases hx
    exact ⟨checkUdpRelayTcpConnection_spec, relayUdpData_spec restrict config arrivals⟩
  | @tail y _ _ hs ih =>
    cases hx
    obtain ⟨a', n'⟩ := y
    exact (ih rfl).step restrict hs

/-- Where the relay cannot go on, all packets were sent, or those up to a datagram that ended it. -/
theorem sent_of_stuck {a : Association} {n : UdpNetwork} (h : AssociationInv restrict arrivals a n)
    (hstuck : Stuck a n) :
    n.sent = packetPayloads restrict arrivals ∨ Ended restrict arrivals n := by
  obtain ⟨left, ⟨prog, t⟩⟩ := a
  have hrelay := h.relay
  cases prog with
  | ret r => exact .inr hrelay
  | vis op k =>
    rcases hrelay.1 with ⟨answer, n', ha⟩ | hsent
    · exact absurd ha (hstuck.2 _ _ _ (.mk t (Step.vis (S := agentSig) op k answer)))
    · exact .inl hsent
  | loop body i k => exact absurd (.mk t (.loop body i k)) (hstuck.1 _)

/-! ## Which arrivals an association survives -/

/-- Nothing is lost: after a datagram that ends the association there is no packet of the client. -/
def NothingLost (arrivals : List Arrival) : Prop :=
  ∀ pre x post, arrivals = pre ++ x :: post → x.Ends restrict →
    ∀ y ∈ post, y.packet? restrict = none

theorem packetPayloads_eq_nil {xs : List Arrival} :
    packetPayloads restrict xs = [] ↔ ∀ y ∈ xs, y.packet? restrict = none := by
  simp [packetPayloads]

theorem survives_of_nothingLost (h : NothingLost restrict arrivals) :
    Survives restrict config arrivals := by
  intro a n hreach hstuck
  rcases sent_of_stuck restrict (reaches_inv restrict hreach) hstuck with hsent | hended
  · exact hsent
  · obtain ⟨done, x, rest, harrivals, -, hends, hsent⟩ := hended
    have hrest := (packetPayloads_eq_nil restrict).2 (h done x rest harrivals hends)
    rw [hsent, harrivals, packetPayloads_cons_append done rest, hrest, List.append_nil]

/-- The loop of `relay_udp_data`, and its body. -/
def relayBody (config : AgentConfig) (payloadEncryption : PpaassMessagePayloadEncryption)
    (_ : Unit) : Prog agentSig (Unit ⊕ Except (Fault AgentError) Unit) := do
  return loopRound (← (relayUdpRound config restrict payloadEncryption).run)

def relayLoop (config : AgentConfig) (payloadEncryption : PpaassMessagePayloadEncryption) :
    Prog agentSig (Except (Fault AgentError) Unit) :=
  iterate (relayBody restrict config payloadEncryption) ()

/-- A round, run to its end. -/
theorem exec_round (config : AgentConfig) (payloadEncryption : PpaassMessagePayloadEncryption)
    {n : UdpNetwork} {x : Arrival} {rest : List Arrival} (hx : n.arrivals = x :: rest) :
    ∃ r n', Exec Answers (relayBody restrict config payloadEncryption ()) n (loopRound r) n' ∧
      n'.arrivals = rest ∧ n'.sent = n.sent ++ packetPayloads restrict [x] ∧
      (r = .ok true ↔ ¬ x.Ends restrict) := by
  obtain ⟨r, n', hexec, hpost⟩ :=
    exists_exec (relayUdpRound_spec restrict config payloadEncryption hx)
  exact ⟨r, n', hexec.bind (.ret _ n'), hpost⟩

/-- The relay passes every datagram that does not end the association, and one that does ends it. -/
theorem exec_relayLoop (config : AgentConfig)
    (payloadEncryption : PpaassMessagePayloadEncryption) {x : Arrival} {rest : List Arrival}
    (hends : x.Ends restrict) {done : List Arrival} (hdone : ∀ y ∈ done, ¬ y.Ends restrict)
    {n : UdpNetwork} (hn : n.arrivals = done ++ x :: rest) :
    ∃ r n', Exec Answers (relayLoop restrict config payloadEncryption) n r n' ∧
      n'.sent = n.sent ++ packetPayloads restrict (done ++ [x]) := by
  induction done generalizing n with
  | nil =>
    obtain ⟨r, n', hexec, -, hsent, hr⟩ := exec_round restrict config payloadEncryption hn
    have hne : r ≠ .ok true := fun h => hr.1 h hends
    obtain ⟨r', hr'⟩ : ∃ r', loopRound r = .inr r' := by
      rcases r with f | _ | _
      · exact ⟨_, rfl⟩
      · exact ⟨_, rfl⟩
      · exact absurd rfl hne
    rw [hr'] at hexec
    exact ⟨r', n', .leave hexec (.ret _ n'), hsent⟩
  | cons y done ih =>
    obtain ⟨r, n', hexec, harrivals, hsent, hr⟩ :=
      exec_round restrict config payloadEncryption hn
    obtain rfl := hr.2 (hdone y List.mem_cons_self)
    obtain ⟨r', n'', hexec', hsent'⟩ :=
      ih (fun z hz => hdone z (List.mem_cons_of_mem y hz)) harrivals
    refine ⟨r', n'', .again hexec hexec', ?_⟩
    rw [hsent', hsent, List.append_assoc, ← packetPayloads_append]
    rfl

/-- The other branch, before it has read anything. -/
def check : Thread agentSig (Except (Fault AgentError) Unit) := .new checkUdpRelayTcpConnection.run

theorem stuck_of_ret (r : Except (Fault AgentError) Unit) (t : Trace agentSig) (n : UdpNetwork) :
    Stuck ⟨check, ⟨.ret r, t⟩⟩ n := by
  constructor
  · intro th hs
    cases hs with
    | mk t hs => cases hs
  · intro e th n' hs
    cases hs with
    | mk t hs => cases hs

/-- The first datagram that ends the association. -/
theorem exists_first {x : Arrival} (hends : x.Ends restrict) (pre post : List Arrival) :
    ∃ done z rest, pre ++ x :: post = done ++ z :: rest ∧ (∀ y ∈ done, ¬ y.Ends restrict) ∧
      z.Ends restrict ∧ ∀ y ∈ post, y ∈ rest := by
  induction pre with
  | nil => exact ⟨[], x, post, rfl, by simp, hends, fun y hy => hy⟩
  | cons w pre ih =>
    by_cases hw : w.Ends restrict
    · exact ⟨[], w, pre ++ x :: post, rfl, by simp, hw, fun y hy => by simp [hy]⟩
    · obtain ⟨done, z, rest, heq, hdone, hz, hpost⟩ := ih
      refine ⟨w :: done, z, rest, congrArg (w :: ·) heq, fun y hy => ?_, hz, hpost⟩
      rcases List.mem_cons.1 hy with rfl | hy
      · exact hw
      · exact hdone y hy

theorem nothingLost_of_survives (h : Survives restrict config arrivals) :
    NothingLost restrict arrivals := by
  intro pre x post harrivals hends y hy
  obtain ⟨done, z, rest, heq, hdone, hz, hpost⟩ := exists_first restrict hends pre post
  let token : BlockMode.Block 32 := ⟨List.replicate 32 0, rfl⟩
  obtain ⟨r, n, hexec, hsent⟩ := exec_relayLoop restrict config (.aes token.1) hz hdone
    (n := .start arrivals) (harrivals.trans heq)
  have hrelay : Exec Answers (relayUdpData config restrict).run (.start arrivals) r n :=
    .vis (.random32Bytes _ token) hexec
  obtain ⟨t, hreach⟩ := Select.reaches_of_exec (show check.done = false from rfl) hrelay .ret []
  rw [bind_ret] at hreach
  have hall := h _ n hreach (stuck_of_ret r t n)
  rw [hsent, harrivals, heq, packetPayloads_cons_append done rest] at hall
  have hnil : packetPayloads restrict rest = [] := by
    simpa [UdpNetwork.start] using hall.symm
  exact (packetPayloads_eq_nil restrict).1 hnil y (hpost y hy)

/-- While no datagram ends the association, the relay comes back to the head of its loop. -/
theorem reaches_head (config : AgentConfig) (payloadEncryption : PpaassMessagePayloadEncryption)
    (harrivals : ∀ y ∈ arrivals, ¬ y.Ends restrict) {n : UdpNetwork} (hn : n.arrivals = arrivals)
    (t : Trace agentSig) :
    ∃ t' n', Select.Reaches Answers
        (⟨check, ⟨relayLoop restrict config payloadEncryption, t⟩⟩, n)
        (⟨check, ⟨relayLoop restrict config payloadEncryption, t'⟩⟩, n') ∧
      n'.arrivals = [] ∧ n'.sent = n.sent ++ packetPayloads restrict arrivals := by
  induction arrivals generalizing n t with
  | nil => exact ⟨t, n, .refl, hn, by simp [packetPayloads]⟩
  | cons y rest ih =>
    obtain ⟨r, n', hexec, hrest, hsent, hr⟩ :=
      exec_round restrict config payloadEncryption hn
    obtain rfl := hr.2 (harrivals y List.mem_cons_self)
    have hagain : Exec Answers (relayBody restrict config payloadEncryption ()) n (.inl ()) n' :=
      hexec
    obtain ⟨t₁, h₁⟩ := Select.reaches_again (show check.done = false from rfl) hagain .ret t
    obtain ⟨t₂, n'', h₂, hnil, hsent'⟩ := ih (fun z hz => harrivals z (List.mem_cons_of_mem y hz))
      hrest t₁
    refine ⟨t₂, n'', h₁.trans h₂, hnil, ?_⟩
    rw [hsent', hsent, List.append_assoc, ← packetPayloads_append]
    rfl

/-- An association that no datagram ends comes to await the next datagram, with all packets sent. -/
theorem exists_waiting (config : AgentConfig) (harrivals : ∀ y ∈ arrivals, ¬ y.Ends restrict) :
    ∃ a n, Select.Reaches Answers (udpRelay config ⟨restrict⟩, .start arrivals) (a, n) ∧
      a.done = false ∧ Stuck a n ∧ n.sent = packetPayloads restrict arrivals := by
  let token : BlockMode.Block 32 := ⟨List.replicate 32 0, rfl⟩
  obtain ⟨t, n, hreach, hnil, hsent⟩ := reaches_head restrict config (.aes token.1)
    harrivals (n := .start arrivals) rfl [⟨.random32Bytes, token⟩]
  have hstart : Select.In Answers (udpRelay config ⟨restrict⟩, .start arrivals)
      (⟨check, ⟨relayLoop restrict config (.aes token.1), [⟨.random32Bytes, token⟩]⟩⟩,
        .start arrivals) :=
    .mk (e := some (⟨.random32Bytes, token⟩ : Event agentSig))
      (.right rfl (.mk [] (Step.vis (S := agentSig) _ _ _)))
      (show Answers _ _ _ from .random32Bytes _ token)
  refine ⟨_, n, (hreach.head hstart).tail (.mk (.right rfl (.mk t (.loop _ () _))) rfl), rfl,
    ⟨?_, ?_⟩, hsent⟩
  · intro th hs
    cases hs with
    | mk t hs => cases hs
  · intro e th n' hs ha
    cases hs with
    | mk t hs =>
      cases hs
      cases ha with
      | udpRecvFrom h => cases hnil.symm.trans h

/-- **An association survives exactly the arrivals where nothing is lost**: no datagram of the
client that is malformed, or whose exchange with the proxy brings no reply for the client, is
followed by a packet of the client. -/
theorem survives_iff (config : AgentConfig) (arrivals : List Arrival) :
    Survives restrict config arrivals ↔ NothingLost restrict arrivals :=
  ⟨nothingLost_of_survives restrict, survives_of_nothingLost restrict⟩

/-- The client, and a datagram of it that is well formed. -/
def associationClient : SocketAddr := .v4 ⟨192, 168, 0, 2⟩ 5000

def associationPacket (outcome : Outcome) : Arrival :=
  ⟨[0, 0, 0, 1, 8, 8, 8, 8, 0, 53, 104, 105], associationClient, outcome⟩

/-- One malformed datagram, or one whose destination is silent, and the next packet is lost. -/
theorem next_packet_lost :
    ¬ Survives (.ip associationClient) ⟨"user1", none⟩
      [⟨[0], associationClient, .closed⟩, associationPacket .closed] ∧
    ¬ Survives (.ip associationClient) ⟨"user1", none⟩
      [associationPacket .closed, associationPacket .closed] := by
  have hpacket : ((associationPacket .closed).packet? (.ip associationClient)).isSome = true := by
    decide
  have hlost : ∀ x : Arrival, x.Ends (.ip associationClient) →
      ¬ Survives (.ip associationClient) ⟨"user1", none⟩ [x, associationPacket .closed] := by
    intro x hx h
    have hnone := nothingLost_of_survives _ h [] x _ rfl hx _ (List.mem_singleton.2 rfl)
    rw [hnone] at hpacket
    cases hpacket
  exact ⟨hlost _ ⟨rfl, fun _ _ => id⟩, hlost _ ⟨rfl, fun _ _ => id⟩⟩

end

end Ppaass.Agent
