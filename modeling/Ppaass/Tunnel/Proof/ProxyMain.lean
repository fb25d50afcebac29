import Ppaass.Lib.Dialog
import Ppaass.Proxy.Proof.Operations
import Ppaass.Tunnel.Proof.Relays

/-!
# The proxy's main task

It reads the first message of the agent. A request for a TCP tunnel is answered once, with a success
if the destination is connected and with a failure if it is not; on success the relay tasks are
spawned. `ProxyStage` is how far the task has come; `proxyTask_spec` says that every operation is
one that its stage allows.
-/

namespace Ppaass.Tunnel

open Wire Prog
open Proxy (ProxyOp proxySig ProxyServerError)

/-- What the proxy and the agent say on the way from the proxy to the agent and back. -/
def proxyDialog : Dialog proxySig AgentContent ProxyContent PpaassProxyMessagePayload where
  recv := agentRecv
  sent := agentSent
  payload := fun c => c.2.2
  spawn := Proxy.spawn

/-! ## Connecting -/

/-- The socket addresses of the destination: its own, or those its name was resolved to. -/
def Resolved (addrs : List SocketAddr) (t : Trace proxySig) : PpaassUnifiedAddress → Prop
  | .ip addr => addrs = [addr]
  | .domain host port => ⟨.lookup s!"{host}:{port}", .ok addrs⟩ ∈ t

/-- The destination is connected: a connection to its socket addresses is there, and its options are
set. -/
def Connected (dstAddress : PpaassUnifiedAddress) (t : Trace proxySig) : Prop :=
  (∃ addrs, Resolved addrs t dstAddress ∧ ⟨.tcpConnect addrs, some (.ok ())⟩ ∈ t) ∧
    ⟨.setNodelay, .ok ()⟩ ∈ t ∧ ⟨.setLinger, .ok ()⟩ ∈ t

/-- Connecting to the destination has failed: its name was not resolved, the connection was refused
or timed out, or an option could not be set. -/
inductive ConnectFailed (t : Trace proxySig) : PpaassUnifiedAddress → Prop
  | lookup {host : String} {port : UInt16} {e : StdIoError}
      (h : ⟨.lookup s!"{host}:{port}", .error e⟩ ∈ t) : ConnectFailed t (.domain host port)
  | connect {dstAddress : PpaassUnifiedAddress} {addrs : List SocketAddr}
      {r : Option (Except StdIoError Unit)} (hres : Resolved addrs t dstAddress)
      (h : ⟨.tcpConnect addrs, r⟩ ∈ t) (hr : r ≠ some (.ok ())) : ConnectFailed t dstAddress
  | setNodelay {dstAddress : PpaassUnifiedAddress} {e : StdIoError}
      (h : ⟨.setNodelay, .error e⟩ ∈ t) : ConnectFailed t dstAddress
  | setLinger {dstAddress : PpaassUnifiedAddress} {e : StdIoError}
      (h : ⟨.setLinger, .error e⟩ ∈ t) : ConnectFailed t dstAddress

/-- The id of the transport. -/
def TransportId (transportId : String) (t : Trace proxySig) : Prop :=
  [⟨.fetchAdd, ()⟩, ⟨.newUuid, transportId⟩] <+: t

section
variable {t : Trace proxySig}

theorem Resolved.append {addrs : List SocketAddr} {dstAddress : PpaassUnifiedAddress}
    (h : Resolved addrs t dstAddress) (t' : Trace proxySig) :
    Resolved addrs (t ++ t') dstAddress := by
  cases dstAddress with
  | ip addr => exact h
  | domain host port => exact List.mem_append_left _ h

theorem Connected.append {dstAddress : PpaassUnifiedAddress} (h : Connected dstAddress t)
    (t' : Trace proxySig) : Connected dstAddress (t ++ t') := by
  obtain ⟨⟨addrs, hres, hconn⟩, hdelay, hlinger⟩ := h
  exact ⟨⟨addrs, hres.append t', List.mem_append_left _ hconn⟩, List.mem_append_left _ hdelay,
    List.mem_append_left _ hlinger⟩

theorem ConnectFailed.append {dstAddress : PpaassUnifiedAddress} (h : ConnectFailed t dstAddress)
    (t' : Trace proxySig) : ConnectFailed (t ++ t') dstAddress := by
  cases h with
  | lookup h => exact .lookup (List.mem_append_left _ h)
  | connect hres h hr => exact .connect (hres.append t') (List.mem_append_left _ h) hr
  | setNodelay h => exact .setNodelay (List.mem_append_left _ h)
  | setLinger h => exact .setLinger (List.mem_append_left _ h)

theorem TransportId.append {transportId : String} (h : TransportId transportId t)
    (t' : Trace proxySig) : TransportId transportId (t ++ t') :=
  h.trans (List.prefix_append _ _)

end

/-- What has to be true before a result is sent. -/
def Warrants (dstAddress : PpaassUnifiedAddress) (t : Trace proxySig) : ProxyTcpInitResult → Prop
  | .success tunnelId => TransportId tunnelId t ∧ Connected dstAddress t
  | .fail _ => ConnectFailed t dstAddress

theorem Warrants.append {dstAddress : PpaassUnifiedAddress} {t : Trace proxySig}
    {result : ProxyTcpInitResult} (h : Warrants dstAddress t result) (t' : Trace proxySig) :
    Warrants dstAddress (t ++ t') result := by
  cases result with
  | success tunnelId => exact ⟨h.1.append t', h.2.append t'⟩
  | fail reason => exact ConnectFailed.append h t'

/-! ## Stages -/

inductive ProxyStage where
  | accepted
  /-- the first event of the connection was `r` -/
  | first (r : RecvEvent AgentContent)
  /-- the first message was a UDP packet -/
  | udp (c : AgentContent)
  | answered (c : AgentContent) (srcAddress dstAddress : PpaassUnifiedAddress)
      (result : ProxyTcpInitResult)
  | spawning (c : AgentContent) (srcAddress dstAddress : PpaassUnifiedAddress) (tunnelId : String)
  | relaying (c : AgentContent) (srcAddress dstAddress : PpaassUnifiedAddress) (tunnelId : String)

namespace ProxyStage

/-- The trace of the proxy's main task at this stage. -/
def At (t : Trace proxySig) : ProxyStage → Prop
  | accepted => proxyDialog.At [] [] [] t
  | first r => proxyDialog.At [r] [] [] t
  | udp c => (∃ u, c.2.2 = .udp u) ∧ ∃ said, (∀ p ∈ said, ∃ u, p = .udp u) ∧
      proxyDialog.At [.read [c]] said [] t
  | answered c src dst result => c.2.2 = .tcp (.init src dst) ∧ Warrants dst t result ∧
      proxyDialog.At [.read [c]] [.tcp (.init src dst result)] [] t
  | spawning c src dst tunnelId => c.2.2 = .tcp (.init src dst) ∧
      Warrants dst t (.success tunnelId) ∧
      proxyDialog.At [.read [c]] [.tcp (.init src dst (.success tunnelId))] [.up] t
  | relaying c src dst tunnelId => c.2.2 = .tcp (.init src dst) ∧
      Warrants dst t (.success tunnelId) ∧
      proxyDialog.At [.read [c]] [.tcp (.init src dst (.success tunnelId))] [.up, .down] t

/-- The operations of a stage. -/
def Allows (t : Trace proxySig) : ProxyStage → ProxyOp → Prop
  | accepted, .fetchAdd | accepted, .newUuid | accepted, .agentNext => True
  | first _, .random32Bytes => True
  | first (.read [c]), op => ∃ src dst, c.2.2 = .tcp (.init src dst) ∧
      match op with
      | .lookup _ | .tcpConnect _ | .setNodelay | .setLinger | .newUuid | .fetchSub => True
      | .agentFeed m => t.filterMap agentSent = [] ∧
        ∃ result, Warrants dst t result ∧ m.payload = .tcp (.init src dst result)
      | _ => False
  | udp _, op => Proxy.UdpOp op ∨ op = .random32Bytes ∨ op = .fetchSub
  | answered .., .agentFlush | answered .., .fetchSub => True
  | answered _ _ _ (.success _), .spawnAgentToDst => True
  | spawning .., .spawnDstToAgent _ _ => True
  | _, _ => False

end ProxyStage

/-- Every operation is one of the stage that the task has reached; only the UDP handler loops. -/
def proxyMain : Assertion proxySig
  | none, t => ∃ c, (ProxyStage.udp c).At t
  | some op, t => ∃ stage : ProxyStage, stage.At t ∧ stage.Allows t op

/-- The stages at which the task may return. -/
def ProxyStage.Final (t : Trace proxySig) : ProxyStage → Prop
  | accepted | spawning .. => False
  | answered _ _ _ (.success _) => ∃ e ∈ t.filterMap agentSent, e.failed = true
  | _ => True

/-- The task has returned: it relays, or the tunnel is not granted, or the grant could not be
sent. -/
def proxyMainPost (_ : Except ProxyServerError Unit) (t : Trace proxySig) : Prop :=
  ∃ stage : ProxyStage, stage.At t ∧ stage.Final t

/-! ## Connecting to the destination -/

section
variable {c : AgentContent} {srcAddress dstAddress : PpaassUnifiedAddress} {transportId : String}
  {t : Trace proxySig}

/-- The request for a tunnel is read, and nothing is answered yet. -/
structure Requested (c : AgentContent) (transportId : String) (t : Trace proxySig) : Prop where
  stage : (ProxyStage.first (.read [c])).At t
  unsent : t.filterMap agentSent = []
  transport : TransportId transportId t

theorem Requested.quiet {e : Event proxySig} (h : Requested c transportId t)
    (hr : agentRecv e = none) (hs : agentSent e = none) (hspawn : Proxy.spawn e.op = none) :
    Requested c transportId (t ++ [e]) := by
  refine ⟨Dialog.At.quiet h.stage hr (fun x hx => ?_) hspawn, ?_, h.transport.append _⟩
  · rw [show proxyDialog.sent e = none from hs] at hx
    cases hx
  · rw [List.filterMap_append, h.unsent]
    simp [hs]

theorem toSocketAddrs_spec (hc : c.2.2 = .tcp (.init srcAddress dstAddress))
    (ht : Requested c transportId t) :
    wp proxyMain (Proxy.toSocketAddrs dstAddress) (fun r t => Requested c transportId t ∧
      match r with
      | .ok addrs => Resolved addrs t dstAddress
      | .error _ => ConnectFailed t dstAddress) t := by
  cases dstAddress with
  | ip addr => exact ⟨ht, rfl⟩
  | domain host port =>
    refine wp_bind.2 ((Proxy.wp_await _).2 ⟨⟨_, ht.stage, _, _, hc, trivial⟩, fun r => ?_⟩)
    refine ⟨ht.quiet rfl rfl rfl, ?_⟩
    cases r with
    | ok addrs => exact List.mem_concat_self
    | error e => exact .lookup (List.mem_concat_self)

/-- **Connecting succeeds or fails as its trace says.** -/
theorem initDstConnection_spec {config : Proxy.ProxyConfig}
    (hc : c.2.2 = .tcp (.init srcAddress dstAddress)) (ht : Requested c transportId t) :
    wp proxyMain (Proxy.TcpHandler.initDstConnection config transportId dstAddress).run
      (OkOr (fun _ t => Requested c transportId t ∧ Connected dstAddress t)
        (fun t => Requested c transportId t ∧ ConnectFailed t dstAddress)) t := by
  have hallow : ∀ {op t}, Requested c transportId t →
      (ProxyStage.first (.read [c])).Allows t op → proxyMain (some op) t :=
    fun ht h => ⟨_, ht.stage, h⟩
  refine wp_run_bind.2 (wp_lift.2 (wp_mono (toSocketAddrs_spec hc ht) fun r t ⟨ht, hr⟩ => ?_))
  cases r with
  | error e => exact ⟨ht, hr⟩
  | ok addrs =>
    refine wp_run_bind.2 ((wp_orFail _ _).2 (wp_run_bind.2 ((Proxy.wp_awaitM (.tcpConnect addrs)).2
      ⟨hallow ht ⟨_, _, hc, trivial⟩, fun connected => ?_⟩)))
    have ht₁ := ht.quiet (e := ⟨.tcpConnect addrs, connected⟩) rfl rfl rfl
    have hmem : (⟨.tcpConnect addrs, connected⟩ : Event proxySig) ∈
      t ++ [⟨.tcpConnect addrs, connected⟩] := List.mem_concat_self
    rcases connected with _ | e | u
    · exact ⟨ht₁, .connect (hr.append _) hmem nofun⟩
    · exact ⟨ht₁, .connect (hr.append _) hmem nofun⟩
    refine wp_run_bind.2 ((wp_orFail _ _).2 (wp_run_bind.2 ((Proxy.wp_awaitM .setNodelay).2
      ⟨hallow ht₁ ⟨_, _, hc, trivial⟩, fun r => ?_⟩)))
    have ht₂ := ht₁.quiet (e := ⟨.setNodelay, r⟩) rfl rfl rfl
    have hdelay (t : Trace proxySig) :
        (⟨.setNodelay, r⟩ : Event proxySig) ∈ t ++ [⟨.setNodelay, r⟩] :=
      List.mem_concat_self
    cases r with
    | error e => exact ⟨ht₂, .setNodelay (hdelay _)⟩
    | ok u =>
      refine wp_run_bind.2 ((wp_orFail _ _).2 (wp_run_bind.2 ((Proxy.wp_awaitM .setLinger).2
        ⟨hallow ht₂ ⟨_, _, hc, trivial⟩, fun r => (wp_orFail _ _).2 ?_⟩)))
      have ht₃ := ht₂.quiet (e := ⟨.setLinger, r⟩) rfl rfl rfl
      have hlinger (t : Trace proxySig) :
          (⟨.setLinger, r⟩ : Event proxySig) ∈ t ++ [⟨.setLinger, r⟩] :=
        List.mem_concat_self
      cases r with
      | error e => exact ⟨ht₃, .setLinger (hlinger _)⟩
      | ok u =>
        exact ⟨ht₃, ⟨addrs, ((hr.append _).append _).append _, List.mem_append_left _
          (List.mem_append_left _ hmem)⟩, List.mem_append_left _ (hdelay _), hlinger _⟩

/-! ## Answering -/

/-- The task has failed, and takes back its count. -/
def ProxyStopped (t : Trace proxySig) : Prop :=
  ∃ stage : ProxyStage, stage.At t ∧ stage.Final t ∧ stage.Allows t .fetchSub

/-- Sends the result and goes on: what is sent is warranted. -/
theorem answer_spec {message : PpaassProxyMessage} (result : ProxyTcpInitResult)
    {f : Unit → Proxy.ProxyM Unit} {Q : Except ProxyServerError Unit → Trace proxySig → Prop}
    (hc : c.2.2 = .tcp (.init srcAddress dstAddress)) (ht : Requested c transportId t)
    (hresult : Warrants dstAddress t result)
    (hm : message.payload = .tcp (.init srcAddress dstAddress result))
    (hok : ∀ t, (ProxyStage.answered c srcAddress dstAddress result).At t →
      wp proxyMain (f ()).run Q t)
    (herr : ∀ e t, ProxyStopped t → Q (.error e) t) :
    wp proxyMain (do
      orFail .common (← ExceptT.lift (Proxy.agentSend message))
      f () : Proxy.ProxyM Unit).run Q t := by
  refine wp_run_bind.2 (wp_lift.2 (wp_bind.2 ((Proxy.wp_await (.agentFeed message)).2
    ⟨⟨_, ht.stage, _, _, hc, ht.unsent, result, hresult, hm⟩, fun r => ?_⟩)))
  cases r with
  | error e =>
    have ht' := Dialog.At.quiet (e := (⟨.agentFeed message, .error e⟩ : Event proxySig)) ht.stage
      rfl (fun x hx => by cases hx; rfl) rfl
    exact herr _ _ ⟨.first (.read [c]), ht', trivial, _, _, hc, trivial⟩
  | ok u =>
    have hsay := Dialog.At.say (e := (⟨.agentFeed message, .ok ()⟩ : Event proxySig)) ht.stage
      rfl rfl rfl
    rw [show proxyDialog.payload message.content = _ from hm] at hsay
    have ht₁ : (ProxyStage.answered c srcAddress dstAddress result).At _ :=
      ⟨hc, hresult.append _, hsay⟩
    refine (Proxy.wp_await .agentFlush).2 ⟨⟨_, ht₁, trivial⟩, fun r => ?_⟩
    have ht₂ : (ProxyStage.answered c srcAddress dstAddress result).At _ :=
      ⟨hc, ht₁.2.1.append [⟨.agentFlush, r⟩],
        ht₁.2.2.quiet rfl (fun x hx => by cases hx; rfl) rfl⟩
    cases r with
    | ok u => exact wp_run_bind.2 (hok _ ht₂)
    | error e =>
      refine herr _ _ ⟨_, ht₂, ?_, trivial⟩
      cases result with
      | fail reason => trivial
      | success tunnelId =>
        exact ⟨.flush false, by simp [agentSent, Except.isOk, Except.toBool], rfl⟩

theorem tcpHandler_spec {config : Proxy.ProxyConfig} {userToken : String}
    {payloadEncryption : PpaassMessagePayloadEncryption}
    (hc : c.2.2 = .tcp (.init srcAddress dstAddress)) (ht : Requested c transportId t) :
    wp proxyMain (Proxy.TcpHandler.exec config
      ⟨transportId, userToken, srcAddress, dstAddress, payloadEncryption⟩).run
      (OkOr (fun _ t => ∃ tunnelId, (ProxyStage.relaying c srcAddress dstAddress tunnelId).At t)
        ProxyStopped) t := by
  refine wp_run_bind.2 (wp_lift.2 (wp_mono (initDstConnection_spec hc ht) fun r t h => ?_))
  cases r with
  | error e =>
    obtain ⟨ht, hfail⟩ := h
    refine wp_run_bind.2 ((Proxy.wp_awaitM .newUuid).2
      ⟨⟨_, ht.stage, _, _, hc, trivial⟩, fun messageId => ?_⟩)
    refine answer_spec (.fail .canNotConnectToDestination) (f := fun _ => throw e) hc
      (ht.quiet rfl rfl rfl) (hfail.append _) rfl (fun t ht => ?_) fun _ _ h => h
    exact ⟨_, ht, trivial, trivial⟩
  | ok u =>
    obtain ⟨ht, hconn⟩ := h
    refine wp_run_bind.2 ((Proxy.wp_awaitM .newUuid).2
      ⟨⟨_, ht.stage, _, _, hc, trivial⟩, fun messageId => ?_⟩)
    have ht' := ht.quiet (e := ⟨.newUuid, messageId⟩) rfl rfl rfl
    refine answer_spec (.success transportId) (f := fun _ => do
        Proxy.awaitM .spawnAgentToDst
        Proxy.awaitM (.spawnDstToAgent userToken payloadEncryption)) hc ht'
      ⟨ht'.transport, hconn.append _⟩ rfl (fun t ht => ?_) fun _ _ h => h
    obtain ⟨hc, hwarrants, hat⟩ := id ht
    refine wp_run_bind.2 ((Proxy.wp_awaitM .spawnAgentToDst).2 ⟨⟨_, ht, trivial⟩, fun _ => ?_⟩)
    have hup : (ProxyStage.spawning c srcAddress dstAddress transportId).At
        (t ++ [⟨.spawnAgentToDst, ()⟩]) := ⟨hc, hwarrants.append _, hat.spawn rfl rfl rfl⟩
    refine (Proxy.wp_awaitM (.spawnDstToAgent userToken payloadEncryption)).2
      ⟨⟨_, hup, trivial⟩, fun _ => ⟨transportId, hc, hup.2.1.append _, ?_⟩⟩
    exact hup.2.2.spawn rfl rfl rfl

theorem ProxyStage.At.quiet {stage : ProxyStage} {e : Event proxySig} (h : stage.At t)
    (hr : agentRecv e = none) (hs : agentSent e = none) (hspawn : Proxy.spawn e.op = none) :
    stage.At (t ++ [e]) := by
  have hsent : ∀ x ∈ proxyDialog.sent e, x.fed = [] := by
    intro x hx
    rw [show proxyDialog.sent e = none from hs] at hx
    cases hx
  cases stage with
  | accepted => exact Dialog.At.quiet h hr hsent hspawn
  | first r => exact Dialog.At.quiet h hr hsent hspawn
  | udp c =>
    obtain ⟨hc, said, hsaid, hat⟩ := h
    exact ⟨hc, said, hsaid, hat.quiet hr hsent hspawn⟩
  | answered => exact ⟨h.1, h.2.1.append _, h.2.2.quiet hr hsent hspawn⟩
  | spawning => exact ⟨h.1, h.2.1.append _, h.2.2.quiet hr hsent hspawn⟩
  | relaying => exact ⟨h.1, h.2.1.append _, h.2.2.quiet hr hsent hspawn⟩

theorem ProxyStage.Final.snoc {stage : ProxyStage} {e : Event proxySig} (h : stage.Final t) :
    stage.Final (t ++ [e]) := by
  rcases stage with _ | r | c | ⟨c, src, dst, _ | _⟩ | _ | _
  · exact h
  · trivial
  · trivial
  · obtain ⟨x, hx, hf⟩ := h
    exact ⟨x, by rw [List.filterMap_append]; exact List.mem_append_left _ hx, hf⟩
  · trivial
  · exact h
  · trivial

theorem execTcp_spec {config : Proxy.ProxyConfig} {userToken : String}
    {payloadEncryption : PpaassMessagePayloadEncryption} {payload : AgentTcpPayload}
    (hc : c.2.2 = .tcp payload) (ht : Requested c transportId t) :
    wp proxyMain
      (Proxy.Transport.execTcp config transportId userToken payloadEncryption payload).run
      proxyMainPost t := by
  cases payload with
  | data content => exact ⟨_, ht.stage, trivial⟩
  | init src dst =>
    refine wp_run_bind.2 (wp_lift.2 (wp_mono (tcpHandler_spec hc ht) fun r t h => ?_))
    cases r with
    | ok u =>
      obtain ⟨tunnelId, hat⟩ := h
      exact ⟨_, hat, trivial⟩
    | error e =>
      obtain ⟨stage, hat, hfinal, hallow⟩ := h
      exact (Proxy.wp_awaitM .fetchSub).2
        ⟨⟨stage, hat, hallow⟩, fun _ => ⟨stage, hat.quiet rfl rfl rfl, hfinal.snoc⟩⟩

/-- What the UDP handler does keeps to its stage. -/
theorem ProxyStage.At.udpOp {op : ProxyOp} (h : (ProxyStage.udp c).At t) (hop : Proxy.UdpOp op)
    (a : op.Ans) : (ProxyStage.udp c).At (t ++ [⟨op, a⟩]) := by
  obtain ⟨hc, said, hsaid, hat⟩ := id h
  cases op with
  | agentFeed message =>
    obtain ⟨payload, hm⟩ := hop
    rcases a with e | ⟨⟨⟩⟩
    · exact ⟨hc, said, hsaid, hat.quiet rfl (fun x hx => by cases hx; rfl) rfl⟩
    · refine ⟨hc, _, ?_, hat.say rfl rfl rfl⟩
      intro p hp
      rcases List.mem_append.1 hp with hp | hp
      · exact hsaid p hp
      · exact ⟨payload, (List.mem_singleton.1 hp).trans hm⟩
  | agentFlush => exact ⟨hc, said, hsaid, hat.quiet rfl (fun x hx => by cases hx; rfl) rfl⟩
  | agentClose => exact ⟨hc, said, hsaid, hat.quiet rfl (fun x hx => by cases hx; rfl) rfl⟩
  | newUuid | lookup | udpBind | udpConnect | udpSend | udpRecv => exact h.quiet rfl rfl rfl
  | _ => exact hop.elim

theorem execUdp_spec {config : Proxy.ProxyConfig} {userToken : String}
    {payloadEncryption : PpaassMessagePayloadEncryption} {payload : AgentUdpPayload}
    (ht : (ProxyStage.udp c).At t) :
    wp proxyMain
      (Proxy.Transport.execUdp config transportId userToken payloadEncryption payload).run
      proxyMainPost t := by
  have hudp : wp proxyMain (Proxy.UdpHandler.exec config ⟨transportId, userToken,
      payload.srcAddress, payload.dstAddress, payload.data, payloadEncryption,
      payload.needResponse⟩).run (fun _ => (ProxyStage.udp c).At) t := by
    refine wp_only (ProxyStage.At · (.udp c)) (Proxy.only_udpHandler _ _) ht
      (fun t ht => ⟨c, ht⟩) ?_
    exact fun t op ht hop => ⟨⟨_, ht, .inl hop⟩, fun a => ht.udpOp hop a⟩
  refine wp_run_bind.2 (wp_lift.2 (wp_mono hudp fun r t ht => ?_))
  have hsub : ∀ a, (ProxyStage.udp c).At (t ++ [⟨.fetchSub, a⟩]) := fun a => ht.quiet rfl rfl rfl
  cases r with
  | ok u =>
    exact (Proxy.wp_awaitM .fetchSub).2 ⟨⟨_, ht, .inr (.inr rfl)⟩, fun a => ⟨_, hsub a, trivial⟩⟩
  | error e =>
    exact wp_run_bind.2 ((Proxy.wp_awaitM .fetchSub).2
      ⟨⟨_, ht, .inr (.inr rfl)⟩, fun a => ⟨_, hsub a, trivial⟩⟩)

end

/-! ## The task and what it spawns -/

theorem accepted_nil : ProxyStage.accepted.At [] := Dialog.at_nil

theorem transport_spec {config : Proxy.ProxyConfig} {transportId : String} {t : Trace proxySig}
    (ht : ProxyStage.accepted.At t) (hsent : t.filterMap agentSent = [])
    (hid : TransportId transportId t) :
    wp proxyMain (Proxy.Transport.exec config transportId).run proxyMainPost t := by
  refine wp_run_bind.2 ((Proxy.wp_awaitM .agentNext).2 ⟨⟨_, ht, trivial⟩, fun r => ?_⟩)
  have hfirst : (ProxyStage.first (nextEvent r)).At (t ++ [⟨.agentNext, r⟩]) :=
    Dialog.At.hear ht rfl rfl rfl
  rcases r with _ | e | message
  · exact ⟨_, hfirst, trivial⟩
  · exact wp_run_bind.2 ((wp_orFail _ _).2 ⟨_, hfirst, trivial⟩)
  · refine wp_run_bind.2 ((wp_orFail _ _).2 (wp_run_bind.2 ((Proxy.wp_awaitM .random32Bytes).2
      ⟨⟨_, hfirst, trivial⟩, fun token => ?_⟩)))
    have hread := hfirst.quiet (e := ⟨.random32Bytes, token⟩) rfl rfl rfl
    have hc : message.content.2.2 = message.payload := rfl
    dsimp only
    split
    · next payload hp =>
      refine execTcp_spec (hc.trans hp) ⟨hread, ?_, (hid.append _).append _⟩
      rw [List.filterMap_append, List.filterMap_append, hsent]
      rfl
    · next payload hp => exact execUdp_spec ⟨⟨payload, hc.trans hp⟩, [], by simp, hread⟩

/-- **The proxy's main task keeps to its stages.** -/
theorem proxyTask_spec (config : Proxy.ProxyConfig) :
    wp proxyMain (Proxy.ProxyServer.serve config) proxyMainPost [] := by
  refine wp_bind.2 ((Proxy.wp_await .fetchAdd).2 ⟨⟨_, accepted_nil, trivial⟩, fun _ => ?_⟩)
  have ht : ProxyStage.accepted.At [⟨.fetchAdd, ()⟩] := accepted_nil.quiet rfl rfl rfl
  refine wp_bind.2 ((Proxy.wp_await .newUuid).2 ⟨⟨_, ht, trivial⟩, fun transportId => ?_⟩)
  exact transport_spec (ht.quiet rfl rfl rfl) rfl List.prefix_rfl

def ProxyStage.running : ProxyStage → List Side
  | spawning .. => [.up]
  | relaying .. => [.up, .down]
  | _ => []

theorem ProxyStage.At.spawned {stage : ProxyStage} {t : Trace proxySig} (h : stage.At t)
    (side : Side) : Tasks.Spawned Proxy.spawn side t ↔ side ∈ stage.running := by
  cases stage with
  | accepted => exact h.running side
  | first r => exact h.running side
  | udp c =>
    obtain ⟨-, said, -, hat⟩ := h
    exact hat.running side
  | answered => exact h.2.2.running side
  | spawning => exact h.2.2.running side
  | relaying => exact h.2.2.running side

/-- What the main task says is no data. -/
theorem ProxyStage.At.silent {stage : ProxyStage} {t : Trace proxySig} (h : stage.At t) :
    ∃ got said, proxyDialog.At got said stage.running t ∧
      ∀ p ∈ said, ∀ bytes, p ≠ .tcp (.data bytes) := by
  cases stage with
  | accepted | first => exact ⟨_, _, h, by simp⟩
  | udp c =>
    obtain ⟨-, said, hsaid, hat⟩ := h
    refine ⟨_, said, hat, fun p hp bytes => ?_⟩
    obtain ⟨u, rfl⟩ := hsaid p hp
    exact nofun
  | answered | spawning | relaying => exact ⟨_, _, h.2.2, by simp⟩

/-- A task that has spawned has read a request and has answered it with a success. -/
theorem ProxyStage.At.granted {stage : ProxyStage} {t : Trace proxySig} {side : Side}
    (h : stage.At t) (hside : side ∈ stage.running) :
    ∃ c src dst tunnelId, c.2.2 = .tcp (.init src dst) ∧ Warrants dst t (.success tunnelId) ∧
      proxyDialog.At [.read [c]] [.tcp (.init src dst (.success tunnelId))] stage.running t := by
  cases stage with
  | spawning | relaying => exact ⟨_, _, _, _, h⟩
  | _ => cases hside

/-- Where the main task still runs nothing is spawned, but for the first task before the second. -/
theorem proxyMain_spawned {op : ProxyOp} {t : Trace proxySig} (h : proxyMain (some op) t) :
    (∀ side, ¬ Tasks.Spawned Proxy.spawn side t) ∨
      (∃ userToken encryption, op = .spawnDstToAgent userToken encryption) ∧
        ¬ Tasks.Spawned Proxy.spawn .down t := by
  obtain ⟨stage, hat, hallow⟩ := h
  simp only [hat.spawned]
  cases stage with
  | spawning =>
    cases op with
    | spawnDstToAgent userToken encryption =>
      exact .inr ⟨⟨userToken, encryption, rfl⟩, by simp [ProxyStage.running]⟩
    | _ => exact hallow.elim
  | relaying => cases op <;> exact hallow.elim
  | _ => exact .inl fun side => List.not_mem_nil

/-- The operations on the destination's connection. -/
def DstOp : ProxyOp → Prop
  | .dstRead | .dstFeed _ | .dstFlush | .dstClose => True
  | _ => False

/-- The main task leaves the destination's connection to the relay tasks. -/
theorem proxyMain_not_dst {op : ProxyOp} {t : Trace proxySig} (h : proxyMain (some op) t) :
    ¬ DstOp op := by
  obtain ⟨stage, -, hallow⟩ := h
  intro hop
  rcases stage with _ | ⟨⟨_ | ⟨c, _ | _⟩⟩ | _ | _⟩ | c | ⟨c, src, dst, _ | _⟩ | _ | _
  case first.read.cons.nil =>
    cases op <;> first | exact hop.elim | (obtain ⟨_, _, -, hallow⟩ := hallow; exact hallow.elim)
  case udp =>
    rcases hallow with hallow | rfl | rfl
    · cases op <;> first | exact hop.elim | exact hallow.elim
    · exact hop.elim
    · exact hop.elim
  all_goals cases op <;> first | exact hop.elim | exact hallow.elim

/-- Once the request is answered the main task does not read the agent's connection. -/
theorem proxyMain_answered {op : ProxyOp} {t : Trace proxySig} {c : AgentContent}
    {srcAddress dstAddress : PpaassUnifiedAddress} {result : ProxyTcpInitResult}
    {running : List Side} (h : proxyMain (some op) t)
    (ht : proxyDialog.At [.read [c]] [.tcp (.init srcAddress dstAddress result)] running t) :
    op ≠ .agentNext := by
  obtain ⟨stage, hat, hallow⟩ := h
  cases stage with
  | accepted =>
    have := hat.got.symm.trans ht.got
    cases this
  | first r =>
    have := hat.said.symm.trans ht.said
    cases this
  | udp c =>
    obtain ⟨-, said, hudp, hat⟩ := hat
    obtain rfl := hat.said.symm.trans ht.said
    obtain ⟨u, hu⟩ := hudp _ (List.mem_singleton.2 rfl)
    cases hu
  | answered | spawning =>
    rintro rfl
    exact hallow.elim
  | relaying => cases op <;> exact hallow.elim

/-- The stage that the main task has reached. -/
theorem proxyMain_stage {th : Thread proxySig (Except ProxyServerError Unit)}
    (h : th.Holds proxyMain proxyMainPost) : ∃ stage : ProxyStage, stage.At th.trace := by
  rcases wp_inv h.wp with ⟨_ | op, ho⟩ | ⟨r, -, stage, hat, -⟩
  · obtain ⟨c, hat⟩ := ho
    exact ⟨_, hat⟩
  · obtain ⟨stage, hat, -⟩ := ho
    exact ⟨stage, hat⟩
  · exact ⟨stage, hat⟩

/-- What holds of the proxy's tasks. -/
def proxySpec : Tasks.Spec proxySig (Except ProxyServerError Unit) where
  assertion
    | none => proxyMain
    | some .up => agentToDstPump.assertion
    | some .down => dstToAgentPump.assertion
  mainPost := proxyMainPost
  post
    | .up => agentToDstPump.Finished
    | .down => dstToAgentPump.Finished

theorem proxySpec_sound : proxySpec.Sound Proxy.spawn where
  spawns := by
    intro op side p h
    cases op <;> cases h
    · exact relayAgentToDst_spec
    · exact relayDstToAgent_spec _ _
  once := by
    intro op side p t h hmain
    rcases proxyMain_spawned hmain with hnone | ⟨⟨userToken, encryption, rfl⟩, hdown⟩
    · exact hnone side
    · cases h
      exact hdown

/-- A link that a relay task of the proxy uses, and the main task before it. -/
theorem proxySpec_uses {B : Type} {f : Event proxySig → Option B} {side : Side}
    (hspawn : ∀ userToken encryption a, f ⟨.spawnDstToAgent userToken encryption, a⟩ = none)
    (hother : ∀ s op a t, s ≠ side → proxySpec.assertion (some s) (some op) t → f ⟨op, a⟩ = none) :
    proxySpec.Uses Proxy.spawn f side where
  main := by
    intro op a t hmain hf
    rcases proxyMain_spawned hmain with hnone | ⟨⟨userToken, encryption, rfl⟩, -⟩
    · exact hnone side
    · exact (hf (hspawn _ _ _)).elim
  other := fun hs h => hother _ _ _ _ hs h

theorem proxy_uses_agentRecv : proxySpec.Uses Proxy.spawn agentRecv .up :=
  proxySpec_uses (fun _ _ _ => rfl) fun s op a t hs h => by
    cases s with
    | up => exact (hs rfl).elim
    | down => cases op <;> first | rfl | exact h.1.elim

theorem proxy_uses_dstSent : proxySpec.Uses Proxy.spawn dstSent .up :=
  proxySpec_uses (fun _ _ _ => rfl) fun s op a t hs h => by
    cases s with
    | up => exact (hs rfl).elim
    | down => cases op <;> first | rfl | exact h.1.elim

theorem proxy_uses_dstRecv : proxySpec.Uses Proxy.spawn dstRecv .down :=
  proxySpec_uses (fun _ _ _ => rfl) fun s op a t hs h => by
    cases s with
    | up => cases op <;> first | rfl | exact h.1.elim
    | down => exact (hs rfl).elim

theorem proxy_uses_agentSent : proxySpec.Uses Proxy.spawn agentSent .down :=
  proxySpec_uses (fun _ _ _ => rfl) fun s op a t hs h => by
    cases s with
    | up => cases op <;> first | rfl | exact h.1.elim
    | down => exact (hs rfl).elim

end Ppaass.Tunnel
