import Ppaass.Agent.Proof.Encryption
import Ppaass.Lib.Steady
import Ppaass.Proxy.Proof.Encryption
import Ppaass.Proxy.Proof.User
import Ppaass.Tunnel.Proof.Flow

/-!
# What is fed to the links between the agent and the proxy

Under which user token and which encryption a message travels, and that none is fed once a send to
the link has failed: an `encode` that fails leaves bytes behind that are no frame, and no frame may
come after them.

`System.Feeds` is what holds of the tasks; every step keeps it (`reachable_feeds`).
`Feeds.agent_says` and `Feeds.proxy_says` are what it says of a message that is fed.
-/

namespace Ppaass.Tunnel

open Wire Prog
open Framed (Fault)
open Agent (AgentOp agentSig AgentError)
open Proxy (ProxyOp proxySig ProxyServerError)

/-! ## The agent's main task -/

/-- The agent says this: the request or data, for its user and under a token. -/
structure System.AgentSays (setup : Setup) (m : PpaassAgentMessage) : Prop where
  user : m.userToken = setup.agentConfig.getUserToken
  ciphered : ∃ token : BlockMode.Block 32, m.encryption = .aes token.1
  payload : IsRequest setup m.content ∨ IsAgentData m.content

section
variable (config : Agent.AgentConfig)

/-- Messages are fed under the configured user token, and only where no send has failed. -/
def agentFeeds : Assertion agentSig
  | none, _ => True
  | some op, t => (∀ m, op = .proxyFeed m → m.userToken = config.getUserToken) ∧
    steady proxySent (Agent.spawn config) (some op) t

/-- The operation leaves the connection to the proxy alone, and spawns nothing. -/
def LeavesProxy : AgentOp → Prop
  | .proxyFeed _ | .proxyFlush | .proxyClose | .spawnClientToProxy _ | .spawnProxyToClient => False
  | _ => True

variable {config} {t : Trace agentSig} {α : Type}

theorem leavesProxy_quiet {op : AgentOp} (h : LeavesProxy op) (a : op.Ans) :
    proxySent ⟨op, a⟩ = none := by
  cases op <;> first
    | rfl
    | exact h.elim

theorem leavesProxy_feeds {op : AgentOp} (h : LeavesProxy op) : agentFeeds config (some op) t := by
  constructor
  · intro m hm
    subst hm
    exact h.elim
  · refine steady_of_not (leavesProxy_quiet h) ?_
    cases op <;> first
      | rfl
      | exact h.elim

theorem agentFeeds_of_only {p : Prog agentSig α} (h : Only LeavesProxy p)
    (ht : Calm proxySent t) : wp (agentFeeds config) p (fun _ => Calm proxySent) t :=
  wp_only (Calm proxySent) h ht (fun _ _ => trivial) fun _ _ ht hop =>
    ⟨leavesProxy_feeds hop, fun a => ht.quiet (leavesProxy_quiet hop a)⟩

/-- What goes well keeps the connection calm. -/
abbrev CalmIfOk {ε : Type} : Except ε α → Trace agentSig → Prop :=
  OkOr (fun _ => Calm proxySent) fun _ => True

theorem agentFeeds_run {ε : Type} {x : ExceptT ε (Prog agentSig) α} (h : Only LeavesProxy x.run)
    (ht : Calm proxySent t) : wp (agentFeeds config) x.run CalmIfOk t := by
  refine wp_mono (agentFeeds_of_only h ht) fun r t ht => ?_
  cases r with
  | ok a => exact ht
  | error e => trivial

theorem proxySend_feeds {message : PpaassAgentMessage}
    (hm : message.userToken = config.getUserToken) (ht : Calm proxySent t) :
    wp (agentFeeds config) (Agent.proxySend message) CalmIfOk t := by
  refine wp_bind.2 ((Agent.wp_await _).2 ⟨⟨?_, fun _ => ht⟩, fun r => ?_⟩)
  · rintro m ⟨⟩
    exact hm
  cases r with
  | error e => trivial
  | ok u =>
    have hfed : Calm proxySent (t ++ [⟨.proxyFeed message, .ok u⟩]) := ht.sent rfl rfl nofun
    refine (Agent.wp_await .proxyFlush).2 ⟨⟨(fun m hm => by cases hm), fun _ => hfed⟩, fun r => ?_⟩
    cases r with
    | ok u => exact hfed.sent rfl rfl nofun
    | error e => trivial

theorem initTunnel_feeds (client : String) (srcAddress dstAddress : PpaassUnifiedAddress)
    (ht : Calm proxySent t) :
    wp (agentFeeds config) (Agent.initTunnel config client srcAddress dstAddress).run
      CalmIfOk t := by
  have hrandom : Only LeavesProxy (Agent.randomEncryption config).run :=
    only_run_bind ((Agent.only_awaitM _).2 trivial) fun _ => only_pure _
  refine wp_run_seq (agentFeeds_run hrandom ht) (fun encryption t ht => ?_) fun _ _ h => h
  refine wp_run_seq (agentFeeds_run ((Agent.only_awaitM .newUuid).2 trivial) ht)
    (fun messageId t ht => ?_) fun _ _ h => h
  refine wp_run_seq (agentFeeds_run (Agent.only_createConnection trivial trivial config) ht)
    (fun _ t ht => ?_) fun _ _ h => h
  refine wp_run_bind.2 (wp_lift.2 (wp_mono (proxySend_feeds rfl ht) fun r t ht => ?_))
  cases r with
  | error e => trivial
  | ok u =>
    refine agentFeeds_run ?_ ht
    exact only_run_bind (only_orFail _ _) fun _ =>
      only_run_bind ((Agent.only_awaitM .proxyNext).2 trivial) fun r => only_orFail _ _

theorem tcpRelay_feeds (info : Agent.ClientTransportTcpDataRelay) (ht : Calm proxySent t) :
    wp (agentFeeds config) (Agent.tcpRelay config info).run CalmIfOk t := by
  have hrandom : Only LeavesProxy (Agent.randomEncryption config).run :=
    only_run_bind ((Agent.only_awaitM _).2 trivial) fun _ => only_pure _
  refine wp_run_seq (agentFeeds_run hrandom ht) (fun encryption t ht => ?_) fun _ _ h => h
  refine wp_run_seq (K := fun _ => Calm proxySent) (E := fun _ => True) ?_ (fun _ t ht => ?_)
    fun _ _ h => h
  · cases info.initData with
    | none => exact ht
    | some initData =>
      refine wp_run_seq (agentFeeds_run ((Agent.only_awaitM .newUuid).2 trivial) ht)
        (fun messageId t ht => ?_) fun _ _ h => h
      refine wp_run_bind.2 (wp_lift.2 (wp_mono (proxySend_feeds rfl ht) fun r t ht => ?_))
      cases r with
      | ok u => exact ht
      | error e => trivial
  · refine wp_run_bind.2 ((Agent.wp_awaitM (.spawnClientToProxy encryption)).2
      ⟨⟨(fun m hm => by cases hm), fun _ => ht⟩, fun _ => ?_⟩)
    have hup : Calm proxySent (t ++ [⟨.spawnClientToProxy encryption, ()⟩]) := ht.quiet rfl
    exact (Agent.wp_awaitM .spawnProxyToClient).2
      ⟨⟨(fun m hm => by cases hm), fun _ => hup⟩, fun _ => hup.quiet rfl⟩

theorem clientReply_feeds {σ ε : Type} {encode : Framed.CodecM σ ε Unit} {codec : σ}
    {io : StdIoError → ε} {fail : ε → AgentError} (ht : Calm proxySent t) :
    wp (agentFeeds config) (Agent.clientReply encode codec io fail).run CalmIfOk t :=
  agentFeeds_run (Agent.only_clientReply (fun _ => trivial) _ _ _ _) ht

/-- **The agent's main task** feeds as it should. -/
theorem agentTask_feeds (setup : Setup) :
    wp (agentFeeds setup.agentConfig) setup.agentTask (fun _ _ => True) [] := by
  have hrelay : ∀ info t, Calm proxySent t → wp (agentFeeds setup.agentConfig)
      (Agent.tcpRelay setup.agentConfig info).run (fun _ _ => True) t := fun info t ht =>
    wp_mono (tcpRelay_feeds info ht) fun _ _ _ => trivial
  refine wp_run_seq (K := fun _ => Calm proxySent) (E := fun _ => True) ?_ hrelay fun _ _ h => h
  unfold Setup.handshake
  split
  · refine wp_run_seq (agentFeeds_run (only_orFail _ _) calm_nil) (fun _ t ht => ?_) fun _ _ h => h
    refine wp_run_seq (initTunnel_feeds _ _ _ ht) (fun tunnelId t ht => ?_) fun _ _ h => h
    exact wp_run_seq (clientReply_feeds ht) (fun _ t ht => ht) fun _ _ h => h
  · refine wp_run_seq (agentFeeds_run (only_orFail _ _) calm_nil) (fun target t ht => ?_)
      fun _ _ h => h
    refine wp_run_seq (initTunnel_feeds _ _ _ ht) (fun tunnelId t ht => ?_) fun _ _ h => h
    dsimp only
    split
    · exact wp_run_seq (clientReply_feeds ht) (fun _ t ht => ht) fun _ _ h => h
    · exact ht

end

/-! ## The agent's tasks -/

/-- Messages are fed under this user token. -/
def SaysAs (userToken : String) : Assertion agentSig
  | some (.proxyFeed m), _ => m.userToken = userToken
  | _, _ => True

theorem relayClientToProxy_saysAs (userToken : String)
    (payloadEncryption : PpaassMessagePayloadEncryption) (t : Trace agentSig) :
    wp (SaysAs userToken) (Agent.relayClientToProxy userToken payloadEncryption)
      (fun _ _ => True) t := by
  refine wp_bind.2 (wp_mono (Forward.wp_run (Q := fun _ _ => True) (fun _ => True) (fun _ => True)
    trivial (fun _ _ => trivial) (fun t _ => ?_) (fun t _ => ?_)) fun _ t _ => ?_)
  · refine (Agent.wp_await .pending).2 ⟨trivial, fun b => ?_⟩
    cases b with
    | false => trivial
    | true => exact (Agent.wp_await .proxyFlush).2 ⟨trivial, fun r => by cases r <;> trivial⟩
  · refine wp_bind.2 ((Agent.wp_await .clientRead).2 ⟨trivial, fun r => ?_⟩)
    rcases r with e | _ | ⟨b, bs⟩
    · exact (Agent.wp_await .proxyClose).2 ⟨trivial, fun _ => trivial⟩
    · exact (Agent.wp_await .proxyClose).2 ⟨trivial, fun _ => trivial⟩
    · refine wp_bind.2 ((Agent.wp_await .newUuid).2 ⟨trivial, fun messageId => ?_⟩)
      exact (Agent.wp_await (.proxyFeed _)).2 ⟨rfl, fun r => by cases r <;> trivial⟩
  · exact wp_bind.2 ((Agent.wp_await .proxyClose).2 ⟨trivial, fun _ => trivial⟩)

theorem relayProxyToClient_saysAs (userToken : String) :
    wp (SaysAs userToken) Agent.relayProxyToClient (fun _ _ => True) [] := by
  have honly : Only (S := agentSig) (fun op => ∀ t, SaysAs userToken (some op) t)
      Agent.relayProxyToClient :=
    Agent.only_relayProxyToClient (fun _ => trivial) (fun _ => trivial) (fun _ _ => trivial)
      (fun _ => trivial) (fun _ => trivial)
  exact wp_only (fun _ => True) honly trivial (fun _ _ => trivial) fun t _ _ hop =>
    ⟨hop t, fun _ => trivial⟩

/-- What the agent's tasks feed. -/
def agentFeedsSpec (setup : Setup) : Tasks.Spec agentSig (Except (Fault AgentError) Unit) where
  assertion
    | none => agentFeeds setup.agentConfig
    | some _ => SaysAs setup.agentConfig.getUserToken
  mainPost _ _ := True
  post _ _ := True

theorem agentFeedsSpec_sound (setup : Setup) :
    ((agentSpec setup).and (agentFeedsSpec setup)).Sound (Agent.spawn setup.agentConfig) := by
  refine (agentSpec_sound setup).and fun {op side p} hop => ?_
  cases op <;> cases hop
  · exact relayClientToProxy_saysAs _ _ []
  · exact relayProxyToClient_saysAs _

theorem agent_steady (setup : Setup) : ((agentSpec setup).and (agentFeedsSpec setup)).Steady
    (Agent.spawn setup.agentConfig) proxySent .up where
  uses := ⟨fun h => (agent_uses_proxySent setup).main h.1,
    fun hs h => (agent_uses_proxySent setup).other hs h.1⟩
  main h := h.2.2
  task h hfeed x hx := ((h.1.2 _).feed hfeed).opened x hx
  spawns {op _} hop := by
    cases op <;> first
      | rfl
      | exact (hop rfl).elim

/-! ## The proxy's main task -/

/-- The proxy answers the request, or says data, for the agent's user and under a token. -/
structure System.ProxySays (setup : Setup) (m : PpaassProxyMessage) : Prop where
  user : m.userToken = setup.agentConfig.getUserToken
  ciphered : ∃ token : BlockMode.Block 32, m.encryption = .aes token.1
  payload : (∃ ask result, setup.Asks ask ∧
    m.payload = .tcp (.init ask.srcAddress ask.dstAddress result)) ∨ IsProxyData m.content

/-- The operation leaves the connection to the agent alone, or reads it, and spawns nothing. -/
def LeavesAgent : ProxyOp → Prop
  | .agentFeed _ | .agentFlush | .agentClose | .spawnAgentToDst | .spawnDstToAgent _ _ => False
  | _ => True

section
variable {t : Trace proxySig} {α : Type}

/-- Messages are fed only where no send has failed. -/
abbrev proxyFeeds : Assertion proxySig := steady agentSent Proxy.spawn

theorem leavesAgent_quiet {op : ProxyOp} (h : LeavesAgent op) (a : op.Ans) :
    agentSent ⟨op, a⟩ = none := by
  cases op <;> first
    | rfl
    | exact h.elim

theorem leavesAgent_feeds {op : ProxyOp} (h : LeavesAgent op) : proxyFeeds (some op) t := by
  refine steady_of_not (leavesAgent_quiet h) ?_
  cases op <;> first
    | rfl
    | exact h.elim

/-- What goes well keeps the connection calm. -/
abbrev CalmIfOkP {ε : Type} : Except ε α → Trace proxySig → Prop :=
  OkOr (fun _ => Calm agentSent) fun _ => True

theorem proxyFeeds_of_only {p : Prog proxySig α} (h : Only LeavesAgent p)
    (ht : Calm agentSent t) : wp proxyFeeds p (fun _ => Calm agentSent) t :=
  wp_only (Calm agentSent) h ht (fun _ _ => trivial) fun _ _ ht hop =>
    ⟨leavesAgent_feeds hop, fun a => ht.quiet (leavesAgent_quiet hop a)⟩

theorem proxyFeeds_run {ε : Type} {x : ExceptT ε (Prog proxySig) α} (h : Only LeavesAgent x.run)
    (ht : Calm agentSent t) : wp proxyFeeds x.run CalmIfOkP t := by
  refine wp_mono (proxyFeeds_of_only h ht) fun r t ht => ?_
  cases r with
  | ok a => exact ht
  | error e => trivial

theorem agentSend_feeds (message : PpaassProxyMessage) (ht : Calm agentSent t) :
    wp proxyFeeds (Proxy.agentSend message) CalmIfOkP t := by
  refine wp_bind.2 ((Proxy.wp_await _).2 ⟨fun _ => ht, fun r => ?_⟩)
  cases r with
  | error e => trivial
  | ok u =>
    have hfed : Calm agentSent (t ++ [⟨.agentFeed message, .ok u⟩]) := ht.sent rfl rfl nofun
    refine (Proxy.wp_await .agentFlush).2 ⟨fun _ => hfed, fun r => ?_⟩
    cases r with
    | ok u => exact hfed.sent rfl rfl nofun
    | error e => trivial

/-- Closing the connection, whatever comes of it. -/
theorem agentClose_feeds {f : Except CommonError Unit → Proxy.ProxyM α}
    (hf : ∀ r t, wp proxyFeeds (f r).run (fun _ _ => True) t) :
    wp proxyFeeds (Proxy.awaitM .agentClose >>= f).run (fun _ _ => True) t := by
  refine wp_run_bind.2 ((Proxy.wp_awaitM .agentClose).2 ⟨?_, fun r => hf r _⟩)
  rintro (⟨a, xs, ok, ha⟩ | hne)
  · cases ha
  · exact (hne rfl).elim

theorem failClosed_feeds (e : ProxyServerError) :
    wp proxyFeeds (Proxy.UdpHandler.failClosed e : Proxy.ProxyM α).run CalmIfOkP t := by
  refine wp_run_bind.2 ((Proxy.wp_awaitM .agentClose).2 ⟨?_, fun r => trivial⟩)
  rintro (⟨a, xs, ok, ha⟩ | hne)
  · cases ha
  · exact (hne rfl).elim

theorem tcpHandler_feeds (config : Proxy.ProxyConfig) (request : Proxy.TcpHandlerRequest)
    (ht : Calm agentSent t) :
    wp proxyFeeds (Proxy.TcpHandler.exec config request).run (fun _ _ => True) t := by
  have hconnect : Only LeavesAgent
      (Proxy.TcpHandler.initDstConnection config request.transportId request.dstAddress).run := by
    exact only_mono (Proxy.only_initDstConnection _ _ _) fun op hop => by
      cases op <;> trivial
  refine wp_run_bind.2 (wp_lift.2 (wp_mono (proxyFeeds_of_only hconnect ht) fun r t ht => ?_))
  cases r with
  | error e =>
    refine wp_run_seq (proxyFeeds_run ((Proxy.only_awaitM .newUuid).2 trivial) ht)
      (fun messageId t ht => ?_) fun _ _ h => h
    refine wp_run_bind.2 (wp_lift.2 (wp_mono (agentSend_feeds _ ht) fun r t _ => ?_))
    exact wp_run_bind.2 ((wp_orFail _ _).2 (by cases r <;> trivial))
  | ok u =>
    refine wp_run_seq (proxyFeeds_run ((Proxy.only_awaitM .newUuid).2 trivial) ht)
      (fun messageId t ht => ?_) fun _ _ h => h
    refine wp_run_bind.2 (wp_lift.2 (wp_mono (agentSend_feeds _ ht) fun r t ht => ?_))
    cases r with
    | error e => trivial
    | ok u =>
      refine wp_run_bind.2 ((wp_orFail _ _).2 (wp_run_bind.2
        ((Proxy.wp_awaitM .spawnAgentToDst).2 ⟨fun _ => ht, fun _ => ?_⟩)))
      have hup : Calm agentSent (t ++ [⟨.spawnAgentToDst, ()⟩]) := Calm.quiet ht rfl
      exact (Proxy.wp_awaitM (.spawnDstToAgent _ _)).2 ⟨fun _ => hup, fun _ => trivial⟩

theorem recvRound_feeds (config : Proxy.ProxyConfig) (request : Proxy.UdpHandlerRequest)
    (udpData : Bytes) (ht : Calm agentSent t) :
    wp proxyFeeds (Proxy.UdpHandler.recvRound config request udpData)
      (Sum.elim (fun _ => Calm agentSent) CalmIfOkP) t := by
  refine wp_bind.2 ((Proxy.wp_await .udpRecv).2 ⟨leavesAgent_feeds trivial, fun r => ?_⟩)
  have hrecv : Calm agentSent (t ++ [⟨.udpRecv, r⟩]) := Calm.quiet ht rfl
  rcases r with _ | e | ⟨_ | ⟨b, bs⟩, hlen⟩
  · exact wp_bind.2 (wp_mono (failClosed_feeds (α := Bytes) _) fun r t h => h)
  · trivial
  · exact hrecv
  · dsimp only
    split
    · exact hrecv
    · exact hrecv

theorem recvAndRespond_feeds (config : Proxy.ProxyConfig) (request : Proxy.UdpHandlerRequest)
    (ht : Calm agentSent t) :
    wp proxyFeeds (Proxy.UdpHandler.recvAndRespond config request).run (fun _ _ => True) t := by
  have hrecv : wp proxyFeeds
      (iterate (Proxy.UdpHandler.recvRound config request) []) CalmIfOkP t :=
    wp_iterate (fun _ => Calm agentSent) ht fun udpData t ht =>
      ⟨trivial, recvRound_feeds config request udpData ht⟩
  refine wp_run_seq hrecv (fun udpData t ht => ?_) fun _ _ h => h
  unfold Proxy.UdpHandler.respond
  split
  · trivial
  · refine wp_run_seq (proxyFeeds_run ((Proxy.only_awaitM .newUuid).2 trivial) ht)
      (fun messageId t ht => ?_) fun _ _ h => h
    refine wp_run_bind.2 (wp_lift.2 (wp_mono (agentSend_feeds _ ht) fun r t _ => ?_))
    exact trivial

theorem sendToDst_feeds (config : Proxy.ProxyConfig) (request : Proxy.UdpHandlerRequest)
    (ht : Calm agentSent t) :
    wp proxyFeeds (Proxy.UdpHandler.sendToDst config request).run CalmIfOkP t := by
  refine wp_run_seq (proxyFeeds_run ((Proxy.only_awaitM (.udpBind _)).2 trivial) ht)
    (fun r t ht => ?_) fun _ _ h => h
  refine wp_run_seq (proxyFeeds_run (only_orFail _ r) ht) (fun _ t ht => ?_) fun _ _ h => h
  refine wp_run_seq (proxyFeeds_run (only_lift (Proxy.only_toSocketAddrs (fun _ => trivial) _)) ht)
    (fun r t ht => ?_) fun _ _ h => h
  refine wp_run_seq (proxyFeeds_run (only_orFail _ r) ht) (fun addrs t ht => ?_) fun _ _ h => h
  refine wp_run_seq (proxyFeeds_run ((Proxy.only_awaitM (.udpConnect addrs)).2 trivial) ht)
    (fun connected t ht => ?_) fun _ _ h => h
  rcases connected with _ | e | _
  · exact failClosed_feeds _
  · exact failClosed_feeds _
  · refine wp_run_seq (proxyFeeds_run ((Proxy.only_awaitM (.udpSend request.udpData)).2 trivial) ht)
      (fun r t ht => ?_) fun _ _ h => h
    cases r with
    | ok u => exact ht
    | error e => exact failClosed_feeds _

theorem udpHandler_feeds (config : Proxy.ProxyConfig) (request : Proxy.UdpHandlerRequest)
    (ht : Calm agentSent t) :
    wp proxyFeeds (Proxy.UdpHandler.exec config request).run (fun _ _ => True) t := by
  have hclose : ∀ t, wp proxyFeeds (do let _ ← Proxy.awaitM .agentClose : Proxy.ProxyM Unit).run
      (fun _ _ => True) t := fun t => agentClose_feeds fun _ _ => trivial
  refine wp_run_seq (sendToDst_feeds config request ht) (fun _ t ht => ?_) fun _ _ h => h
  dsimp only
  split
  · refine wp_run_bind.2 (wp_mono (recvAndRespond_feeds config request ht) fun r t _ => ?_)
    cases r with
    | ok u => exact hclose t
    | error e => trivial
  · exact hclose t

theorem fetchSub_feeds {f : Unit → Proxy.ProxyM α}
    (hf : ∀ u t, wp proxyFeeds (f u).run (fun _ _ => True) t) :
    wp proxyFeeds (Proxy.awaitM .fetchSub >>= f).run (fun _ _ => True) t :=
  wp_run_bind.2 ((Proxy.wp_awaitM .fetchSub).2 ⟨leavesAgent_feeds trivial, fun u => hf u _⟩)

/-- **The proxy's main task** feeds as it should. -/
theorem proxyTask_feeds (config : Proxy.ProxyConfig) :
    wp proxyFeeds (Proxy.ProxyServer.serve config) (fun _ _ => True) [] := by
  have hcalm : ∀ (op : ProxyOp), LeavesAgent op → ∀ {t}, Calm agentSent t →
      ∀ {Q : op.Ans → Trace proxySig → Prop},
      (∀ a t, Calm agentSent t → Q a t) → wp proxyFeeds (Proxy.await op) Q t := by
    intro op hop t ht Q hQ
    refine (Proxy.wp_await op).2 ⟨leavesAgent_feeds hop, fun a => ?_⟩
    exact hQ a _ (ht.quiet (leavesAgent_quiet hop a))
  refine wp_bind.2 (hcalm .fetchAdd trivial calm_nil fun _ t ht => ?_)
  refine wp_bind.2 (hcalm .newUuid trivial ht fun transportId t ht => ?_)
  refine wp_run_seq (proxyFeeds_run ((Proxy.only_awaitM .agentNext).2 trivial) ht)
    (fun r t ht => ?_) fun _ _ h => h
  cases r with
  | none => trivial
  | some agentMessage =>
    refine wp_run_seq (proxyFeeds_run (only_orFail _ agentMessage) ht) (fun agentMessage t ht => ?_)
      fun _ _ h => h
    refine wp_run_seq (proxyFeeds_run ((Proxy.only_awaitM .random32Bytes).2 trivial) ht)
      (fun token t ht => ?_) fun _ _ h => h
    dsimp only
    split
    · next payload _ =>
      cases payload with
      | data content => trivial
      | init src dst =>
        refine wp_run_bind.2 (wp_lift.2 (wp_mono (tcpHandler_feeds config _ ht) fun r t _ => ?_))
        cases r with
        | ok u => trivial
        | error e => exact fetchSub_feeds (f := pure) fun _ _ => trivial
    · refine wp_run_bind.2 (wp_lift.2 (wp_mono (udpHandler_feeds config _ ht) fun r t _ => ?_))
      cases r with
      | ok u => exact fetchSub_feeds (f := pure) fun _ _ => trivial
      | error e => exact fetchSub_feeds fun _ _ => trivial

end

/-! ## The proxy's tasks -/

/-- What the proxy's tasks feed. -/
def proxyFeedsSpec : Tasks.Spec proxySig (Except ProxyServerError Unit) where
  assertion
    | none => proxyFeeds
    | some _ => fun _ _ => True
  mainPost _ _ := True
  post _ _ := True

theorem proxyFeedsSpec_sound : (proxySpec.and proxyFeedsSpec).Sound Proxy.spawn :=
  proxySpec_sound.and fun {_ _ p} _ => wp_true p []

theorem proxy_steady : (proxySpec.and proxyFeedsSpec).Steady Proxy.spawn agentSent .down where
  uses := ⟨fun h => proxy_uses_agentSent.main h.1, fun hs h => proxy_uses_agentSent.other hs h.1⟩
  main h := h.2
  task h hfeed x hx := ((h.1.2 _).feed hfeed).opened x hx
  spawns {op _} hop := by
    cases op <;> first
      | rfl
      | exact (hop rfl).elim

/-! ## Both -/

theorem sound_agentTask (setup : Setup) : Agent.encryptionDraw.Sound setup.agentTask := by
  refine Draw.Sound.run_bind ?_ fun info => Agent.sound_tcpRelay setup.agentConfig info
  unfold Setup.handshake
  split
  · refine (Agent.sound_orFail _ _).run_bind fun _ =>
      (Agent.sound_initTunnel _ _ _ _).run_bind fun tunnelId => ?_
    exact (Agent.sound_replySucceeded _).run_bind fun _ => Agent.sound_pure _
  · refine (Agent.sound_orFail _ _).run_bind fun target =>
      (Agent.sound_initTunnel _ _ _ _).run_bind fun tunnelId => ?_
    dsimp only
    split
    · refine Draw.Sound.run_bind (Draw.sound_of_only ?_) fun _ => Agent.sound_pure _
      exact Agent.only_clientReply (fun _ => Draw.usesOnly_of_none rfl) _ _ _ _
    · exact Agent.sound_pure _

namespace System

variable {setup : Setup} {s s' : System}

/-- What the tasks feed, and under which encryption and user. -/
structure Feeds (setup : Setup) (s : System) : Prop where
  agent : s.agent.Holds (Agent.spawn setup.agentConfig)
    ((agentSpec setup).and (agentFeedsSpec setup))
  proxy : s.proxy.Holds Proxy.spawn (proxySpec.and proxyFeedsSpec)
  agentDrawn : Tasks.Drawn Agent.encryptionDraw s.agent
  proxyDrawn : Tasks.Drawn Proxy.encryptionDraw s.proxy
  proxyUser : Tasks.Drawn Proxy.userDraw s.proxy

theorem start_feeds : Feeds setup setup.start where
  agent := .new (wp_and (agentTask_spec setup) (agentTask_feeds setup))
  proxy := .new (wp_and (proxyTask_spec setup.proxyConfig) (proxyTask_feeds setup.proxyConfig))
  agentDrawn := .new (sound_agentTask setup)
  proxyDrawn := .new (Proxy.sound_serve setup.proxyConfig)
  proxyUser := .new (Proxy.serve_user setup.proxyConfig)

/-- A step of the agent's tasks keeps it. -/
theorem Feeds.agentStep {who : Option Side} {e : Option (Event agentSig)}
    {g : Tasks agentSig (Except (Fault AgentError) Unit)} {l : Links} (h : Feeds setup s)
    (hstep : Tasks.Step (Agent.spawn setup.agentConfig) s.agent who e g) :
    Feeds setup { s with agent := g, links := l } :=
  { h with
    agent := h.agent.step (agentFeedsSpec_sound setup) hstep
    agentDrawn := h.agentDrawn.step (Agent.spawnsOnly setup.agentConfig) hstep }

/-- And one of the proxy's. -/
theorem Feeds.proxyStep {who : Option Side} {e : Option (Event proxySig)}
    {g : Tasks proxySig (Except ProxyServerError Unit)} {l : Links} (h : Feeds setup s)
    (hstep : Tasks.Step Proxy.spawn s.proxy who e g) :
    Feeds setup { s with proxy := g, links := l } :=
  { h with
    proxy := h.proxy.step proxyFeedsSpec_sound hstep
    proxyDrawn := h.proxyDrawn.step Proxy.spawnsOnly hstep
    proxyUser := h.proxyUser.step Proxy.spawnsOnly_user hstep }

theorem Feeds.step (h : Feeds setup s) (hstep : Step setup s s') : Feeds setup s' := by
  cases hstep with
  | task ht =>
    cases ht with
    | agent hs _ => exact h.agentStep hs
    | agentSilent hs => exact h.agentStep hs
    | proxy hs _ => exact h.proxyStep hs
    | proxySilent hs => exact h.proxyStep hs
  | env _ => exact ⟨h.1, h.2, h.3, h.4, h.5⟩

theorem reachable_feeds (h : Reachable setup s) : Feeds setup s := by
  induction h with
  | refl => exact start_feeds
  | tail _ hstep ih => exact ih.step hstep

/-! ## What is said -/

section
variable {who : Option Side}

theorem Feeds.agent_says {m : PpaassAgentMessage} {r : (AgentOp.proxyFeed m).Ans}
    {g : Tasks agentSig (Except (Fault AgentError) Unit)} (h : Feeds setup s)
    (hstep : Tasks.Step (Agent.spawn setup.agentConfig) s.agent who (some ⟨.proxyFeed m, r⟩) g) :
    AgentSays setup m := by
  obtain ⟨hpump, hfeeds⟩ := h.agent.allowed hstep
  refine ⟨?_, ?_, ?_⟩
  · cases who with
    | none => exact hfeeds.1 m rfl
    | some side => exact hfeeds
  · obtain ⟨token, htoken, -⟩ := Agent.mem_drawn (h.agentDrawn.allowed hstep m.encryption rfl)
    exact ⟨token, htoken⟩
  · rcases who with _ | _ | _
    · obtain ⟨ask, stage, hask, -, hallow⟩ := hpump
      cases stage with
      | start => exact .inl ⟨ask, hask, hallow⟩
      | granted =>
        obtain ⟨d, -, hd⟩ := hallow
        exact .inr ⟨d, hd⟩
      | _ => exact hallow.elim
    · have hvalid := ((hpump.2 r).feed rfl).valid
      exact .inr (agentData_isSome.1 (hvalid _ (List.mem_singleton.2 rfl)))
    · exact hpump.1.elim

/-- The agent feeds nothing once a send has failed or it has closed. -/
theorem Feeds.agent_calm {m : PpaassAgentMessage} {r : (AgentOp.proxyFeed m).Ans}
    {g : Tasks agentSig (Except (Fault AgentError) Unit)} (h : Feeds setup s)
    (hstep : Tasks.Step (Agent.spawn setup.agentConfig) s.agent who (some ⟨.proxyFeed m, r⟩) g) :
    Unspoilt (s.agent.history proxySent .up) :=
  h.agent.feed_calm (agent_steady setup) hstep rfl

/-- Every message to the proxy names the agent's user. -/
theorem Feeds.fed_user (h : Feeds setup s) (hinv : Inv setup s) :
    ∀ c ∈ s.links.agentToProxy.fed, c.2.1 = setup.agentConfig.getUserToken := by
  have hevent : ∀ who, ∀ x ∈ (s.agent.trace who).filterMap proxySent, ∀ c ∈ x.fed,
      c.2.1 = setup.agentConfig.getUserToken := by
    intro who x hx c hc
    obtain ⟨⟨op, a⟩, he, hsent⟩ := List.mem_filterMap.1 hx
    obtain ⟨t, -, -, hfeeds⟩ := (h.agent.respects who).mem he
    cases op with
    | proxyFeed m =>
      have huser : m.userToken = setup.agentConfig.getUserToken := by
        cases who with
        | none => exact hfeeds.1 m rfl
        | some side => exact hfeeds
      cases hsent
      rcases a with e | _
      · exact (List.not_mem_nil hc).elim
      · rw [List.mem_singleton.1 hc]
        exact huser
    | proxyFlush | proxyClose =>
      cases hsent
      exact (List.not_mem_nil hc).elim
    | _ => cases hsent
  intro c hc
  obtain ⟨x, hx, hcx⟩ := List.mem_flatMap.1 (hinv.agentEnds.agentToProxy.fed_le.subset hc)
  rcases List.mem_append.1 hx with hx | hx
  · exact hevent none x hx c hcx
  · exact hevent (some .up) x hx c hcx

/-- Whoever the main task of the proxy has heard is the agent's user. -/
theorem Feeds.heard_user (h : Feeds setup s) (hinv : Inv setup s) {m : PpaassAgentMessage}
    (hmem : ⟨.agentNext, some (.ok m)⟩ ∈ s.proxy.main.trace) :
    m.userToken = setup.agentConfig.getUserToken := by
  refine h.fed_user hinv m.content (s.links.agentToProxy.read_fed.subset ?_)
  rw [hinv.proxyEnds.agentToProxy.read, Tasks.history, List.flatMap_append]
  refine List.mem_append_left _
    (List.mem_flatMap.2 ⟨.read [m.content], ?_, List.mem_singleton.2 rfl⟩)
  exact List.mem_filterMap.2 ⟨_, hmem, rfl⟩

theorem Feeds.proxy_says {m : PpaassProxyMessage} {r : (ProxyOp.agentFeed m).Ans}
    {g : Tasks proxySig (Except ProxyServerError Unit)} (h : Feeds setup s) (hinv : Inv setup s)
    (hstep : Tasks.Step Proxy.spawn s.proxy who (some ⟨.agentFeed m, r⟩) g) :
    ProxySays setup m := by
  obtain ⟨hpump, -⟩ := h.proxy.allowed hstep
  refine ⟨?_, ?_, ?_⟩
  · obtain ⟨m', hm', hheard⟩ := Proxy.mem_drawn_user (h.proxyUser.allowed hstep m.userToken rfl)
    rw [← hm', h.heard_user hinv hheard]
  · obtain ⟨token, htoken, -⟩ := Proxy.mem_drawn (h.proxyDrawn.allowed hstep m.encryption rfl)
    exact ⟨token, htoken⟩
  · rcases who with _ | _ | _
    · obtain ⟨stage, hat, hallow⟩ := hpump
      rcases stage with _ | ⟨⟨_ | ⟨c, _ | _⟩⟩ | _ | _⟩ | c | _ | _ | _
      case first.read.cons.nil =>
        obtain ⟨src, dst, hc, -, result, -, hm⟩ := hallow
        obtain ⟨ask, hask, hinit⟩ := hinv.proxy_heard hat.got
        obtain ⟨rfl, rfl⟩ : src = ask.srcAddress ∧ dst = ask.dstAddress := by
          simpa using hc.symm.trans hinit
        exact .inl ⟨ask, result, hask, hm⟩
      case udp =>
        obtain ⟨⟨u, hu⟩, said, -, hat⟩ := hat
        obtain ⟨ask, -, hinit⟩ := hinv.proxy_heard hat.got
        rw [hinit] at hu
        cases hu
      all_goals exact hallow.elim
    · exact hpump.1.elim
    · have hvalid := ((hpump.2 r).feed rfl).valid
      exact .inr (proxyData_isSome.1 (hvalid _ (List.mem_singleton.2 rfl)))

/-- The proxy feeds nothing once a send has failed or it has closed. -/
theorem Feeds.proxy_calm {m : PpaassProxyMessage} {r : (ProxyOp.agentFeed m).Ans}
    {g : Tasks proxySig (Except ProxyServerError Unit)} (h : Feeds setup s)
    (hstep : Tasks.Step Proxy.spawn s.proxy who (some ⟨.agentFeed m, r⟩) g) :
    Unspoilt (s.proxy.history agentSent .down) :=
  h.proxy.feed_calm proxy_steady hstep rfl

end

end System

end Ppaass.Tunnel
