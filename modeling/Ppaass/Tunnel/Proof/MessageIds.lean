import Ppaass.Agent.Proof.Operations
import Ppaass.Lib.Drawn
import Ppaass.Proxy.Proof.Operations
import Ppaass.Tunnel.Proof.AgentMain
import Ppaass.Tunnel.Proof.ProxyMain

/-!
# The ids of the messages

Each message that a task of the agent or of the proxy feeds has an id which this task has drawn
before, as a new UUID (`agent_messageId`, `proxy_messageId`).
-/

namespace Ppaass.Tunnel

open Wire Prog
open Framed (Fault)
open Agent (AgentOp agentSig AgentError)
open Proxy (ProxyOp proxySig ProxyServerError)
open Draw (usesOnly_of_none)

/-- What is asked of every task alike. -/
def everyTask {S : Sig} (α : Type) (Inv : Assertion S) : Tasks.Spec S α where
  assertion _ := Inv
  mainPost _ _ := True
  post _ _ := True

/-! ## The agent -/

/-- A UUID is the id that is drawn; a message uses one. -/
def agentIds : Draw agentSig String where
  uses
    | .proxyFeed message => some message.messageId
    | _ => none
  draws
    | ⟨.newUuid, messageId⟩ => some messageId
    | _ => none

section
variable {α : Type}

theorem mem_agentIds {t : Trace agentSig} {messageId : String} (h : messageId ∈ agentIds.drawn t) :
    ⟨.newUuid, messageId⟩ ∈ t := by
  obtain ⟨⟨op, a⟩, he, hv⟩ := List.mem_filterMap.1 h
  cases op with
  | newUuid =>
    obtain rfl : a = messageId := Option.some.inj hv
    exact he
  | _ => cases hv

/-- An id is drawn, and what follows uses no other. -/
theorem agentIds_newUuid {f : String → Agent.AgentM α}
    (hf : ∀ messageId, Only (agentIds.UsesOnly (some messageId)) (f messageId).run) :
    agentIds.Sound (Agent.awaitM .newUuid >>= f).run := by
  intro t
  refine wp_run_bind.2 ((Agent.wp_awaitM .newUuid).2 ⟨Draw.fresh_of_none rfl, fun messageId => ?_⟩)
  refine Draw.wp_fresh_of_only (hf messageId) fun v hv => ?_
  cases hv
  exact List.mem_filterMap.2 ⟨_, List.mem_concat_self, rfl⟩

/-- The message is sent under the id. -/
theorem only_proxySend_id {message : PpaassAgentMessage} {messageId : String}
    (h : message.messageId = messageId) :
    Only (agentIds.UsesOnly (some messageId)) (Agent.proxySend message) := by
  apply Agent.only_proxySend
  · intro v hv
    cases hv
    rw [h]
    exact rfl
  · exact usesOnly_of_none rfl

theorem agentIds_randomEncryption (config : Agent.AgentConfig) :
    agentIds.Sound (Agent.randomEncryption config).run := by
  apply Draw.sound_of_only
  exact only_run_bind ((Agent.only_awaitM _).2 (usesOnly_of_none rfl)) fun _ => only_pure _

theorem agentIds_initTunnel (config : Agent.AgentConfig) (client : String)
    (srcAddress dstAddress : PpaassUnifiedAddress) :
    agentIds.Sound (Agent.initTunnel config client srcAddress dstAddress).run := by
  refine (agentIds_randomEncryption config).run_bind fun _ => agentIds_newUuid fun messageId => ?_
  refine only_run_bind (Agent.only_createConnection (usesOnly_of_none rfl) (usesOnly_of_none rfl)
    config) fun _ => ?_
  refine only_run_bind (only_lift (only_proxySend_id rfl)) fun r =>
    only_run_bind (only_orFail _ r) fun _ => ?_
  exact only_run_bind ((Agent.only_awaitM .proxyNext).2 (usesOnly_of_none rfl)) fun r =>
    only_orFail _ _

theorem agentIds_tcpRelay (config : Agent.AgentConfig) (info : Agent.ClientTransportTcpDataRelay) :
    agentIds.Sound (Agent.tcpRelay config info).run := by
  refine (agentIds_randomEncryption config).run_bind fun encryption =>
    Draw.Sound.run_bind ?_ fun _ => ?_
  · cases info.initData with
    | none => exact fun _ => trivial
    | some initData =>
      refine agentIds_newUuid fun messageId => ?_
      exact only_run_bind (only_lift (only_proxySend_id rfl)) fun r => only_orFail _ r
  · apply Draw.sound_of_only
    exact only_run_bind ((Agent.only_awaitM (.spawnClientToProxy encryption)).2
      (usesOnly_of_none rfl)) fun _ =>
        (Agent.only_awaitM .spawnProxyToClient).2 (usesOnly_of_none rfl)

theorem agentIds_clientReply {σ ε : Type} (encode : Framed.CodecM σ ε Unit) (codec : σ)
    (io : StdIoError → ε) (fail : ε → AgentError) :
    agentIds.Sound (Agent.clientReply encode codec io fail).run :=
  Draw.sound_of_only (Agent.only_clientReply (fun _ => usesOnly_of_none rfl) _ _ _ _)

theorem agentIds_orFail {δ : Type} (f : δ → Fault AgentError) (r : Except δ α) :
    agentIds.Sound (orFail f r : Agent.AgentM α).run :=
  Draw.sound_of_only (only_orFail f r)

theorem agentIds_agentTask (setup : Setup) : agentIds.Sound setup.agentTask := by
  refine Draw.Sound.run_bind ?_ fun info => agentIds_tcpRelay setup.agentConfig info
  unfold Setup.handshake
  split
  · refine (agentIds_orFail _ _).run_bind fun _ =>
      (agentIds_initTunnel _ _ _ _).run_bind fun tunnelId => ?_
    exact (agentIds_clientReply _ _ _ _).run_bind fun _ _ => trivial
  · refine (agentIds_orFail _ _).run_bind fun target =>
      (agentIds_initTunnel _ _ _ _).run_bind fun tunnelId => ?_
    dsimp only
    split
    · exact (agentIds_clientReply _ _ _ _).run_bind fun _ _ => trivial
    · exact fun _ => trivial

/-- Each message of the relay has an id of its own. -/
theorem relayClientToProxy_ids (userToken : String)
    (payloadEncryption : PpaassMessagePayloadEncryption) (t : Trace agentSig) :
    wp agentIds.fresh (Agent.relayClientToProxy userToken payloadEncryption)
      (fun _ _ => True) t := by
  refine wp_bind.2 (wp_mono (Forward.wp_run (Q := fun _ _ => True) (fun _ => True) (fun _ => True)
    trivial (fun _ _ => trivial) (fun t _ => ?_) (fun t _ => ?_)) fun _ t _ => ?_)
  · refine (Agent.wp_await .pending).2 ⟨Draw.fresh_of_none rfl, fun b => ?_⟩
    cases b with
    | false => trivial
    | true =>
      exact (Agent.wp_await .proxyFlush).2
        ⟨Draw.fresh_of_none rfl, fun r => by cases r <;> trivial⟩
  · refine wp_bind.2 ((Agent.wp_await .clientRead).2 ⟨Draw.fresh_of_none rfl, fun r => ?_⟩)
    rcases r with e | _ | ⟨b, bs⟩
    · exact (Agent.wp_await .proxyClose).2 ⟨Draw.fresh_of_none rfl, fun _ => trivial⟩
    · exact (Agent.wp_await .proxyClose).2 ⟨Draw.fresh_of_none rfl, fun _ => trivial⟩
    · refine wp_bind.2 ((Agent.wp_await .newUuid).2 ⟨Draw.fresh_of_none rfl, fun messageId => ?_⟩)
      refine (Agent.wp_await (.proxyFeed _)).2 ⟨?_, fun r => by cases r <;> trivial⟩
      intro v hv
      cases hv
      exact List.mem_filterMap.2 ⟨_, List.mem_concat_self, rfl⟩
  · exact wp_bind.2
      ((Agent.wp_await .proxyClose).2 ⟨Draw.fresh_of_none rfl, fun _ => trivial⟩)

theorem agentIds_sound (setup : Setup) : ((agentSpec setup).and (everyTask _ agentIds.fresh)).Sound
    (Agent.spawn setup.agentConfig) := by
  refine (agentSpec_sound setup).and fun {op side p} hop => ?_
  cases op <;> cases hop
  · exact relayClientToProxy_ids _ _ []
  · have honly : Only (agentIds.UsesOnly none) Agent.relayProxyToClient :=
      Agent.only_relayProxyToClient (usesOnly_of_none rfl) (usesOnly_of_none rfl)
        (fun _ => usesOnly_of_none rfl) (usesOnly_of_none rfl) (usesOnly_of_none rfl)
    exact Draw.sound_of_only honly []

/-- **A message of the agent has an id that was drawn.** -/
theorem agent_messageId {setup : Setup} {g g' : Tasks agentSig (Except (Fault AgentError) Unit)}
    {who : Option Side} {m : PpaassAgentMessage} {r : (AgentOp.proxyFeed m).Ans}
    (h : g.Holds (Agent.spawn setup.agentConfig)
      ((agentSpec setup).and (everyTask _ agentIds.fresh)))
    (hstep : Tasks.Step (Agent.spawn setup.agentConfig) g who (some ⟨.proxyFeed m, r⟩) g') :
    ⟨.newUuid, m.messageId⟩ ∈ g.events :=
  Tasks.mem_events (mem_agentIds ((h.allowed hstep).2 m.messageId rfl))

end

/-! ## The proxy -/

/-- A UUID is the id that is drawn; a message uses one. -/
def proxyIds : Draw proxySig String where
  uses
    | .agentFeed message => some message.messageId
    | _ => none
  draws
    | ⟨.newUuid, messageId⟩ => some messageId
    | _ => none

section
variable {α : Type}

theorem mem_proxyIds {t : Trace proxySig} {messageId : String} (h : messageId ∈ proxyIds.drawn t) :
    ⟨.newUuid, messageId⟩ ∈ t := by
  obtain ⟨⟨op, a⟩, he, hv⟩ := List.mem_filterMap.1 h
  cases op with
  | newUuid =>
    obtain rfl : a = messageId := Option.some.inj hv
    exact he
  | _ => cases hv

theorem proxyIds_newUuid {f : String → Proxy.ProxyM α}
    (hf : ∀ messageId, Only (proxyIds.UsesOnly (some messageId)) (f messageId).run) :
    proxyIds.Sound (Proxy.awaitM .newUuid >>= f).run := by
  intro t
  refine wp_run_bind.2 ((Proxy.wp_awaitM .newUuid).2 ⟨Draw.fresh_of_none rfl, fun messageId => ?_⟩)
  refine Draw.wp_fresh_of_only (hf messageId) fun v hv => ?_
  cases hv
  exact List.mem_filterMap.2 ⟨_, List.mem_concat_self, rfl⟩

theorem only_agentSend_id {message : PpaassProxyMessage} {messageId : String}
    (h : message.messageId = messageId) :
    Only (proxyIds.UsesOnly (some messageId)) (Proxy.agentSend message) := by
  apply Proxy.only_agentSend
  · intro v hv
    cases hv
    rw [h]
    exact rfl
  · exact usesOnly_of_none rfl

theorem proxyIds_tcpHandler (config : Proxy.ProxyConfig) (request : Proxy.TcpHandlerRequest) :
    proxyIds.Sound (Proxy.TcpHandler.exec config request).run := by
  have hconnect : Only (proxyIds.UsesOnly none)
      (Proxy.TcpHandler.initDstConnection config request.transportId request.dstAddress).run := by
    refine only_mono (Proxy.only_initDstConnection _ _ _) fun op hop => ?_
    cases op <;> first
      | exact hop.elim
      | exact usesOnly_of_none rfl
  refine Draw.Sound.run_bind (Draw.sound_of_only (only_lift hconnect)) fun r => ?_
  cases r with
  | error e =>
    refine proxyIds_newUuid fun messageId => ?_
    exact only_run_bind (only_lift (only_agentSend_id rfl)) fun r =>
      only_run_bind (only_orFail _ r) fun _ => only_pure _
  | ok =>
    refine proxyIds_newUuid fun messageId => ?_
    refine only_run_bind (only_lift (only_agentSend_id rfl)) fun r =>
      only_run_bind (only_orFail _ r) fun _ => ?_
    exact only_run_bind ((Proxy.only_awaitM .spawnAgentToDst).2 (usesOnly_of_none rfl)) fun _ =>
      (Proxy.only_awaitM (.spawnDstToAgent _ _)).2 (usesOnly_of_none rfl)

theorem only_failClosed_ids (e : ProxyServerError) :
    Only (proxyIds.UsesOnly none) (Proxy.UdpHandler.failClosed e : Proxy.ProxyM α).run :=
  only_run_bind ((Proxy.only_awaitM .agentClose).2 (usesOnly_of_none rfl)) fun _ => only_pure _

theorem only_sendToDst_ids (config : Proxy.ProxyConfig) (request : Proxy.UdpHandlerRequest) :
    Only (proxyIds.UsesOnly none) (Proxy.UdpHandler.sendToDst config request).run := by
  refine only_run_bind ((Proxy.only_awaitM (.udpBind _)).2 (usesOnly_of_none rfl)) fun r =>
    only_run_bind (only_orFail _ r) fun _ => only_run_bind
      (only_lift (Proxy.only_toSocketAddrs (fun _ => usesOnly_of_none rfl) _)) fun r =>
    only_run_bind (only_orFail _ r) fun addrs =>
    only_run_bind ((Proxy.only_awaitM (.udpConnect addrs)).2 (usesOnly_of_none rfl))
      fun connected => ?_
  rcases connected with _ | e | _
  · exact only_failClosed_ids _
  · exact only_failClosed_ids _
  · refine only_run_bind ((Proxy.only_awaitM (.udpSend _)).2 (usesOnly_of_none rfl)) fun r => ?_
    cases r with
    | ok => exact only_pure _
    | error e => exact only_failClosed_ids _

theorem only_recvRound_ids (config : Proxy.ProxyConfig) (request : Proxy.UdpHandlerRequest)
    (udpData : Bytes) :
    Only (proxyIds.UsesOnly none) (Proxy.UdpHandler.recvRound config request udpData) := by
  refine only_bind ((Proxy.only_await .udpRecv).2 (usesOnly_of_none rfl)) fun r => ?_
  rcases r with _ | e | ⟨_ | ⟨b, bs⟩, h⟩
  · exact only_bind (only_failClosed_ids _) fun _ => only_pure _
  · exact only_pure _
  · exact only_pure _
  · dsimp only
    split <;> exact only_pure _

theorem proxyIds_udpHandler (config : Proxy.ProxyConfig) (request : Proxy.UdpHandlerRequest) :
    proxyIds.Sound (Proxy.UdpHandler.exec config request).run := by
  have hclose : proxyIds.Sound (do let _ ← Proxy.awaitM .agentClose : Proxy.ProxyM Unit).run :=
    Draw.sound_of_only (only_run_bind
      ((Proxy.only_awaitM .agentClose).2 (usesOnly_of_none rfl)) fun _ => only_pure _)
  have hrecv : proxyIds.Sound (iterate (Proxy.UdpHandler.recvRound config request) []) :=
    Draw.sound_of_only (only_iterate (only_recvRound_ids config request) _)
  refine Draw.Sound.run_bind (Draw.sound_of_only (only_sendToDst_ids config request)) fun _ => ?_
  dsimp only
  split
  · refine Draw.Sound.run_bind (Draw.Sound.run_bind hrecv fun udpData => ?_) fun _ => hclose
    unfold Proxy.UdpHandler.respond
    split
    · exact fun _ => trivial
    · refine proxyIds_newUuid fun messageId => ?_
      exact only_run_bind (only_lift (only_agentSend_id rfl)) fun _ => only_pure _
  · exact hclose

theorem proxyIds_fetchSub : proxyIds.Sound (Proxy.awaitM .fetchSub).run :=
  Draw.sound_of_only ((Proxy.only_awaitM .fetchSub).2 (usesOnly_of_none rfl))

theorem proxyIds_serve (config : Proxy.ProxyConfig) :
    proxyIds.Sound (Proxy.ProxyServer.serve config) := by
  refine Draw.Sound.bind
    (Draw.sound_of_only ((Proxy.only_await .fetchAdd).2 (usesOnly_of_none rfl))) fun _ => ?_
  refine Draw.Sound.bind
    (Draw.sound_of_only ((Proxy.only_await .newUuid).2 (usesOnly_of_none rfl)))
    fun transportId => ?_
  refine Draw.Sound.run_bind
    (Draw.sound_of_only ((Proxy.only_awaitM .agentNext).2 (usesOnly_of_none rfl))) fun r => ?_
  cases r with
  | none => exact fun _ => trivial
  | some agentMessage =>
    refine Draw.Sound.run_bind (Draw.sound_of_only (only_orFail _ _)) fun agentMessage => ?_
    refine Draw.Sound.run_bind (Draw.sound_of_only
      ((Proxy.only_awaitM .random32Bytes).2 (usesOnly_of_none rfl))) fun token => ?_
    dsimp only
    split
    · next payload _ =>
      cases payload with
      | data content => exact fun _ => trivial
      | init srcAddress dstAddress =>
        refine Draw.Sound.run_bind ((proxyIds_tcpHandler config _).bind fun _ _ => trivial)
          fun r => ?_
        cases r with
        | ok => exact fun _ => trivial
        | error e => exact proxyIds_fetchSub
    · refine Draw.Sound.run_bind ((proxyIds_udpHandler config _).bind fun _ _ => trivial)
        fun r => ?_
      cases r with
      | ok => exact proxyIds_fetchSub
      | error e => exact Draw.Sound.run_bind proxyIds_fetchSub fun _ _ => trivial

/-- Each message of the relay has an id of its own. -/
theorem relayDstToAgent_ids (userToken : String)
    (payloadEncryption : PpaassMessagePayloadEncryption) (t : Trace proxySig) :
    wp proxyIds.fresh (Proxy.TcpHandler.relayDstToAgent userToken payloadEncryption)
      (fun _ _ => True) t := by
  refine wp_bind.2 (wp_mono (Forward.wp_run (Q := fun _ _ => True) (fun _ => True) (fun _ => True)
    trivial (fun _ _ => trivial) (fun t _ => ?_) (fun t _ => ?_)) fun _ t _ => ?_)
  · refine (Proxy.wp_await .pending).2 ⟨Draw.fresh_of_none rfl, fun b => ?_⟩
    cases b with
    | false => trivial
    | true =>
      exact (Proxy.wp_await .agentFlush).2
        ⟨Draw.fresh_of_none rfl, fun r => by cases r <;> trivial⟩
  · refine wp_bind.2 ((Proxy.wp_await .dstRead).2 ⟨Draw.fresh_of_none rfl, fun r => ?_⟩)
    rcases r with e | _ | ⟨b, bs⟩
    · exact (Proxy.wp_await .agentClose).2 ⟨Draw.fresh_of_none rfl, fun _ => trivial⟩
    · exact (Proxy.wp_await .agentClose).2 ⟨Draw.fresh_of_none rfl, fun _ => trivial⟩
    · refine wp_bind.2 ((Proxy.wp_await .newUuid).2 ⟨Draw.fresh_of_none rfl, fun messageId => ?_⟩)
      refine (Proxy.wp_await (.agentFeed _)).2 ⟨?_, fun r => by cases r <;> trivial⟩
      intro v hv
      cases hv
      exact List.mem_filterMap.2 ⟨_, List.mem_concat_self, rfl⟩
  · refine wp_bind.2 ((Proxy.wp_await .fetchSub).2 ⟨Draw.fresh_of_none rfl, fun _ => ?_⟩)
    exact wp_bind.2
      ((Proxy.wp_await .agentClose).2 ⟨Draw.fresh_of_none rfl, fun _ => trivial⟩)

theorem proxyIds_sound : (proxySpec.and (everyTask _ proxyIds.fresh)).Sound Proxy.spawn := by
  refine proxySpec_sound.and fun {op side p} hop => ?_
  cases op <;> cases hop
  · have honly : Only (proxyIds.UsesOnly none) Proxy.TcpHandler.relayAgentToDst := by
      refine only_mono Proxy.only_relayAgentToDst fun op hop => ?_
      cases op <;> first
        | exact hop.elim
        | exact usesOnly_of_none rfl
    exact Draw.sound_of_only honly []
  · exact relayDstToAgent_ids _ _ []

/-- **A message of the proxy has an id that was drawn.** -/
theorem proxy_messageId {g g' : Tasks proxySig (Except ProxyServerError Unit)}
    {who : Option Side} {m : PpaassProxyMessage} {r : (ProxyOp.agentFeed m).Ans}
    (h : g.Holds Proxy.spawn (proxySpec.and (everyTask _ proxyIds.fresh)))
    (hstep : Tasks.Step Proxy.spawn g who (some ⟨.agentFeed m, r⟩) g') :
    ⟨.newUuid, m.messageId⟩ ∈ g.events :=
  Tasks.mem_events (mem_proxyIds ((h.allowed hstep).2 m.messageId rfl))

end

end Ppaass.Tunnel
