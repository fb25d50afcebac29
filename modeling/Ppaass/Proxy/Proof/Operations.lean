import Ppaass.Proxy.Transport

/-!
# What the parts of the proxy do

The operations that sending a message, resolving an address, connecting to the destination and the
handlers perform.
-/

namespace Ppaass.Proxy

open Prog

theorem only_agentSend {P : ProxyOp → Prop} {message : PpaassProxyMessage}
    (hfeed : P (.agentFeed message)) (hflush : P .agentFlush) :
    Only (S := proxySig) P (agentSend message) := by
  refine only_bind ((only_await _).2 hfeed) fun r => ?_
  cases r with
  | ok => exact (only_await .agentFlush).2 hflush
  | error e => exact only_pure _

theorem only_toSocketAddrs {P : ProxyOp → Prop} (hlookup : ∀ a, P (.lookup a))
    (address : PpaassUnifiedAddress) : Only (S := proxySig) P (toSocketAddrs address) := by
  cases address with
  | ip addr => exact only_pure _
  | domain host port => exact only_bind ((only_await _).2 (hlookup _)) fun _ => only_pure _

/-! ## Connecting to the destination -/

def ConnectOp : ProxyOp → Prop
  | .lookup _ | .tcpConnect _ | .setNodelay | .setLinger => True
  | _ => False

theorem only_initDstConnection (config : ProxyConfig) (transportId : String)
    (dstAddress : PpaassUnifiedAddress) :
    Only ConnectOp (TcpHandler.initDstConnection config transportId dstAddress).run := by
  refine only_run_bind (only_lift (only_toSocketAddrs (fun _ => trivial) _)) fun r =>
    only_run_bind (only_orFail _ r) fun addrs =>
    only_run_bind ((only_awaitM _).2 trivial) fun connected => ?_
  cases connected with
  | none => exact only_pure _
  | some connected =>
    exact only_run_bind (only_orFail _ _) fun _ =>
      only_run_bind ((only_awaitM _).2 trivial) fun r => only_run_bind (only_orFail _ r) fun _ =>
      only_run_bind ((only_awaitM _).2 trivial) fun r => only_orFail _ r

/-! ## The TCP handler -/

/-- What the handler of a request performs: it answers this request, and spawns the relay tasks. -/
def TcpHandler.Performs (request : TcpHandlerRequest) : ProxyOp → Prop
  | .agentFeed message => ∃ messageId result,
      message = TcpHandler.tcpInitMessage request messageId result
  | .spawnDstToAgent userToken payloadEncryption =>
      userToken = request.userToken ∧ payloadEncryption = request.payloadEncryption
  | .lookup _ | .tcpConnect _ | .setNodelay | .setLinger | .newUuid | .agentFlush
  | .spawnAgentToDst => True
  | _ => False

theorem only_tcpHandler_performs (config : ProxyConfig) (request : TcpHandlerRequest) :
    Only (TcpHandler.Performs request) (TcpHandler.exec config request).run := by
  have hconnect : Only (TcpHandler.Performs request)
      (TcpHandler.initDstConnection config request.transportId request.dstAddress).run := by
    refine only_mono (only_initDstConnection _ _ _) fun op hop => ?_
    cases op <;> first
      | exact hop
      | exact hop.elim
  have hsend : ∀ messageId result, Only (TcpHandler.Performs request)
      (agentSend (TcpHandler.tcpInitMessage request messageId result)) :=
    fun messageId result => only_agentSend ⟨messageId, result, rfl⟩ trivial
  refine only_run_bind (only_lift hconnect) fun r => ?_
  cases r with
  | error e =>
    exact only_run_bind ((only_awaitM .newUuid).2 trivial) fun messageId =>
      only_run_bind (only_lift (hsend _ _)) fun r => only_run_bind (only_orFail _ r) fun _ =>
      only_pure _
  | ok =>
    exact only_run_bind ((only_awaitM .newUuid).2 trivial) fun messageId =>
      only_run_bind (only_lift (hsend _ _)) fun r => only_run_bind (only_orFail _ r) fun _ =>
      only_run_bind ((only_awaitM .spawnAgentToDst).2 trivial) fun _ =>
      (only_awaitM (.spawnDstToAgent _ _)).2 ⟨rfl, rfl⟩

/-! ## The relay tasks -/

def AgentToDstOp : ProxyOp → Prop
  | .pending | .agentNext | .dstFeed _ | .dstFlush | .dstClose => True
  | _ => False

def DstToAgentOp : ProxyOp → Prop
  | .pending | .dstRead | .newUuid | .agentFeed _ | .agentFlush | .agentClose => True
  | _ => False

theorem only_relayAgentToDst : Only AgentToDstOp TcpHandler.relayAgentToDst := by
  refine only_bind (Forward.only_run ?_ ?_ ?_ ?_ ?_) fun _ => only_bind ?_ fun _ => only_pure _
  · exact (only_await .pending).2 trivial
  · refine only_bind ((only_await _).2 trivial) fun r => ?_
    rcases r with _ | _ | _ <;> exact only_pure _
  · exact fun bytes => (only_await (.dstFeed bytes)).2 trivial
  · exact (only_await .dstFlush).2 trivial
  · exact (only_await .dstClose).2 trivial
  · exact (only_await .dstClose).2 trivial

theorem only_dstToAgent (userToken : String) (payloadEncryption : PpaassMessagePayloadEncryption) :
    Only DstToAgentOp (TcpHandler.dstToAgent userToken payloadEncryption).run := by
  refine Forward.only_run ?_ ?_ ?_ ?_ ?_
  · exact (only_await .pending).2 trivial
  · refine only_bind ((only_await _).2 trivial) fun r => ?_
    rcases r with _ | _ | _
    · exact only_pure _
    · exact only_pure _
    · exact only_bind ((only_await _).2 trivial) fun _ => only_pure _
  · exact fun message => (only_await (.agentFeed message)).2 trivial
  · exact (only_await .agentFlush).2 trivial
  · exact (only_await .agentClose).2 trivial

/-! ## The UDP handler -/

/-- What the handler of a request performs: it sends nothing but replies to this request. -/
def UdpHandler.Performs (request : UdpHandlerRequest) : ProxyOp → Prop
  | .agentFeed message => ∃ messageId data, message =
      generateProxyUdpDataMessage messageId request.userToken request.payloadEncryption
        request.srcAddress request.dstAddress data
  | .newUuid | .agentFlush | .agentClose | .lookup _ | .udpBind _ | .udpConnect _ | .udpSend _
  | .udpRecv => True
  | _ => False

def UdpOp : ProxyOp → Prop
  | .agentFeed message => ∃ payload, message.payload = .udp payload
  | .newUuid | .agentFlush | .agentClose | .lookup _ | .udpBind _ | .udpConnect _ | .udpSend _
  | .udpRecv => True
  | _ => False

section
variable (config : ProxyConfig) (request : UdpHandlerRequest)

theorem only_failClosed {α : Type} (e : ProxyServerError) :
    Only (UdpHandler.Performs request) (UdpHandler.failClosed e : ProxyM α).run :=
  only_run_bind ((only_awaitM _).2 trivial) fun _ => only_pure _

theorem only_sendToDst :
    Only (UdpHandler.Performs request) (UdpHandler.sendToDst config request).run := by
  refine only_run_bind ((only_awaitM _).2 trivial) fun r => only_run_bind (only_orFail _ r) fun _ =>
    only_run_bind (only_lift (only_toSocketAddrs (fun _ => trivial) _)) fun r =>
    only_run_bind (only_orFail _ r) fun addrs =>
    only_run_bind ((only_awaitM _).2 trivial) fun connected => ?_
  rcases connected with _ | e | _
  · exact only_failClosed request _
  · exact only_failClosed request _
  · refine only_run_bind ((only_awaitM _).2 trivial) fun r => ?_
    cases r with
    | ok => exact only_pure _
    | error e => exact only_failClosed request _

theorem only_recvRound (udpData : Wire.Bytes) :
    Only (UdpHandler.Performs request) (UdpHandler.recvRound config request udpData) := by
  refine only_bind ((only_await _).2 trivial) fun r => ?_
  rcases r with _ | e | ⟨_ | ⟨b, bs⟩, h⟩
  · exact only_bind (only_failClosed request _) fun _ => only_pure _
  · exact only_pure _
  · exact only_pure _
  · dsimp only
    split <;> exact only_pure _

theorem only_respond (udpData : Wire.Bytes) :
    Only (UdpHandler.Performs request) (UdpHandler.respond request udpData).run := by
  unfold UdpHandler.respond
  split
  · exact only_pure _
  · exact only_run_bind ((only_awaitM _).2 trivial) fun id =>
      only_run_bind (only_lift (only_agentSend ⟨_, _, rfl⟩ trivial)) fun _ => only_pure _

theorem only_udpHandler_performs :
    Only (UdpHandler.Performs request) (UdpHandler.exec config request).run := by
  refine only_run_bind (only_sendToDst config request) fun _ => ?_
  have hclose :
      Only (UdpHandler.Performs request) (do let _ ← awaitM .agentClose : ProxyM Unit).run :=
    only_run_bind ((only_awaitM _).2 trivial) fun _ => only_pure _
  dsimp only
  split
  · refine only_run_bind (only_run_bind ?_ fun _ => only_respond request _) fun _ => hclose
    exact only_iterate (only_recvRound config request) _
  · exact hclose

theorem only_udpHandler : Only UdpOp (UdpHandler.exec config request).run := by
  refine only_mono (only_udpHandler_performs config request) fun op hop => ?_
  cases op <;> first
    | exact hop
    | (obtain ⟨messageId, data, rfl⟩ := hop
       exact ⟨_, rfl⟩)

end

end Ppaass.Proxy
