import Ppaass.Lib.Pump
import Ppaass.Tunnel.System

/-!
# The four relay tasks are pumps

Each reads one link and writes another; a message stands for the bytes of its TCP data.
-/

namespace Ppaass.Tunnel

open Wire Prog
open Agent (AgentOp agentSig)
open Proxy (ProxyOp proxySig)

/-! ## Values -/

def byteValue (b : UInt8) : Option Bytes := some [b]

/-- The bytes of an agent message that is TCP data. -/
def agentData (c : AgentContent) : Option Bytes :=
  match c.2.2 with
  | .tcp (.data bytes) => some bytes
  | _ => none

/-- The bytes of a proxy message that is TCP data. -/
def proxyData (c : ProxyContent) : Option Bytes :=
  match c.2.2 with
  | .tcp (.data bytes) => some bytes
  | _ => none

/-! ## The agent's relay tasks -/

def clientToProxyPump : Pump agentSig UInt8 AgentContent UInt8 where
  op
    | .pending | .newUuid | .clientRead | .proxyFeed _ | .proxyFlush | .proxyClose => True
    | _ => False
  recv := clientRecv
  sent := proxySent
  inValue := byteValue
  outValue := agentData

def proxyToClientPump : Pump agentSig ProxyContent UInt8 UInt8 where
  op
    | .pending | .proxyNext | .clientFeed _ | .clientFlush | .clientClose => True
    | _ => False
  recv := proxyRecv
  sent := clientSent
  inValue := proxyData
  outValue := byteValue

/-- The message of what is read from the client. -/
theorem clientToProxy_next (userToken : String)
    (payloadEncryption : PpaassMessagePayloadEncryption) (t : Trace agentSig)
    (ht : clientToProxyPump.Idle t) :
    wp clientToProxyPump.assertion (Agent.clientToProxy userToken payloadEncryption).next
      (fun item t => item.elim (clientToProxyPump.Ended t) fun m =>
        clientToProxyPump.Holding [m.content] t) t := by
  refine wp_bind.2 ((Agent.wp_await _).2 ⟨Pump.allow_read trivial ht fun _ => rfl, fun r => ?_⟩)
  rcases r with e | _ | ⟨b, bs⟩
  · exact ht.error rfl rfl
  · exact ht.eof rfl rfl
  · have hid : clientToProxyPump.Does (Agent.await .newUuid) fun _ => none :=
      Pump.does_perform trivial fun _ => rfl
    refine wp_bind.2 (hid.spec (fun h => by cases h) fun id e hr hs => ?_)
    refine (ht.read rfl rfl ?_ ?_).quiet hr hs
    · simp [clientToProxyPump, agentData, PpaassMessage.content, generateAgentTcpDataMessage]
    · simp [Pump.outValues, Pump.inValues, clientToProxyPump, agentData, byteValue,
        PpaassMessage.content, generateAgentTcpDataMessage]

theorem relayClientToProxy_spec (userToken : String)
    (payloadEncryption : PpaassMessagePayloadEncryption) :
    wp clientToProxyPump.assertion (Agent.relayClientToProxy userToken payloadEncryption)
      (fun _ => clientToProxyPump.Finished) [] :=
  Pump.forward_close_spec (fun m => [m.content])
    (Pump.does_perform trivial fun _ => rfl) (Pump.does_perform trivial fun _ => rfl)
    (fun _ => Pump.does_perform trivial fun _ => rfl)
    (Pump.does_perform trivial fun _ => rfl) (clientToProxy_next userToken payloadEncryption)

/-- The bytes of a message from the proxy. -/
theorem proxyToClient_next (t : Trace agentSig) (ht : proxyToClientPump.Idle t) :
    wp proxyToClientPump.assertion Agent.proxyToClient.next
      (fun item t => item.elim (proxyToClientPump.Ended t) fun bytes =>
        proxyToClientPump.Holding bytes t) t := by
  refine wp_bind.2 ((Agent.wp_await _).2 ⟨Pump.allow_read trivial ht fun _ => rfl, fun r => ?_⟩)
  rcases r with _ | e | ⟨id, user, encryption, (⟨src, dst, result⟩ | content) | payload⟩
  · exact ht.eof rfl rfl
  · exact ht.error rfl rfl
  · exact ht.other rfl rfl rfl
  · refine ht.read rfl rfl (fun _ _ => rfl) ?_
    simp [Pump.outValues, Pump.inValues, proxyToClientPump, proxyData, byteValue,
      PpaassMessage.content]
  · exact ht.other rfl rfl rfl

theorem relayProxyToClient_spec :
    wp proxyToClientPump.assertion Agent.relayProxyToClient
      (fun _ => proxyToClientPump.Finished) [] :=
  Pump.forward_close_spec id
    (Pump.does_perform trivial fun _ => rfl) (Pump.does_perform trivial fun _ => rfl)
    (fun _ => Pump.does_perform trivial fun _ => rfl)
    (Pump.does_perform trivial fun _ => rfl) proxyToClient_next

/-! ## The proxy's relay tasks -/

def agentToDstPump : Pump proxySig AgentContent UInt8 UInt8 where
  op
    | .pending | .agentNext | .dstFeed _ | .dstFlush | .dstClose => True
    | _ => False
  recv := agentRecv
  sent := dstSent
  inValue := agentData
  outValue := byteValue

def dstToAgentPump : Pump proxySig UInt8 ProxyContent UInt8 where
  op
    | .pending | .newUuid | .dstRead | .agentFeed _ | .agentFlush | .agentClose | .fetchSub => True
    | _ => False
  recv := dstRecv
  sent := agentSent
  inValue := byteValue
  outValue := proxyData

/-- The bytes of a message from the agent. -/
theorem agentToDst_next (t : Trace proxySig) (ht : agentToDstPump.Idle t) :
    wp agentToDstPump.assertion Proxy.TcpHandler.agentToDst.next
      (fun item t => item.elim (agentToDstPump.Ended t) fun bytes =>
        agentToDstPump.Holding bytes t) t := by
  refine wp_bind.2 ((Proxy.wp_await _).2 ⟨Pump.allow_read trivial ht fun _ => rfl, fun r => ?_⟩)
  rcases r with _ | e | ⟨id, user, encryption, (⟨src, dst⟩ | content) | payload⟩
  · exact ht.eof rfl rfl
  · exact ht.error rfl rfl
  · exact ht.other rfl rfl rfl
  · refine ht.read rfl rfl (fun _ _ => rfl) ?_
    simp [Pump.outValues, Pump.inValues, agentToDstPump, agentData, byteValue,
      PpaassMessage.content]
  · exact ht.other rfl rfl rfl

theorem relayAgentToDst_spec :
    wp agentToDstPump.assertion Proxy.TcpHandler.relayAgentToDst
      (fun _ => agentToDstPump.Finished) [] :=
  Pump.forward_close_spec id
    (Pump.does_perform trivial fun _ => rfl) (Pump.does_perform trivial fun _ => rfl)
    (fun _ => Pump.does_perform trivial fun _ => rfl)
    (Pump.does_perform trivial fun _ => rfl) agentToDst_next

/-- The message of what is read from the destination. -/
theorem dstToAgent_next (userToken : String)
    (payloadEncryption : PpaassMessagePayloadEncryption) (t : Trace proxySig)
    (ht : dstToAgentPump.Idle t) :
    wp dstToAgentPump.assertion (Proxy.TcpHandler.dstToAgent userToken payloadEncryption).next
      (fun item t => item.elim (dstToAgentPump.Ended t) fun m =>
        dstToAgentPump.Holding [m.content] t) t := by
  refine wp_bind.2 ((Proxy.wp_await _).2 ⟨Pump.allow_read trivial ht fun _ => rfl, fun r => ?_⟩)
  rcases r with e | _ | ⟨b, bs⟩
  · exact ht.error rfl rfl
  · exact ht.eof rfl rfl
  · have hid : dstToAgentPump.Does (Proxy.await .newUuid) fun _ => none :=
      Pump.does_perform trivial fun _ => rfl
    refine wp_bind.2 (hid.spec (fun h => by cases h) fun id e hr hs => ?_)
    refine (ht.read rfl rfl ?_ ?_).quiet hr hs
    · simp [dstToAgentPump, proxyData, PpaassMessage.content, generateProxyTcpDataMessage]
    · simp [Pump.outValues, Pump.inValues, dstToAgentPump, proxyData, byteValue,
        PpaassMessage.content, generateProxyTcpDataMessage]

theorem relayDstToAgent_spec (userToken : String)
    (payloadEncryption : PpaassMessagePayloadEncryption) :
    wp dstToAgentPump.assertion (Proxy.TcpHandler.relayDstToAgent userToken payloadEncryption)
      (fun _ => dstToAgentPump.Finished) [] := by
  have hclose : dstToAgentPump.Does (Proxy.await .agentClose)
      fun r => some (.close (Except.isOk r)) := Pump.does_perform trivial fun _ => rfl
  have hsub : dstToAgentPump.Does (Proxy.await .fetchSub) fun _ => none :=
    Pump.does_perform trivial fun _ => rfl
  exact wp_bind.2 (wp_mono (Pump.forward_spec (fun m => [m.content])
    (Pump.does_perform trivial fun _ => rfl) (Pump.does_perform trivial fun _ => rfl)
    (fun _ => Pump.does_perform trivial fun _ => rfl) hclose
    (dstToAgent_next userToken payloadEncryption) Pump.idle_nil)
    fun _ t ht => wp_bind.2 (wp_mono (ht.does hsub fun a x hx => by cases hx) fun _ t ht =>
      wp_bind.2 (ht.does hclose fun a x hx => ⟨_, (Option.some.inj hx).symm⟩)))

end Ppaass.Tunnel
