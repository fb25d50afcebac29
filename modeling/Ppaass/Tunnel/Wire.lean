import Ppaass.Common.Connection
import Ppaass.Tunnel.System

/-!
# A tunnel on the wire

The tunnel of `System`, with the connection between the agent and the proxy as it is: bytes go over
it in both directions, and at each end a `PpaassConnection` encodes the messages that the tasks send
and decodes the bytes they read. A task that waits for a message may poll its connection any number
of times. Client, destination and network do as they like, as before.
-/

namespace Ppaass.Tunnel

open Wire Prog Framed
open Agent (AgentOp agentSig AgentError)
open Proxy (ProxyOp proxySig ProxyServerError)

/-- Who takes part, and with which libraries, keys and compression. -/
structure WireSetup extends Setup where
  libs : Libs
  agentFetcher : RsaCryptoFetcher libs
  proxyFetcher : RsaCryptoFetcher libs
  agentCompress : Bool
  proxyCompress : Bool

/-- The links, with the connection's `Framed` at the agent and at the proxy. -/
structure WireLinks (libs : Libs) where
  clientToAgent : Channel UInt8
  agentToProxy : Channel UInt8
  proxyToDst : Channel UInt8
  dstToProxy : Channel UInt8
  proxyToAgent : Channel UInt8
  agentToClient : Channel UInt8
  agentInner : Reader (ConnectionCodec libs)
  proxyInner : Reader (ConnectionCodec libs)

namespace WireLinks

variable {libs : Libs}

/-- The agent's end. -/
def proxyConnection (l : WireLinks libs) : PpaassProxyConnection libs :=
  ⟨l.agentInner, l.proxyToAgent, l.agentToProxy⟩

/-- The proxy's end. -/
def agentConnection (l : WireLinks libs) : PpaassAgentConnection libs :=
  ⟨l.proxyInner, l.agentToProxy, l.proxyToAgent⟩

def setProxyConnection (l : WireLinks libs) (c : PpaassProxyConnection libs) : WireLinks libs :=
  { l with agentInner := c.inner, proxyToAgent := c.input, agentToProxy := c.output }

def setAgentConnection (l : WireLinks libs) (c : PpaassAgentConnection libs) : WireLinks libs :=
  { l with proxyInner := c.inner, agentToProxy := c.input, proxyToAgent := c.output }

/-- No link has failed. -/
structure Intact (l : WireLinks libs) : Prop where
  clientToAgent : l.clientToAgent.broken = false
  agentToProxy : l.agentToProxy.broken = false
  proxyToDst : l.proxyToDst.broken = false
  dstToProxy : l.dstToProxy.broken = false
  proxyToAgent : l.proxyToAgent.broken = false
  agentToClient : l.agentToClient.broken = false

end WireLinks

namespace WireSetup

variable (setup : WireSetup)

/-- The codec of the agent's end. -/
def agentCodec : PpaassProxyConnectionCodec setup.libs :=
  .new setup.agentCompress setup.agentFetcher

/-- The codec of the proxy's end. -/
def proxyCodec : PpaassAgentConnectionCodec setup.libs :=
  .new setup.proxyCompress setup.proxyFetcher

def links : WireLinks setup.libs :=
  ⟨.empty, .empty, .empty, .empty, .empty, .empty, .new setup.agentCodec, .new setup.proxyCodec⟩

end WireSetup

/-! ## What an event does -/

/-- The call at the agent's connection. -/
def agentCall : Event agentSig →
    Option (ConnectionEvent PpaassProxyMessagePayload PpaassAgentMessagePayload)
  | ⟨.proxyNext, r⟩ => some (.next r)
  | ⟨.proxyFeed message, r⟩ => some (.feed message r)
  | ⟨.proxyFlush, r⟩ => some (.flush r)
  | ⟨.proxyClose, r⟩ => some (.close r)
  | _ => none

/-- The call at the proxy's connection. -/
def proxyCall : Event proxySig →
    Option (ConnectionEvent PpaassAgentMessagePayload PpaassProxyMessagePayload)
  | ⟨.agentNext, r⟩ => some (.next r)
  | ⟨.agentFeed message, r⟩ => some (.feed message r)
  | ⟨.agentFlush, r⟩ => some (.flush r)
  | ⟨.agentClose, r⟩ => some (.close r)
  | _ => none

section
variable {libs : Libs}

/-- The links before and after an event of the agent. -/
structure AgentWires (l : WireLinks libs) (e : Event agentSig) (l' : WireLinks libs) : Prop where
  clientToAgent : l.clientToAgent.Recvs (clientRecv e) l'.clientToAgent
  agentToClient : l.agentToClient.Sends (clientSent e) l'.agentToClient
  connection : PpaassProxyConnection.Steps l.proxyConnection (agentCall e) l'.proxyConnection
  proxyInner : l'.proxyInner = l.proxyInner
  proxyToDst : l'.proxyToDst = l.proxyToDst
  dstToProxy : l'.dstToProxy = l.dstToProxy
  reply : replyFailed e = true → l.agentToClient.broken = true

/-- The links before and after an event of the proxy. -/
structure ProxyWires (l : WireLinks libs) (e : Event proxySig) (l' : WireLinks libs) : Prop where
  dstToProxy : l.dstToProxy.Recvs (dstRecv e) l'.dstToProxy
  proxyToDst : l.proxyToDst.Sends (dstSent e) l'.proxyToDst
  connection : PpaassAgentConnection.Steps l.agentConnection (proxyCall e) l'.agentConnection
  agentInner : l'.agentInner = l.agentInner
  clientToAgent : l'.clientToAgent = l.clientToAgent
  agentToClient : l'.agentToClient = l.agentToClient

/-- The client, the destination and the network. -/
inductive WireLinks.Env : WireLinks libs → WireLinks libs → Prop
  | clientSend {l : WireLinks libs} {e : SendEvent UInt8} {c : Channel UInt8}
      (h : l.clientToAgent.Send e c) : Env l { l with clientToAgent := c }
  | clientRecv {l : WireLinks libs} {e : RecvEvent UInt8} {c : Channel UInt8}
      (h : l.agentToClient.Recv e c) : Env l { l with agentToClient := c }
  | dstSend {l : WireLinks libs} {e : SendEvent UInt8} {c : Channel UInt8}
      (h : l.dstToProxy.Send e c) : Env l { l with dstToProxy := c }
  | dstRecv {l : WireLinks libs} {e : RecvEvent UInt8} {c : Channel UInt8}
      (h : l.proxyToDst.Recv e c) : Env l { l with proxyToDst := c }
  | breakClientToAgent {l : WireLinks libs} {c : Channel UInt8} (h : l.clientToAgent.Break c) :
      Env l { l with clientToAgent := c }
  | breakAgentToClient {l : WireLinks libs} {c : Channel UInt8} (h : l.agentToClient.Break c) :
      Env l { l with agentToClient := c }
  | breakAgentToProxy {l : WireLinks libs} {c : Channel UInt8} (h : l.agentToProxy.Break c) :
      Env l { l with agentToProxy := c }
  | breakProxyToAgent {l : WireLinks libs} {c : Channel UInt8} (h : l.proxyToAgent.Break c) :
      Env l { l with proxyToAgent := c }
  | breakProxyToDst {l : WireLinks libs} {c : Channel UInt8} (h : l.proxyToDst.Break c) :
      Env l { l with proxyToDst := c }
  | breakDstToProxy {l : WireLinks libs} {c : Channel UInt8} (h : l.dstToProxy.Break c) :
      Env l { l with dstToProxy := c }

end

/-! ## The system -/

structure WireSystem (libs : Libs) where
  agent : Tasks agentSig (Except (Fault AgentError) Unit)
  proxy : Tasks proxySig (Except ProxyServerError Unit)
  links : WireLinks libs

/-- The request is read, and nothing has happened since. -/
def WireSetup.wireStart (setup : WireSetup) : WireSystem setup.libs :=
  ⟨.new setup.agentTask, .new setup.proxyTask, setup.links⟩

namespace WireSystem

variable (setup : WireSetup)

/-- A step of a task. -/
inductive TaskStep : WireSystem setup.libs → WireSystem setup.libs → Prop
  | agent {w : WireSystem setup.libs} {side : Option Side} {e : Event agentSig}
      {agent : Tasks agentSig (Except (Fault AgentError) Unit)} {links : WireLinks setup.libs}
      (h : Tasks.Step (Agent.spawn setup.agentConfig) w.agent side (some e) agent)
      (hl : AgentWires w.links e links) : TaskStep w { w with agent, links }
  /-- the task waits for a message -/
  | agentPoll {w : WireSystem setup.libs} {side : Option Side} {r : AgentOp.proxyNext.Ans}
      {agent : Tasks agentSig (Except (Fault AgentError) Unit)}
      {c : PpaassProxyConnection setup.libs}
      (h : Tasks.Step (Agent.spawn setup.agentConfig) w.agent side (some ⟨.proxyNext, r⟩) agent)
      (hpoll : PpaassProxyConnection.Poll w.links.proxyConnection c) :
      TaskStep w { w with links := w.links.setProxyConnection c }
  | agentSilent {w : WireSystem setup.libs} {side : Option Side}
      {agent : Tasks agentSig (Except (Fault AgentError) Unit)}
      (h : Tasks.Step (Agent.spawn setup.agentConfig) w.agent side none agent) :
      TaskStep w { w with agent }
  | proxy {w : WireSystem setup.libs} {side : Option Side} {e : Event proxySig}
      {proxy : Tasks proxySig (Except ProxyServerError Unit)} {links : WireLinks setup.libs}
      (h : Tasks.Step Proxy.spawn w.proxy side (some e) proxy)
      (hl : ProxyWires w.links e links) : TaskStep w { w with proxy, links }
  | proxyPoll {w : WireSystem setup.libs} {side : Option Side} {r : ProxyOp.agentNext.Ans}
      {proxy : Tasks proxySig (Except ProxyServerError Unit)} {c : PpaassAgentConnection setup.libs}
      (h : Tasks.Step Proxy.spawn w.proxy side (some ⟨.agentNext, r⟩) proxy)
      (hpoll : PpaassAgentConnection.Poll w.links.agentConnection c) :
      TaskStep w { w with links := w.links.setAgentConnection c }
  | proxySilent {w : WireSystem setup.libs} {side : Option Side}
      {proxy : Tasks proxySig (Except ProxyServerError Unit)}
      (h : Tasks.Step Proxy.spawn w.proxy side none proxy) : TaskStep w { w with proxy }

/-- A step of a task, of the client or the destination, or the failure of a link. -/
inductive Step : WireSystem setup.libs → WireSystem setup.libs → Prop
  | task {w w' : WireSystem setup.libs} (h : TaskStep setup w w') : Step w w'
  | env {w : WireSystem setup.libs} {links : WireLinks setup.libs} (h : w.links.Env links) :
      Step w { w with links }

/-- A state the tunnel can reach, by any interleaving. -/
def Reachable : WireSystem setup.libs → Prop := Relation.ReflTransGen (Step setup) setup.wireStart

/-- No task can take a step. -/
def Quiescent (w : WireSystem setup.libs) : Prop := ∀ w', ¬ TaskStep setup w w'

end WireSystem

end Ppaass.Tunnel
