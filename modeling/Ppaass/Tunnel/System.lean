import Mathlib.Logic.Relation
import Ppaass.Agent.Transport
import Ppaass.Lib.Channel
import Ppaass.Proxy.Transport

/-!
# A tunnel

One client request, the agent's task for it and the proxy's task for the agent's connection, with
the relay tasks that the two spawn, the links between them, and the client and the destination at
the two ends.

A link carries bytes, or the contents of messages: the codecs deliver the message that was encoded,
up to how its payload travels. A task's step is one event of the task with an answer the links
allow; other operations (name resolution, connecting, timeouts) may be answered in any way. The
client and the destination send, read and close as they like, and any link may fail at any moment.
-/

namespace Ppaass.Tunnel

open Wire Prog
open Framed (Fault)
open Agent (AgentOp agentSig)
open Proxy (ProxyOp proxySig)

/-! ## Links -/

abbrev AgentContent := String × String × PpaassAgentMessagePayload

abbrev ProxyContent := String × String × PpaassProxyMessagePayload

/-- The links: `client` to agent, agent to proxy, proxy to destination, and back. -/
structure Links where
  clientToAgent : Channel UInt8
  agentToProxy : Channel AgentContent
  proxyToDst : Channel UInt8
  dstToProxy : Channel UInt8
  proxyToAgent : Channel ProxyContent
  agentToClient : Channel UInt8

def Links.empty : Links := ⟨.empty, .empty, .empty, .empty, .empty, .empty⟩

/-- A socket's read. -/
def readEvent : Except StdIoError Bytes → RecvEvent UInt8
  | .ok [] => .eof
  | .ok (b :: bs) => .read (b :: bs)
  | .error _ => .error

/-- The next message of a connection. -/
def nextEvent {P : Type} :
    Option (Except CommonError (PpaassMessage P)) → RecvEvent (String × String × P)
  | none => .eof
  | some (.ok message) => .read [message.content]
  | some (.error _) => .error

/-! ## What an event of the agent does to the links -/

def clientRecv : Event agentSig → Option (RecvEvent UInt8)
  | ⟨.clientRead, r⟩ => some (readEvent r)
  | _ => none

def clientSent : Event agentSig → Option (SendEvent UInt8)
  | ⟨.clientFeed bytes, r⟩ => some (.feed bytes (Except.isOk r))
  | ⟨.clientFlush, r⟩ => some (.flush (Except.isOk r))
  | ⟨.clientClose, r⟩ => some (.close (Except.isOk r))
  | _ => none

def proxyRecv : Event agentSig → Option (RecvEvent ProxyContent)
  | ⟨.proxyNext, r⟩ => some (nextEvent r)
  | _ => none

def proxySent : Event agentSig → Option (SendEvent AgentContent)
  | ⟨.proxyFeed message, r⟩ => some (.feed [message.content] (Except.isOk r))
  | ⟨.proxyFlush, r⟩ => some (.flush (Except.isOk r))
  | ⟨.proxyClose, r⟩ => some (.close (Except.isOk r))
  | _ => none

/-- A reply of the handshake that could not be sent. -/
def replyFailed : Event agentSig → Bool
  | ⟨.clientSend _, r⟩ => !Except.isOk r
  | _ => false

/-- The links before and after an event of the agent. -/
structure AgentAnswers (l : Links) (e : Event agentSig) (l' : Links) : Prop where
  clientToAgent : l.clientToAgent.Recvs (clientRecv e) l'.clientToAgent
  agentToClient : l.agentToClient.Sends (clientSent e) l'.agentToClient
  proxyToAgent : l.proxyToAgent.Recvs (proxyRecv e) l'.proxyToAgent
  agentToProxy : l.agentToProxy.Sends (proxySent e) l'.agentToProxy
  proxyToDst : l'.proxyToDst = l.proxyToDst
  dstToProxy : l'.dstToProxy = l.dstToProxy
  reply : replyFailed e = true → l.agentToClient.broken = true

/-! ## What an event of the proxy does to the links -/

def agentRecv : Event proxySig → Option (RecvEvent AgentContent)
  | ⟨.agentNext, r⟩ => some (nextEvent r)
  | _ => none

def agentSent : Event proxySig → Option (SendEvent ProxyContent)
  | ⟨.agentFeed message, r⟩ => some (.feed [message.content] (Except.isOk r))
  | ⟨.agentFlush, r⟩ => some (.flush (Except.isOk r))
  | ⟨.agentClose, r⟩ => some (.close (Except.isOk r))
  | _ => none

def dstRecv : Event proxySig → Option (RecvEvent UInt8)
  | ⟨.dstRead, r⟩ => some (readEvent r)
  | _ => none

def dstSent : Event proxySig → Option (SendEvent UInt8)
  | ⟨.dstFeed bytes, r⟩ => some (.feed bytes (Except.isOk r))
  | ⟨.dstFlush, r⟩ => some (.flush (Except.isOk r))
  | ⟨.dstClose, r⟩ => some (.close (Except.isOk r))
  | _ => none

/-- The links before and after an event of the proxy. -/
structure ProxyAnswers (l : Links) (e : Event proxySig) (l' : Links) : Prop where
  agentToProxy : l.agentToProxy.Recvs (agentRecv e) l'.agentToProxy
  proxyToAgent : l.proxyToAgent.Sends (agentSent e) l'.proxyToAgent
  dstToProxy : l.dstToProxy.Recvs (dstRecv e) l'.dstToProxy
  proxyToDst : l.proxyToDst.Sends (dstSent e) l'.proxyToDst
  clientToAgent : l'.clientToAgent = l.clientToAgent
  agentToClient : l'.agentToClient = l.agentToClient

/-! ## The client, the destination and the network -/

inductive Links.Env : Links → Links → Prop
  | clientSend {l : Links} {e : SendEvent UInt8} {c : Channel UInt8}
      (h : l.clientToAgent.Send e c) : Env l { l with clientToAgent := c }
  | clientRecv {l : Links} {e : RecvEvent UInt8} {c : Channel UInt8}
      (h : l.agentToClient.Recv e c) : Env l { l with agentToClient := c }
  | dstSend {l : Links} {e : SendEvent UInt8} {c : Channel UInt8} (h : l.dstToProxy.Send e c) :
      Env l { l with dstToProxy := c }
  | dstRecv {l : Links} {e : RecvEvent UInt8} {c : Channel UInt8} (h : l.proxyToDst.Recv e c) :
      Env l { l with proxyToDst := c }
  | breakClientToAgent {l : Links} {c : Channel UInt8} (h : l.clientToAgent.Break c) :
      Env l { l with clientToAgent := c }
  | breakAgentToClient {l : Links} {c : Channel UInt8} (h : l.agentToClient.Break c) :
      Env l { l with agentToClient := c }
  | breakAgentToProxy {l : Links} {c : Channel AgentContent} (h : l.agentToProxy.Break c) :
      Env l { l with agentToProxy := c }
  | breakProxyToAgent {l : Links} {c : Channel ProxyContent} (h : l.proxyToAgent.Break c) :
      Env l { l with proxyToAgent := c }
  | breakProxyToDst {l : Links} {c : Channel UInt8} (h : l.proxyToDst.Break c) :
      Env l { l with proxyToDst := c }
  | breakDstToProxy {l : Links} {c : Channel UInt8} (h : l.dstToProxy.Break c) :
      Env l { l with dstToProxy := c }

/-! ## The system -/

/-- A request of a client, as its handshake has read it. -/
inductive ClientRequest (http : Agent.HttpLib) where
  | socks5 (dstAddress : Agent.Socks5Address)
  | http (request : http.Request)

/-- The destination of a request, and the data to send there first. -/
def ClientRequest.target {http : Agent.HttpLib} : ClientRequest http →
    Except Agent.AgentError (PpaassUnifiedAddress × Option Bytes)
  | socks5 dstAddress => .ok (dstAddress.toUnified, none)
  | .http request => Agent.target http request

/-- The data that is to be sent to the destination first. -/
def ClientRequest.initData {http : Agent.HttpLib} (request : ClientRequest http) : Bytes :=
  match request.target with
  | .ok (_, some initData) => initData
  | _ => []

/-- Who takes part: the configurations and the request. -/
structure Setup where
  http : Agent.HttpLib
  agentConfig : Agent.AgentConfig
  proxyConfig : Proxy.ProxyConfig
  srcAddress : PpaassUnifiedAddress
  request : ClientRequest http

namespace Setup

variable (setup : Setup)

/-- The handshake once the request is read. -/
def handshake : Agent.AgentM Agent.ClientTransportTcpDataRelay :=
  match setup.request with
  | .socks5 dstAddress =>
    Agent.Socks5ClientTransport.handleConnectCommand setup.agentConfig setup.srcAddress
      dstAddress.toUnified
  | .http request =>
    Agent.HttpClientTransport.handleRequest setup.http setup.agentConfig setup.srcAddress request

/-- The agent's task once the request is read. -/
def agentTask : Prog agentSig (Except (Fault Agent.AgentError) Unit) :=
  (do Agent.tcpRelay setup.agentConfig (← setup.handshake) : Agent.AgentM Unit).run

/-- The proxy's task for the agent's connection. -/
def proxyTask : Prog proxySig (Except Proxy.ProxyServerError Unit) :=
  Proxy.ProxyServer.serve setup.proxyConfig

end Setup

structure System where
  agent : Tasks agentSig (Except (Fault Agent.AgentError) Unit)
  proxy : Tasks proxySig (Except Proxy.ProxyServerError Unit)
  links : Links

/-- The request is read, and nothing has happened since. -/
def Setup.start (setup : Setup) : System :=
  ⟨.new setup.agentTask, .new setup.proxyTask, .empty⟩

namespace System

/-- A step of a task. -/
inductive TaskStep (setup : Setup) : System → System → Prop
  | agent {s : System} {side : Option Side} {e : Event agentSig}
      {agent : Tasks agentSig (Except (Fault Agent.AgentError) Unit)} {links : Links}
      (h : Tasks.Step (Agent.spawn setup.agentConfig) s.agent side (some e) agent)
      (hl : AgentAnswers s.links e links) : TaskStep setup s { s with agent, links }
  | agentSilent {s : System} {side : Option Side}
      {agent : Tasks agentSig (Except (Fault Agent.AgentError) Unit)}
      (h : Tasks.Step (Agent.spawn setup.agentConfig) s.agent side none agent) :
      TaskStep setup s { s with agent }
  | proxy {s : System} {side : Option Side} {e : Event proxySig}
      {proxy : Tasks proxySig (Except Proxy.ProxyServerError Unit)} {links : Links}
      (h : Tasks.Step Proxy.spawn s.proxy side (some e) proxy)
      (hl : ProxyAnswers s.links e links) : TaskStep setup s { s with proxy, links }
  | proxySilent {s : System} {side : Option Side}
      {proxy : Tasks proxySig (Except Proxy.ProxyServerError Unit)}
      (h : Tasks.Step Proxy.spawn s.proxy side none proxy) : TaskStep setup s { s with proxy }

/-- A step of a task, of the client or the destination, or the failure of a link. -/
inductive Step (setup : Setup) : System → System → Prop
  | task {s s' : System} (h : TaskStep setup s s') : Step setup s s'
  | env {s : System} {links : Links} (h : s.links.Env links) : Step setup s { s with links }

/-- A state the tunnel can reach, by any interleaving. -/
def Reachable (setup : Setup) : System → Prop := Relation.ReflTransGen (Step setup) setup.start

/-- No task can take a step. -/
def Quiescent (setup : Setup) (s : System) : Prop := ∀ s', ¬ TaskStep setup s s'

end System

/-- No link has failed. -/
structure Links.Intact (l : Links) : Prop where
  clientToAgent : l.clientToAgent.broken = false
  agentToProxy : l.agentToProxy.broken = false
  proxyToDst : l.proxyToDst.broken = false
  dstToProxy : l.dstToProxy.broken = false
  proxyToAgent : l.proxyToAgent.broken = false
  agentToClient : l.agentToClient.broken = false

end Ppaass.Tunnel
