import Ppaass.Agent.Connection
import Ppaass.Proxy.Server
import Ppaass.Tunnel.System

/-!
# A UDP association and the proxy

An association with all the connections that it has made with the proxy. Each connection has a
transport of the proxy at its other end, which goes on after the agent has turned to the next one,
and a link in each direction that delivers messages as they are, until it fails. The client, the
destinations and name resolution may do anything.
-/

namespace Ppaass.Tunnel

open Wire Prog
open Agent (AgentOp agentSig)
open Proxy (ProxyOp proxySig)

/-- A connection of the agent with the proxy, and the proxy's tasks for it. -/
structure Exchange where
  proxy : Proxy.TransportTasks
  agentToProxy : Channel AgentContent
  proxyToAgent : Channel ProxyContent

/-- A connection that was just made. -/
def Exchange.start (config : Proxy.ProxyConfig) : Exchange :=
  ⟨.new (Proxy.ProxyServer.serve config), .empty, .empty⟩

/-- The connections before and after an event of the agent, which uses the last one. -/
inductive Exchange.Answers (config : Proxy.ProxyConfig) :
    List Exchange → Event agentSig → List Exchange → Prop
  | connect (xs : List Exchange) :
      Answers config xs ⟨.proxyConnect, some (.ok ())⟩ (xs ++ [.start config])
  | connection (xs : List Exchange) {x x' : Exchange} {e : Event agentSig}
      (hconnect : e ≠ ⟨.proxyConnect, some (.ok ())⟩)
      (hsend : x.agentToProxy.Sends (proxySent e) x'.agentToProxy)
      (hrecv : x.proxyToAgent.Recvs (proxyRecv e) x'.proxyToAgent) (hproxy : x'.proxy = x.proxy) :
      Answers config (xs ++ [x]) e (xs ++ [x'])
  | other (xs : List Exchange) {e : Event agentSig}
      (hconnect : e ≠ ⟨.proxyConnect, some (.ok ())⟩) (hsend : proxySent e = none)
      (hrecv : proxyRecv e = none) : Answers config xs e xs

structure UdpSystem where
  association : Agent.Association
  exchanges : List Exchange

namespace UdpSystem

variable (agentConfig : Agent.AgentConfig) (proxyConfig : Proxy.ProxyConfig)

/-- The association of a client that is restricted to an address. -/
def start (clientUdpRestrictAddress : PpaassUnifiedAddress) : UdpSystem :=
  ⟨Agent.udpRelay agentConfig ⟨clientUdpRestrictAddress⟩, []⟩

inductive Step : UdpSystem → UdpSystem → Prop
  | agent {s : UdpSystem} {e : Event agentSig} {a : Agent.Association} {xs : List Exchange}
      (h : s.association.Step (some e) a) (hx : Exchange.Answers proxyConfig s.exchanges e xs) :
      Step s ⟨a, xs⟩
  | agentSilent {s : UdpSystem} {a : Agent.Association} (h : s.association.Step none a) :
      Step s { s with association := a }
  | proxy {a : Agent.Association} (pre post : List Exchange) {x x' : Exchange} {side : Option Side}
      {e : Option (Event proxySig)} (h : Tasks.Step Proxy.spawn x.proxy side e x'.proxy)
      (hrecv : x.agentToProxy.Recvs (e.bind agentRecv) x'.agentToProxy)
      (hsend : x.proxyToAgent.Sends (e.bind agentSent) x'.proxyToAgent) :
      Step ⟨a, pre ++ x :: post⟩ ⟨a, pre ++ x' :: post⟩
  | breakAgentToProxy {a : Agent.Association} (pre post : List Exchange) {x : Exchange}
      {c : Channel AgentContent} (h : x.agentToProxy.Break c) :
      Step ⟨a, pre ++ x :: post⟩ ⟨a, pre ++ { x with agentToProxy := c } :: post⟩
  | breakProxyToAgent {a : Agent.Association} (pre post : List Exchange) {x : Exchange}
      {c : Channel ProxyContent} (h : x.proxyToAgent.Break c) :
      Step ⟨a, pre ++ x :: post⟩ ⟨a, pre ++ { x with proxyToAgent := c } :: post⟩

/-- A state that a run of the association can reach. -/
def Reachable (clientUdpRestrictAddress : PpaassUnifiedAddress) : UdpSystem → Prop :=
  Relation.ReflTransGen (Step proxyConfig) (start agentConfig clientUdpRestrictAddress)

end UdpSystem

end Ppaass.Tunnel
