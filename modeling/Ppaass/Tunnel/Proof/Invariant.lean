import Ppaass.Tunnel.Proof.AgentMain
import Ppaass.Tunnel.Proof.ProxyMain

/-!
# The invariant of a tunnel

What holds of the tasks of the agent and of the proxy, and that each link is what its two ends have
done to it (`System.Inv`). Every step keeps it, so that it holds of every reachable state
(`reachable_inv`).
-/

namespace Ppaass.Tunnel

open Wire Prog
open Framed (Fault)
open Agent (AgentOp agentSig AgentError)
open Proxy (ProxyOp proxySig ProxyServerError)

/-- The links are what the agent's tasks have done to them. -/
structure AgentEnds (g : Tasks agentSig (Except (Fault AgentError) Unit)) (l : Links) : Prop where
  clientToAgent : l.clientToAgent.ReadBy (g.history clientRecv .up)
  agentToProxy : l.agentToProxy.SentBy (g.history proxySent .up)
  proxyToAgent : l.proxyToAgent.ReadBy (g.history proxyRecv .down)
  agentToClient : l.agentToClient.SentBy (g.history clientSent .down)

/-- The links are what the proxy's tasks have done to them. -/
structure ProxyEnds (g : Tasks proxySig (Except ProxyServerError Unit)) (l : Links) : Prop where
  agentToProxy : l.agentToProxy.ReadBy (g.history agentRecv .up)
  proxyToDst : l.proxyToDst.SentBy (g.history dstSent .up)
  dstToProxy : l.dstToProxy.ReadBy (g.history dstRecv .down)
  proxyToAgent : l.proxyToAgent.SentBy (g.history agentSent .down)

structure System.Inv (setup : Setup) (s : System) : Prop where
  agent : s.agent.Holds (Agent.spawn setup.agentConfig) (agentSpec setup)
  proxy : s.proxy.Holds Proxy.spawn proxySpec
  agentEnds : AgentEnds s.agent s.links
  proxyEnds : ProxyEnds s.proxy s.links

/-! ## Steps -/

section
variable {l l' : Links}

/-- An event of the agent, as its own ends see it. -/
theorem AgentEnds.step {setup : Setup} {g g' : Tasks agentSig (Except (Fault AgentError) Unit)}
    {side : Option Side} {e : Event agentSig} (h : AgentEnds g l)
    (hg : g.Holds (Agent.spawn setup.agentConfig) (agentSpec setup))
    (hstep : Tasks.Step (Agent.spawn setup.agentConfig) g side (some e) g')
    (hl : AgentAnswers l e l') : AgentEnds g' l' where
  clientToAgent := by
    rw [hg.history_step (agentSpec_sound setup) (agent_uses_clientRecv setup) hstep]
    exact h.clientToAgent.recvs hl.clientToAgent
  agentToProxy := by
    rw [hg.history_step (agentSpec_sound setup) (agent_uses_proxySent setup) hstep]
    exact h.agentToProxy.sends hl.agentToProxy
  proxyToAgent := by
    rw [hg.history_step (agentSpec_sound setup) (agent_uses_proxyRecv setup) hstep]
    exact h.proxyToAgent.recvs hl.proxyToAgent
  agentToClient := by
    rw [hg.history_step (agentSpec_sound setup) (agent_uses_clientSent setup) hstep]
    exact h.agentToClient.sends hl.agentToClient

theorem ProxyEnds.step {g g' : Tasks proxySig (Except ProxyServerError Unit)}
    {side : Option Side} {e : Event proxySig} (h : ProxyEnds g l)
    (hg : g.Holds Proxy.spawn proxySpec) (hstep : Tasks.Step Proxy.spawn g side (some e) g')
    (hl : ProxyAnswers l e l') : ProxyEnds g' l' where
  agentToProxy := by
    rw [hg.history_step proxySpec_sound proxy_uses_agentRecv hstep]
    exact h.agentToProxy.recvs hl.agentToProxy
  proxyToDst := by
    rw [hg.history_step proxySpec_sound proxy_uses_dstSent hstep]
    exact h.proxyToDst.sends hl.proxyToDst
  dstToProxy := by
    rw [hg.history_step proxySpec_sound proxy_uses_dstRecv hstep]
    exact h.dstToProxy.recvs hl.dstToProxy
  proxyToAgent := by
    rw [hg.history_step proxySpec_sound proxy_uses_agentSent hstep]
    exact h.proxyToAgent.sends hl.proxyToAgent

/-- An event of the proxy, as the agent's ends see it. -/
theorem AgentEnds.peer {g : Tasks agentSig (Except (Fault AgentError) Unit)} {e : Event proxySig}
    (h : AgentEnds g l) (hl : ProxyAnswers l e l') : AgentEnds g l' where
  clientToAgent := by rw [hl.clientToAgent]; exact h.clientToAgent
  agentToProxy := h.agentToProxy.recvs hl.agentToProxy
  proxyToAgent := h.proxyToAgent.sends hl.proxyToAgent
  agentToClient := by rw [hl.agentToClient]; exact h.agentToClient

/-- An event of the agent, as the proxy's ends see it. -/
theorem ProxyEnds.peer {g : Tasks proxySig (Except ProxyServerError Unit)} {e : Event agentSig}
    (h : ProxyEnds g l) (hl : AgentAnswers l e l') : ProxyEnds g l' where
  agentToProxy := h.agentToProxy.sends hl.agentToProxy
  proxyToDst := by rw [hl.proxyToDst]; exact h.proxyToDst
  dstToProxy := by rw [hl.dstToProxy]; exact h.dstToProxy
  proxyToAgent := h.proxyToAgent.recvs hl.proxyToAgent

theorem AgentEnds.env {g : Tasks agentSig (Except (Fault AgentError) Unit)} (h : AgentEnds g l)
    (hl : l.Env l') : AgentEnds g l' := by
  cases hl with
  | clientSend hs => exact { h with clientToAgent := h.clientToAgent.send hs }
  | clientRecv hr => exact { h with agentToClient := h.agentToClient.recv hr }
  | dstSend hs => exact ⟨h.1, h.2, h.3, h.4⟩
  | dstRecv hr => exact ⟨h.1, h.2, h.3, h.4⟩
  | breakClientToAgent hb => exact { h with clientToAgent := h.clientToAgent.break hb }
  | breakAgentToClient hb => exact { h with agentToClient := h.agentToClient.break hb }
  | breakAgentToProxy hb => exact { h with agentToProxy := h.agentToProxy.break hb }
  | breakProxyToAgent hb => exact { h with proxyToAgent := h.proxyToAgent.break hb }
  | breakProxyToDst hb => exact ⟨h.1, h.2, h.3, h.4⟩
  | breakDstToProxy hb => exact ⟨h.1, h.2, h.3, h.4⟩

theorem ProxyEnds.env {g : Tasks proxySig (Except ProxyServerError Unit)} (h : ProxyEnds g l)
    (hl : l.Env l') : ProxyEnds g l' := by
  cases hl with
  | clientSend hs => exact ⟨h.1, h.2, h.3, h.4⟩
  | clientRecv hr => exact ⟨h.1, h.2, h.3, h.4⟩
  | dstSend hs => exact { h with dstToProxy := h.dstToProxy.send hs }
  | dstRecv hr => exact { h with proxyToDst := h.proxyToDst.recv hr }
  | breakClientToAgent hb => exact ⟨h.1, h.2, h.3, h.4⟩
  | breakAgentToClient hb => exact ⟨h.1, h.2, h.3, h.4⟩
  | breakAgentToProxy hb => exact { h with agentToProxy := h.agentToProxy.break hb }
  | breakProxyToAgent hb => exact { h with proxyToAgent := h.proxyToAgent.break hb }
  | breakProxyToDst hb => exact { h with proxyToDst := h.proxyToDst.break hb }
  | breakDstToProxy hb => exact { h with dstToProxy := h.dstToProxy.break hb }

end

namespace System

variable {setup : Setup} {s s' : System}

theorem start_inv : Inv setup setup.start where
  agent := .new (agentTask_spec setup)
  proxy := .new (proxyTask_spec setup.proxyConfig)
  agentEnds := ⟨Channel.readBy_empty, Channel.sentBy_empty, Channel.readBy_empty,
    Channel.sentBy_empty⟩
  proxyEnds := ⟨Channel.readBy_empty, Channel.sentBy_empty, Channel.readBy_empty,
    Channel.sentBy_empty⟩

theorem Inv.step (h : Inv setup s) (hstep : Step setup s s') : Inv setup s' := by
  cases hstep with
  | task ht =>
    cases ht with
    | agent hs hl =>
      exact ⟨h.agent.step (agentSpec_sound setup) hs, h.proxy, h.agentEnds.step h.agent hs hl,
        h.proxyEnds.peer hl⟩
    | agentSilent hs =>
      refine ⟨h.agent.step (agentSpec_sound setup) hs, h.proxy, ⟨?_, ?_, ?_, ?_⟩, h.proxyEnds⟩ <;>
        rw [h.agent.history_silent (agentSpec_sound setup) hs]
      · exact h.agentEnds.clientToAgent
      · exact h.agentEnds.agentToProxy
      · exact h.agentEnds.proxyToAgent
      · exact h.agentEnds.agentToClient
    | proxy hs hl =>
      exact ⟨h.agent, h.proxy.step proxySpec_sound hs, h.agentEnds.peer hl,
        h.proxyEnds.step h.proxy hs hl⟩
    | proxySilent hs =>
      refine ⟨h.agent, h.proxy.step proxySpec_sound hs, h.agentEnds, ⟨?_, ?_, ?_, ?_⟩⟩ <;>
        rw [h.proxy.history_silent proxySpec_sound hs]
      · exact h.proxyEnds.agentToProxy
      · exact h.proxyEnds.proxyToDst
      · exact h.proxyEnds.dstToProxy
      · exact h.proxyEnds.proxyToAgent
  | env hl => exact ⟨h.agent, h.proxy, h.agentEnds.env hl, h.proxyEnds.env hl⟩

/-- **The invariant holds in every reachable state.** -/
theorem reachable_inv (h : Reachable setup s) : Inv setup s := by
  induction h with
  | refl => exact start_inv
  | tail _ hstep ih => exact ih.step hstep

end System

end Ppaass.Tunnel
