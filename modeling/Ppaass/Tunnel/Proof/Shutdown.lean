import Ppaass.Lib.Shutdown
import Ppaass.Tunnel.Proof.Integrity

/-!
# How a tunnel ends

Over links that have not failed each end is told that the other has closed only where it has, and
has been written everything by then (`Closes`). Where nothing can move any more the converse holds
as well, in each direction on its own (`graceful_shutdown`).
-/

namespace Ppaass.Tunnel

open Wire Prog
open Framed (Fault)
open Agent (AgentOp agentSig AgentError)
open Proxy (ProxyOp proxySig ProxyServerError)

/-! ## The relay tasks close in order -/

theorem clientToProxy_ordered (userToken : String)
    (payloadEncryption : PpaassMessagePayloadEncryption) :
    wp clientToProxyPump.ordered (Agent.relayClientToProxy userToken payloadEncryption)
      (fun _ => clientToProxyPump.Finished) [] := by
  have hnext : Only clientToProxyPump.LeavesOpen
      (Agent.clientToProxy userToken payloadEncryption).next := by
    refine only_bind ((Agent.only_await _).2 nofun) fun r => ?_
    rcases r with e | _ | ⟨b, bs⟩
    · exact only_pure _
    · exact only_pure _
    · exact only_bind ((Agent.only_await _).2 nofun) fun _ => only_pure _
  exact Pump.forward_close_ordered (fun m => [m.content])
    (Pump.does_perform trivial fun _ => rfl) (Pump.does_perform trivial fun _ => rfl)
    (fun _ => Pump.does_perform trivial fun _ => rfl) (Pump.does_perform trivial fun _ => rfl)
    (clientToProxy_next userToken payloadEncryption)
    ⟨(Agent.only_await _).2 nofun, (Agent.only_await _).2 nofun, hnext,
      fun m => (Agent.only_await (.proxyFeed m)).2 nofun⟩
    (Pump.closesInOrder_perform fun _ => rfl)

theorem proxyToClient_ordered : wp proxyToClientPump.ordered Agent.relayProxyToClient
    (fun _ => proxyToClientPump.Finished) [] := by
  have hnext : Only proxyToClientPump.LeavesOpen Agent.proxyToClient.next := by
    refine only_bind ((Agent.only_await _).2 nofun) fun r => ?_
    rcases r with _ | e | m <;> exact only_pure _
  exact Pump.forward_close_ordered id
    (Pump.does_perform trivial fun _ => rfl) (Pump.does_perform trivial fun _ => rfl)
    (fun _ => Pump.does_perform trivial fun _ => rfl) (Pump.does_perform trivial fun _ => rfl)
    proxyToClient_next
    ⟨(Agent.only_await _).2 nofun, (Agent.only_await _).2 nofun, hnext,
      fun bytes => (Agent.only_await (.clientFeed bytes)).2 nofun⟩
    (Pump.closesInOrder_perform fun _ => rfl)

theorem agentToDst_ordered : wp agentToDstPump.ordered Proxy.TcpHandler.relayAgentToDst
    (fun _ => agentToDstPump.Finished) [] := by
  have hnext : Only agentToDstPump.LeavesOpen Proxy.TcpHandler.agentToDst.next := by
    refine only_bind ((Proxy.only_await _).2 nofun) fun r => ?_
    rcases r with _ | e | m <;> exact only_pure _
  exact Pump.forward_close_ordered id
    (Pump.does_perform trivial fun _ => rfl) (Pump.does_perform trivial fun _ => rfl)
    (fun _ => Pump.does_perform trivial fun _ => rfl) (Pump.does_perform trivial fun _ => rfl)
    agentToDst_next
    ⟨(Proxy.only_await _).2 nofun, (Proxy.only_await _).2 nofun, hnext,
      fun bytes => (Proxy.only_await (.dstFeed bytes)).2 nofun⟩
    (Pump.closesInOrder_perform fun _ => rfl)

theorem dstToAgent_ordered (userToken : String)
    (payloadEncryption : PpaassMessagePayloadEncryption) :
    wp dstToAgentPump.ordered (Proxy.TcpHandler.relayDstToAgent userToken payloadEncryption)
      (fun _ => dstToAgentPump.Finished) [] := by
  have hclose : dstToAgentPump.Does (Proxy.await .agentClose)
      fun r => some (.close (Except.isOk r)) := Pump.does_perform trivial fun _ => rfl
  have hsub : dstToAgentPump.Does (Proxy.await .fetchSub) fun _ => none :=
    Pump.does_perform trivial fun _ => rfl
  have horder : dstToAgentPump.ClosesInOrder (Proxy.await .agentClose) :=
    Pump.closesInOrder_perform fun _ => rfl
  have hnext : Only dstToAgentPump.LeavesOpen
      (Proxy.TcpHandler.dstToAgent userToken payloadEncryption).next := by
    refine only_bind ((Proxy.only_await _).2 nofun) fun r => ?_
    rcases r with e | _ | ⟨b, bs⟩
    · exact only_pure _
    · exact only_pure _
    · exact only_bind ((Proxy.only_await _).2 nofun) fun _ => only_pure _
  have hrun := Pump.forward_ordered (fun m => [m.content])
    (Pump.does_perform trivial fun _ => rfl) (Pump.does_perform trivial fun _ => rfl)
    (fun _ => Pump.does_perform trivial fun _ => rfl) hclose
    (dstToAgent_next userToken payloadEncryption)
    ⟨(Proxy.only_await _).2 nofun, (Proxy.only_await _).2 nofun, hnext,
      fun m => (Proxy.only_await (.agentFeed m)).2 nofun⟩ horder Pump.idle_nil
  -- the counter is decremented between the two closes
  refine wp_bind.2 (wp_mono hrun fun _ t ht => wp_bind.2 (wp_mono (Pump.ordered_of_only
    (ht.does hsub fun a x hx => by cases hx) ((Proxy.only_await _).2 nofun)) fun _ t ht =>
    wp_bind.2 ?_))
  exact ht.close_ordered hclose (fun a x hx => ⟨_, (Option.some.inj hx).symm⟩) horder

/-! ## The tasks of a tunnel -/

/-- The agent's relay tasks close in order. -/
def agentOrder (setup : Setup) : Tasks.Spec agentSig (Except (Fault AgentError) Unit) where
  assertion
    | none => agentMain setup
    | some .up => clientToProxyPump.ordered
    | some .down => proxyToClientPump.ordered
  mainPost := agentMainPost setup
  post
    | .up => clientToProxyPump.Finished
    | .down => proxyToClientPump.Finished

theorem agentOrder_sound (setup : Setup) :
    (agentOrder setup).Sound (Agent.spawn setup.agentConfig) where
  spawns := by
    intro op side p h
    cases op <;> cases h
    · exact clientToProxy_ordered _ _
    · exact proxyToClient_ordered
  once := (agentSpec_sound setup).once

/-- And those of the proxy. -/
def proxyOrder : Tasks.Spec proxySig (Except ProxyServerError Unit) where
  assertion
    | none => proxyMain
    | some .up => agentToDstPump.ordered
    | some .down => dstToAgentPump.ordered
  mainPost := proxyMainPost
  post
    | .up => agentToDstPump.Finished
    | .down => dstToAgentPump.Finished

theorem proxyOrder_sound : proxyOrder.Sound Proxy.spawn where
  spawns := by
    intro op side p h
    cases op <;> cases h
    · exact agentToDst_ordered
    · exact dstToAgent_ordered _ _
  once := proxySpec_sound.once

namespace System

variable {setup : Setup} {s s' : System}

/-- A relay task has finished where it has closed its sink. -/
structure Orderly (setup : Setup) (s : System) : Prop where
  agent : s.agent.Holds (Agent.spawn setup.agentConfig) (agentOrder setup)
  proxy : s.proxy.Holds Proxy.spawn proxyOrder

theorem Orderly.step (h : Orderly setup s) (hstep : Step setup s s') : Orderly setup s' := by
  cases hstep with
  | env hl => exact ⟨h.agent, h.proxy⟩
  | task ht =>
    cases ht with
    | agent hs _ => exact ⟨h.agent.step (agentOrder_sound setup) hs, h.proxy⟩
    | agentSilent hs => exact ⟨h.agent.step (agentOrder_sound setup) hs, h.proxy⟩
    | proxy hs _ => exact ⟨h.agent, h.proxy.step proxyOrder_sound hs⟩
    | proxySilent hs => exact ⟨h.agent, h.proxy.step proxyOrder_sound hs⟩

theorem reachable_orderly (h : Reachable setup s) : Orderly setup s := by
  induction h with
  | refl => exact ⟨.new (agentTask_spec setup), .new (proxyTask_spec setup.proxyConfig)⟩
  | tail _ hstep ih => exact ih.step hstep

/-! ## What a closed sink says -/

section
variable (h : Inv setup s) (ho : Orderly setup s) (hintact : s.links.Intact)
include h ho hintact

/-- The proxy has closed the destination's connection: the agent has closed its own. -/
theorem Inv.agentToDst_closed (hclosed : s.links.proxyToDst.closed = true) :
    agentToDstPump.outValues (agentToDstPump.fed (s.proxy.trace (some .up))) =
        agentToDstPump.inValues (agentToDstPump.taken (s.proxy.trace (some .up))) ∧
      s.links.agentToProxy.closed = true ∧
      s.links.agentToProxy.read = s.links.agentToProxy.fed := by
  have hsent := h.proxyEnds.proxyToDst.closed.1 hclosed
  rw [Tasks.history, h.proxy_main_sent, List.nil_append] at hsent
  have hfinished := Pump.ordered_closed (ho.proxy.respects (some .up)) true hsent
  refine hfinished.upstream h.proxyEnds.agentToProxy h.proxyEnds.proxyToDst h.proxyToDst_inTime
    hintact.agentToProxy hintact.proxyToDst fun c hc hnone => ?_
  have hdata := agentData_isSome.2 (h.proxy_taken c hc)
  rw [show agentData c = none from hnone] at hdata
  cases hdata

/-- The agent has closed its connection: so has the client. -/
theorem Inv.clientToProxy_closed (hclosed : s.links.agentToProxy.closed = true) :
    clientToProxyPump.outValues (clientToProxyPump.fed (s.agent.trace (some .up))) =
        clientToProxyPump.inValues (clientToProxyPump.taken (s.agent.trace (some .up))) ∧
      s.links.clientToAgent.closed = true ∧
      s.links.clientToAgent.read = s.links.clientToAgent.fed ∧ AgentRelays setup s .up := by
  have hsent := h.agentEnds.agentToProxy.closed.1 hclosed
  rw [Tasks.history, List.mem_append] at hsent
  have htask := hsent.resolve_left (h.agent_not_closed true)
  have hfinished := Pump.ordered_closed (ho.agent.respects (some .up)) true htask
  obtain ⟨hvalues, hclient, hall⟩ := hfinished.upstream h.agentEnds.clientToAgent
    h.agentEnds.agentToProxy h.agentToProxy_inTime hintact.clientToAgent hintact.agentToProxy
    fun a _ ha => by cases ha
  refine ⟨hvalues, hclient, hall, ?_⟩
  by_contra hup
  rw [h.agent_trace_nil hup] at htask
  exact List.not_mem_nil htask

/-- The agent has closed the client's connection: the proxy has closed its own. -/
theorem Inv.proxyToClient_closed (hclosed : s.links.agentToClient.closed = true) :
    proxyToClientPump.outValues (proxyToClientPump.fed (s.agent.trace (some .down))) =
        proxyToClientPump.inValues (proxyToClientPump.taken (s.agent.trace (some .down))) ∧
      s.links.proxyToAgent.closed = true ∧
      s.links.proxyToAgent.read = s.links.proxyToAgent.fed := by
  have hsent := h.agentEnds.agentToClient.closed.1 hclosed
  rw [Tasks.history, h.agent_main_sent, List.nil_append] at hsent
  have hfinished := Pump.ordered_closed (ho.agent.respects (some .down)) true hsent
  refine hfinished.upstream h.agentEnds.proxyToAgent h.agentEnds.agentToClient
    h.agentToClient_inTime hintact.proxyToAgent hintact.agentToClient fun c hc hnone => ?_
  have hdata := proxyData_isSome.2 (h.agent_taken c hc)
  rw [show proxyData c = none from hnone] at hdata
  cases hdata

/-- The proxy has closed the agent's connection: so has the destination. -/
theorem Inv.dstToAgent_closed (hclosed : s.links.proxyToAgent.closed = true) :
    dstToAgentPump.outValues (dstToAgentPump.fed (s.proxy.trace (some .down))) =
        dstToAgentPump.inValues (dstToAgentPump.taken (s.proxy.trace (some .down))) ∧
      s.links.dstToProxy.closed = true ∧ s.links.dstToProxy.read = s.links.dstToProxy.fed := by
  have hsent := h.proxyEnds.proxyToAgent.closed.1 hclosed
  rw [Tasks.history, List.mem_append] at hsent
  have htask := hsent.resolve_left (h.proxy_not_closed true)
  have hfinished := Pump.ordered_closed (ho.proxy.respects (some .down)) true htask
  exact hfinished.upstream h.proxyEnds.dstToProxy h.proxyEnds.proxyToAgent h.proxyToAgent_inTime
    hintact.dstToProxy hintact.proxyToAgent fun a _ ha => by cases ha

/-! ## The two directions -/

theorem Inv.toDst_closed (hclosed : s.links.proxyToDst.closed = true) :
    s.links.clientToAgent.closed = true ∧
      s.links.proxyToDst.written = setup.request.initData ++ s.links.clientToAgent.fed := by
  obtain ⟨hvalues', hsent, hall'⟩ := h.agentToDst_closed ho hintact hclosed
  obtain ⟨hvalues, hclient, hall, hup⟩ := h.clientToProxy_closed ho hintact hsent
  obtain ⟨d, hdata, -, hd⟩ := h.agentToProxy_data
  have hrelays : ProxyRelays s .up := by
    by_contra hnot
    have hmem := h.proxyEnds.proxyToDst.closed.1 hclosed
    rw [Tasks.history, h.proxy_main_sent, h.proxy_trace_nil hnot] at hmem
    exact List.not_mem_nil hmem
  refine ⟨hclient, ?_⟩
  rw [outValues_bytes (p := agentToDstPump) rfl] at hvalues'
  calc s.links.proxyToDst.written
      = agentToDstPump.fed (s.proxy.trace (some .up)) := by
        rw [s.links.proxyToDst.closed_written hclosed, h.proxyToDst_fed]
    _ = agentToDstPump.inValues s.links.agentToProxy.read := by
        rw [hvalues', h.agentToProxy_read hrelays]
    _ = clientToProxyPump.outValues s.links.agentToProxy.fed := by rw [hall']; rfl
    _ = setup.request.initData ++ clientToProxyPump.inValues
          (clientToProxyPump.taken (s.agent.trace (some .up))) := by rw [hdata, hd hup, hvalues]
    _ = setup.request.initData ++ s.links.clientToAgent.fed := by
        rw [inValues_bytes (p := clientToProxyPump) rfl, ← h.clientToAgent_read, hall]

theorem Inv.toClient_closed (hclosed : s.links.agentToClient.closed = true) :
    s.links.dstToProxy.closed = true ∧
      s.links.agentToClient.written = s.links.dstToProxy.fed := by
  obtain ⟨hvalues', hsent, hall'⟩ := h.proxyToClient_closed ho hintact hclosed
  obtain ⟨hvalues, hdst, hall⟩ := h.dstToAgent_closed ho hintact hsent
  have hrelays : AgentRelays setup s .down := by
    by_contra hnot
    have hmem := h.agentEnds.agentToClient.closed.1 hclosed
    rw [Tasks.history, h.agent_main_sent, h.agent_trace_nil hnot] at hmem
    exact List.not_mem_nil hmem
  refine ⟨hdst, ?_⟩
  rw [outValues_bytes (p := proxyToClientPump) rfl] at hvalues'
  calc s.links.agentToClient.written
      = proxyToClientPump.fed (s.agent.trace (some .down)) := by
        rw [s.links.agentToClient.closed_written hclosed, h.agentToClient_fed]
    _ = proxyToClientPump.inValues s.links.proxyToAgent.read := by
        rw [hvalues', h.proxyToAgent_read hrelays]
    _ = dstToAgentPump.outValues s.links.proxyToAgent.fed := by rw [hall']; rfl
    _ = dstToAgentPump.inValues (dstToAgentPump.taken (s.proxy.trace (some .down))) := by
        rw [h.proxyToAgent_data, hvalues]
    _ = s.links.dstToProxy.fed := by
        rw [inValues_bytes (p := dstToAgentPump) rfl, ← h.dstToProxy_read, hall]

end

/-! ## Shutdown -/

/-- An end that is told the other has closed is told the truth, and has been written everything. -/
structure Closes (setup : Setup) (s : System) : Prop where
  toDst : s.links.proxyToDst.closed = true → s.links.clientToAgent.closed = true ∧
    s.links.proxyToDst.written = setup.request.initData ++ s.links.clientToAgent.fed
  toClient : s.links.agentToClient.closed = true → s.links.dstToProxy.closed = true ∧
    s.links.agentToClient.written = s.links.dstToProxy.fed

/-- An end that has closed is heard of at the other, whether or not that one has closed. -/
structure PassesOn (s : System) : Prop where
  toDst : s.links.clientToAgent.closed = true → s.links.proxyToDst.closed = true
  toClient : s.links.dstToProxy.closed = true → s.links.agentToClient.closed = true

/-- **Shutdown of a tunnel** over links that have not failed, in every reachable state; and in one
where no task can take a step, if the tunnel is in use. -/
theorem graceful_shutdown (setup : Setup) (s : System) (h : Reachable setup s)
    (hintact : s.links.Intact) : Closes setup s ∧
      (s.agent.task .up ≠ none → s.Quiescent setup → PassesOn s) := by
  have hinv := reachable_inv h
  have ho := reachable_orderly h
  refine ⟨⟨hinv.toDst_closed ho hintact, hinv.toClient_closed ho hintact⟩, fun hup hq => ?_⟩
  have hrelays : AgentRelays setup s .up := (hinv.agent.spawned .up).1 hup
  constructor
  · intro hclient
    obtain ⟨-, -, hsent⟩ := hinv.clientToProxy_complete hq hintact hrelays hclient
    obtain ⟨-, -, hclosed⟩ := hinv.agentToDst_complete hq hintact hrelays hsent
    exact hclosed
  · intro hdst
    obtain ⟨-, -, hsent⟩ := hinv.dstToAgent_complete hq hintact hrelays hdst
    obtain ⟨-, -, hclosed⟩ := hinv.proxyToClient_complete hq hintact hrelays hsent
    exact hclosed

theorem graceful_shutdown_finished : ∃ s, Reachable connectSetup s ∧
    s.links.clientToAgent.closed = true ∧ s.links.dstToProxy.closed = true ∧
    s.links.clientToAgent.fed = [104, 105] ∧ s.links.dstToProxy.fed = [111, 107] ∧
    s.Quiescent connectSetup ∧ Closes connectSetup s ∧ PassesOn s := by
  obtain ⟨s, h, hf, hclient, hdst, -⟩ := exists_finished
  obtain ⟨hcloses, hpasses⟩ := graceful_shutdown connectSetup s h hf.intact
  exact ⟨s, h, hf.clientClosed, hf.dstClosed, hclient, hdst, hf.quiescent, hcloses,
    hpasses hf.established hf.quiescent⟩

end System

end Ppaass.Tunnel
