import Ppaass.Lib.Environment
import Ppaass.Tunnel.Proof.Flow

/-!
# Integrity of a tunnel

In every reachable state the destination has been written a prefix of the request's data and what
the client has sent, the client a prefix of what the destination has sent, and the relay tasks have
read nothing but data. Where nothing can move any more, no link has failed and both ends have
closed, the prefixes are everything (`tunnel_integrity`).
-/

namespace Ppaass.Tunnel

open Wire Prog
open Framed (Fault)
open Agent (AgentOp agentSig AgentError)
open Proxy (ProxyOp proxySig ProxyServerError)

/-! ## What the links can answer -/

section
variable (l : Links)

/-- An operation of the agent that touches no link can be answered. -/
theorem agentAnswers_quiet {e : Event agentSig} (hcr : clientRecv e = none)
    (hcs : clientSent e = none) (hpr : proxyRecv e = none) (hps : proxySent e = none)
    (hreply : replyFailed e = false) : AgentAnswers l e l := by
  refine ⟨?_, ?_, ?_, ?_, rfl, rfl, ?_⟩
  · rw [hcr]; rfl
  · rw [hcs]; rfl
  · rw [hpr]; rfl
  · rw [hps]; rfl
  · rw [hreply]; exact nofun

/-! An operation that touches one link is answered by that link. -/

theorem agentAnswers_clientRecv {e : Event agentSig} {r : RecvEvent UInt8} {c : Channel UInt8}
    (he : clientRecv e = some r) (h : l.clientToAgent.Recv r c) :
    AgentAnswers l e { l with clientToAgent := c } := by
  obtain ⟨op, a⟩ := e
  cases op <;> cases he
  exact ⟨h, rfl, rfl, rfl, rfl, rfl, nofun⟩

theorem agentAnswers_clientSent {e : Event agentSig} {x : SendEvent UInt8} {c : Channel UInt8}
    (he : clientSent e = some x) (h : l.agentToClient.Send x c) :
    AgentAnswers l e { l with agentToClient := c } := by
  obtain ⟨op, a⟩ := e
  cases op <;> cases he <;> exact ⟨rfl, h, rfl, rfl, rfl, rfl, nofun⟩

theorem agentAnswers_proxyRecv {e : Event agentSig} {r : RecvEvent ProxyContent}
    {c : Channel ProxyContent} (he : proxyRecv e = some r) (h : l.proxyToAgent.Recv r c) :
    AgentAnswers l e { l with proxyToAgent := c } := by
  obtain ⟨op, a⟩ := e
  cases op <;> cases he
  exact ⟨rfl, rfl, h, rfl, rfl, rfl, nofun⟩

theorem agentAnswers_proxySent {e : Event agentSig} {x : SendEvent AgentContent}
    {c : Channel AgentContent} (he : proxySent e = some x) (h : l.agentToProxy.Send x c) :
    AgentAnswers l e { l with agentToProxy := c } := by
  obtain ⟨op, a⟩ := e
  cases op <;> cases he <;> exact ⟨rfl, rfl, rfl, h, rfl, rfl, nofun⟩

/-- **The links answer the agent**, unless it waits for what has not come. -/
theorem exists_agentAnswers {op : AgentOp}
    (hread : op = .clientRead → l.clientToAgent.closed = true)
    (hnext : op = .proxyNext → l.proxyToAgent.closed = true) :
    ∃ a l', AgentAnswers l ⟨op, a⟩ l' := by
  cases op with
  | newUuid => exact ⟨"", l, agentAnswers_quiet l rfl rfl rfl rfl rfl⟩
  | random32Bytes => exact ⟨⟨List.replicate 32 0, rfl⟩, l, agentAnswers_quiet l rfl rfl rfl rfl rfl⟩
  | pending => exact ⟨false, l, agentAnswers_quiet l rfl rfl rfl rfl rfl⟩
  | clientSend bytes => exact ⟨.ok (), l, agentAnswers_quiet l rfl rfl rfl rfl rfl⟩
  | proxyConnect => exact ⟨none, l, agentAnswers_quiet l rfl rfl rfl rfl rfl⟩
  | proxySetNodelay | udpBind | udpSendTo =>
    exact ⟨.ok (), l, agentAnswers_quiet l rfl rfl rfl rfl rfl⟩
  | udpLocalAddr => exact ⟨.error "", l, agentAnswers_quiet l rfl rfl rfl rfl rfl⟩
  | udpRecvFrom => exact ⟨.error "", l, agentAnswers_quiet l rfl rfl rfl rfl rfl⟩
  | lookup => exact ⟨.error "", l, agentAnswers_quiet l rfl rfl rfl rfl rfl⟩
  | spawnClientToProxy | spawnProxyToClient =>
    exact ⟨(), l, agentAnswers_quiet l rfl rfl rfl rfl rfl⟩
  | clientRead =>
    rcases Channel.exists_recv (hread rfl) with ⟨b, c, hc⟩ | ⟨c, hc⟩
    · exact ⟨.ok [b], _, agentAnswers_clientRecv l rfl hc⟩
    · exact ⟨.ok [], _, agentAnswers_clientRecv l rfl hc⟩
  | clientFeed bytes =>
    obtain ⟨c, hc⟩ := Channel.exists_feed l.agentToClient bytes
    exact ⟨.ok (), _, agentAnswers_clientSent l rfl hc⟩
  | clientFlush =>
    obtain ⟨c, hc⟩ := Channel.exists_flush l.agentToClient
    exact ⟨.ok (), _, agentAnswers_clientSent l rfl hc⟩
  | clientClose =>
    obtain ⟨c, hc⟩ := Channel.exists_close l.agentToClient
    exact ⟨.ok (), _, agentAnswers_clientSent l rfl hc⟩
  | proxyNext =>
    rcases Channel.exists_recv (hnext rfl) with ⟨x, c, hc⟩ | ⟨c, hc⟩
    · exact ⟨some (.ok ⟨x.1, x.2.1, .plain, x.2.2⟩), _, agentAnswers_proxyRecv l rfl hc⟩
    · exact ⟨none, _, agentAnswers_proxyRecv l rfl hc⟩
  | proxyFeed message =>
    obtain ⟨c, hc⟩ := Channel.exists_feed l.agentToProxy [message.content]
    exact ⟨.ok (), _, agentAnswers_proxySent l rfl hc⟩
  | proxyFlush =>
    obtain ⟨c, hc⟩ := Channel.exists_flush l.agentToProxy
    exact ⟨.ok (), _, agentAnswers_proxySent l rfl hc⟩
  | proxyClose =>
    obtain ⟨c, hc⟩ := Channel.exists_close l.agentToProxy
    exact ⟨.ok (), _, agentAnswers_proxySent l rfl hc⟩

/-- An operation of the proxy that touches no link can be answered. -/
theorem proxyAnswers_quiet {e : Event proxySig} (har : agentRecv e = none)
    (has : agentSent e = none) (hdr : dstRecv e = none) (hds : dstSent e = none) :
    ProxyAnswers l e l := by
  refine ⟨?_, ?_, ?_, ?_, rfl, rfl⟩
  · rw [har]; rfl
  · rw [has]; rfl
  · rw [hdr]; rfl
  · rw [hds]; rfl

theorem proxyAnswers_agentRecv {e : Event proxySig} {r : RecvEvent AgentContent}
    {c : Channel AgentContent} (he : agentRecv e = some r) (h : l.agentToProxy.Recv r c) :
    ProxyAnswers l e { l with agentToProxy := c } := by
  obtain ⟨op, a⟩ := e
  cases op <;> cases he
  exact ⟨h, rfl, rfl, rfl, rfl, rfl⟩

theorem proxyAnswers_agentSent {e : Event proxySig} {x : SendEvent ProxyContent}
    {c : Channel ProxyContent} (he : agentSent e = some x) (h : l.proxyToAgent.Send x c) :
    ProxyAnswers l e { l with proxyToAgent := c } := by
  obtain ⟨op, a⟩ := e
  cases op <;> cases he <;> exact ⟨rfl, h, rfl, rfl, rfl, rfl⟩

theorem proxyAnswers_dstRecv {e : Event proxySig} {r : RecvEvent UInt8} {c : Channel UInt8}
    (he : dstRecv e = some r) (h : l.dstToProxy.Recv r c) :
    ProxyAnswers l e { l with dstToProxy := c } := by
  obtain ⟨op, a⟩ := e
  cases op <;> cases he
  exact ⟨rfl, rfl, h, rfl, rfl, rfl⟩

theorem proxyAnswers_dstSent {e : Event proxySig} {x : SendEvent UInt8} {c : Channel UInt8}
    (he : dstSent e = some x) (h : l.proxyToDst.Send x c) :
    ProxyAnswers l e { l with proxyToDst := c } := by
  obtain ⟨op, a⟩ := e
  cases op <;> cases he <;> exact ⟨rfl, rfl, rfl, h, rfl, rfl⟩

theorem exists_proxyAnswers {op : ProxyOp}
    (hread : op = .dstRead → l.dstToProxy.closed = true)
    (hnext : op = .agentNext → l.agentToProxy.closed = true) :
    ∃ a l', ProxyAnswers l ⟨op, a⟩ l' := by
  cases op with
  | fetchAdd | fetchSub | spawnAgentToDst | spawnDstToAgent =>
    exact ⟨(), l, proxyAnswers_quiet l rfl rfl rfl rfl⟩
  | newUuid => exact ⟨"", l, proxyAnswers_quiet l rfl rfl rfl rfl⟩
  | random32Bytes => exact ⟨⟨List.replicate 32 0, rfl⟩, l, proxyAnswers_quiet l rfl rfl rfl rfl⟩
  | pending => exact ⟨false, l, proxyAnswers_quiet l rfl rfl rfl rfl⟩
  | lookup => exact ⟨.error "", l, proxyAnswers_quiet l rfl rfl rfl rfl⟩
  | tcpConnect | udpConnect => exact ⟨none, l, proxyAnswers_quiet l rfl rfl rfl rfl⟩
  | setNodelay | setLinger | udpBind | udpSend =>
    exact ⟨.ok (), l, proxyAnswers_quiet l rfl rfl rfl rfl⟩
  | udpRecv => exact ⟨none, l, proxyAnswers_quiet l rfl rfl rfl rfl⟩
  | dstRead =>
    rcases Channel.exists_recv (hread rfl) with ⟨b, c, hc⟩ | ⟨c, hc⟩
    · exact ⟨.ok [b], _, proxyAnswers_dstRecv l rfl hc⟩
    · exact ⟨.ok [], _, proxyAnswers_dstRecv l rfl hc⟩
  | dstFeed bytes =>
    obtain ⟨c, hc⟩ := Channel.exists_feed l.proxyToDst bytes
    exact ⟨.ok (), _, proxyAnswers_dstSent l rfl hc⟩
  | dstFlush =>
    obtain ⟨c, hc⟩ := Channel.exists_flush l.proxyToDst
    exact ⟨.ok (), _, proxyAnswers_dstSent l rfl hc⟩
  | dstClose =>
    obtain ⟨c, hc⟩ := Channel.exists_close l.proxyToDst
    exact ⟨.ok (), _, proxyAnswers_dstSent l rfl hc⟩
  | agentNext =>
    rcases Channel.exists_recv (hnext rfl) with ⟨x, c, hc⟩ | ⟨c, hc⟩
    · exact ⟨some (.ok ⟨x.1, x.2.1, .plain, x.2.2⟩), _, proxyAnswers_agentRecv l rfl hc⟩
    · exact ⟨none, _, proxyAnswers_agentRecv l rfl hc⟩
  | agentFeed message =>
    obtain ⟨c, hc⟩ := Channel.exists_feed l.proxyToAgent [message.content]
    exact ⟨.ok (), _, proxyAnswers_agentSent l rfl hc⟩
  | agentFlush =>
    obtain ⟨c, hc⟩ := Channel.exists_flush l.proxyToAgent
    exact ⟨.ok (), _, proxyAnswers_agentSent l rfl hc⟩
  | agentClose =>
    obtain ⟨c, hc⟩ := Channel.exists_close l.proxyToAgent
    exact ⟨.ok (), _, proxyAnswers_agentSent l rfl hc⟩

end

/-! ## Where nothing moves -/

namespace System

variable {setup : Setup} {s : System}

/-- A task of the agent that the links can always answer has returned. -/
theorem Inv.agent_done (h : Inv setup s) (hq : s.Quiescent setup) (who : Option Side)
    (hthere : ∀ side, who = some side → AgentRelays setup s side)
    (hanswer : ∀ op, (agentSpec setup).assertion who (some op) (s.agent.trace who) →
      ∃ a l', AgentAnswers s.links ⟨op, a⟩ l') : (agentSpec setup).Done s.agent who := by
  rcases h.agent.progress who hthere with hdone | ⟨g, hstep⟩ | ⟨op, hop, hstep⟩
  · exact hdone
  · exact (hq _ (.agentSilent hstep)).elim
  · obtain ⟨a, l, hl⟩ := hanswer op hop
    obtain ⟨g, hg⟩ := hstep a
    exact (hq _ (.agent hg hl)).elim

theorem Inv.proxy_done (h : Inv setup s) (hq : s.Quiescent setup) (who : Option Side)
    (hthere : ∀ side, who = some side → ProxyRelays s side)
    (hanswer : ∀ op, proxySpec.assertion who (some op) (s.proxy.trace who) →
      ∃ a l', ProxyAnswers s.links ⟨op, a⟩ l') : proxySpec.Done s.proxy who := by
  rcases h.proxy.progress who hthere with hdone | ⟨g, hstep⟩ | ⟨op, hop, hstep⟩
  · exact hdone
  · exact (hq _ (.proxySilent hstep)).elim
  · obtain ⟨a, l, hl⟩ := hanswer op hop
    obtain ⟨g, hg⟩ := hstep a
    exact (hq _ (.proxy hg hl)).elim

/-! ## What the relay tasks read -/

/-- **The proxy's relay task reads nothing but data.** -/
theorem Inv.proxy_taken (h : Inv setup s) :
    ∀ c ∈ agentToDstPump.taken (s.proxy.trace (some .up)), IsAgentData c := by
  by_cases hup : ProxyRelays s .up
  · obtain ⟨stage, hat⟩ := proxyMain_stage h.proxy.main
    obtain ⟨c, src, dst, tunnelId, -, -, hdialog⟩ := hat.granted ((hat.spawned .up).1 hup)
    have hopens := h.agentToProxy_read_opens
    rw [h.proxyEnds.agentToProxy.read, Tasks.history, List.flatMap_append,
      show (s.proxy.trace none).filterMap agentRecv = [.read [c]] from hdialog.got] at hopens
    exact hopens.tail
  · rw [h.proxy_trace_nil hup]
    exact fun c hc => (List.not_mem_nil hc).elim

/-- The agent's main task has heard the grant before the relay tasks are there. -/
theorem Inv.agent_granted (h : Inv setup s) {side : Side} (hside : AgentRelays setup s side) :
    ∃ c, Grants c ∧ (s.agent.trace none).filterMap proxyRecv = [.read [c]] := by
  obtain ⟨ask, stage, -, got, hheard, hat⟩ := agentMain_stage h.agent.main
  have hrunning := (hat.running side).1 hside
  have hgot : (s.agent.trace none).filterMap proxyRecv = got := hat.got
  rw [hgot]
  cases stage with
  | spawning | relaying => exact hheard
  | _ => cases hrunning

theorem Inv.proxyToAgent_read_opens (h : Inv setup s) :
    Channel.Opens (fun c => ∃ src dst result, c.2.2 = .tcp (.init src dst result)) IsProxyData
      s.links.proxyToAgent.read :=
  h.proxyToAgent_opens.of_prefix s.links.proxyToAgent.read_fed

/-- **The agent's relay task reads nothing but data.** -/
theorem Inv.agent_taken (h : Inv setup s) :
    ∀ c ∈ proxyToClientPump.taken (s.agent.trace (some .down)), IsProxyData c := by
  by_cases hdown : AgentRelays setup s .down
  · obtain ⟨c, -, hgot⟩ := h.agent_granted hdown
    have hopens := h.proxyToAgent_read_opens
    rw [h.agentEnds.proxyToAgent.read, Tasks.history, List.flatMap_append, hgot] at hopens
    exact hopens.tail
  · rw [h.agent_trace_nil hdown]
    exact fun c hc => (List.not_mem_nil hc).elim

/-- A grant that the agent has heard is one that the proxy has sent. -/
theorem Inv.proxy_granted (h : Inv setup s) {c : ProxyContent}
    (hread : c ∈ s.links.proxyToAgent.read.head?) (hc : Grants c) :
    ∃ request src dst tunnelId running, request.2.2 = .tcp (.init src dst) ∧
      IsRequest setup request ∧ Warrants dst s.proxy.main.trace (.success tunnelId) ∧
      c.2.2 = .tcp (.init src dst (.success tunnelId)) ∧
      proxyDialog.At [.read [request]] [.tcp (.init src dst (.success tunnelId))] running
        s.proxy.main.trace := by
  obtain ⟨stage, hat⟩ := proxyMain_stage h.proxy.main
  obtain ⟨src', dst', tunnelId', hc⟩ := hc
  obtain ⟨xs, hxs⟩ := s.links.proxyToAgent.read_fed
  have hfed : c ∈ s.links.proxyToAgent.fed.head? := by
    rw [← hxs]
    exact List.mem_head?_append_of_mem_head? hread
  rw [h.proxyEnds.proxyToAgent.fed h.proxyToAgent_inTime, Tasks.history, List.flatMap_append]
    at hfed
  have hempty : ((s.proxy.trace none).filterMap agentSent).flatMap SendEvent.fed = [] →
      .down ∈ stage.running := by
    intro hmain
    by_contra hdown
    rw [hmain, h.proxy_trace_nil (fun h' => hdown ((hat.spawned .down).1 h'))] at hfed
    cases hfed
  have hsaid : ∀ {src dst result}, (((s.proxy.trace none).filterMap agentSent).flatMap
      SendEvent.fed).map (fun c => c.2.2) = [.tcp (.init src dst result)] →
      c.2.2 = .tcp (.init src dst result) := by
    intro src dst result hmap
    obtain ⟨c', hc', hpayload⟩ := List.map_eq_singleton_iff.1 hmap
    rw [hc'] at hfed
    obtain rfl : c' = c := Option.some.inj hfed
    exact hpayload
  cases stage with
  | accepted | first =>
    exact (List.not_mem_nil (hempty (List.map_eq_nil_iff.1 (Dialog.At.said hat)))).elim
  | udp c =>
    obtain ⟨⟨u, hu⟩, said, -, hat⟩ := hat
    obtain ⟨ask, -, hask⟩ := h.proxy_heard hat.got
    rw [hask] at hu
    cases hu
  | answered request src dst result =>
    obtain ⟨hrequest, hwarrants, hdialog⟩ := hat
    have hpayload := hsaid hdialog.said
    obtain ⟨rfl, rfl, rfl⟩ : src' = src ∧ dst' = dst ∧ result = .success tunnelId' := by
      simpa [eq_comm] using hc.symm.trans hpayload
    exact ⟨request, _, _, _, _, hrequest, h.proxy_heard hdialog.got, hwarrants, hpayload, hdialog⟩
  | spawning request src dst tunnelId | relaying request src dst tunnelId =>
    obtain ⟨hrequest, hwarrants, hdialog⟩ := hat
    exact ⟨request, _, _, _, _, hrequest, h.proxy_heard hdialog.got, hwarrants, hsaid hdialog.said,
      hdialog⟩

/-! ## The tasks where nothing moves -/

section
variable (h : Inv setup s) (hq : s.Quiescent setup) (hintact : s.links.Intact)
include h hq

/-- The main task of the agent has spawned both relay tasks if it has spawned one. -/
theorem Inv.agent_relays (hup : AgentRelays setup s .up) : AgentRelays setup s .down := by
  have hdone := h.agent_done hq none nofun fun op hop => by
    rcases agentMain_spawned hop with hnone | ⟨rfl, -⟩
    · exact (hnone .up hup).elim
    · exact exists_agentAnswers _ nofun nofun
  obtain ⟨r, ⟨hnil, -⟩ | ⟨ask, stage, -, ⟨got, -, hat⟩, hend⟩⟩ := hdone
  · rw [AgentRelays, show s.agent.main.trace = [] from hnil] at hup
    exact (Tasks.spawned_nil _ hup).elim
  · rcases hend with ⟨-, rfl⟩ | ⟨-, hrunning⟩
    · exact (hat.running .down).2 (by simp [AgentStage.running])
    · have := (hat.running .up).1 hup
      rw [hrunning] at this
      cases this

include hintact

/-- The task from the client to the proxy has passed on everything. -/
theorem Inv.clientToProxy_complete (hup : AgentRelays setup s .up)
    (hclosed : s.links.clientToAgent.closed = true) :
    clientToProxyPump.outValues (clientToProxyPump.fed (s.agent.trace (some .up))) =
        clientToProxyPump.inValues (clientToProxyPump.taken (s.agent.trace (some .up))) ∧
      s.links.clientToAgent.read = s.links.clientToAgent.fed ∧
      s.links.agentToProxy.closed = true := by
  have hdone := h.agent_done hq (some .up) (by rintro _ ⟨⟩; exact hup) fun op hop => by
    refine exists_agentAnswers _ (fun _ => hclosed) ?_
    rintro rfl
    exact hop.1.elim
  exact hdone.complete h.agentEnds.clientToAgent h.agentEnds.agentToProxy h.agentToProxy_inTime
    hintact.clientToAgent hintact.agentToProxy fun a _ => nofun

/-- The main task of the proxy has spawned both relay tasks. -/
theorem Inv.proxy_relays (hup : AgentRelays setup s .up) (side : Side) : ProxyRelays s side := by
  obtain ⟨c, hc, hgot⟩ := h.agent_granted hup
  have hread : c ∈ s.links.proxyToAgent.read.head? := by
    rw [h.agentEnds.proxyToAgent.read, Tasks.history, List.flatMap_append, hgot]
    rfl
  obtain ⟨request, src, dst, tunnelId, running, hrequest, -, -, -, hat⟩ := h.proxy_granted hread hc
  have hnone : ∀ side, none = some side → Tasks.Spawned Proxy.spawn side s.proxy.main.trace := by
    intro side hside
    cases hside
  have hdone := h.proxy_done hq none hnone fun op hop => by
    refine exists_proxyAnswers _ ?_ fun h => (proxyMain_answered hop hat h).elim
    rintro rfl
    exact (proxyMain_not_dst hop trivial).elim
  obtain ⟨r, stage, hstage, hfinal⟩ := hdone
  suffices hrelaying : stage.running = [.up, .down] by
    refine (hstage.spawned side).2 ?_
    rw [hrelaying]
    cases side <;> simp
  cases stage with
  | accepted | spawning => exact hfinal.elim
  | first r =>
    have := (Dialog.At.said hstage).symm.trans hat.said
    cases this
  | udp c' =>
    obtain ⟨⟨u, hu⟩, said, -, hudp⟩ := hstage
    obtain ⟨rfl⟩ : c' = request := by simpa using hudp.got.symm.trans hat.got
    rw [hrequest] at hu
    cases hu
  | answered c' src' dst' result =>
    have hsaid := hstage.2.2.said.symm.trans hat.said
    obtain ⟨-, -, rfl⟩ : src' = src ∧ dst' = dst ∧ result = .success tunnelId := by
      simpa using hsaid
    obtain ⟨e, he, hfailed⟩ := hfinal
    have hbroken := h.proxyEnds.proxyToAgent.broken h.proxyToAgent_inTime
      (List.mem_append_left _ he) hfailed
    rw [hintact.proxyToAgent] at hbroken
    cases hbroken
  | relaying => rfl

/-- The task from the proxy to the destination has passed on everything. -/
theorem Inv.agentToDst_complete (hup : AgentRelays setup s .up)
    (hclosed : s.links.agentToProxy.closed = true) :
    agentToDstPump.outValues (agentToDstPump.fed (s.proxy.trace (some .up))) =
        agentToDstPump.inValues (agentToDstPump.taken (s.proxy.trace (some .up))) ∧
      s.links.agentToProxy.read = s.links.agentToProxy.fed ∧
      s.links.proxyToDst.closed = true := by
  have hrelays := h.proxy_relays hq hintact hup .up
  have hdone := h.proxy_done hq (some .up) (by rintro _ ⟨⟩; exact hrelays) fun op hop => by
    refine exists_proxyAnswers _ ?_ fun _ => hclosed
    rintro rfl
    exact hop.1.elim
  refine hdone.complete h.proxyEnds.agentToProxy h.proxyEnds.proxyToDst h.proxyToDst_inTime
    hintact.agentToProxy hintact.proxyToDst fun c hc hnone => ?_
  have hdata := agentData_isSome.2 (h.proxy_taken c hc)
  rw [show agentData c = none from hnone] at hdata
  cases hdata

/-- The task from the destination to the proxy has passed on everything. -/
theorem Inv.dstToAgent_complete (hup : AgentRelays setup s .up)
    (hclosed : s.links.dstToProxy.closed = true) :
    dstToAgentPump.outValues (dstToAgentPump.fed (s.proxy.trace (some .down))) =
        dstToAgentPump.inValues (dstToAgentPump.taken (s.proxy.trace (some .down))) ∧
      s.links.dstToProxy.read = s.links.dstToProxy.fed ∧
      s.links.proxyToAgent.closed = true := by
  have hrelays := h.proxy_relays hq hintact hup .down
  have hdone := h.proxy_done hq (some .down) (by rintro _ ⟨⟩; exact hrelays) fun op hop => by
    refine exists_proxyAnswers _ (fun _ => hclosed) ?_
    rintro rfl
    exact hop.1.elim
  exact hdone.complete h.proxyEnds.dstToProxy h.proxyEnds.proxyToAgent h.proxyToAgent_inTime
    hintact.dstToProxy hintact.proxyToAgent fun a _ => nofun

/-- The task from the agent to the client has passed on everything. -/
theorem Inv.proxyToClient_complete (hup : AgentRelays setup s .up)
    (hclosed : s.links.proxyToAgent.closed = true) :
    proxyToClientPump.outValues (proxyToClientPump.fed (s.agent.trace (some .down))) =
        proxyToClientPump.inValues (proxyToClientPump.taken (s.agent.trace (some .down))) ∧
      s.links.proxyToAgent.read = s.links.proxyToAgent.fed ∧
      s.links.agentToClient.closed = true := by
  have hrelays := h.agent_relays hq hup
  have hdone := h.agent_done hq (some .down) (by rintro _ ⟨⟩; exact hrelays) fun op hop => by
    refine exists_agentAnswers _ ?_ fun _ => hclosed
    rintro rfl
    exact hop.1.elim
  refine hdone.complete h.agentEnds.proxyToAgent h.agentEnds.agentToClient h.agentToClient_inTime
    hintact.proxyToAgent hintact.agentToClient fun c hc hnone => ?_
  have hdata := proxyData_isSome.2 (h.agent_taken c hc)
  rw [show proxyData c = none from hnone] at hdata
  cases hdata

end

/-! ## The two directions -/

theorem Inv.toDst_le (h : Inv setup s) : s.links.proxyToDst.written <+:
    setup.request.initData ++ s.links.clientToAgent.fed := by
  refine s.links.proxyToDst.written_fed.trans ?_
  have hle := (Pump.outValues_le (h.proxy.respects (some .up))).1
  rw [outValues_bytes (p := agentToDstPump) rfl, ← h.proxyToDst_fed] at hle
  refine hle.trans ?_
  by_cases hup : ProxyRelays s .up
  · rw [← h.agentToProxy_read hup]
    have hclient := s.links.clientToAgent.read_fed
    exact (s.links.agentToProxy.read_fed.flatMap _).trans
      (h.up_le.trans ((List.prefix_append_right_inj _).2 hclient))
  · rw [h.proxy_trace_nil hup]
    exact List.nil_prefix

theorem Inv.toClient_le (h : Inv setup s) :
    s.links.agentToClient.written <+: s.links.dstToProxy.fed := by
  refine s.links.agentToClient.written_fed.trans ?_
  have hle := (Pump.outValues_le (h.agent.respects (some .down))).1
  rw [outValues_bytes (p := proxyToClientPump) rfl, ← h.agentToClient_fed] at hle
  refine hle.trans ?_
  by_cases hdown : AgentRelays setup s .down
  · rw [← h.proxyToAgent_read hdown]
    exact (s.links.proxyToAgent.read_fed.flatMap _).trans
      (h.down_le.trans s.links.dstToProxy.read_fed)
  · rw [h.agent_trace_nil hdown]
    exact List.nil_prefix

section
variable (h : Inv setup s) (hq : s.Quiescent setup) (hintact : s.links.Intact)
  (hup : AgentRelays setup s .up)
include h hq hintact hup

theorem Inv.toDst_eq (hclient : s.links.clientToAgent.closed = true) :
    s.links.proxyToDst.written = setup.request.initData ++ s.links.clientToAgent.fed := by
  obtain ⟨hvalues, hall, hsent⟩ := h.clientToProxy_complete hq hintact hup hclient
  obtain ⟨hvalues', hall', hsent'⟩ := h.agentToDst_complete hq hintact hup hsent
  obtain ⟨d, hdata, -, hd⟩ := h.agentToProxy_data
  rw [outValues_bytes (p := agentToDstPump) rfl] at hvalues'
  calc s.links.proxyToDst.written
      = agentToDstPump.fed (s.proxy.trace (some .up)) := by
        rw [s.links.proxyToDst.closed_written hsent', h.proxyToDst_fed]
    _ = agentToDstPump.inValues s.links.agentToProxy.read := by
        rw [hvalues', h.agentToProxy_read (h.proxy_relays hq hintact hup .up)]
    _ = clientToProxyPump.outValues s.links.agentToProxy.fed := by rw [hall']; rfl
    _ = setup.request.initData ++ clientToProxyPump.inValues
          (clientToProxyPump.taken (s.agent.trace (some .up))) := by rw [hdata, hd hup, hvalues]
    _ = setup.request.initData ++ s.links.clientToAgent.fed := by
        rw [inValues_bytes (p := clientToProxyPump) rfl, ← h.clientToAgent_read, hall]

theorem Inv.toClient_eq (hdst : s.links.dstToProxy.closed = true) :
    s.links.agentToClient.written = s.links.dstToProxy.fed := by
  obtain ⟨hvalues, hall, hsent⟩ := h.dstToAgent_complete hq hintact hup hdst
  obtain ⟨hvalues', hall', hsent'⟩ := h.proxyToClient_complete hq hintact hup hsent
  rw [outValues_bytes (p := proxyToClientPump) rfl] at hvalues'
  calc s.links.agentToClient.written
      = proxyToClientPump.fed (s.agent.trace (some .down)) := by
        rw [s.links.agentToClient.closed_written hsent', h.agentToClient_fed]
    _ = proxyToClientPump.inValues s.links.proxyToAgent.read := by
        rw [hvalues', h.proxyToAgent_read (h.agent_relays hq hup)]
    _ = dstToAgentPump.outValues s.links.proxyToAgent.fed := by rw [hall']; rfl
    _ = dstToAgentPump.inValues (dstToAgentPump.taken (s.proxy.trace (some .down))) := by
        rw [h.proxyToAgent_data, hvalues]
    _ = s.links.dstToProxy.fed := by
        rw [inValues_bytes (p := dstToAgentPump) rfl, ← h.dstToProxy_read, hall]

end

/-! ## Integrity -/

/-- What has been delivered, and what the tasks have read. -/
structure Delivers (setup : Setup) (s : System) : Prop where
  toDst : s.links.proxyToDst.written <+: setup.request.initData ++ s.links.clientToAgent.fed
  toClient : s.links.agentToClient.written <+: s.links.dstToProxy.fed
  proxyRelay : ∀ c ∈ agentToDstPump.taken (s.proxy.trace (some .up)), IsAgentData c
  agentRelay : ∀ c ∈ proxyToClientPump.taken (s.agent.trace (some .down)), IsProxyData c
  /-- the agent reads the answer to its request, and then only data -/
  agentReads : Channel.Opens (fun c => ∃ src dst result, c.2.2 = .tcp (.init src dst result))
    IsProxyData s.links.proxyToAgent.read

/-- Everything has been delivered. -/
structure DeliversAll (setup : Setup) (s : System) : Prop where
  toDst : s.links.proxyToDst.written = setup.request.initData ++ s.links.clientToAgent.fed
  toClient : s.links.agentToClient.written = s.links.dstToProxy.fed

/-- The tunnel is in use (the agent relays), both ends have closed, no link has failed, and no task
can take a step. -/
structure Finished (setup : Setup) (s : System) : Prop where
  established : s.agent.task .up ≠ none
  clientClosed : s.links.clientToAgent.closed = true
  dstClosed : s.links.dstToProxy.closed = true
  intact : s.links.Intact
  quiescent : s.Quiescent setup

/-- **Integrity of a tunnel**, in every reachable state. -/
theorem tunnel_integrity (setup : Setup) (s : System) (h : Reachable setup s) :
    Delivers setup s ∧ (Finished setup s → DeliversAll setup s) := by
  have hinv := reachable_inv h
  refine ⟨⟨hinv.toDst_le, hinv.toClient_le, hinv.proxy_taken, hinv.agent_taken,
    hinv.proxyToAgent_read_opens⟩, fun ⟨hup, hclient, hdst, hintact, hq⟩ => ?_⟩
  have hrelays : AgentRelays setup s .up := (hinv.agent.spawned .up).1 hup
  exact ⟨hinv.toDst_eq hq hintact hrelays hclient, hinv.toClient_eq hq hintact hrelays hdst⟩

/-- A SOCKS5 client that asks for `10.0.0.1:80`. -/
def connectSetup : Setup where
  http := Agent.HttpLib.none
  agentConfig := ⟨"user1", none⟩
  proxyConfig := ⟨none, none, none⟩
  srcAddress := .ip (.v4 ⟨10, 0, 0, 2⟩ 40000)
  request := .socks5 (.ip (.v4 ⟨10, 0, 0, 1⟩ 80))

/-! ## A run to the end -/

open Channel

section
variable {setup : Setup} {s : System} {l : Links}

/-- The tasks of the agent move, and the links answer. -/
theorem reachable_agent {g : Tasks agentSig (Except (Fault AgentError) Unit)}
    (h : Reachable setup s)
    (hs : Tasks.Reaches (Agent.spawn setup.agentConfig) AgentAnswers (s.agent, s.links) (g, l)) :
    Reachable setup ⟨g, s.proxy, l⟩ := by
  let within : Tasks agentSig _ × Links → System := fun x => ⟨x.1, s.proxy, x.2⟩
  refine h.trans (hs.lift within ?_)
  rintro _ _ @⟨_, _, _, e, _, _, hstep, hmoves⟩
  cases e with
  | none =>
    cases hmoves
    exact .task (.agentSilent hstep)
  | some e => exact .task (.agent hstep hmoves)

/-- And those of the proxy. -/
theorem reachable_proxy {g : Tasks proxySig (Except ProxyServerError Unit)}
    (h : Reachable setup s)
    (hs : Tasks.Reaches Proxy.spawn ProxyAnswers (s.proxy, s.links) (g, l)) :
    Reachable setup ⟨s.agent, g, l⟩ := by
  let within : Tasks proxySig _ × Links → System := fun x => ⟨s.agent, x.1, x.2⟩
  refine h.trans (hs.lift within ?_)
  rintro _ _ @⟨_, _, _, e, _, _, hstep, hmoves⟩
  cases e with
  | none =>
    cases hmoves
    exact .task (.proxySilent hstep)
  | some e => exact .task (.proxy hstep hmoves)

/-- The main task of the agent performs its next operation. -/
theorem reachable_agentMain (op : AgentOp) (a : op.Ans) {k : op.Ans → Prog agentSig _}
    (h : Reachable setup s) (hg : s.agent.main.prog = .vis op k)
    (hl : AgentAnswers s.links ⟨op, a⟩ l) :
    Reachable setup ⟨Tasks.spawned (Agent.spawn setup.agentConfig)
      { s.agent with main := ⟨k a, s.agent.main.trace ++ [⟨op, a⟩]⟩ } (some ⟨op, a⟩), s.proxy,
      l⟩ :=
  reachable_agent h (.single (Tasks.in_main (S := agentSig) op a hg hl))

/-- And that of the proxy. -/
theorem reachable_proxyMain (op : ProxyOp) (a : op.Ans) {k : op.Ans → Prog proxySig _}
    (h : Reachable setup s) (hg : s.proxy.main.prog = .vis op k)
    (hl : ProxyAnswers s.links ⟨op, a⟩ l) :
    Reachable setup ⟨s.agent, Tasks.spawned Proxy.spawn
      { s.proxy with main := ⟨k a, s.proxy.main.trace ++ [⟨op, a⟩]⟩ } (some ⟨op, a⟩), l⟩ :=
  reachable_proxy h (.single (Tasks.in_main (S := proxySig) op a hg hl))

/-- A relay task of the agent runs to its end. -/
theorem reachable_agentTask (side : Side) {p : Prog agentSig Unit} {t : Trace agentSig}
    (h : Reachable setup s) (hth : s.agent.task side = some ⟨p, t⟩)
    (hexec : Exec AgentAnswers p s.links () l) :
    ∃ t', Reachable setup ⟨{ s.agent with
      task := Function.update s.agent.task side (some ⟨.ret (), t'⟩) }, s.proxy, l⟩ := by
  obtain ⟨t', hs, -⟩ := Tasks.reaches_of_exec side hth hexec
  exact ⟨t', reachable_agent h hs⟩

/-- A relay task of the proxy runs to its end. -/
theorem reachable_proxyTask (side : Side) {p : Prog proxySig Unit} {t : Trace proxySig}
    (h : Reachable setup s) (hth : s.proxy.task side = some ⟨p, t⟩)
    (hexec : Exec ProxyAnswers p s.links () l) :
    ∃ t', Reachable setup ⟨s.agent, { s.proxy with
      task := Function.update s.proxy.task side (some ⟨.ret (), t'⟩) }, l⟩ := by
  obtain ⟨t', hs, -⟩ := Tasks.reaches_of_exec side hth hexec
  exact ⟨t', reachable_proxy h hs⟩

/-- Tasks that have returned take no step. -/
theorem quiescent_of_returned {r : Except (Fault AgentError) Unit}
    {r' : Except ProxyServerError Unit} (hagent : s.agent.main.prog = .ret r)
    (hproxy : s.proxy.main.prog = .ret r')
    (hagentTask : ∀ side th, s.agent.task side = some th → th.prog = .ret ())
    (hproxyTask : ∀ side th, s.proxy.task side = some th → th.prog = .ret ()) :
    s.Quiescent setup := by
  rintro s' (⟨hs, -⟩ | hs | ⟨hs, -⟩ | hs)
  · exact hs.not_ret hagent hagentTask
  · exact hs.not_ret hagent hagentTask
  · exact hs.not_ret hproxy hproxyTask
  · exact hs.not_ret hproxy hproxyTask

end

/-! Each relay task, where its stream gives one item and then ends: what is asked of the
environment. -/

section
variable {E : Type} {answer : E → Event agentSig → E → Prop} {s₁ s₂ s₃ s₄ s₅ s₆ : E}

theorem exec_agentAwait (op : AgentOp) (a : op.Ans) (h : answer s₁ ⟨op, a⟩ s₂) :
    Exec answer (Agent.await op) s₁ a s₂ := exec_perform h

variable (hpending : ∀ s, answer s ⟨.pending, false⟩ s)
include hpending

theorem exec_relayClientToProxy (id : String) {user : String}
    {encryption : PpaassMessagePayloadEncryption} {b : UInt8} {bs : Bytes}
    (hread : answer s₁ ⟨.clientRead, .ok (b :: bs)⟩ s₂)
    (hid : answer s₂ ⟨.newUuid, id⟩ s₃)
    (hfeed : answer s₃
      ⟨.proxyFeed (generateAgentTcpDataMessage id user encryption (b :: bs)), .ok ()⟩ s₄)
    (heof : answer s₄ ⟨.clientRead, .ok []⟩ s₅) (hclose : answer s₅ ⟨.proxyClose, .ok ()⟩ s₆)
    (hagain : answer s₆ ⟨.proxyClose, .ok ()⟩ s₆) :
    Exec answer (Agent.relayClientToProxy user encryption) s₁ () s₆ := by
  have hwait : ∀ s, Exec answer (Agent.await .pending) s false s := fun s =>
    exec_agentAwait .pending false (hpending s)
  have hitem : Exec answer (Agent.clientToProxy user encryption).next s₁
      (some (generateAgentTcpDataMessage id user encryption (b :: bs))) s₃ :=
    exec_bind.2 ⟨.ok (b :: bs), _, exec_agentAwait .clientRead _ hread,
      exec_bind.2 ⟨id, _, exec_agentAwait .newUuid id hid, .ret _ _⟩⟩
  have hend : Exec answer (Agent.clientToProxy user encryption).next s₄ none s₅ :=
    exec_bind.2 ⟨.ok [], _, exec_agentAwait .clientRead _ heof, .ret _ _⟩
  exact exec_bind.2 ⟨_, _, Forward.exec_run_item (hwait _) hitem (exec_agentAwait _ _ hfeed)
    (Forward.exec_run_end (hwait _) hend (exec_agentAwait .proxyClose _ hclose)),
    exec_bind.2 ⟨_, _, exec_agentAwait .proxyClose _ hagain, .ret _ _⟩⟩

theorem exec_relayProxyToClient {message : PpaassProxyMessage} {bs : Bytes}
    (hdata : message.payload = .tcp (.data bs))
    (hread : answer s₁ ⟨.proxyNext, some (.ok message)⟩ s₂)
    (hfeed : answer s₂ ⟨.clientFeed bs, .ok ()⟩ s₃) (heof : answer s₃ ⟨.proxyNext, none⟩ s₄)
    (hclose : answer s₄ ⟨.clientClose, .ok ()⟩ s₅)
    (hagain : answer s₅ ⟨.clientClose, .ok ()⟩ s₅) :
    Exec answer Agent.relayProxyToClient s₁ () s₅ := by
  obtain ⟨id, user, encryption, payload⟩ := message
  cases hdata
  have hwait : ∀ s, Exec answer (Agent.await .pending) s false s := fun s =>
    exec_agentAwait .pending false (hpending s)
  have hitem : Exec answer Agent.proxyToClient.next s₁ (some bs) s₂ :=
    exec_bind.2 ⟨some (.ok _), _, exec_agentAwait .proxyNext _ hread, .ret _ _⟩
  have hend : Exec answer Agent.proxyToClient.next s₃ none s₄ :=
    exec_bind.2 ⟨none, _, exec_agentAwait .proxyNext _ heof, .ret _ _⟩
  exact exec_bind.2 ⟨_, _, Forward.exec_run_item (hwait _) hitem (exec_agentAwait _ _ hfeed)
    (Forward.exec_run_end (hwait _) hend (exec_agentAwait .clientClose _ hclose)),
    exec_bind.2 ⟨_, _, exec_agentAwait .clientClose _ hagain, .ret _ _⟩⟩

end

section
variable {E : Type} {answer : E → Event proxySig → E → Prop} {s₁ s₂ s₃ s₄ s₅ s₆ : E}

theorem exec_proxyAwait (op : ProxyOp) (a : op.Ans) (h : answer s₁ ⟨op, a⟩ s₂) :
    Exec answer (Proxy.await op) s₁ a s₂ := exec_perform h

variable (hpending : ∀ s, answer s ⟨.pending, false⟩ s)
include hpending

theorem exec_relayAgentToDst {message : PpaassAgentMessage} {bs : Bytes}
    (hdata : message.payload = .tcp (.data bs))
    (hread : answer s₁ ⟨.agentNext, some (.ok message)⟩ s₂)
    (hfeed : answer s₂ ⟨.dstFeed bs, .ok ()⟩ s₃) (heof : answer s₃ ⟨.agentNext, none⟩ s₄)
    (hclose : answer s₄ ⟨.dstClose, .ok ()⟩ s₅) (hagain : answer s₅ ⟨.dstClose, .ok ()⟩ s₅) :
    Exec answer Proxy.TcpHandler.relayAgentToDst s₁ () s₅ := by
  obtain ⟨id, user, encryption, payload⟩ := message
  cases hdata
  have hwait : ∀ s, Exec answer (Proxy.await .pending) s false s := fun s =>
    exec_proxyAwait .pending false (hpending s)
  have hitem : Exec answer Proxy.TcpHandler.agentToDst.next s₁ (some bs) s₂ :=
    exec_bind.2 ⟨some (.ok _), _, exec_proxyAwait .agentNext _ hread, .ret _ _⟩
  have hend : Exec answer Proxy.TcpHandler.agentToDst.next s₃ none s₄ :=
    exec_bind.2 ⟨none, _, exec_proxyAwait .agentNext _ heof, .ret _ _⟩
  exact exec_bind.2 ⟨_, _, Forward.exec_run_item (hwait _) hitem (exec_proxyAwait _ _ hfeed)
    (Forward.exec_run_end (hwait _) hend (exec_proxyAwait .dstClose _ hclose)),
    exec_bind.2 ⟨_, _, exec_proxyAwait .dstClose _ hagain, .ret _ _⟩⟩

theorem exec_relayDstToAgent (id : String) {user : String}
    {encryption : PpaassMessagePayloadEncryption} {b : UInt8} {bs : Bytes}
    (hread : answer s₁ ⟨.dstRead, .ok (b :: bs)⟩ s₂)
    (hid : answer s₂ ⟨.newUuid, id⟩ s₃)
    (hfeed : answer s₃
      ⟨.agentFeed (generateProxyTcpDataMessage id user encryption (b :: bs)), .ok ()⟩ s₄)
    (heof : answer s₄ ⟨.dstRead, .ok []⟩ s₅) (hclose : answer s₅ ⟨.agentClose, .ok ()⟩ s₆)
    (hcount : answer s₆ ⟨.fetchSub, ()⟩ s₆) (hagain : answer s₆ ⟨.agentClose, .ok ()⟩ s₆) :
    Exec answer (Proxy.TcpHandler.relayDstToAgent user encryption) s₁ () s₆ := by
  have hwait : ∀ s, Exec answer (Proxy.await .pending) s false s := fun s =>
    exec_proxyAwait .pending false (hpending s)
  have hitem : Exec answer (Proxy.TcpHandler.dstToAgent user encryption).next s₁
      (some (generateProxyTcpDataMessage id user encryption (b :: bs))) s₃ :=
    exec_bind.2 ⟨.ok (b :: bs), _, exec_proxyAwait .dstRead _ hread,
      exec_bind.2 ⟨id, _, exec_proxyAwait .newUuid id hid, .ret _ _⟩⟩
  have hend : Exec answer (Proxy.TcpHandler.dstToAgent user encryption).next s₄ none s₅ :=
    exec_bind.2 ⟨.ok [], _, exec_proxyAwait .dstRead _ heof, .ret _ _⟩
  refine exec_bind.2 ⟨_, _, Forward.exec_run_item (hwait _) hitem (exec_proxyAwait _ _ hfeed)
    (Forward.exec_run_end (hwait _) hend (exec_proxyAwait .agentClose _ hclose)), ?_⟩
  exact exec_bind.2 ⟨(), _, exec_proxyAwait .fetchSub () hcount,
    exec_bind.2 ⟨_, _, exec_proxyAwait .agentClose _ hagain, .ret _ _⟩⟩

end

/-- Both relay tasks, of which none has begun. -/
def relays {S : Sig} (up down : Prog S Unit) : Side → Option (Thread S Unit) :=
  Function.update (Function.update (fun _ => none) .up (some (.new up))) .down (some (.new down))

/-- A run in which each end has sent two bytes and closed, and the client is told of the tunnel. -/
theorem exists_established : ∃ encryption user encryption' t t' request grant,
    Reachable connectSetup ⟨
      ⟨⟨.ret (.ok ()), t⟩,
        relays (Agent.relayClientToProxy "user1" encryption) Agent.relayProxyToClient⟩,
      ⟨⟨.ret (.ok ()), t'⟩, relays Proxy.TcpHandler.relayAgentToDst
        (Proxy.TcpHandler.relayDstToAgent user encryption')⟩,
      ⟨.flowing [] [104, 105] true, .flowing [request] [] false, .empty,
        .flowing [] [111, 107] true, .flowing [grant] [] false, .empty⟩⟩ ∧
      ∃ bytes, ⟨.clientSend bytes, .ok ()⟩ ∈ t := by
  let token : BlockMode.Block 32 := ⟨List.replicate 32 7, rfl⟩
  let dst : PpaassUnifiedAddress := .ip (.v4 ⟨10, 0, 0, 1⟩ 80)
  let request := generateAgentTcpInitMessage "m1" "user1" connectSetup.srcAddress dst (.aes token.1)
  let grant := generateProxyTcpInitMessage "m2" "user1" connectSetup.srcAddress dst (.aes token.1)
    (.success "t1")
  let told : Bytes := [5, 0, 0, 1, 10, 0, 0, 1, 0, 80]
  have hagent {e : Event agentSig} := @agentAnswers_quiet (e := e)
  -- each end sends and closes
  have h0 : Reachable connectSetup ⟨_, _, ⟨.flowing [] [104, 105] false, _, _, _, _, _⟩⟩ :=
    .single (.env (.clientSend (flowing_feed [] [] [104, 105])))
  have h1 := h0.tail (.env (.clientSend (flowing_close [] [104, 105] false)))
  have h2 := h1.tail (.env (.dstSend (flowing_feed [] [] [111, 107])))
  have h3 := h2.tail (.env (.dstSend (flowing_close [] [111, 107] false)))
  -- the agent asks for the tunnel
  have a1 := reachable_agentMain .random32Bytes token h3 rfl (hagent _ rfl rfl rfl rfl rfl)
  have a2 := reachable_agentMain .newUuid "m1" a1 rfl (hagent _ rfl rfl rfl rfl rfl)
  have a3 := reachable_agentMain .proxyConnect (some (.ok ())) a2 rfl (hagent _ rfl rfl rfl rfl rfl)
  have a4 := reachable_agentMain .proxySetNodelay (.ok ()) a3 rfl (hagent _ rfl rfl rfl rfl rfl)
  have a5 := reachable_agentMain (.proxyFeed request) (.ok ()) a4 rfl
    (agentAnswers_proxySent _ rfl (flowing_feed [] [] [request.content]))
  have a6 := reachable_agentMain .proxyFlush (.ok ()) a5 rfl
    (agentAnswers_proxySent _ rfl (flowing_flush [] _ false))
  -- the proxy grants it
  have hproxy {e : Event proxySig} := @proxyAnswers_quiet (e := e)
  have p1 := reachable_proxyMain .fetchAdd () a6 rfl (hproxy _ rfl rfl rfl rfl)
  have p2 := reachable_proxyMain .newUuid "t1" p1 rfl (hproxy _ rfl rfl rfl rfl)
  have p3 := reachable_proxyMain .agentNext (some (.ok request)) p2 rfl
    (proxyAnswers_agentRecv _ rfl (flowing_read [] [request.content] false))
  have p4 := reachable_proxyMain .random32Bytes token p3 rfl (hproxy _ rfl rfl rfl rfl)
  have p5 := reachable_proxyMain (.tcpConnect _) (some (.ok ())) p4 rfl (hproxy _ rfl rfl rfl rfl)
  have p6 := reachable_proxyMain .setNodelay (.ok ()) p5 rfl (hproxy _ rfl rfl rfl rfl)
  have p7 := reachable_proxyMain .setLinger (.ok ()) p6 rfl (hproxy _ rfl rfl rfl rfl)
  have p8 := reachable_proxyMain .newUuid "m2" p7 rfl (hproxy _ rfl rfl rfl rfl)
  have p9 := reachable_proxyMain (.agentFeed grant) (.ok ()) p8 rfl
    (proxyAnswers_agentSent _ rfl (flowing_feed [] [] [grant.content]))
  have p10 := reachable_proxyMain .agentFlush (.ok ()) p9 rfl
    (proxyAnswers_agentSent _ rfl (flowing_flush [] _ false))
  have p11 := reachable_proxyMain .spawnAgentToDst () p10 rfl (hproxy _ rfl rfl rfl rfl)
  have p12 := reachable_proxyMain (.spawnDstToAgent _ _) () p11 rfl (hproxy _ rfl rfl rfl rfl)
  -- the agent tells the client
  have a7 := reachable_agentMain .proxyNext (some (.ok grant)) p12 rfl
    (agentAnswers_proxyRecv _ rfl (flowing_read [] [grant.content] false))
  have a8 := reachable_agentMain (.clientSend told) (.ok ()) a7 rfl (hagent _ rfl rfl rfl rfl rfl)
  have a9 := reachable_agentMain .random32Bytes token a8 rfl (hagent _ rfl rfl rfl rfl rfl)
  have a10 := reachable_agentMain (.spawnClientToProxy _) () a9 rfl (hagent _ rfl rfl rfl rfl rfl)
  have a11 := reachable_agentMain .spawnProxyToClient () a10 rfl (hagent _ rfl rfl rfl rfl rfl)
  refine ⟨_, _, _, _, _, _, _, a11, told, ?_⟩
  refine List.mem_append_left _ (List.mem_append_left _ (List.mem_append_left _ ?_))
  exact List.mem_concat_self

/-- **A run to the end**: the client is told of the tunnel, each end sends two bytes and closes, and
all tasks return. -/
theorem exists_finished : ∃ s, Reachable connectSetup s ∧ Finished connectSetup s ∧
    s.links.clientToAgent.fed = [104, 105] ∧ s.links.dstToProxy.fed = [111, 107] ∧
    ∃ bytes, ⟨.clientSend bytes, .ok ()⟩ ∈ s.agent.main.trace := by
  obtain ⟨encryption, user, encryption', t, t', request, grant, h, htold⟩ := exists_established
  let data := generateAgentTcpDataMessage "m3" "user1" encryption [104, 105]
  let answer := generateProxyTcpDataMessage "m4" user encryption' [111, 107]
  have hagent {e : Event agentSig} := @agentAnswers_quiet (e := e)
  have hproxy {e : Event proxySig} := @proxyAnswers_quiet (e := e)
  -- the relay tasks, in the order in which the data goes
  obtain ⟨_, h₁⟩ := reachable_agentTask .up h rfl (exec_relayClientToProxy
    (fun l => hagent l rfl rfl rfl rfl rfl) "m3"
    (agentAnswers_clientRecv _ rfl (flowing_read [] [104, 105] true))
    (hagent _ rfl rfl rfl rfl rfl)
    (agentAnswers_proxySent _ rfl (flowing_feed [request] [] [data.content]))
    (agentAnswers_clientRecv _ rfl (flowing_eof [104, 105]))
    (agentAnswers_proxySent _ rfl (flowing_close _ _ false))
    (agentAnswers_proxySent _ rfl (flowing_close _ _ true)))
  obtain ⟨_, h₂⟩ := reachable_proxyTask .up h₁ rfl (exec_relayAgentToDst
    (fun l => hproxy l rfl rfl rfl rfl) (show data.payload = .tcp (.data [104, 105]) from rfl)
    (proxyAnswers_agentRecv _ rfl (flowing_read [request] [data.content] true))
    (proxyAnswers_dstSent _ rfl (flowing_feed [] [] [104, 105]))
    (proxyAnswers_agentRecv _ rfl (flowing_eof [request, data.content]))
    (proxyAnswers_dstSent _ rfl (flowing_close _ _ false))
    (proxyAnswers_dstSent _ rfl (flowing_close _ _ true)))
  obtain ⟨_, h₃⟩ := reachable_proxyTask .down h₂ rfl (exec_relayDstToAgent
    (fun l => hproxy l rfl rfl rfl rfl) "m4"
    (proxyAnswers_dstRecv _ rfl (flowing_read [] [111, 107] true))
    (hproxy _ rfl rfl rfl rfl)
    (proxyAnswers_agentSent _ rfl (flowing_feed [grant] [] [answer.content]))
    (proxyAnswers_dstRecv _ rfl (flowing_eof [111, 107]))
    (proxyAnswers_agentSent _ rfl (flowing_close _ _ false))
    (hproxy _ rfl rfl rfl rfl)
    (proxyAnswers_agentSent _ rfl (flowing_close _ _ true)))
  obtain ⟨_, h₄⟩ := reachable_agentTask .down h₃ rfl (exec_relayProxyToClient
    (fun l => hagent l rfl rfl rfl rfl rfl) (show answer.payload = .tcp (.data [111, 107]) from rfl)
    (agentAnswers_proxyRecv _ rfl (flowing_read [grant] [answer.content] true))
    (agentAnswers_clientSent _ rfl (flowing_feed [] [] [111, 107]))
    (agentAnswers_proxyRecv _ rfl (flowing_eof [grant, answer.content]))
    (agentAnswers_clientSent _ rfl (flowing_close _ _ false))
    (agentAnswers_clientSent _ rfl (flowing_close _ _ true)))
  refine ⟨_, h₄, ⟨nofun, rfl, rfl, ⟨rfl, rfl, rfl, rfl, rfl, rfl⟩, ?_⟩, rfl, rfl, htold⟩
  refine quiescent_of_returned rfl rfl ?_ ?_
  · rintro (_ | _) th ⟨⟩ <;> rfl
  · rintro (_ | _) th ⟨⟩ <;> rfl

theorem tunnel_integrity_finished : ∃ s, Reachable connectSetup s ∧ Finished connectSetup s ∧
    s.links.clientToAgent.fed = [104, 105] ∧ s.links.dstToProxy.fed = [111, 107] ∧
    Delivers connectSetup s ∧ DeliversAll connectSetup s := by
  obtain ⟨s, h, hfinished, hclient, hdst, -⟩ := exists_finished
  obtain ⟨hdelivers, hall⟩ := tunnel_integrity connectSetup s h
  exact ⟨s, h, hfinished, hclient, hdst, hdelivers, hall hfinished⟩

end System

end Ppaass.Tunnel
