import Ppaass.Tunnel.Proof.Invariant

/-!
# What flows through a tunnel

From the invariant: which messages the two links between the agent and the proxy carry, and which
bytes they stand for. `up_le` and `down_le` are the two directions.
-/

namespace Ppaass.Tunnel

open Wire Prog
open Framed (Fault)
open Agent (AgentOp agentSig AgentError)
open Proxy (ProxyOp proxySig ProxyServerError)

/-! ## Values -/

/-- The message is TCP data. -/
def IsAgentData (c : AgentContent) : Prop := ∃ bytes, c.2.2 = .tcp (.data bytes)

def IsProxyData (c : ProxyContent) : Prop := ∃ bytes, c.2.2 = .tcp (.data bytes)

theorem agentData_isSome {c : AgentContent} : (agentData c).isSome = true ↔ IsAgentData c := by
  obtain ⟨id, user, (_ | bytes) | _⟩ := c <;> simp [agentData, IsAgentData]

theorem proxyData_isSome {c : ProxyContent} : (proxyData c).isSome = true ↔ IsProxyData c := by
  obtain ⟨id, user, (_ | bytes) | _⟩ := c <;> simp [proxyData, IsProxyData]

/-! Bytes stand for themselves. -/

theorem inValues_bytes {S : Sig} {B : Type} {p : Pump S UInt8 B UInt8} (hp : p.inValue = byteValue)
    (bs : Bytes) : p.inValues bs = bs := by
  rw [Pump.inValues, hp]
  simp [byteValue]

theorem outValues_bytes {S : Sig} {A : Type} {p : Pump S A UInt8 UInt8}
    (hp : p.outValue = byteValue) (bs : Bytes) : p.outValues bs = bs := by
  rw [Pump.outValues, hp]
  simp [byteValue]

/-- The data of what an agent says. -/
def saidData : PpaassAgentMessagePayload → Bytes
  | .tcp (.data bytes) => bytes
  | _ => []

theorem outValues_said {cs : List AgentContent} {said : List PpaassAgentMessagePayload}
    (h : cs.map (fun c => c.2.2) = said) :
    clientToProxyPump.outValues cs = said.flatMap saidData := by
  subst h
  rw [List.flatMap_map]
  refine List.flatMap_congr fun c _ => ?_
  obtain ⟨id, user, (_ | bytes) | _⟩ := c <;> rfl

theorem outValues_silent {cs : List ProxyContent} {said : List PpaassProxyMessagePayload}
    (h : cs.map (fun c => c.2.2) = said) (hsaid : ∀ p ∈ said, ∀ bytes, p ≠ .tcp (.data bytes)) :
    dstToAgentPump.outValues cs = [] := by
  subst h
  refine List.flatMap_eq_nil_iff.2 fun c hc => ?_
  have hne := hsaid c.2.2 (List.mem_map_of_mem hc)
  obtain ⟨id, user, (_ | bytes) | _⟩ := c
  · rfl
  · exact (hne bytes rfl).elim
  · rfl

theorem Setup.Asks.initData {setup : Setup} {ask : Ask} (h : setup.Asks ask) :
    setup.request.initData = ask.initData.getD [] := by
  rw [ClientRequest.initData, h.2]
  cases ask.initData <;> rfl

theorem said_data_running {ask : Ask} {stage : AgentStage} (h : .up ∈ stage.running) :
    (stage.said ask).flatMap saidData = ask.initData.getD [] := by
  cases stage with
  | spawning | relaying => cases hd : ask.initData <;> simp [AgentStage.said, saidData, hd]
  | _ => cases h

theorem said_data_le (ask : Ask) (stage : AgentStage) :
    (stage.said ask).flatMap saidData <+: ask.initData.getD [] := by
  cases stage with
  | ready | spawning | relaying => cases hd : ask.initData <;> simp [AgentStage.said, saidData, hd]
  | _ => exact List.nil_prefix

namespace System

variable {setup : Setup} {s : System}

/-- The agent has spawned this relay task. -/
abbrev AgentRelays (setup : Setup) (s : System) (side : Side) : Prop :=
  Tasks.Spawned (Agent.spawn setup.agentConfig) side s.agent.main.trace

/-- The proxy has spawned this relay task. -/
abbrev ProxyRelays (s : System) (side : Side) : Prop :=
  Tasks.Spawned Proxy.spawn side s.proxy.main.trace

/-! ## What the tasks do not do -/

theorem Inv.agent_trace_nil (h : Inv setup s) {side : Side} (hside : ¬ AgentRelays setup s side) :
    s.agent.trace (some side) = [] := h.agent.trace_eq_nil hside

theorem Inv.proxy_trace_nil (h : Inv setup s) {side : Side} (hside : ¬ ProxyRelays s side) :
    s.proxy.trace (some side) = [] := h.proxy.trace_eq_nil hside

/-- The main task of the agent leaves the client's data to the relay tasks. -/
theorem Inv.agent_main_recv (h : Inv setup s) : (s.agent.trace none).filterMap clientRecv = [] := by
  refine (h.agent.respects none).filterMap_eq_nil fun op a t hmain => ?_
  obtain ⟨_, stage, _, _, hallow⟩ := hmain
  cases op <;> first | rfl | (cases stage <;> exact hallow.elim)

theorem Inv.agent_main_sent (h : Inv setup s) : (s.agent.trace none).filterMap clientSent = [] := by
  refine (h.agent.respects none).filterMap_eq_nil fun op a t hmain => ?_
  obtain ⟨_, stage, _, _, hallow⟩ := hmain
  cases op <;> first | rfl | (cases stage <;> exact hallow.elim)

/-- And that of the proxy the destination's. -/
theorem Inv.proxy_main_recv (h : Inv setup s) : (s.proxy.trace none).filterMap dstRecv = [] := by
  refine (h.proxy.respects none).filterMap_eq_nil fun op a t hmain => ?_
  cases op <;> first | rfl | exact (proxyMain_not_dst hmain trivial).elim

theorem Inv.proxy_main_sent (h : Inv setup s) : (s.proxy.trace none).filterMap dstSent = [] := by
  refine (h.proxy.respects none).filterMap_eq_nil fun op a t hmain => ?_
  cases op <;> first | rfl | exact (proxyMain_not_dst hmain trivial).elim

/-- The main task of the agent leaves the sink to the proxy open. -/
theorem Inv.agent_not_closed (h : Inv setup s) (ok : Bool) :
    .close ok ∉ (s.agent.trace none).filterMap proxySent := by
  intro hmem
  obtain ⟨⟨op, a⟩, he, hclose⟩ := List.mem_filterMap.1 hmem
  obtain ⟨t', -, ask, stage, -, -, hallow⟩ := (h.agent.respects none).mem he
  cases op with
  | proxyClose => cases stage <;> exact hallow.elim
  | _ => cases hclose

theorem Inv.agentToProxy_inTime (h : Inv setup s) :
    Channel.InTime (s.agent.history proxySent .up) :=
  (Channel.inTime_of_open (h.agent_not_closed true)).append
    (clientToProxyPump.inTime (h.agent.respects (some .up))) (h.agent_not_closed true)

theorem Inv.agentToClient_inTime (h : Inv setup s) :
    Channel.InTime (s.agent.history clientSent .down) := by
  rw [Tasks.history, h.agent_main_sent]
  exact proxyToClientPump.inTime (h.agent.respects (some .down))

theorem Inv.proxyToDst_inTime (h : Inv setup s) :
    Channel.InTime (s.proxy.history dstSent .up) := by
  rw [Tasks.history, h.proxy_main_sent]
  exact agentToDstPump.inTime (h.proxy.respects (some .up))

/-! ## From the client to the destination -/

/-- The client is read by the relay task only. -/
theorem Inv.clientToAgent_read (h : Inv setup s) :
    s.links.clientToAgent.read = clientToProxyPump.taken (s.agent.trace (some .up)) := by
  rw [h.agentEnds.clientToAgent.read, Tasks.history, h.agent_main_recv]
  rfl

/-- The data that the agent has sent: that of the request, and what the relay task has sent. -/
theorem Inv.agentToProxy_data (h : Inv setup s) :
    ∃ d, clientToProxyPump.outValues s.links.agentToProxy.fed = d ++
        clientToProxyPump.outValues (clientToProxyPump.fed (s.agent.trace (some .up))) ∧
      d <+: setup.request.initData ∧ (AgentRelays setup s .up → d = setup.request.initData) := by
  obtain ⟨ask, stage, hask, got, -, hat⟩ := agentMain_stage h.agent.main
  refine ⟨(stage.said ask).flatMap saidData, ?_, ?_, fun hup => ?_⟩
  · rw [h.agentEnds.agentToProxy.fed h.agentToProxy_inTime, Tasks.history, List.flatMap_append,
      Pump.outValues_append]
    exact congrArg (· ++ _) (outValues_said hat.said)
  · rcases hask with rfl | hask
    · exact List.nil_prefix
    · rw [hask.initData]
      exact said_data_le ask stage
  · have hrunning := (hat.running .up).1 hup
    rcases hask with rfl | hask
    · cases hrunning
    · rw [hask.initData, said_data_running hrunning]

theorem Inv.up_le (h : Inv setup s) : clientToProxyPump.outValues s.links.agentToProxy.fed <+:
    setup.request.initData ++ s.links.clientToAgent.read := by
  obtain ⟨d, hdata, hle, hup⟩ := h.agentToProxy_data
  rw [hdata]
  by_cases hrelays : AgentRelays setup s .up
  · rw [hup hrelays, List.prefix_append_right_inj, h.clientToAgent_read]
    exact (Pump.outValues_le (h.agent.respects (some .up))).1.trans
      (by rw [inValues_bytes (p := clientToProxyPump) rfl])
  · rw [h.agent_trace_nil hrelays,
      show clientToProxyPump.outValues (clientToProxyPump.fed []) = [] from rfl, List.append_nil]
    exact hle.trans (List.prefix_append _ _)

/-- The proxy's main task has read no data before the relay task does. -/
theorem Inv.agentToProxy_read (h : Inv setup s) (hup : ProxyRelays s .up) :
    agentToDstPump.inValues s.links.agentToProxy.read =
      agentToDstPump.inValues (agentToDstPump.taken (s.proxy.trace (some .up))) := by
  obtain ⟨stage, hat⟩ := proxyMain_stage h.proxy.main
  obtain ⟨c, src, dst, tunnelId, hc, -, hdialog⟩ := hat.granted ((hat.spawned .up).1 hup)
  have hnone : agentData c = none := by rw [agentData, hc]
  rw [h.proxyEnds.agentToProxy.read, Tasks.history, List.flatMap_append, Pump.inValues_append,
    show (s.proxy.trace none).filterMap agentRecv = [.read [c]] from hdialog.got]
  simp [RecvEvent.taken, Pump.inValues, agentToDstPump, hnone, Pump.taken, Pump.recvs]

/-- The destination is written by the relay task only. -/
theorem Inv.proxyToDst_fed (h : Inv setup s) :
    s.links.proxyToDst.fed = agentToDstPump.fed (s.proxy.trace (some .up)) := by
  rw [h.proxyEnds.proxyToDst.fed h.proxyToDst_inTime, Tasks.history, h.proxy_main_sent]
  rfl

/-! ## The messages -/

open Channel

/-- The message asks for the tunnel of the request. -/
def IsRequest (setup : Setup) (c : AgentContent) : Prop :=
  ∃ ask, setup.Asks ask ∧ c.2.2 = .tcp (.init ask.srcAddress ask.dstAddress)

/-- **The agent sends its request and then only data.** -/
theorem Inv.agentToProxy_opens (h : Inv setup s) :
    Opens (IsRequest setup) IsAgentData s.links.agentToProxy.fed := by
  obtain ⟨ask, stage, hask, got, -, hat⟩ := agentMain_stage h.agent.main
  rw [h.agentEnds.agentToProxy.fed h.agentToProxy_inTime, Tasks.history, List.flatMap_append]
  refine Opens.append ?_ (fun hnil => ?_) fun c hc =>
    agentData_isSome.1 ((Pump.outValues_le (h.agent.respects (some .up))).2 c hc)
  · have hsaid : Opens (fun p => ∃ ask, setup.Asks ask ∧
        p = .tcp (.init ask.srcAddress ask.dstAddress)) (fun p => ∃ bytes, p = .tcp (.data bytes))
        (stage.said ask) := by
      rcases hask with rfl | hask
      · exact opens_nil
      · cases stage with
        | start => exact opens_nil
        | asked | refused | granted => exact opens_cons ⟨ask, hask, rfl⟩ (List.forall_mem_nil _)
        | ready | spawning | relaying =>
          refine opens_cons ⟨ask, hask, rfl⟩ fun p hp => ?_
          obtain ⟨d, -, rfl⟩ := List.mem_map.1 hp
          exact ⟨d, rfl⟩
    rw [← hat.said] at hsaid
    exact hsaid.of_map
  · have hstart : stage.said ask = [] := by
      rw [← hat.said, show (agentDialog setup.agentConfig).sent = proxySent from rfl,
        show s.agent.main.trace = s.agent.trace none from rfl, hnil]
      rfl
    have hup : ¬ AgentRelays setup s .up := by
      intro hup
      have hrunning := (hat.running .up).1 hup
      cases stage with
      | spawning | relaying => cases hstart
      | _ => cases hrunning
    rw [h.agent_trace_nil hup]
    rfl

theorem Inv.agentToProxy_read_opens (h : Inv setup s) :
    Opens (IsRequest setup) IsAgentData s.links.agentToProxy.read :=
  h.agentToProxy_opens.of_prefix s.links.agentToProxy.read_fed

/-- What the proxy's main task has read is the request. -/
theorem Inv.proxy_heard (h : Inv setup s) {c : AgentContent} {rs : List (RecvEvent AgentContent)}
    (hgot : s.proxy.main.trace.filterMap agentRecv = .read [c] :: rs) : IsRequest setup c := by
  refine h.agentToProxy_read_opens.head c ?_
  rw [h.proxyEnds.agentToProxy.read, Tasks.history,
    show s.proxy.trace none = s.proxy.main.trace from rfl, hgot]
  rfl

/-- The main task of the proxy leaves the sink to the agent open. -/
theorem Inv.proxy_not_closed (h : Inv setup s) (ok : Bool) :
    .close ok ∉ (s.proxy.trace none).filterMap agentSent := by
  intro hmem
  obtain ⟨⟨op, a⟩, he, hclose⟩ := List.mem_filterMap.1 hmem
  obtain ⟨t', hle, stage, hat, hallow⟩ := (h.proxy.respects none).mem he
  cases op with
  | agentClose =>
    cases stage with
    | udp c =>
      -- only a datagram is answered so, and the agent has sent none
      obtain ⟨⟨u, hu⟩, said, -, hat⟩ := hat
      obtain ⟨rs, hrs⟩ := hle.filterMap agentRecv
      rw [show t'.filterMap agentRecv = [.read [c]] from hat.got] at hrs
      obtain ⟨ask, -, hc⟩ := h.proxy_heard hrs.symm
      rw [hc] at hu
      cases hu
    | first r =>
      rcases r with ⟨_ | ⟨c, _ | _⟩⟩ | _ | _
      case read.cons.nil =>
        obtain ⟨_, _, -, hallow⟩ := hallow
        exact hallow.elim
      all_goals exact hallow.elim
    | _ => exact hallow.elim
  | _ => cases hclose

theorem Inv.proxyToAgent_inTime (h : Inv setup s) :
    Channel.InTime (s.proxy.history agentSent .down) :=
  (Channel.inTime_of_open (h.proxy_not_closed true)).append
    (dstToAgentPump.inTime (h.proxy.respects (some .down))) (h.proxy_not_closed true)

/-- **The proxy answers the request and then sends only data.** -/
theorem Inv.proxyToAgent_opens (h : Inv setup s) :
    Opens (fun c => ∃ src dst result, c.2.2 = .tcp (.init src dst result)) IsProxyData
      s.links.proxyToAgent.fed := by
  obtain ⟨stage, hat⟩ := proxyMain_stage h.proxy.main
  obtain ⟨said, hsaid, hopens, hnil⟩ : ∃ said,
      (((s.proxy.trace none).filterMap agentSent).flatMap SendEvent.fed).map (fun c => c.2.2) =
        said ∧
      Opens (fun p => ∃ src dst result, p = .tcp (.init src dst result))
        (fun p => ∃ bytes, p = .tcp (.data bytes)) said ∧ (said = [] → .down ∉ stage.running) := by
    cases stage with
    | accepted | first =>
      exact ⟨_, Dialog.At.said hat, opens_nil, fun _ => List.not_mem_nil⟩
    | udp c =>
      obtain ⟨⟨u, hu⟩, said, -, hat⟩ := hat
      obtain ⟨ask, -, hc⟩ := h.proxy_heard hat.got
      rw [hc] at hu
      cases hu
    | answered | spawning | relaying =>
      exact ⟨_, hat.2.2.said, opens_cons ⟨_, _, _, rfl⟩ (List.forall_mem_nil _),
        fun h => (List.cons_ne_nil _ _ h).elim⟩
  rw [h.proxyEnds.proxyToAgent.fed h.proxyToAgent_inTime, Tasks.history, List.flatMap_append]
  refine Opens.append (Opens.of_map (hsaid ▸ hopens)) (fun hmain => ?_) fun c hc =>
    proxyData_isSome.1 ((Pump.outValues_le (h.proxy.respects (some .down))).2 c hc)
  have hdown : ¬ ProxyRelays s .down := fun hdown =>
    hnil (by rw [← hsaid, hmain]; rfl) ((hat.spawned .down).1 hdown)
  rw [h.proxy_trace_nil hdown]
  rfl

/-! ## From the destination to the client -/

/-- The destination is read by the relay task only. -/
theorem Inv.dstToProxy_read (h : Inv setup s) :
    s.links.dstToProxy.read = dstToAgentPump.taken (s.proxy.trace (some .down)) := by
  rw [h.proxyEnds.dstToProxy.read, Tasks.history, h.proxy_main_recv]
  rfl

/-- The data that the proxy has sent is what the relay task has sent. -/
theorem Inv.proxyToAgent_data (h : Inv setup s) :
    dstToAgentPump.outValues s.links.proxyToAgent.fed =
      dstToAgentPump.outValues (dstToAgentPump.fed (s.proxy.trace (some .down))) := by
  obtain ⟨stage, hat⟩ := proxyMain_stage h.proxy.main
  obtain ⟨got, said, hdialog, hsilent⟩ := hat.silent
  rw [h.proxyEnds.proxyToAgent.fed h.proxyToAgent_inTime, Tasks.history, List.flatMap_append,
    Pump.outValues_append]
  exact congrArg (· ++ _) (outValues_silent hdialog.said hsilent)

theorem Inv.down_le (h : Inv setup s) : dstToAgentPump.outValues s.links.proxyToAgent.fed <+:
    s.links.dstToProxy.read := by
  rw [h.proxyToAgent_data, h.dstToProxy_read]
  exact (Pump.outValues_le (h.proxy.respects (some .down))).1.trans
    (by rw [inValues_bytes (p := dstToAgentPump) rfl])

/-- The agent's main task has read no data before the relay task does. -/
theorem Inv.proxyToAgent_read (h : Inv setup s) (hdown : AgentRelays setup s .down) :
    proxyToClientPump.inValues s.links.proxyToAgent.read =
      proxyToClientPump.inValues (proxyToClientPump.taken (s.agent.trace (some .down))) := by
  obtain ⟨ask, stage, -, got, hheard, hat⟩ := agentMain_stage h.agent.main
  obtain ⟨c, ⟨src, dst, tunnelId, hc⟩, rfl⟩ :
      ∃ c, Grants c ∧ got = [.read [c]] := by
    have hrunning := (hat.running .down).1 hdown
    cases stage with
    | relaying => exact hheard
    | spawning => simp [AgentStage.running] at hrunning
    | _ => cases hrunning
  have hnone : proxyData c = none := by rw [proxyData, hc]
  rw [h.agentEnds.proxyToAgent.read, Tasks.history, List.flatMap_append, Pump.inValues_append,
    show (s.agent.trace none).filterMap proxyRecv = [.read [c]] from hat.got]
  simp [RecvEvent.taken, Pump.inValues, proxyToClientPump, hnone, Pump.taken, Pump.recvs]

/-- The client is written by the relay task only. -/
theorem Inv.agentToClient_fed (h : Inv setup s) :
    s.links.agentToClient.fed = proxyToClientPump.fed (s.agent.trace (some .down)) := by
  rw [h.agentEnds.agentToClient.fed h.agentToClient_inTime, Tasks.history, h.agent_main_sent]
  rfl

end System

end Ppaass.Tunnel
