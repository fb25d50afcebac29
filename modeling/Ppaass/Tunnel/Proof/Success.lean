import Ppaass.Tunnel.Proof.Integrity

/-!
# A client is told success only when it is true

The agent replies to the client where the proxy has granted the tunnel, and the proxy grants it
where the destination is connected (`success_is_true`). Any other first message of the proxy ends
the agent's task with an error and without a reply (`refused_fails`).
-/

namespace Ppaass.Tunnel

open Wire Prog Relation
open Framed (Fault)
open Agent (AgentOp agentSig AgentError)
open Proxy (ProxyOp proxySig ProxyServerError)

/-! ## The agent alone -/

/-- A state of the agent's tasks after any steps with any answers. -/
def AgentRuns (setup : Setup) : Tasks agentSig (Except (Fault AgentError) Unit) → Prop :=
  ReflTransGen (fun g g' => ∃ who e, Tasks.Step (Agent.spawn setup.agentConfig) g who e g')
    (.new setup.agentTask)

theorem agentRuns_holds {setup : Setup} {g : Tasks agentSig (Except (Fault AgentError) Unit)}
    (h : AgentRuns setup g) : g.Holds (Agent.spawn setup.agentConfig) (agentSpec setup) := by
  induction h with
  | refl => exact .new (agentTask_spec setup)
  | tail _ hstep ih =>
    obtain ⟨who, e, hstep⟩ := hstep
    exact ih.step (agentSpec_sound setup) hstep

/-- The main task performs its next operation. -/
theorem agentRuns_main {setup : Setup} {g : Tasks agentSig (Except (Fault AgentError) Unit)}
    (op : AgentOp) (a : op.Ans) {k : op.Ans → Prog agentSig _} (h : AgentRuns setup g)
    (hg : g.main.prog = .vis op k) :
    AgentRuns setup (Tasks.spawned (Agent.spawn setup.agentConfig)
      { g with main := ⟨k a, g.main.trace ++ [⟨op, a⟩]⟩ } (some ⟨op, a⟩)) :=
  .tail h ⟨_, _, .main (.performs (S := agentSig) op a hg)⟩

/-- The first answer of the proxy grants nothing: it fails or refuses the tunnel, is some other
message, a decoding error, or the end of the stream. -/
def Refusal (r : Option (Except CommonError PpaassProxyMessage)) : Prop :=
  ∀ message, r = some (.ok message) → ¬ Grants message.content

theorem Refusal.not_read {r : Option (Except CommonError PpaassProxyMessage)} (h : Refusal r)
    {c : ProxyContent} (hc : Grants c) : nextEvent r ≠ .read [c] := by
  rcases r with _ | _ | message
  · exact nofun
  · exact nofun
  · intro hr
    obtain rfl : message.content = c := by simpa [nextEvent] using hr
    exact h message rfl hc

/-- The agent has heard `r` first, and its task has returned an error, without a reply. -/
structure RefusedFails (g : Tasks agentSig (Except (Fault AgentError) Unit)) : Prop where
  fails : ∃ e, g.main.prog = .ret (.error e)
  silent : ∀ bytes r, ⟨.clientSend bytes, r⟩ ∉ g.main.trace

/-- **Any first message but a grant ends the task** with an error and without a reply. -/
theorem refused_fails {setup : Setup} {g : Tasks agentSig (Except (Fault AgentError) Unit)}
    (hg : g.Holds (Agent.spawn setup.agentConfig) (agentSpec setup))
    {r : Option (Except CommonError PpaassProxyMessage)} (hmem : ⟨.proxyNext, r⟩ ∈ g.main.trace)
    (hr : Refusal r) : RefusedFails g := by
  have hheard : nextEvent r ∈ g.main.trace.filterMap proxyRecv :=
    List.mem_filterMap.2 ⟨_, hmem, rfl⟩
  -- a stage that has heard `r` has heard a refusal, and allows nothing
  have hrefused : ∀ {ask : Ask} {stage : AgentStage},
      stage.At setup.agentConfig ask g.main.trace → stage = .refused := by
    rintro ask stage ⟨got, hgot, hat⟩
    have hin : nextEvent r ∈ got := hat.got ▸ hheard
    cases stage with
    | start | asked =>
      rw [show got = [] from hgot] at hin
      cases hin
    | refused => rfl
    | granted | ready | spawning | relaying =>
      obtain ⟨c, hc, rfl⟩ := hgot
      exact (hr.not_read hc (List.mem_singleton.1 hin)).elim
  refine ⟨?_, fun bytes r' hsend => ?_⟩
  · rcases wp_inv hg.main.wp with ⟨_ | op, ho⟩ | ⟨a, ha, ⟨hnil, -⟩ | ⟨ask, stage, -, hat, hend⟩⟩
    · exact ho.elim
    · obtain ⟨ask, stage, -, hat, hallow⟩ := ho
      obtain rfl := hrefused hat
      cases op <;> exact hallow.elim
    · rw [hnil] at hmem
      cases hmem
    · obtain rfl := hrefused hat
      rcases hend with ⟨-, hstage⟩ | ⟨hfail, -⟩
      · cases hstage
      · cases a with
        | ok u => cases hfail
        | error e => exact ⟨e, ha⟩
  · obtain ⟨t', hle, ask, stage, -, ⟨got, hgot, hat⟩, hallow⟩ := (hg.respects none).mem hsend
    cases stage with
    | granted =>
      obtain ⟨c, hc, rfl⟩ := hgot
      obtain ⟨rest, hrest⟩ := hle.filterMap proxyRecv
      obtain ⟨ask', stage', -, hend⟩ := agentMain_stage hg.main
      obtain rfl := hrefused hend
      obtain ⟨got', ⟨r'', rfl, hnot⟩, hat'⟩ := hend
      have hfull : (g.trace none).filterMap proxyRecv = [r''] := hat'.got
      rw [show t'.filterMap proxyRecv = [.read [c]] from hat.got, hfull] at hrest
      exact hnot c hc (List.cons.inj hrest).1.symm
    | _ => exact hallow.elim

/-! ## The agent and the proxy -/

namespace System

/-- What the client is told, and what the proxy tells the agent, is true. -/
structure Truthful (setup : Setup) (s : System) : Prop where
  /-- a reply to the client stands behind the grant of the tunnel -/
  behind : ∀ pre bytes r post, s.agent.main.trace = pre ++ ⟨.clientSend bytes, r⟩ :: post →
    ∃ c, Grants c ∧ pre.filterMap proxyRecv = [.read [c]]
  /-- a grant the agent has heard is one that the proxy has written, for its own transport, with the
  destination of the request connected -/
  granted : ∀ c, Grants c → c ∈ s.links.proxyToAgent.read.head? →
    ∃ srcAddress dstAddress initData tunnelId,
      setup.request.target = .ok (dstAddress, initData) ∧
      TransportId tunnelId s.proxy.main.trace ∧ Connected dstAddress s.proxy.main.trace ∧
      c ∈ s.links.proxyToAgent.written ∧
      c.2.2 = .tcp (.init srcAddress dstAddress (.success tunnelId))
  /-- so for every reply -/
  replied : ∀ bytes r, ⟨.clientSend bytes, r⟩ ∈ s.agent.main.trace →
    ∃ c srcAddress dstAddress initData tunnelId,
      setup.request.target = .ok (dstAddress, initData) ∧
      TransportId tunnelId s.proxy.main.trace ∧ Connected dstAddress s.proxy.main.trace ∧
      c ∈ s.links.proxyToAgent.written ∧
      c.2.2 = .tcp (.init srcAddress dstAddress (.success tunnelId))
  /-- the main task of the proxy sends one message: the result of connecting to the destination of
  the request, which is known then -/
  answers : ∀ pre m r post, s.proxy.main.trace = pre ++ ⟨.agentFeed m, r⟩ :: post →
    pre.filterMap agentSent = [] ∧ ∃ srcAddress dstAddress initData result,
      setup.request.target = .ok (dstAddress, initData) ∧ Warrants dstAddress pre result ∧
      m.payload = .tcp (.init srcAddress dstAddress result)
  /-- the proxy sends a result first, and then only data -/
  opens : Channel.Opens (fun c => ∃ src dst result, c.2.2 = .tcp (.init src dst result)) IsProxyData
    s.links.proxyToAgent.fed

variable {setup : Setup} {s : System}

theorem Inv.behind (h : Inv setup s) {pre post : Trace agentSig} {bytes : Bytes}
    {r : (AgentOp.clientSend bytes).Ans}
    (ht : s.agent.main.trace = pre ++ ⟨.clientSend bytes, r⟩ :: post) :
    ∃ c, Grants c ∧ pre.filterMap proxyRecv = [.read [c]] := by
  obtain ⟨ask, stage, -, ⟨got, hgot, hat⟩, hallow⟩ := (h.agent.respects none).at ht
  have hpre : pre.filterMap proxyRecv = got := hat.got
  rw [hpre]
  cases stage with
  | granted => exact hgot
  | _ => exact hallow.elim

theorem Inv.granted (h : Inv setup s) {c : ProxyContent} (hc : Grants c)
    (hread : c ∈ s.links.proxyToAgent.read.head?) :
    ∃ srcAddress dstAddress initData tunnelId,
      setup.request.target = .ok (dstAddress, initData) ∧
      TransportId tunnelId s.proxy.main.trace ∧ Connected dstAddress s.proxy.main.trace ∧
      c ∈ s.links.proxyToAgent.written ∧
      c.2.2 = .tcp (.init srcAddress dstAddress (.success tunnelId)) := by
  obtain ⟨request, src, dst, tunnelId, -, hrequest, ⟨ask, hask, hinit⟩, ⟨hid, hconn⟩, hpayload,
    -⟩ := h.proxy_granted hread hc
  obtain ⟨rfl, rfl⟩ : src = ask.srcAddress ∧ dst = ask.dstAddress := by
    simpa using hrequest.symm.trans hinit
  exact ⟨_, _, _, tunnelId, hask.2, hid, hconn,
    s.links.proxyToAgent.read_written.subset (List.mem_of_mem_head? hread), hpayload⟩

theorem Inv.answers (h : Inv setup s) {pre post : Trace proxySig} {m : PpaassProxyMessage}
    {r : (ProxyOp.agentFeed m).Ans}
    (ht : s.proxy.main.trace = pre ++ ⟨.agentFeed m, r⟩ :: post) :
    pre.filterMap agentSent = [] ∧ ∃ srcAddress dstAddress initData result,
      setup.request.target = .ok (dstAddress, initData) ∧ Warrants dstAddress pre result ∧
      m.payload = .tcp (.init srcAddress dstAddress result) := by
  obtain ⟨stage, hat, hallow⟩ := (h.proxy.respects none).at ht
  -- what was read before the message is the request
  have hheard : ∀ {c}, pre.filterMap agentRecv = [.read [c]] → IsRequest setup c := by
    intro c hpre
    refine h.proxy_heard
      (show _ = .read [c] :: (⟨.agentFeed m, r⟩ :: post).filterMap agentRecv from ?_)
    rw [ht, List.filterMap_append, hpre]
    rfl
  rcases stage with _ | ⟨⟨_ | ⟨c, _ | _⟩⟩ | _ | _⟩ | c | _ | _ | _
  case first.read.cons.nil =>
    obtain ⟨src, dst, hc, hunsent, result, hwarrants, hm⟩ := hallow
    obtain ⟨ask, hask, hinit⟩ := hheard hat.got
    obtain ⟨rfl, rfl⟩ : src = ask.srcAddress ∧ dst = ask.dstAddress := by
      simpa using hc.symm.trans hinit
    exact ⟨hunsent, _, _, _, result, hask.2, hwarrants, hm⟩
  case udp =>
    obtain ⟨⟨u, hu⟩, said, -, hat⟩ := hat
    obtain ⟨ask, -, hinit⟩ := hheard hat.got
    rw [hinit] at hu
    cases hu
  all_goals exact hallow.elim

/-- **The client is told success only when it is true**: in every reachable state of a tunnel; and
the agent alone, whatever the proxy and the network do, takes only a grant for one. -/
theorem success_is_true (setup : Setup) (s : System) (h : Reachable setup s)
    (g : Tasks agentSig (Except (Fault AgentError) Unit)) (hg : AgentRuns setup g) :
    Truthful setup s ∧ ∀ r, ⟨.proxyNext, r⟩ ∈ g.main.trace → Refusal r → RefusedFails g := by
  have hinv := reachable_inv h
  refine ⟨⟨fun _ _ _ _ => hinv.behind, fun c => hinv.granted, fun bytes r hmem => ?_,
    fun _ _ _ _ => hinv.answers, hinv.proxyToAgent_opens⟩,
    fun r => refused_fails (agentRuns_holds hg)⟩
  obtain ⟨pre, post, ht⟩ := List.append_of_mem hmem
  obtain ⟨c, hc, hgot⟩ := hinv.behind ht
  have hread : c ∈ s.links.proxyToAgent.read.head? := by
    rw [hinv.agentEnds.proxyToAgent.read, Tasks.history,
      show s.agent.trace none = s.agent.main.trace from rfl, ht, List.filterMap_append, hgot]
    rfl
  exact ⟨c, hinv.granted hc hread⟩

/-- An agent whose request is refused. -/
theorem exists_refused : ∃ g, AgentRuns connectSetup g ∧
    ∃ r, ⟨.proxyNext, r⟩ ∈ g.main.trace ∧ Refusal r := by
  let token : BlockMode.Block 32 := ⟨List.replicate 32 7, rfl⟩
  let refusal := generateProxyTcpInitMessage "m2" "user1" connectSetup.srcAddress
    (.ip (.v4 ⟨10, 0, 0, 1⟩ 80)) .plain (.fail .canNotConnectToDestination)
  have h0 : AgentRuns connectSetup (.new connectSetup.agentTask) := .refl
  have h1 := agentRuns_main .random32Bytes token h0 rfl
  have h2 := agentRuns_main .newUuid "m1" h1 rfl
  have h3 := agentRuns_main .proxyConnect (some (.ok ())) h2 rfl
  have h4 := agentRuns_main .proxySetNodelay (.ok ()) h3 rfl
  have h5 := agentRuns_main (.proxyFeed _) (.ok ()) h4 rfl
  have h6 := agentRuns_main .proxyFlush (.ok ()) h5 rfl
  have h7 := agentRuns_main .proxyNext (some (.ok refusal)) h6 rfl
  refine ⟨_, h7, _, List.mem_concat_self, ?_⟩
  rintro _ ⟨⟩ ⟨_, _, _, hgrant⟩
  cases hgrant

theorem success_is_true_told : ∃ s g, Reachable connectSetup s ∧ AgentRuns connectSetup g ∧
    (∃ bytes, ⟨.clientSend bytes, .ok ()⟩ ∈ s.agent.main.trace) ∧
    (∃ r, ⟨.proxyNext, r⟩ ∈ g.main.trace ∧ Refusal r) ∧ Truthful connectSetup s ∧
    RefusedFails g := by
  obtain ⟨s, h, -, -, -, htold⟩ := exists_finished
  obtain ⟨g, hg, r, hmem, hr⟩ := exists_refused
  obtain ⟨htruthful, hfails⟩ := success_is_true connectSetup s h g hg
  exact ⟨s, g, h, hg, htold, ⟨r, hmem, hr⟩, htruthful, hfails r hmem hr⟩

end System

end Ppaass.Tunnel
