import Ppaass.Common.Proof.Connection
import Ppaass.Common.Proof.Payload
import Ppaass.Tunnel.Proof.Feeds
import Ppaass.Tunnel.Proof.Success
import Ppaass.Tunnel.Wire

/-!
# The tunnel on the wire is a tunnel of messages

With compression on, and where the two sides have each other's keys, each step of a tunnel on the
wire is a step of the tunnel of messages, or none, or the failure of a link and then one
(`Refines.step`): a round of `poll_next` that answers nothing is none, and an `encode` that fails
breaks its link. So every state that the tunnel on the wire reaches stands for one that the tunnel
of messages reaches (`WireSystem.reachable_refines`), and what holds there of the client and the
destination holds on the wire.
-/

namespace Ppaass.Tunnel

open Wire Prog Framed Relation
open Agent (AgentOp agentSig AgentError)
open Proxy (ProxyOp proxySig ProxyServerError)
open PpaassConnection (CarriesTo)
open ConnectionCodec (Travels Conveys conveys_of_travels)

/-! ## Calls -/

theorem agentCall_recv (e : Event agentSig) :
    (agentCall e).bind ConnectionEvent.recv = proxyRecv e := by
  obtain ⟨op, a⟩ := e
  cases op with
  | proxyNext => rcases a with _ | e | m <;> rfl
  | _ => rfl

theorem agentCall_sent (e : Event agentSig) :
    (agentCall e).bind ConnectionEvent.sent = proxySent e := by
  obtain ⟨op, a⟩ := e
  cases op <;> rfl

theorem agentCall_feed {e : Event agentSig} {m : PpaassAgentMessage} {r : Except CommonError Unit}
    (h : agentCall e = some (.feed m r)) : e = ⟨.proxyFeed m, r⟩ := by
  obtain ⟨op, a⟩ := e
  cases op <;> cases h
  rfl

theorem agentCall_next {e : Event agentSig} {r : Option (Except CommonError PpaassProxyMessage)}
    (h : agentCall e = some (.next r)) : e = ⟨.proxyNext, r⟩ := by
  obtain ⟨op, a⟩ := e
  cases op <;> cases h
  rfl

theorem proxyCall_recv (e : Event proxySig) :
    (proxyCall e).bind ConnectionEvent.recv = agentRecv e := by
  obtain ⟨op, a⟩ := e
  cases op with
  | agentNext => rcases a with _ | e | m <;> rfl
  | _ => rfl

theorem proxyCall_sent (e : Event proxySig) :
    (proxyCall e).bind ConnectionEvent.sent = agentSent e := by
  obtain ⟨op, a⟩ := e
  cases op <;> rfl

theorem proxyCall_feed {e : Event proxySig} {m : PpaassProxyMessage} {r : Except CommonError Unit}
    (h : proxyCall e = some (.feed m r)) : e = ⟨.agentFeed m, r⟩ := by
  obtain ⟨op, a⟩ := e
  cases op <;> cases h
  rfl

theorem proxyCall_next {e : Event proxySig} {r : Option (Except CommonError PpaassAgentMessage)}
    (h : proxyCall e = some (.next r)) : e = ⟨.agentNext, r⟩ := by
  obtain ⟨op, a⟩ := e
  cases op <;> cases h
  rfl

/-! ## What is assumed -/

/-- Compression is on, the libraries undo what they do, the keys of the agent's user are a pair in
both directions, and the addresses are such as `bincode` writes whole. -/
structure WireSetup.Laws (setup : WireSetup) : Prop where
  agentCompress : setup.agentCompress = true
  proxyCompress : setup.proxyCompress = true
  gzip : setup.libs.GzipRoundTrips
  envelope : setup.libs.EnvelopeRoundTrips
  aes : setup.libs.AesPermutes
  rng : Nonempty setup.libs.OsRng
  pairedUp : PairedAt setup.agentFetcher setup.proxyFetcher setup.agentConfig.getUserToken
  pairedDown : PairedAt setup.proxyFetcher setup.agentFetcher setup.agentConfig.getUserToken
  agentPayload : ∀ payload : PpaassAgentMessagePayload, payload.Flowless →
    setup.libs.agentPayload.RoundTripsAt payload
  proxyPayload : ∀ payload : PpaassProxyMessagePayload, payload.Flowless →
    setup.libs.proxyPayload.RoundTripsAt payload
  srcAddress : setup.srcAddress.Flowless
  dstAddress : ∀ dstAddress initData, setup.request.target = .ok (dstAddress, initData) →
    dstAddress.Flowless

variable {setup : WireSetup}

namespace WireSetup

theorem Laws.asks (laws : setup.Laws) {ask : Ask} (hask : setup.Asks ask) :
    ask.srcAddress.Flowless ∧ ask.dstAddress.Flowless := by
  refine ⟨?_, laws.dstAddress _ _ hask.2⟩
  rw [hask.1]
  exact laws.srcAddress

/-- What the agent says arrives. -/
theorem Laws.conveysUp (laws : setup.Laws) {c : ConnectionCodec setup.libs}
    (hc : c.Configured setup.agentFetcher setup.agentCompress) {m : PpaassAgentMessage}
    (hm : System.AgentSays setup.toSetup m) :
    Conveys setup.libs.agentPayload c setup.proxyCodec m := by
  rw [laws.agentCompress] at hc
  refine conveys_of_travels laws.gzip laws.envelope laws.aes hc _ ⟨?_, ?_⟩
  · rw [hm.user]
    exact laws.pairedUp
  · rcases hm.payload with ⟨ask, hask, hp⟩ | ⟨bytes, hp⟩
    · rw [show m.payload = _ from hp]
      exact laws.agentPayload _ (laws.asks hask)
    · rw [show m.payload = _ from hp]
      exact laws.agentPayload _ trivial

/-- What the proxy says arrives. -/
theorem Laws.conveysDown (laws : setup.Laws) {c : ConnectionCodec setup.libs}
    (hc : c.Configured setup.proxyFetcher setup.proxyCompress) {m : PpaassProxyMessage}
    (hm : System.ProxySays setup.toSetup m) :
    Conveys setup.libs.proxyPayload c setup.agentCodec m := by
  rw [laws.proxyCompress] at hc
  refine conveys_of_travels laws.gzip laws.envelope laws.aes hc _ ⟨?_, ?_⟩
  · rw [hm.user]
    exact laws.pairedDown
  · rcases hm.payload with ⟨ask, result, hask, hp⟩ | ⟨bytes, hp⟩
    · rw [hp]
      exact laws.proxyPayload _ (laws.asks hask)
    · rw [show m.payload = _ from hp]
      exact laws.proxyPayload _ trivial

end WireSetup

/-! ## The relation -/

/-- The tasks of the wire, over links of messages. -/
def WireSystem.over {libs : Libs} (w : WireSystem libs) (l : Links) : System :=
  ⟨w.agent, w.proxy, l⟩

/-- The state of the wire stands for links of messages. A link is spoiled only where a send to it
has failed. -/
structure Refines (setup : WireSetup) (w : WireSystem setup.libs) (l : Links) : Prop where
  clientToAgent : l.clientToAgent = w.links.clientToAgent
  agentToClient : l.agentToClient = w.links.agentToClient
  proxyToDst : l.proxyToDst = w.links.proxyToDst
  dstToProxy : l.dstToProxy = w.links.dstToProxy
  up : ∃ spoiled, CarriesTo setup.libs.agentPayload setup.proxyCodec spoiled w.links.proxyInner
      w.links.agentToProxy l.agentToProxy ∧
    (spoiled = true → ∃ xs, .feed xs false ∈ w.agent.history proxySent .up)
  down : ∃ spoiled, CarriesTo setup.libs.proxyPayload setup.agentCodec spoiled w.links.agentInner
      w.links.proxyToAgent l.proxyToAgent ∧
    (spoiled = true → ∃ xs, .feed xs false ∈ w.proxy.history agentSent .down)
  agentCodec : w.links.agentInner.codec.Configured setup.agentFetcher setup.agentCompress
  proxyCodec : w.links.proxyInner.codec.Configured setup.proxyFetcher setup.proxyCompress

theorem start_refines : Refines setup setup.wireStart .empty where
  clientToAgent := rfl
  agentToClient := rfl
  proxyToDst := rfl
  dstToProxy := rfl
  up := ⟨false, carries_empty (ConnectionCodec.decode_head_short _ rfl (by decide)), by simp⟩
  down := ⟨false, carries_empty (ConnectionCodec.decode_head_short _ rfl (by decide)), by simp⟩
  agentCodec := ⟨rfl, rfl⟩
  proxyCodec := ⟨rfl, rfl⟩

/-! ## Steps -/

section
variable (laws : setup.Laws) {w : WireSystem setup.libs} {l : Links} (hr : Refines setup w l)
  (hinv : System.Inv setup.toSetup (w.over l)) (hfeeds : System.Feeds setup.toSetup (w.over l))
include laws hr hinv hfeeds

theorem Refines.agentStep {side : Option Side} {e : Event agentSig}
    {agent : Tasks agentSig (Except (Fault AgentError) Unit)} {links : WireLinks setup.libs}
    (hs : Tasks.Step (Agent.spawn setup.agentConfig) w.agent side (some e) agent)
    (hl : AgentWires w.links e links) :
    ∃ l', ReflTransGen (System.Step setup.toSetup) (w.over l) ⟨agent, w.proxy, l'⟩ ∧
      Refines setup { w with agent, links } l' := by
  obtain ⟨spoiled, hup, hspoiled⟩ := hr.up
  obtain ⟨spoiled', hdown, hspoiled'⟩ := hr.down
  have hcalm : ∀ m r, agentCall e = some (.feed m r) → spoiled = false ∧
      w.links.agentToProxy.closed = false := by
    intro m r hcall
    obtain rfl := agentCall_feed hcall
    have hunspoilt := hfeeds.agent_calm hs
    constructor
    · by_contra hne
      obtain ⟨xs, hfailed⟩ := hspoiled (by simpa using hne)
      have := (hunspoilt _ hfailed).1
      cases this
    · rw [← hup.closed]
      exact Bool.eq_false_iff.2 fun hclosed =>
        (hunspoilt _ (hinv.agentEnds.agentToProxy.closed.1 hclosed)).2 true rfl
  have hconveys : ∀ m, agentCall e = some (.feed m (.ok ())) →
      Conveys setup.libs.agentPayload w.links.agentInner.codec setup.proxyCodec m := by
    intro m hcall
    obtain rfl := agentCall_feed hcall
    exact laws.conveysUp hr.agentCodec (hfeeds.agent_says hs)
  obtain ⟨cin, cout₀, cout, spoiled'', hrecv, hbreak, hsend, hdown', hup', hafter⟩ :=
    PpaassConnection.Steps.carries hl.connection hdown hup rfl hcalm hconveys
  rw [agentCall_recv] at hrecv
  rw [agentCall_sent] at hsend hafter
  have hanswers : AgentAnswers { l with agentToProxy := cout₀ } e
      { l with
        clientToAgent := links.clientToAgent
        agentToProxy := cout
        proxyToAgent := cin
        agentToClient := links.agentToClient } := {
    clientToAgent := by rw [hr.clientToAgent]; exact hl.clientToAgent
    agentToClient := by rw [hr.agentToClient]; exact hl.agentToClient
    proxyToAgent := hrecv
    agentToProxy := hsend
    proxyToDst := rfl
    dstToProxy := rfl
    reply := by rw [hr.agentToClient]; exact hl.reply }
  have hstep : ReflTransGen (System.Step setup.toSetup) (w.over l)
      (w.over { l with agentToProxy := cout₀ }) := by
    rcases hbreak with rfl | hbreak
    · exact .refl
    · exact .single (.env (.breakAgentToProxy hbreak))
  have hhistory : agent.history proxySent .up =
      w.agent.history proxySent .up ++ (proxySent e).toList :=
    hinv.agent.history_step (agentSpec_sound _) (agent_uses_proxySent _) hs
  refine ⟨_, hstep.tail (.task (.agent hs hanswers)), ?_⟩
  exact {
    clientToAgent := rfl
    agentToClient := rfl
    proxyToDst := hr.proxyToDst.trans hl.proxyToDst.symm
    dstToProxy := hr.dstToProxy.trans hl.dstToProxy.symm
    up := by
      rw [hl.proxyInner]
      refine ⟨spoiled'', hup', fun h => ?_⟩
      rw [hhistory]
      rcases hafter h with h | ⟨xs, hfailed⟩
      · obtain ⟨xs, hfailed⟩ := hspoiled h
        exact ⟨xs, List.mem_append_left _ hfailed⟩
      · exact ⟨xs, List.mem_append_right _ (Option.mem_toList.2 hfailed)⟩
    down := ⟨spoiled', hdown', hspoiled'⟩
    agentCodec := PpaassConnection.Steps.configured hl.connection hr.agentCodec
    proxyCodec := by rw [hl.proxyInner]; exact hr.proxyCodec }

theorem Refines.proxyStep {side : Option Side} {e : Event proxySig}
    {proxy : Tasks proxySig (Except ProxyServerError Unit)} {links : WireLinks setup.libs}
    (hs : Tasks.Step Proxy.spawn w.proxy side (some e) proxy) (hl : ProxyWires w.links e links) :
    ∃ l', ReflTransGen (System.Step setup.toSetup) (w.over l) ⟨w.agent, proxy, l'⟩ ∧
      Refines setup { w with proxy, links } l' := by
  obtain ⟨spoiled, hup, hspoiled⟩ := hr.up
  obtain ⟨spoiled', hdown, hspoiled'⟩ := hr.down
  have hcalm : ∀ m r, proxyCall e = some (.feed m r) → spoiled' = false ∧
      w.links.proxyToAgent.closed = false := by
    intro m r hcall
    obtain rfl := proxyCall_feed hcall
    have hunspoilt := hfeeds.proxy_calm hs
    constructor
    · by_contra hne
      obtain ⟨xs, hfailed⟩ := hspoiled' (by simpa using hne)
      have := (hunspoilt _ hfailed).1
      cases this
    · rw [← hdown.closed]
      exact Bool.eq_false_iff.2 fun hclosed =>
        (hunspoilt _ (hinv.proxyEnds.proxyToAgent.closed.1 hclosed)).2 true rfl
  have hconveys : ∀ m, proxyCall e = some (.feed m (.ok ())) →
      Conveys setup.libs.proxyPayload w.links.proxyInner.codec setup.agentCodec m := by
    intro m hcall
    obtain rfl := proxyCall_feed hcall
    exact laws.conveysDown hr.proxyCodec (hfeeds.proxy_says hinv hs)
  obtain ⟨cin, cout₀, cout, spoiled'', hrecv, hbreak, hsend, hup', hdown', hafter⟩ :=
    PpaassConnection.Steps.carries hl.connection hup hdown rfl hcalm hconveys
  rw [proxyCall_recv] at hrecv
  rw [proxyCall_sent] at hsend hafter
  have hanswers : ProxyAnswers { l with proxyToAgent := cout₀ } e
      { l with
        agentToProxy := cin
        proxyToAgent := cout
        dstToProxy := links.dstToProxy
        proxyToDst := links.proxyToDst } := {
    agentToProxy := hrecv
    proxyToAgent := hsend
    dstToProxy := by rw [hr.dstToProxy]; exact hl.dstToProxy
    proxyToDst := by rw [hr.proxyToDst]; exact hl.proxyToDst
    clientToAgent := rfl
    agentToClient := rfl }
  have hstep : ReflTransGen (System.Step setup.toSetup) (w.over l)
      (w.over { l with proxyToAgent := cout₀ }) := by
    rcases hbreak with rfl | hbreak
    · exact .refl
    · exact .single (.env (.breakProxyToAgent hbreak))
  have hhistory : proxy.history agentSent .down =
      w.proxy.history agentSent .down ++ (agentSent e).toList :=
    hinv.proxy.history_step proxySpec_sound proxy_uses_agentSent hs
  refine ⟨_, hstep.tail (.task (.proxy hs hanswers)), ?_⟩
  exact {
    clientToAgent := hr.clientToAgent.trans hl.clientToAgent.symm
    agentToClient := hr.agentToClient.trans hl.agentToClient.symm
    proxyToDst := rfl
    dstToProxy := rfl
    up := ⟨spoiled, hup', hspoiled⟩
    down := by
      rw [hl.agentInner]
      refine ⟨spoiled'', hdown', fun h => ?_⟩
      rw [hhistory]
      rcases hafter h with h | ⟨xs, hfailed⟩
      · obtain ⟨xs, hfailed⟩ := hspoiled' h
        exact ⟨xs, List.mem_append_left _ hfailed⟩
      · exact ⟨xs, List.mem_append_right _ (Option.mem_toList.2 hfailed)⟩
    agentCodec := by rw [hl.agentInner]; exact hr.agentCodec
    proxyCodec := PpaassConnection.Steps.configured hl.connection hr.proxyCodec }

end

section
variable {w : WireSystem setup.libs} {l : Links} (hr : Refines setup w l)
include hr

/-- A round of `poll_next` is no step of the messages. -/
theorem Refines.agentPoll {c : PpaassProxyConnection setup.libs}
    (hpoll : PpaassProxyConnection.Poll w.links.proxyConnection c) :
    Refines setup { w with links := w.links.setProxyConnection c } l := by
  obtain ⟨spoiled, hdown, hspoiled⟩ := hr.down
  obtain ⟨hcarries, houtput⟩ := PpaassConnection.Poll.carries hpoll hdown
  have houtput' : c.output = w.links.agentToProxy := houtput
  exact { hr with
    up := by
      show ∃ spoiled, CarriesTo _ _ spoiled w.links.proxyInner c.output l.agentToProxy ∧ _
      rw [houtput']
      exact hr.up
    down := ⟨spoiled, hcarries, hspoiled⟩
    agentCodec := PpaassConnection.Poll.configured hpoll hr.agentCodec }

theorem Refines.proxyPoll {c : PpaassAgentConnection setup.libs}
    (hpoll : PpaassAgentConnection.Poll w.links.agentConnection c) :
    Refines setup { w with links := w.links.setAgentConnection c } l := by
  obtain ⟨spoiled, hup, hspoiled⟩ := hr.up
  obtain ⟨hcarries, houtput⟩ := PpaassConnection.Poll.carries hpoll hup
  have houtput' : c.output = w.links.proxyToAgent := houtput
  exact { hr with
    up := ⟨spoiled, hcarries, hspoiled⟩
    down := by
      show ∃ spoiled, CarriesTo _ _ spoiled w.links.agentInner c.output l.proxyToAgent ∧ _
      rw [houtput']
      exact hr.down
    proxyCodec := PpaassConnection.Poll.configured hpoll hr.proxyCodec }

/-- What the client, the destination and the network do is the same over messages. -/
theorem Refines.env {links : WireLinks setup.libs} (hl : w.links.Env links) :
    ∃ l', l.Env l' ∧ Refines setup { w with links } l' := by
  cases hl with
  | @clientSend e c h =>
    rw [← hr.clientToAgent] at h
    exact ⟨{ l with clientToAgent := c }, .clientSend h, { hr with clientToAgent := rfl }⟩
  | @clientRecv e c h =>
    rw [← hr.agentToClient] at h
    exact ⟨{ l with agentToClient := c }, .clientRecv h, { hr with agentToClient := rfl }⟩
  | @dstSend e c h =>
    rw [← hr.dstToProxy] at h
    exact ⟨{ l with dstToProxy := c }, .dstSend h, { hr with dstToProxy := rfl }⟩
  | @dstRecv e c h =>
    rw [← hr.proxyToDst] at h
    exact ⟨{ l with proxyToDst := c }, .dstRecv h, { hr with proxyToDst := rfl }⟩
  | @breakClientToAgent c h =>
    rw [← hr.clientToAgent] at h
    exact ⟨{ l with clientToAgent := c }, .breakClientToAgent h, { hr with clientToAgent := rfl }⟩
  | @breakAgentToClient c h =>
    rw [← hr.agentToClient] at h
    exact ⟨{ l with agentToClient := c }, .breakAgentToClient h, { hr with agentToClient := rfl }⟩
  | @breakProxyToDst c h =>
    rw [← hr.proxyToDst] at h
    exact ⟨{ l with proxyToDst := c }, .breakProxyToDst h, { hr with proxyToDst := rfl }⟩
  | @breakDstToProxy c h =>
    rw [← hr.dstToProxy] at h
    exact ⟨{ l with dstToProxy := c }, .breakDstToProxy h, { hr with dstToProxy := rfl }⟩
  | breakAgentToProxy h =>
    obtain ⟨spoiled, hup, hspoiled⟩ := hr.up
    obtain ⟨c, hbreak, hup'⟩ := hup.break h
    exact ⟨_, .breakAgentToProxy hbreak, { hr with up := ⟨spoiled, hup', hspoiled⟩ }⟩
  | breakProxyToAgent h =>
    obtain ⟨spoiled, hdown, hspoiled⟩ := hr.down
    obtain ⟨c, hbreak, hdown'⟩ := hdown.break h
    exact ⟨_, .breakProxyToAgent hbreak, { hr with down := ⟨spoiled, hdown', hspoiled⟩ }⟩

end

/-- **A step of the wire** is steps of the tunnel of messages. -/
theorem Refines.step (laws : setup.Laws) {w w' : WireSystem setup.libs} {l : Links}
    (hr : Refines setup w l) (hinv : System.Inv setup.toSetup (w.over l))
    (hfeeds : System.Feeds setup.toSetup (w.over l)) (hstep : WireSystem.Step setup w w') :
    ∃ l', ReflTransGen (System.Step setup.toSetup) (w.over l) (w'.over l') ∧
      Refines setup w' l' := by
  cases hstep with
  | env hl =>
    obtain ⟨l', henv, hr'⟩ := hr.env hl
    exact ⟨l', .single (.env henv), hr'⟩
  | task ht =>
    cases ht with
    | agent hs hl => exact hr.agentStep laws hinv hfeeds hs hl
    | proxy hs hl => exact hr.proxyStep laws hinv hfeeds hs hl
    | agentPoll _ hpoll => exact ⟨l, .refl, hr.agentPoll hpoll⟩
    | proxyPoll _ hpoll => exact ⟨l, .refl, hr.proxyPoll hpoll⟩
    | @agentSilent _ agent hs =>
      have hhistory : agent.history proxySent .up = w.agent.history proxySent .up :=
        hinv.agent.history_silent (agentSpec_sound _) hs
      have hup := hr.up
      rw [← hhistory] at hup
      exact ⟨l, .single (.task (.agentSilent hs)), { hr with up := hup }⟩
    | @proxySilent _ proxy hs =>
      have hhistory : proxy.history agentSent .down = w.proxy.history agentSent .down :=
        hinv.proxy.history_silent proxySpec_sound hs
      have hdown := hr.down
      rw [← hhistory] at hdown
      exact ⟨l, .single (.task (.proxySilent hs)), { hr with down := hdown }⟩

/-- Every state the wire reaches stands for one that the tunnel of messages reaches. -/
theorem WireSystem.reachable_refines (laws : setup.Laws) {w : WireSystem setup.libs}
    (h : WireSystem.Reachable setup w) :
    ∃ l, System.Reachable setup.toSetup (w.over l) ∧ Refines setup w l := by
  induction h with
  | refl => exact ⟨.empty, .refl, start_refines⟩
  | tail _ hstep ih =>
    obtain ⟨l, hreach, hr⟩ := ih
    obtain ⟨l', hsteps, hr'⟩ :=
      hr.step laws (System.reachable_inv hreach) (System.reachable_feeds hreach) hstep
    exact ⟨l', hreach.trans hsteps, hr'⟩

/-! ## What the links answer -/

section
variable {libs : Libs} {l : WireLinks libs}

theorem agentWires_refl {e : Event agentSig} (hcall : agentCall e = none)
    (hrecv : clientRecv e = none) (hsent : clientSent e = none) (hreply : replyFailed e = false) :
    AgentWires l e l where
  clientToAgent := by rw [hrecv]; rfl
  agentToClient := by rw [hsent]; rfl
  connection := by rw [hcall]; rfl
  proxyInner := rfl
  proxyToDst := rfl
  dstToProxy := rfl
  reply := by rw [hreply]; exact nofun

theorem agentWires_clientRecv {e : Event agentSig} {r : RecvEvent UInt8} {c : Channel UInt8}
    (he : clientRecv e = some r) (h : l.clientToAgent.Recv r c) :
    AgentWires l e { l with clientToAgent := c } := by
  obtain ⟨op, a⟩ := e
  cases op <;> cases he
  exact ⟨h, rfl, rfl, rfl, rfl, rfl, nofun⟩

theorem agentWires_clientSent {e : Event agentSig} {x : SendEvent UInt8} {c : Channel UInt8}
    (he : clientSent e = some x) (h : l.agentToClient.Send x c) :
    AgentWires l e { l with agentToClient := c } := by
  obtain ⟨op, a⟩ := e
  cases op <;> cases he <;> exact ⟨rfl, h, rfl, rfl, rfl, rfl, nofun⟩

theorem agentWires_call {e : Event agentSig}
    {x : ConnectionEvent PpaassProxyMessagePayload PpaassAgentMessagePayload}
    {c : PpaassProxyConnection libs} (he : agentCall e = some x)
    (h : PpaassProxyConnection.Steps l.proxyConnection (some x) c) :
    AgentWires l e (l.setProxyConnection c) := by
  obtain ⟨op, a⟩ := e
  cases op <;> cases he <;> exact ⟨rfl, rfl, h, rfl, rfl, rfl, nofun⟩

theorem proxyWires_refl {e : Event proxySig} (hcall : proxyCall e = none)
    (hrecv : dstRecv e = none) (hsent : dstSent e = none) : ProxyWires l e l where
  dstToProxy := by rw [hrecv]; rfl
  proxyToDst := by rw [hsent]; rfl
  connection := by rw [hcall]; rfl
  agentInner := rfl
  clientToAgent := rfl
  agentToClient := rfl

theorem proxyWires_dstRecv {e : Event proxySig} {r : RecvEvent UInt8} {c : Channel UInt8}
    (he : dstRecv e = some r) (h : l.dstToProxy.Recv r c) :
    ProxyWires l e { l with dstToProxy := c } := by
  obtain ⟨op, a⟩ := e
  cases op <;> cases he
  exact ⟨h, rfl, rfl, rfl, rfl, rfl⟩

theorem proxyWires_dstSent {e : Event proxySig} {x : SendEvent UInt8} {c : Channel UInt8}
    (he : dstSent e = some x) (h : l.proxyToDst.Send x c) :
    ProxyWires l e { l with proxyToDst := c } := by
  obtain ⟨op, a⟩ := e
  cases op <;> cases he <;> exact ⟨rfl, h, rfl, rfl, rfl, rfl⟩

theorem proxyWires_call {e : Event proxySig}
    {x : ConnectionEvent PpaassAgentMessagePayload PpaassProxyMessagePayload}
    {c : PpaassAgentConnection libs} (he : proxyCall e = some x)
    (h : PpaassAgentConnection.Steps l.agentConnection (some x) c) :
    ProxyWires l e (l.setAgentConnection c) := by
  obtain ⟨op, a⟩ := e
  cases op <;> cases he <;> exact ⟨rfl, rfl, h, rfl, rfl, rfl⟩

end

/-! ## Where nothing moves -/

/-- A call at the agent's connection is a step of the wire. -/
theorem wire_agentCall {w : WireSystem setup.libs} {side : Option Side} {op : AgentOp} {a : op.Ans}
    {agent : Tasks agentSig (Except (Fault AgentError) Unit)} {c : PpaassProxyConnection setup.libs}
    {x : ConnectionEvent PpaassProxyMessagePayload PpaassAgentMessagePayload}
    (hs : Tasks.Step (Agent.spawn setup.agentConfig) w.agent side (some ⟨op, a⟩) agent)
    (a' : op.Ans) (he : agentCall ⟨op, a'⟩ = some x)
    (hcall : PpaassProxyConnection.Steps w.links.proxyConnection (some x) c) :
    ∃ w', WireSystem.TaskStep setup w w' := by
  obtain ⟨agent', hs'⟩ := hs.answers a'
  exact ⟨_, .agent hs' (agentWires_call he hcall)⟩

theorem wire_proxyCall {w : WireSystem setup.libs} {side : Option Side} {op : ProxyOp} {a : op.Ans}
    {proxy : Tasks proxySig (Except ProxyServerError Unit)} {c : PpaassAgentConnection setup.libs}
    {x : ConnectionEvent PpaassAgentMessagePayload PpaassProxyMessagePayload}
    (hs : Tasks.Step Proxy.spawn w.proxy side (some ⟨op, a⟩) proxy) (a' : op.Ans)
    (he : proxyCall ⟨op, a'⟩ = some x)
    (hcall : PpaassAgentConnection.Steps w.links.agentConnection (some x) c) :
    ∃ w', WireSystem.TaskStep setup w w' := by
  obtain ⟨proxy', hs'⟩ := hs.answers a'
  exact ⟨_, .proxy hs' (proxyWires_call he hcall)⟩

section
variable (laws : setup.Laws) {w : WireSystem setup.libs} {l : Links} (hr : Refines setup w l)
  (hinv : System.Inv setup.toSetup (w.over l)) (hfeeds : System.Feeds setup.toSetup (w.over l))
  (hintact : l.Intact)
include laws hr hinv hfeeds hintact

omit hinv in
/-- Where a task of the agent can take a step over the messages, one can be taken on the wire. -/
theorem Refines.exists_agentStep {side : Option Side} {op : AgentOp} {a : op.Ans} {l' : Links}
    {agent : Tasks agentSig (Except (Fault AgentError) Unit)}
    (hs : Tasks.Step (Agent.spawn setup.agentConfig) w.agent side (some ⟨op, a⟩) agent)
    (hl : AgentAnswers l ⟨op, a⟩ l') : ∃ w', WireSystem.TaskStep setup w w' := by
  obtain ⟨spoiled, hup, -⟩ := hr.up
  obtain ⟨spoiled', hdown, -⟩ := hr.down
  have hquiet : agentCall ⟨op, a⟩ = none → ∃ w', WireSystem.TaskStep setup w w' := by
    intro hcall
    have hclient := hl.clientToAgent
    have htoClient := hl.agentToClient
    have hreply := hl.reply
    rw [hr.clientToAgent] at hclient
    rw [hr.agentToClient] at htoClient hreply
    have hwires : AgentWires w.links ⟨op, a⟩ { w.links with
        clientToAgent := l'.clientToAgent
        agentToClient := l'.agentToClient } := {
      clientToAgent := hclient
      agentToClient := htoClient
      connection := by rw [hcall]; rfl
      proxyInner := rfl
      proxyToDst := rfl
      dstToProxy := rfl
      reply := hreply }
    exact ⟨_, .agent hs hwires⟩
  cases op with
  | proxyNext =>
    have hnext : (∃ r c, PpaassConnection.Step setup.libs.proxyPayload setup.libs.agentPayload
        w.links.proxyConnection (.next r) c) ∨
        ∃ c, PpaassConnection.Poll setup.libs.proxyPayload w.links.proxyConnection c := by
      have hrecv := hl.proxyToAgent
      rw [← agentCall_recv] at hrecv
      exact PpaassConnection.exists_next hdown hintact.proxyToAgent hrecv
    rcases hnext with ⟨r, c, hnext⟩ | ⟨c, hpoll⟩
    · exact wire_agentCall hs r rfl hnext
    · exact ⟨_, .agentPoll hs hpoll⟩
  | proxyFeed m =>
    obtain ⟨token, htoken⟩ := (hfeeds.agent_says hs).ciphered
    obtain ⟨cipher, haes⟩ := laws.aes
    obtain ⟨rng⟩ := laws.rng
    have hfeed : ∃ r c, PpaassConnection.Step setup.libs.proxyPayload setup.libs.agentPayload
        w.links.proxyConnection (.feed m r) c :=
      PpaassConnection.exists_feed rng
        (ConnectionCodec.encodeBody_ne_panic haes _ _ _ rng htoken)
    obtain ⟨r, c, hfeed⟩ := hfeed
    exact wire_agentCall hs r rfl hfeed
  | proxyFlush =>
    have hflush : ∃ c, PpaassConnection.Step setup.libs.proxyPayload setup.libs.agentPayload
        w.links.proxyConnection (.flush (.ok ())) c := PpaassConnection.exists_flush
    obtain ⟨c, hflush⟩ := hflush
    exact wire_agentCall hs (.ok () : Except CommonError Unit) rfl hflush
  | proxyClose =>
    have hclose : ∃ c, PpaassConnection.Step setup.libs.proxyPayload setup.libs.agentPayload
        w.links.proxyConnection (.close (.ok ())) c := PpaassConnection.exists_close
    obtain ⟨c, hclose⟩ := hclose
    exact wire_agentCall hs (.ok () : Except CommonError Unit) rfl hclose
  | _ => exact hquiet rfl

theorem Refines.exists_proxyStep {side : Option Side} {op : ProxyOp} {a : op.Ans} {l' : Links}
    {proxy : Tasks proxySig (Except ProxyServerError Unit)}
    (hs : Tasks.Step Proxy.spawn w.proxy side (some ⟨op, a⟩) proxy)
    (hl : ProxyAnswers l ⟨op, a⟩ l') : ∃ w', WireSystem.TaskStep setup w w' := by
  obtain ⟨spoiled, hup, -⟩ := hr.up
  obtain ⟨spoiled', hdown, -⟩ := hr.down
  have hquiet : proxyCall ⟨op, a⟩ = none → ∃ w', WireSystem.TaskStep setup w w' := by
    intro hcall
    have hdst := hl.dstToProxy
    have htoDst := hl.proxyToDst
    rw [hr.dstToProxy] at hdst
    rw [hr.proxyToDst] at htoDst
    have hwires : ProxyWires w.links ⟨op, a⟩ { w.links with
        dstToProxy := l'.dstToProxy
        proxyToDst := l'.proxyToDst } := {
      dstToProxy := hdst
      proxyToDst := htoDst
      connection := by rw [hcall]; rfl
      agentInner := rfl
      clientToAgent := rfl
      agentToClient := rfl }
    exact ⟨_, .proxy hs hwires⟩
  cases op with
  | agentNext =>
    have hnext : (∃ r c, PpaassConnection.Step setup.libs.agentPayload setup.libs.proxyPayload
        w.links.agentConnection (.next r) c) ∨
        ∃ c, PpaassConnection.Poll setup.libs.agentPayload w.links.agentConnection c := by
      have hrecv := hl.agentToProxy
      rw [← proxyCall_recv] at hrecv
      exact PpaassConnection.exists_next hup hintact.agentToProxy hrecv
    rcases hnext with ⟨r, c, hnext⟩ | ⟨c, hpoll⟩
    · exact wire_proxyCall hs r rfl hnext
    · exact ⟨_, .proxyPoll hs hpoll⟩
  | agentFeed m =>
    obtain ⟨token, htoken⟩ := (hfeeds.proxy_says hinv hs).ciphered
    obtain ⟨cipher, haes⟩ := laws.aes
    obtain ⟨rng⟩ := laws.rng
    have hfeed : ∃ r c, PpaassConnection.Step setup.libs.agentPayload setup.libs.proxyPayload
        w.links.agentConnection (.feed m r) c :=
      PpaassConnection.exists_feed rng
        (ConnectionCodec.encodeBody_ne_panic haes _ _ _ rng htoken)
    obtain ⟨r, c, hfeed⟩ := hfeed
    exact wire_proxyCall hs r rfl hfeed
  | agentFlush =>
    have hflush : ∃ c, PpaassConnection.Step setup.libs.agentPayload setup.libs.proxyPayload
        w.links.agentConnection (.flush (.ok ())) c := PpaassConnection.exists_flush
    obtain ⟨c, hflush⟩ := hflush
    exact wire_proxyCall hs (.ok () : Except CommonError Unit) rfl hflush
  | agentClose =>
    have hclose : ∃ c, PpaassConnection.Step setup.libs.agentPayload setup.libs.proxyPayload
        w.links.agentConnection (.close (.ok ())) c := PpaassConnection.exists_close
    obtain ⟨c, hclose⟩ := hclose
    exact wire_proxyCall hs (.ok () : Except CommonError Unit) rfl hclose
  | _ => exact hquiet rfl

/-- **Where nothing moves on the wire, nothing moves over the messages.** -/
theorem Refines.quiescent (hq : WireSystem.Quiescent setup w) :
    System.Quiescent setup.toSetup (w.over l) := by
  intro s' hstep
  cases hstep with
  | agentSilent hs => exact hq _ (.agentSilent hs)
  | proxySilent hs => exact hq _ (.proxySilent hs)
  | agent hs hl =>
    obtain ⟨w', hw⟩ := hr.exists_agentStep laws hfeeds hintact hs hl
    exact hq w' hw
  | proxy hs hl =>
    obtain ⟨w', hw⟩ := hr.exists_proxyStep laws hinv hfeeds hintact hs hl
    exact hq w' hw

end

/-! ## Results -/

namespace WireSystem

/-- What has been delivered, and what the relay tasks have read. -/
structure Delivers (setup : WireSetup) (w : WireSystem setup.libs) : Prop where
  toDst : w.links.proxyToDst.written <+: setup.request.initData ++ w.links.clientToAgent.fed
  toClient : w.links.agentToClient.written <+: w.links.dstToProxy.fed
  proxyRelay : ∀ c ∈ agentToDstPump.taken (w.proxy.trace (some .up)), IsAgentData c
  agentRelay : ∀ c ∈ proxyToClientPump.taken (w.agent.trace (some .down)), IsProxyData c

/-- Everything has been delivered. -/
structure DeliversAll (setup : WireSetup) (w : WireSystem setup.libs) : Prop where
  toDst : w.links.proxyToDst.written = setup.request.initData ++ w.links.clientToAgent.fed
  toClient : w.links.agentToClient.written = w.links.dstToProxy.fed

/-- The tunnel is in use, both ends have closed, no link has failed, every message could be sent,
and no task can take a step. -/
structure Finished (setup : WireSetup) (w : WireSystem setup.libs) : Prop where
  established : w.agent.task .up ≠ none
  clientClosed : w.links.clientToAgent.closed = true
  dstClosed : w.links.dstToProxy.closed = true
  intact : w.links.Intact
  agentSends : ∀ m e, ⟨.proxyFeed m, .error e⟩ ∉ w.agent.events
  proxySends : ∀ m e, ⟨.agentFeed m, .error e⟩ ∉ w.proxy.events
  quiescent : Quiescent setup w

end WireSystem

/-- A failed feed of the agent is an event. -/
theorem agent_failed_feed {g : Tasks agentSig (Except (Fault AgentError) Unit)}
    {xs : List AgentContent} (h : .feed xs false ∈ g.history proxySent .up) :
    ∃ m e, ⟨.proxyFeed m, .error e⟩ ∈ g.events := by
  obtain ⟨⟨op, a⟩, hx, hsent⟩ := Tasks.mem_history h
  cases op with
  | proxyFeed m =>
    rcases a with e | _
    · exact ⟨m, e, hx⟩
    · cases hsent
  | _ => cases hsent

/-- And one of the proxy. -/
theorem proxy_failed_feed {g : Tasks proxySig (Except ProxyServerError Unit)}
    {xs : List ProxyContent} (h : .feed xs false ∈ g.history agentSent .down) :
    ∃ m e, ⟨.agentFeed m, .error e⟩ ∈ g.events := by
  obtain ⟨⟨op, a⟩, hx, hsent⟩ := Tasks.mem_history h
  cases op with
  | agentFeed m =>
    rcases a with e | _
    · exact ⟨m, e, hx⟩
    · cases hsent
  | _ => cases hsent

theorem Refines.intact {w : WireSystem setup.libs} {l : Links} (hr : Refines setup w l)
    (hf : WireSystem.Finished setup w) : l.Intact := by
  obtain ⟨spoiled, hup, hspoiled⟩ := hr.up
  obtain ⟨spoiled', hdown, hspoiled'⟩ := hr.down
  have hintact := hf.intact
  exact {
    clientToAgent := by rw [hr.clientToAgent]; exact hintact.clientToAgent
    agentToProxy := by
      rw [hup.broken, hintact.agentToProxy, Bool.false_or, ← Bool.not_eq_true]
      intro h
      obtain ⟨xs, hxs⟩ := hspoiled h
      obtain ⟨m, e, hmem⟩ := agent_failed_feed hxs
      exact hf.agentSends m e hmem
    proxyToDst := by rw [hr.proxyToDst]; exact hintact.proxyToDst
    dstToProxy := by rw [hr.dstToProxy]; exact hintact.dstToProxy
    proxyToAgent := by
      rw [hdown.broken, hintact.proxyToAgent, Bool.false_or, ← Bool.not_eq_true]
      intro h
      obtain ⟨xs, hxs⟩ := hspoiled' h
      obtain ⟨m, e, hmem⟩ := proxy_failed_feed hxs
      exact hf.proxySends m e hmem
    agentToClient := by rw [hr.agentToClient]; exact hintact.agentToClient }

/-! ## Integrity -/

/-- The tunnel of `connectSetup` on the wire. -/
def asking (compress : Bool) : WireSetup where
  toSetup := System.connectSetup
  libs := Reference.libs
  agentFetcher := Reference.fetcher "user1"
  proxyFetcher := Reference.fetcher "user1"
  agentCompress := compress
  proxyCompress := true

theorem asking_laws : (asking true).Laws where
  agentCompress := rfl
  proxyCompress := rfl
  gzip := Reference.gzipRoundTrips
  envelope := Reference.envelopeRoundTrips
  aes := Reference.aesPermutes
  rng := ⟨()⟩
  pairedUp := Reference.pairedAt "user1"
  pairedDown := Reference.pairedAt "user1"
  agentPayload _ := Reference.agentPayload_roundTripsAt
  proxyPayload _ := Reference.proxyPayload_roundTripsAt
  srcAddress := trivial
  dstAddress dstAddress initData h := by
    cases h
    trivial

/-- **Integrity of a tunnel on the wire**: through framing, compression and encryption, with any
interleaving and any splitting of the bytes. -/
theorem WireSystem.wire_integrity (setup : WireSetup) (laws : setup.Laws)
    (w : WireSystem setup.libs) (h : Reachable setup w) :
    Delivers setup w ∧ (Finished setup w → DeliversAll setup w) := by
  obtain ⟨l, hreach, hr⟩ := reachable_refines laws h
  have hinv := System.reachable_inv hreach
  have hfeeds := System.reachable_feeds hreach
  have htoDst := hinv.toDst_le
  have htoClient := hinv.toClient_le
  simp only [WireSystem.over, hr.proxyToDst, hr.clientToAgent, hr.agentToClient, hr.dstToProxy]
    at htoDst htoClient
  refine ⟨⟨htoDst, htoClient, hinv.proxy_taken, hinv.agent_taken⟩, fun hf => ?_⟩
  have hintact := hr.intact hf
  have hq := hr.quiescent laws hinv hfeeds hintact hf.quiescent
  have hrelays : System.AgentRelays setup.toSetup (w.over l) .up :=
    (hinv.agent.spawned .up).1 hf.established
  have hdst := hinv.toDst_eq hq hintact hrelays (by rw [← hf.clientClosed, ← hr.clientToAgent]; rfl)
  have hclient := hinv.toClient_eq hq hintact hrelays (by rw [← hf.dstClosed, ← hr.dstToProxy]; rfl)
  simp only [WireSystem.over, hr.proxyToDst, hr.clientToAgent, hr.agentToClient, hr.dstToProxy]
    at hdst hclient
  exact ⟨hdst, hclient⟩

/-! ### A run to the end -/

namespace WireSystem

open Channel
open ConnectionCodec (Encodes Decodes encodeBody frameOf encodes_frameOf decodes_sealed
  referenceCodec)

/-- A message was not sent. -/
def proxyRefused : Event agentSig → Bool
  | ⟨.proxyFeed _, .error _⟩ => true
  | _ => false

def agentRefused : Event proxySig → Bool
  | ⟨.agentFeed _, .error _⟩ => true
  | _ => false

section
variable {libs : Libs}

/-- The links answer an event of the agent and refuse no message. Where it waits for one, its
connection is polled before. -/
inductive AgentFlows : WireLinks libs → Event agentSig → WireLinks libs → Prop
  | now {l l' : WireLinks libs} {e : Event agentSig} (hl : AgentWires l e l')
      (hsends : proxyRefused e = false) : AgentFlows l e l'
  | polled {l l' : WireLinks libs} {r : AgentOp.proxyNext.Ans} {c : PpaassProxyConnection libs}
      (hpoll : PpaassProxyConnection.Poll l.proxyConnection c)
      (hl : AgentWires (l.setProxyConnection c) ⟨.proxyNext, r⟩ l') :
      AgentFlows l ⟨.proxyNext, r⟩ l'

/-- And one of the proxy. -/
inductive ProxyFlows : WireLinks libs → Event proxySig → WireLinks libs → Prop
  | now {l l' : WireLinks libs} {e : Event proxySig} (hl : ProxyWires l e l')
      (hsends : agentRefused e = false) : ProxyFlows l e l'
  | polled {l l' : WireLinks libs} {r : ProxyOp.agentNext.Ans} {c : PpaassAgentConnection libs}
      (hpoll : PpaassAgentConnection.Poll l.agentConnection c)
      (hl : ProxyWires (l.setAgentConnection c) ⟨.agentNext, r⟩ l') :
      ProxyFlows l ⟨.agentNext, r⟩ l'

theorem AgentFlows.sends {l l' : WireLinks libs} {e : Event agentSig} (h : AgentFlows l e l') :
    proxyRefused e = false := by
  cases h with
  | now _ hsends => exact hsends
  | polled => rfl

theorem ProxyFlows.sends {l l' : WireLinks libs} {e : Event proxySig} (h : ProxyFlows l e l') :
    agentRefused e = false := by
  cases h with
  | now _ hsends => exact hsends
  | polled => rfl

theorem agentFlows_refl {l : WireLinks libs} {e : Event agentSig} (hcall : agentCall e = none)
    (hrecv : clientRecv e = none) (hsent : clientSent e = none) (hreply : replyFailed e = false) :
    AgentFlows l e l := by
  refine .now (agentWires_refl hcall hrecv hsent hreply) ?_
  obtain ⟨op, a⟩ := e
  cases op with
  | proxyFeed m => cases hcall
  | _ => rfl

theorem proxyFlows_refl {l : WireLinks libs} {e : Event proxySig} (hcall : proxyCall e = none)
    (hrecv : dstRecv e = none) (hsent : dstSent e = none) : ProxyFlows l e l := by
  refine .now (proxyWires_refl hcall hrecv hsent) ?_
  obtain ⟨op, a⟩ := e
  cases op with
  | agentFeed m => cases hcall
  | _ => rfl

variable {up toProxy toProxy' toDst fromDst fromProxy fromProxy' down : Channel UInt8}
  {agentInner agentInner' proxyInner proxyInner' : Reader (ConnectionCodec libs)}
  {codec : ConnectionCodec libs} {isReadable : Bool} {frame : Bytes}

theorem agentFlows_call {e : Event agentSig}
    {x : ConnectionEvent PpaassProxyMessagePayload PpaassAgentMessagePayload}
    (he : agentCall e = some x)
    (h : PpaassConnection.Step libs.proxyPayload libs.agentPayload ⟨agentInner, fromProxy, toProxy⟩
      x ⟨agentInner', fromProxy', toProxy'⟩)
    (hsends : proxyRefused e = false) :
    AgentFlows ⟨up, toProxy, toDst, fromDst, fromProxy, down, agentInner, proxyInner⟩ e
      ⟨up, toProxy', toDst, fromDst, fromProxy', down, agentInner', proxyInner⟩ :=
  .now (@agentWires_call libs ⟨up, toProxy, toDst, fromDst, fromProxy, down, agentInner, proxyInner⟩
    e x ⟨agentInner', fromProxy', toProxy'⟩ he h) hsends

theorem agentFlows_polled {r : AgentOp.proxyNext.Ans} {c : PpaassProxyConnection libs}
    (hpoll : PpaassConnection.Poll libs.proxyPayload ⟨agentInner, fromProxy, toProxy⟩ c)
    (h : PpaassConnection.Step libs.proxyPayload libs.agentPayload c (.next r)
      ⟨agentInner', fromProxy', toProxy⟩) :
    AgentFlows ⟨up, toProxy, toDst, fromDst, fromProxy, down, agentInner, proxyInner⟩
      ⟨.proxyNext, r⟩
      ⟨up, toProxy, toDst, fromDst, fromProxy', down, agentInner', proxyInner⟩ :=
  .polled hpoll (@agentWires_call libs (WireLinks.setProxyConnection
    ⟨up, toProxy, toDst, fromDst, fromProxy, down, agentInner, proxyInner⟩ c) _ _
    ⟨agentInner', fromProxy', toProxy⟩ rfl h)

/-- The agent hears a message that has come. -/
theorem agentFlows_next (hs : codec.status = .head) {m : PpaassProxyMessage}
    (h : Decodes libs.proxyPayload codec frame m) (read : Bytes) (closed : Bool) :
    AgentFlows ⟨up, toProxy, toDst, fromDst, .flowing read frame closed, down,
        .waiting codec isReadable, proxyInner⟩ ⟨.proxyNext, some (.ok m)⟩
      ⟨up, toProxy, toDst, fromDst, .flowing (read ++ frame) [] closed, down,
        .waiting codec true, proxyInner⟩ := by
  obtain ⟨c, hpoll, hnext⟩ := PpaassConnection.next_flowing hs h read closed
  exact agentFlows_polled hpoll hnext

theorem agentFlows_end (hs : codec.status = .head) (read : Bytes) :
    AgentFlows ⟨up, toProxy, toDst, fromDst, .flowing read [] true, down,
        .waiting codec isReadable, proxyInner⟩ ⟨.proxyNext, none⟩
      ⟨up, toProxy, toDst, fromDst, .flowing read [] true, down,
        ⟨codec, [], false, true, false⟩, proxyInner⟩ := by
  obtain ⟨c, hpoll, hend⟩ := PpaassConnection.end_flowing hs read
  exact agentFlows_polled hpoll hend

theorem proxyFlows_call {e : Event proxySig}
    {x : ConnectionEvent PpaassAgentMessagePayload PpaassProxyMessagePayload}
    (he : proxyCall e = some x)
    (h : PpaassConnection.Step libs.agentPayload libs.proxyPayload ⟨proxyInner, toProxy, fromProxy⟩
      x ⟨proxyInner', toProxy', fromProxy'⟩)
    (hsends : agentRefused e = false) :
    ProxyFlows ⟨up, toProxy, toDst, fromDst, fromProxy, down, agentInner, proxyInner⟩ e
      ⟨up, toProxy', toDst, fromDst, fromProxy', down, agentInner, proxyInner'⟩ :=
  .now (@proxyWires_call libs ⟨up, toProxy, toDst, fromDst, fromProxy, down, agentInner, proxyInner⟩
    e x ⟨proxyInner', toProxy', fromProxy'⟩ he h) hsends

theorem proxyFlows_polled {r : ProxyOp.agentNext.Ans} {c : PpaassAgentConnection libs}
    (hpoll : PpaassConnection.Poll libs.agentPayload ⟨proxyInner, toProxy, fromProxy⟩ c)
    (h : PpaassConnection.Step libs.agentPayload libs.proxyPayload c (.next r)
      ⟨proxyInner', toProxy', fromProxy⟩) :
    ProxyFlows ⟨up, toProxy, toDst, fromDst, fromProxy, down, agentInner, proxyInner⟩
      ⟨.agentNext, r⟩
      ⟨up, toProxy', toDst, fromDst, fromProxy, down, agentInner, proxyInner'⟩ :=
  .polled hpoll (@proxyWires_call libs (WireLinks.setAgentConnection
    ⟨up, toProxy, toDst, fromDst, fromProxy, down, agentInner, proxyInner⟩ c) _ _
    ⟨proxyInner', toProxy', fromProxy⟩ rfl h)

/-- The proxy hears a message that has come. -/
theorem proxyFlows_next (hs : codec.status = .head) {m : PpaassAgentMessage}
    (h : Decodes libs.agentPayload codec frame m) (read : Bytes) (closed : Bool) :
    ProxyFlows ⟨up, .flowing read frame closed, toDst, fromDst, fromProxy, down, agentInner,
        .waiting codec isReadable⟩ ⟨.agentNext, some (.ok m)⟩
      ⟨up, .flowing (read ++ frame) [] closed, toDst, fromDst, fromProxy, down, agentInner,
        .waiting codec true⟩ := by
  obtain ⟨c, hpoll, hnext⟩ := PpaassConnection.next_flowing hs h read closed
  exact proxyFlows_polled hpoll hnext

theorem proxyFlows_end (hs : codec.status = .head) (read : Bytes) :
    ProxyFlows ⟨up, .flowing read [] true, toDst, fromDst, fromProxy, down, agentInner,
        .waiting codec isReadable⟩ ⟨.agentNext, none⟩
      ⟨up, .flowing read [] true, toDst, fromDst, fromProxy, down, agentInner,
        ⟨codec, [], false, true, false⟩⟩ := by
  obtain ⟨c, hpoll, hend⟩ := PpaassConnection.end_flowing hs read
  exact proxyFlows_polled hpoll hend

end

section
variable {w : WireSystem setup.libs} {l : WireLinks setup.libs}

/-- The tasks of the agent move, and the links answer. -/
theorem reachable_agent {g : Tasks agentSig (Except (Fault AgentError) Unit)}
    (h : Reachable setup w)
    (hs : Tasks.Reaches (Agent.spawn setup.agentConfig) AgentFlows (w.agent, w.links) (g, l)) :
    Reachable setup ⟨g, w.proxy, l⟩ := by
  let within : Tasks agentSig _ × WireLinks setup.libs → WireSystem setup.libs := fun x =>
    ⟨x.1, w.proxy, x.2⟩
  refine h.trans (hs.lift' within ?_)
  rintro _ _ @⟨_, _, _, e, _, _, hstep, hmoves⟩
  cases e with
  | none =>
    cases hmoves
    exact .single (.task (.agentSilent hstep))
  | some e =>
    cases hmoves with
    | now hl _ => exact .single (.task (.agent hstep hl))
    | polled hpoll hl =>
      exact .head (.task (.agentPoll hstep hpoll)) (.single (.task (.agent hstep hl)))

/-- And those of the proxy. -/
theorem reachable_proxy {g : Tasks proxySig (Except ProxyServerError Unit)}
    (h : Reachable setup w)
    (hs : Tasks.Reaches Proxy.spawn ProxyFlows (w.proxy, w.links) (g, l)) :
    Reachable setup ⟨w.agent, g, l⟩ := by
  let within : Tasks proxySig _ × WireLinks setup.libs → WireSystem setup.libs := fun x =>
    ⟨w.agent, x.1, x.2⟩
  refine h.trans (hs.lift' within ?_)
  rintro _ _ @⟨_, _, _, e, _, _, hstep, hmoves⟩
  cases e with
  | none =>
    cases hmoves
    exact .single (.task (.proxySilent hstep))
  | some e =>
    cases hmoves with
    | now hl _ => exact .single (.task (.proxy hstep hl))
    | polled hpoll hl =>
      exact .head (.task (.proxyPoll hstep hpoll)) (.single (.task (.proxy hstep hl)))

/-- The main program of the agent performs its next operation. -/
theorem reachable_agentMain (op : AgentOp) (a : op.Ans) {k : op.Ans → Prog agentSig _}
    (h : Reachable setup w) (hg : w.agent.main.prog = .vis op k)
    (hl : AgentFlows w.links ⟨op, a⟩ l) :
    Reachable setup ⟨Tasks.spawned (Agent.spawn setup.agentConfig)
      { w.agent with main := ⟨k a, w.agent.main.trace ++ [⟨op, a⟩]⟩ } (some ⟨op, a⟩), w.proxy,
      l⟩ :=
  reachable_agent h (.single (Tasks.in_main (S := agentSig) op a hg hl))

/-- And that of the proxy. -/
theorem reachable_proxyMain (op : ProxyOp) (a : op.Ans) {k : op.Ans → Prog proxySig _}
    (h : Reachable setup w) (hg : w.proxy.main.prog = .vis op k)
    (hl : ProxyFlows w.links ⟨op, a⟩ l) :
    Reachable setup ⟨w.agent, Tasks.spawned Proxy.spawn
      { w.proxy with main := ⟨k a, w.proxy.main.trace ++ [⟨op, a⟩]⟩ } (some ⟨op, a⟩), l⟩ :=
  reachable_proxy h (.single (Tasks.in_main (S := proxySig) op a hg hl))

/-- A relay task of the agent runs to its end, and every message is sent. -/
theorem reachable_agentTask (side : Side) {p : Prog agentSig Unit}
    (h : Reachable setup w) (hth : w.agent.task side = some (.new p))
    (hexec : Exec AgentFlows p w.links () l) :
    ∃ t, Reachable setup ⟨{ w.agent with
        task := Function.update w.agent.task side (some ⟨.ret (), t⟩) }, w.proxy, l⟩ ∧
      t.any proxyRefused = false := by
  obtain ⟨t, hs, ht⟩ := Tasks.reaches_of_exec side hth hexec
  refine ⟨t, reachable_agent h hs, List.any_eq_false.2 fun e he => ?_⟩
  obtain hnil | ⟨_, _, hflows⟩ := ht e he
  · cases hnil
  · exact Bool.eq_false_iff.1 hflows.sends

theorem reachable_proxyTask (side : Side) {p : Prog proxySig Unit}
    (h : Reachable setup w) (hth : w.proxy.task side = some (.new p))
    (hexec : Exec ProxyFlows p w.links () l) :
    ∃ t, Reachable setup ⟨w.agent, { w.proxy with
        task := Function.update w.proxy.task side (some ⟨.ret (), t⟩) }, l⟩ ∧
      t.any agentRefused = false := by
  obtain ⟨t, hs, ht⟩ := Tasks.reaches_of_exec side hth hexec
  refine ⟨t, reachable_proxy h hs, List.any_eq_false.2 fun e he => ?_⟩
  obtain hnil | ⟨_, _, hflows⟩ := ht e he
  · cases hnil
  · exact Bool.eq_false_iff.1 hflows.sends

/-- Tasks that have returned take no step. -/
theorem quiescent_of_returned {r : Except (Fault AgentError) Unit}
    {r' : Except ProxyServerError Unit} (hagent : w.agent.main.prog = .ret r)
    (hproxy : w.proxy.main.prog = .ret r')
    (hagentTask : ∀ side th, w.agent.task side = some th → th.prog = .ret ())
    (hproxyTask : ∀ side th, w.proxy.task side = some th → th.prog = .ret ()) :
    Quiescent setup w := by
  rintro w' (⟨hs, -⟩ | ⟨hs, -⟩ | hs | ⟨hs, -⟩ | ⟨hs, -⟩ | hs)
  · exact hs.not_ret hagent hagentTask
  · exact hs.not_ret hagent hagentTask
  · exact hs.not_ret hagent hagentTask
  · exact hs.not_ret hproxy hproxyTask
  · exact hs.not_ret hproxy hproxyTask
  · exact hs.not_ret hproxy hproxyTask

end

/-- The frame of a message of `user1`, and what it is decoded to. -/
theorem exists_frame {P : Type} {payload : Serde P} {m : PpaassMessage P}
    (huser : m.userToken = "user1") (hserde : payload.RoundTripsAt m.payload)
    (hok : (encodeBody payload (Reference.fetcher "user1") true () m).isOk = true) :
    ∃ frame encryption, Encodes payload referenceCodec m frame ∧
      Decodes payload referenceCodec frame
        ⟨m.messageId, m.userToken, encryption, m.payload⟩ := by
  have hencodes : Encodes payload referenceCodec m (frameOf payload referenceCodec ((), m)) :=
    @encodes_frameOf _ _ _ referenceCodec ((), m) hok
  have hpaired : PairedAt (Reference.fetcher "user1") (Reference.fetcher "user1") m.userToken := by
    rw [huser]
    exact Reference.pairedAt "user1"
  obtain ⟨-, -, sealed, -, hdecodes⟩ := decodes_sealed Reference.gzipRoundTrips
    Reference.envelopeRoundTrips Reference.aesPermutes ⟨hpaired, hserde⟩ hencodes true
  exact ⟨_, sealed.2, hencodes, hdecodes⟩

/-- A run in which each end has sent two bytes and closed, and the client is told of the tunnel. -/
theorem exists_wire_established : ∃ t t' request grant, Reachable (asking true) ⟨
      ⟨⟨.ret (.ok ()), t⟩, System.relays
        (Agent.relayClientToProxy "user1" (.aes (List.replicate 32 7))) Agent.relayProxyToClient⟩,
      ⟨⟨.ret (.ok ()), t'⟩, System.relays Proxy.TcpHandler.relayAgentToDst
        (Proxy.TcpHandler.relayDstToAgent "user1" (.aes (List.replicate 32 7)))⟩,
      ⟨.flowing [] [104, 105] true, .flowing request [] false, .empty, .flowing [] [111, 107] true,
        .flowing grant [] false, .empty, .waiting referenceCodec true,
        .waiting referenceCodec true⟩⟩ ∧
    t.any proxyRefused = false ∧ t'.any agentRefused = false ∧
    ∃ bytes, ⟨.clientSend bytes, .ok ()⟩ ∈ t := by
  let token : BlockMode.Block 32 := ⟨List.replicate 32 7, rfl⟩
  let src := (asking true).srcAddress
  let dst : PpaassUnifiedAddress := .ip (.v4 ⟨10, 0, 0, 1⟩ 80)
  let request := generateAgentTcpInitMessage "m1" "user1" src dst (.aes token.1)
  let grant := generateProxyTcpInitMessage "m2" "user1" src dst (.aes token.1) (.success "t1")
  let told : Bytes := [5, 0, 0, 1, 10, 0, 0, 1, 0, 80]
  obtain ⟨requestFrame, requestEncryption, hrequest, hrequest'⟩ := exists_frame
    (show request.userToken = "user1" from rfl)
    (@Reference.agentPayload_roundTripsAt request.payload ⟨trivial, trivial⟩)
    (by decide +kernel)
  obtain ⟨grantFrame, grantEncryption, hgrant, hgrant'⟩ := exists_frame
    (show grant.userToken = "user1" from rfl)
    (@Reference.proxyPayload_roundTripsAt grant.payload ⟨trivial, trivial⟩) (by decide +kernel)
  let heard : PpaassAgentMessage := ⟨"m1", "user1", requestEncryption, request.payload⟩
  let answer : PpaassProxyMessage := ⟨"m2", "user1", grantEncryption, grant.payload⟩
  -- each end sends and closes
  have h0 : Reachable (asking true) ⟨_, _, ⟨.flowing [] [104, 105] false, _, _, _, _, _, _, _⟩⟩ :=
    .single (.env (.clientSend (flowing_feed [] [] [104, 105])))
  have h1 := h0.tail (.env (.clientSend (flowing_close [] [104, 105] false)))
  have h2 := h1.tail (.env (.dstSend (flowing_feed [] [] [111, 107])))
  have h3 := h2.tail (.env (.dstSend (flowing_close [] [111, 107] false)))
  -- the agent asks for the tunnel
  have a1 := reachable_agentMain .random32Bytes token h3 rfl (agentFlows_refl rfl rfl rfl rfl)
  have a2 := reachable_agentMain .newUuid "m1" a1 rfl (agentFlows_refl rfl rfl rfl rfl)
  have a3 := reachable_agentMain .proxyConnect (some (.ok ())) a2 rfl
    (agentFlows_refl rfl rfl rfl rfl)
  have a4 := reachable_agentMain .proxySetNodelay (.ok ()) a3 rfl (agentFlows_refl rfl rfl rfl rfl)
  have a5 := reachable_agentMain (.proxyFeed request) (.ok ()) a4 rfl (agentFlows_call rfl
    (PpaassConnection.feed_flowing [] [] hrequest) rfl)
  have a6 := reachable_agentMain .proxyFlush (.ok ()) a5 rfl (agentFlows_call rfl
    (PpaassConnection.flush_flowing [] _ false) rfl)
  -- the proxy grants it
  have p1 := reachable_proxyMain .fetchAdd () a6 rfl (proxyFlows_refl rfl rfl rfl)
  have p2 := reachable_proxyMain .newUuid "t1" p1 rfl (proxyFlows_refl rfl rfl rfl)
  have p3 := reachable_proxyMain .agentNext (some (.ok heard)) p2 rfl
    (proxyFlows_next rfl hrequest' [] false)
  have p4 := reachable_proxyMain .random32Bytes token p3 rfl (proxyFlows_refl rfl rfl rfl)
  have p5 := reachable_proxyMain (.tcpConnect _) (some (.ok ())) p4 rfl
    (proxyFlows_refl rfl rfl rfl)
  have p6 := reachable_proxyMain .setNodelay (.ok ()) p5 rfl (proxyFlows_refl rfl rfl rfl)
  have p7 := reachable_proxyMain .setLinger (.ok ()) p6 rfl (proxyFlows_refl rfl rfl rfl)
  have p8 := reachable_proxyMain .newUuid "m2" p7 rfl (proxyFlows_refl rfl rfl rfl)
  have p9 := reachable_proxyMain (.agentFeed grant) (.ok ()) p8 rfl (proxyFlows_call rfl
    (PpaassConnection.feed_flowing [] [] hgrant) rfl)
  have p10 := reachable_proxyMain .agentFlush (.ok ()) p9 rfl (proxyFlows_call rfl
    (PpaassConnection.flush_flowing [] _ false) rfl)
  have p11 := reachable_proxyMain .spawnAgentToDst () p10 rfl (proxyFlows_refl rfl rfl rfl)
  have p12 := reachable_proxyMain (.spawnDstToAgent _ _) () p11 rfl (proxyFlows_refl rfl rfl rfl)
  -- the agent tells the client
  have a7 := reachable_agentMain .proxyNext (some (.ok answer)) p12 rfl
    (agentFlows_next rfl hgrant' [] false)
  have a8 := reachable_agentMain (.clientSend told) (.ok ()) a7 rfl
    (agentFlows_refl rfl rfl rfl rfl)
  have a9 := reachable_agentMain .random32Bytes token a8 rfl (agentFlows_refl rfl rfl rfl rfl)
  have a10 := reachable_agentMain (.spawnClientToProxy _) () a9 rfl
    (agentFlows_refl rfl rfl rfl rfl)
  have a11 := reachable_agentMain .spawnProxyToClient () a10 rfl (agentFlows_refl rfl rfl rfl rfl)
  refine ⟨_, _, _, _, a11, rfl, rfl, told, ?_⟩
  refine List.mem_append_left _ (List.mem_append_left _ (List.mem_append_left _ ?_))
  exact List.mem_concat_self

/-- **A run to the end** on the wire: the client is told of the tunnel, each end sends two bytes and
closes, and all tasks return. -/
theorem exists_wire_finished : ∃ w : WireSystem (asking true).libs, Reachable (asking true) w ∧
    Finished (asking true) w ∧ w.links.clientToAgent.fed = [104, 105] ∧
    w.links.dstToProxy.fed = [111, 107] ∧
    ∃ bytes, ⟨.clientSend bytes, .ok ()⟩ ∈ w.agent.main.trace := by
  obtain ⟨t, t', request, grant, h, hmain, hmain', htold⟩ := exists_wire_established
  let encryption := PpaassMessagePayloadEncryption.aes (List.replicate 32 7)
  let data := generateAgentTcpDataMessage "m3" "user1" encryption [104, 105]
  let answer := generateProxyTcpDataMessage "m4" "user1" encryption [111, 107]
  obtain ⟨dataFrame, _, hdata, hdata'⟩ := exists_frame (show data.userToken = "user1" from rfl)
    (@Reference.agentPayload_roundTripsAt data.payload trivial) (by decide +kernel)
  obtain ⟨answerFrame, _, hanswer, hanswer'⟩ := exists_frame
    (show answer.userToken = "user1" from rfl)
    (@Reference.proxyPayload_roundTripsAt answer.payload trivial) (by decide +kernel)
  -- the relay tasks, in the order in which the data goes
  obtain ⟨t₁, h₁, hup⟩ := reachable_agentTask .up h rfl (System.exec_relayClientToProxy
    (fun _ => agentFlows_refl rfl rfl rfl rfl) "m3"
    (.now (agentWires_clientRecv rfl (flowing_read [] [104, 105] true)) rfl)
    (agentFlows_refl rfl rfl rfl rfl)
    (agentFlows_call rfl (PpaassConnection.feed_flowing request [] hdata) rfl)
    (.now (agentWires_clientRecv rfl (flowing_eof [104, 105])) rfl)
    (agentFlows_call rfl (PpaassConnection.close_flowing _ _ false) rfl)
    (agentFlows_call rfl (PpaassConnection.close_flowing _ _ true) rfl))
  obtain ⟨t₂, h₂, hup'⟩ := reachable_proxyTask .up h₁ rfl (System.exec_relayAgentToDst
    (fun _ => proxyFlows_refl rfl rfl rfl) rfl
    (proxyFlows_next rfl hdata' request true)
    (.now (proxyWires_dstSent rfl (flowing_feed [] [] [104, 105])) rfl)
    (proxyFlows_end rfl _)
    (.now (proxyWires_dstSent rfl (flowing_close _ _ false)) rfl)
    (.now (proxyWires_dstSent rfl (flowing_close _ _ true)) rfl))
  obtain ⟨t₃, h₃, hdown'⟩ := reachable_proxyTask .down h₂ rfl (System.exec_relayDstToAgent
    (fun _ => proxyFlows_refl rfl rfl rfl) "m4"
    (.now (proxyWires_dstRecv rfl (flowing_read [] [111, 107] true)) rfl)
    (proxyFlows_refl rfl rfl rfl)
    (proxyFlows_call rfl (PpaassConnection.feed_flowing grant [] hanswer) rfl)
    (.now (proxyWires_dstRecv rfl (flowing_eof [111, 107])) rfl)
    (proxyFlows_call rfl (PpaassConnection.close_flowing _ _ false) rfl)
    (proxyFlows_refl rfl rfl rfl)
    (proxyFlows_call rfl (PpaassConnection.close_flowing _ _ true) rfl))
  obtain ⟨t₄, h₄, hdown⟩ := reachable_agentTask .down h₃ rfl (System.exec_relayProxyToClient
    (fun _ => agentFlows_refl rfl rfl rfl rfl) rfl
    (agentFlows_next rfl hanswer' grant true)
    (.now (agentWires_clientSent rfl (flowing_feed [] [] [111, 107])) rfl)
    (agentFlows_end rfl _)
    (.now (agentWires_clientSent rfl (flowing_close _ _ false)) rfl)
    (.now (agentWires_clientSent rfl (flowing_close _ _ true)) rfl))
  have hsends : (t ++ t₁ ++ t₄).any proxyRefused = false := by
    simp only [List.any_append, hmain, hup, hdown, Bool.or_false]
  have hsends' : (t' ++ t₂ ++ t₃).any agentRefused = false := by
    simp only [List.any_append, hmain', hup', hdown', Bool.or_false]
  refine ⟨_, h₄, ⟨nofun, rfl, rfl, ⟨rfl, rfl, rfl, rfl, rfl, rfl⟩, fun m x hmem => ?_,
    fun m x hmem => ?_, ?_⟩, rfl, rfl, htold⟩
  · exact List.any_eq_false.1 hsends _ hmem rfl
  · exact List.any_eq_false.1 hsends' _ hmem rfl
  · refine quiescent_of_returned rfl rfl ?_ ?_
    · rintro (_ | _) th ⟨⟩ <;> rfl
    · rintro (_ | _) th ⟨⟩ <;> rfl

theorem wire_integrity_finished : ∃ w : WireSystem (asking true).libs,
    Reachable (asking true) w ∧ Finished (asking true) w ∧
    w.links.clientToAgent.fed = [104, 105] ∧ w.links.dstToProxy.fed = [111, 107] ∧
    Delivers (asking true) w ∧ DeliversAll (asking true) w := by
  obtain ⟨w, h, hfinished, hclient, hdst, -⟩ := exists_wire_finished
  obtain ⟨hdelivers, hall⟩ := wire_integrity (asking true) asking_laws w h
  exact ⟨w, h, hfinished, hclient, hdst, hdelivers, hall hfinished⟩

end WireSystem

/-! ## Success -/

/-- The agent commits itself only where the proxy has granted the tunnel. -/
theorem System.Inv.committed {setup : Setup} {s : System} (h : Inv setup s) {op : AgentOp}
    {a : op.Ans} (hop : Commits op) (hmem : ⟨op, a⟩ ∈ s.agent.main.trace) :
    ∃ c, Grants c ∧ c ∈ s.links.proxyToAgent.read.head? := by
  obtain ⟨c, hc, rest, hrest⟩ := committed_of_respects (h.agent.respects none) hop hmem
  refine ⟨c, hc, ?_⟩
  rw [h.agentEnds.proxyToAgent.read, Tasks.history,
    show (s.agent.trace none).filterMap proxyRecv = _ from hrest.symm]
  rfl

namespace WireSystem

/-- Where the agent has replied to the client or relays, the proxy has connected to the destination
of the request. -/
def Truthful (setup : WireSetup) (w : WireSystem setup.libs) : Prop :=
  ∀ op a, Commits op → ⟨op, a⟩ ∈ w.agent.main.trace →
    ∃ dstAddress initData tunnelId, setup.request.target = .ok (dstAddress, initData) ∧
      TransportId tunnelId w.proxy.main.trace ∧ Connected dstAddress w.proxy.main.trace

/-- **A client is told of a tunnel only when there is one**, on the wire. -/
theorem wire_success (setup : WireSetup) (laws : setup.Laws) (w : WireSystem setup.libs)
    (h : Reachable setup w) : Truthful setup w := by
  intro op a hop hmem
  obtain ⟨l, hreach, hr⟩ := reachable_refines laws h
  have hinv := System.reachable_inv hreach
  obtain ⟨c, hc, hread⟩ := hinv.committed hop hmem
  obtain ⟨-, dstAddress, initData, tunnelId, htarget, hid, hconnected, -⟩ := hinv.granted hc hread
  exact ⟨dstAddress, initData, tunnelId, htarget, hid, hconnected⟩

theorem wire_success_told : ∃ w : WireSystem (asking true).libs,
    (∃ bytes, ⟨.clientSend bytes, .ok ()⟩ ∈ w.agent.main.trace) ∧ Truthful (asking true) w := by
  obtain ⟨w, h, -, -, -, htold⟩ := exists_wire_finished
  exact ⟨w, htold, wire_success (asking true) asking_laws w h⟩

end WireSystem

end Ppaass.Tunnel
