import Ppaass.Common.Proof.Uncompressed
import Ppaass.Tunnel.Proof.MessageIds
import Ppaass.Tunnel.Proof.Request
import Ppaass.Tunnel.Proof.Wire

/-!
# A tunnel without compression

An end that does not compress writes frames at which its peer fails (`Silenced`). So there is no
tunnel where one of the two ends does not compress: the agent hears nothing, tells the client
nothing and relays nothing, and where it is the agent that does not compress, the proxy hears
nothing either and does nothing (`WireSystem.wire_uncompressed`).

A frame could pass for one that was compressed only by the length of its message id, which is that
of a UUID.
-/

namespace Ppaass.Tunnel

open Wire Prog Framed
open Agent (AgentOp agentSig AgentError)
open Proxy (ProxyOp proxySig ProxyServerError TransportTasks)

/-! ## An agent that has heard nothing -/

section
variable {setup : Setup} {g g' : AgentTasks} {who : Option Side} (h : AgentHolds setup g)
  (hheard : agentHeard g = [])
include h hheard

theorem AgentHolds.uncommitted {op : AgentOp} {a : op.Ans} (hop : Commits op) :
    ⟨op, a⟩ ∉ g.main.trace := by
  intro hmem
  obtain ⟨c, -, rest, hrest⟩ := committed_of_respects (h.tasks.respects none) hop hmem
  rw [agentHeard, Tasks.history,
    show (g.trace none).filterMap proxyRecv = _ from hrest.symm] at hheard
  simp [RecvEvent.taken] at hheard

theorem AgentHolds.alone (side : Side) :
    ¬ Tasks.Spawned (Agent.spawn setup.agentConfig) side g.main.trace := by
  rintro ⟨⟨op, a⟩, he, p, hp⟩
  have hop : Commits op := by
    cases op <;> trivial
  exact h.uncommitted hheard hop he

/-- A message that it waits for is the first. -/
theorem AgentHolds.next_first {r : AgentOp.proxyNext.Ans}
    (hstep : Tasks.Step (Agent.spawn setup.agentConfig) g who (some ⟨.proxyNext, r⟩) g') :
    g.history proxyRecv .down = [] := by
  have hallowed := h.tasks.allowed hstep
  have hnil := h.tasks.trace_eq_nil (h.alone hheard .down)
  cases who with
  | none =>
    obtain ⟨ask, stage, -, ⟨got, hgot, hat⟩, hallow⟩ := hallowed
    cases stage with
    | asked =>
      rw [Tasks.history, hnil, show (g.trace none).filterMap proxyRecv = got from hat.got,
        show got = [] from hgot]
      rfl
    | _ => exact hallow.elim
  | some side =>
    cases hstep with
    | task hside _ =>
      have hspawned := (h.tasks.spawned side).1 (by simp [hside])
      exact (h.alone hheard side hspawned).elim

end

/-! ## A transport that has heard nothing -/

/-- What a transport does before it has heard a message. -/
def Opens : ProxyOp → Prop
  | .fetchAdd | .newUuid | .agentNext | .random32Bytes => True
  | _ => False

section
variable {g g' : TransportTasks} {who : Option Side} (h : TransportHolds g)
  (hheard : heardBy g = [])
include h hheard

omit h in
/-- The main task has read no message. -/
theorem main_unheard {c : AgentContent} {t : Trace proxySig}
    (hle : t <+: g.main.trace) : t.filterMap agentRecv ≠ [.read [c]] := by
  intro hgot
  obtain ⟨rest, hrest⟩ := hle.filterMap agentRecv
  rw [heardBy, Tasks.history,
    show (g.trace none).filterMap agentRecv = _ from hrest.symm, hgot] at hheard
  simp [RecvEvent.taken] at hheard

theorem TransportHolds.alone (side : Side) : ¬ Tasks.Spawned Proxy.spawn side g.main.trace := by
  intro hside
  obtain ⟨stage, hat⟩ := proxyMain_stage h.tasks.main
  obtain ⟨c, src, dst, tunnelId, -, -, hdialog⟩ := hat.granted ((hat.spawned side).1 hside)
  exact main_unheard hheard (List.prefix_refl _) hdialog.got

omit h in
/-- What its stage allows it then. -/
theorem opens_of_allowed {op : ProxyOp} {t : Trace proxySig} (hle : t <+: g.main.trace)
    (hallowed : proxyMain (some op) t) : Opens op := by
  obtain ⟨stage, hat, hallow⟩ := hallowed
  have hunheard : ∀ c, t.filterMap agentRecv ≠ [.read [c]] := fun c => main_unheard hheard hle
  cases stage with
  | accepted => cases op <;> trivial
  | first r =>
    rcases r with ⟨_ | ⟨c, _ | _⟩⟩ | _ | _
    case read.cons.nil => exact (hunheard c (Dialog.At.got hat)).elim
    all_goals cases op <;> trivial
  | udp c =>
    obtain ⟨-, said, -, hdialog⟩ := hat
    exact (hunheard c hdialog.got).elim
  | answered c | spawning c | relaying c => exact (hunheard c hat.2.2.got).elim

/-- It does nothing but wait for its first message. -/
theorem TransportHolds.opens {op : ProxyOp} {a : op.Ans} (hmem : ⟨op, a⟩ ∈ g.main.trace) :
    Opens op := by
  obtain ⟨t, hle, hallowed⟩ := (h.tasks.respects none).mem hmem
  exact opens_of_allowed hheard hle hallowed

theorem TransportHolds.step_opens {e : Event proxySig}
    (hstep : Tasks.Step Proxy.spawn g who (some e) g') : who = none ∧ Opens e.op := by
  have hallowed := h.tasks.allowed hstep
  cases who with
  | none => exact ⟨rfl, opens_of_allowed hheard (List.prefix_refl _) hallowed⟩
  | some side =>
    cases hstep with
    | task hside _ =>
      have hspawned := (h.tasks.spawned side).1 (by simp [hside])
      exact (h.alone hheard side hspawned).elim

/-- A message that it waits for is the first. -/
theorem TransportHolds.next_first {r : ProxyOp.agentNext.Ans}
    (hstep : Tasks.Step Proxy.spawn g who (some ⟨.agentNext, r⟩) g') :
    g.history agentRecv .up = [] := by
  obtain ⟨rfl, -⟩ := h.step_opens hheard hstep
  have hnil := h.tasks.trace_eq_nil (h.alone hheard .up)
  obtain ⟨stage, hat, hallow⟩ := h.tasks.allowed hstep
  cases stage with
  | accepted =>
    rw [Tasks.history, hnil, show (g.trace none).filterMap agentRecv = [] from Dialog.At.got hat]
    rfl
  | first r =>
    rcases r with ⟨_ | ⟨c, _ | _⟩⟩ | _ | _
    case read.cons.nil => exact (main_unheard hheard (List.prefix_refl _) (Dialog.At.got hat)).elim
    all_goals exact hallow.elim
  | udp c =>
    obtain ⟨-, said, -, hdialog⟩ := hat
    exact (main_unheard hheard (List.prefix_refl _) hdialog.got).elim
  | answered c | spawning c | relaying c =>
    exact (main_unheard hheard (List.prefix_refl _) hat.2.2.got).elim

end

/-! ## The invariant -/

/-- One of the two ends does not compress, and a frame without compression is none with. -/
structure WireSetup.Uncompressed (setup : WireSetup) : Prop where
  magic : setup.libs.GunzipMagic
  layout : setup.libs.EnvelopeLayout
  compress : setup.agentCompress = false ∨ setup.proxyCompress = false

namespace WireSystem

/-- The ids that were drawn are printed UUIDs: hyphens and hexadecimal digits, 36 bytes. -/
structure DrawsUuids {libs : Libs} (w : WireSystem libs) : Prop where
  agent : ∀ id, ⟨.newUuid, id⟩ ∈ w.agent.events → id.utf8ByteSize = 36
  proxy : ∀ id, ⟨.newUuid, id⟩ ∈ w.proxy.events → id.utf8ByteSize = 36

/-- What holds of the tasks and the codecs of the two ends, whatever they hear. -/
structure Parties (setup : WireSetup) (w : WireSystem setup.libs) : Prop where
  agent : AgentHolds setup.toSetup w.agent
  proxy : TransportHolds w.proxy
  agentIds : w.agent.Holds (Agent.spawn setup.agentConfig)
    ((agentSpec setup.toSetup).and (everyTask _ agentIds.fresh))
  proxyIds : w.proxy.Holds Proxy.spawn (proxySpec.and (everyTask _ proxyIds.fresh))
  agentCodec : w.links.agentInner.codec.Configured setup.agentFetcher setup.agentCompress
  proxyCodec : w.links.proxyInner.codec.Configured setup.proxyFetcher setup.proxyCompress

/-- Neither end can hear what the other says. -/
structure Unheard (setup : WireSetup) (w : WireSystem setup.libs) : Prop where
  down : Silenced setup.libs.proxyPayload setup.agentCodec (w.proxy.history agentSent .down)
    (w.agent.history proxyRecv .down) w.links.agentInner w.links.proxyToAgent
  up : setup.agentCompress = false → Silenced setup.libs.agentPayload setup.proxyCodec
    (w.agent.history proxySent .up) (w.proxy.history agentRecv .up) w.links.proxyInner
    w.links.agentToProxy

variable {setup : WireSetup} {w w' : WireSystem setup.libs}

theorem start_parties : Parties setup setup.wireStart where
  agent := agentHolds_new setup.toSetup
  proxy := transportHolds_new setup.proxyConfig
  agentIds := .new (wp_and (agentTask_spec setup.toSetup) (agentIds_agentTask setup.toSetup []))
  proxyIds := .new (wp_and (proxyTask_spec setup.proxyConfig) (proxyIds_serve setup.proxyConfig []))
  agentCodec := ⟨rfl, rfl⟩
  proxyCodec := ⟨rfl, rfl⟩

theorem start_unheard : Unheard setup setup.wireStart where
  down := Silenced.new rfl
  up _ := Silenced.new rfl

/-- A step of the agent's tasks, the codecs apart. -/
theorem Parties.agentStep (h : Parties setup w) {side : Option Side} {e : Option (Event agentSig)}
    {agent : AgentTasks} (hs : Tasks.Step (Agent.spawn setup.agentConfig) w.agent side e agent) :
    Parties setup { w with agent } :=
  { h with
    agent := h.agent.step hs
    agentIds := h.agentIds.step (agentIds_sound _) hs }

theorem Parties.proxyStep (h : Parties setup w) {side : Option Side} {e : Option (Event proxySig)}
    {proxy : TransportTasks} (hs : Tasks.Step Proxy.spawn w.proxy side e proxy) :
    Parties setup { w with proxy } :=
  { h with
    proxy := h.proxy.step hs
    proxyIds := h.proxyIds.step proxyIds_sound hs }

theorem Parties.step (h : Parties setup w) (hstep : Step setup w w') : Parties setup w' := by
  cases hstep with
  | env hl => cases hl <;> exact { h with }
  | task ht =>
    cases ht with
    | agent hs hl =>
      exact { h.agentStep hs with
        agentCodec := PpaassConnection.Steps.configured hl.connection h.agentCodec
        proxyCodec := by rw [hl.proxyInner]; exact h.proxyCodec }
    | proxy hs hl =>
      exact { h.proxyStep hs with
        agentCodec := by rw [hl.agentInner]; exact h.agentCodec
        proxyCodec := PpaassConnection.Steps.configured hl.connection h.proxyCodec }
    | agentPoll hs hpoll =>
      exact { h with agentCodec := PpaassConnection.Poll.configured hpoll h.agentCodec }
    | proxyPoll hs hpoll =>
      exact { h with proxyCodec := PpaassConnection.Poll.configured hpoll h.proxyCodec }
    | agentSilent hs => exact h.agentStep hs
    | proxySilent hs => exact h.proxyStep hs

theorem reachable_parties (h : Reachable setup w) : Parties setup w := by
  induction h with
  | refl => exact start_parties
  | tail _ hstep ih => exact ih.step hstep

/-- What was drawn before a step was drawn. -/
theorem DrawsUuids.of_step (hw : Parties setup w) (hstep : Step setup w w') (h : DrawsUuids w') :
    DrawsUuids w := by
  cases hstep with
  | env _ => exact ⟨h.agent, h.proxy⟩
  | task ht =>
    cases ht with
    | agentPoll | proxyPoll => exact ⟨h.agent, h.proxy⟩
    | agent hs _ | agentSilent hs =>
      refine ⟨fun id hid => h.agent id ?_, h.proxy⟩
      exact hw.agent.tasks.events_subset (agentSpec_sound _) hs hid
    | proxy hs _ | proxySilent hs =>
      refine ⟨h.agent, fun id hid => h.proxy id ?_⟩
      exact hw.proxy.tasks.events_subset proxySpec_sound hs hid

/-! ## Steps -/

theorem Unheard.agentHeard (h : Unheard setup w) : agentHeard w.agent = [] :=
  List.flatMap_eq_nil_iff.2 h.down.unheard

theorem Unheard.heardBy (h : Unheard setup w) (hcompress : setup.agentCompress = false) :
    heardBy w.proxy = [] :=
  List.flatMap_eq_nil_iff.2 (h.up hcompress).unheard

section
variable (hw : Parties setup w) (h : Unheard setup w)
include hw h

section
variable (hsetup : setup.Uncompressed) (hids : DrawsUuids w)
include hsetup hids

theorem Unheard.agentStep {side : Option Side} {e : Event agentSig} {agent : AgentTasks}
    {links : WireLinks setup.libs}
    (hs : Tasks.Step (Agent.spawn setup.agentConfig) w.agent side (some e) agent)
    (hl : AgentWires w.links e links) : Unheard setup { w with agent, links } := by
  have hsent : agent.history proxySent .up =
      w.agent.history proxySent .up ++ (proxySent e).toList :=
    hw.agent.tasks.history_step (agentSpec_sound _) (agent_uses_proxySent _) hs
  have hrecv : agent.history proxyRecv .down =
      w.agent.history proxyRecv .down ++ (proxyRecv e).toList :=
    hw.agent.tasks.history_step (agentSpec_sound _) (agent_uses_proxyRecv _) hs
  constructor
  · rw [hrecv, ← agentCall_recv]
    apply Silenced.recvs h.down hl.connection
    intro r hcall
    obtain rfl := agentCall_next hcall
    exact hw.agent.next_first h.agentHeard hs
  · intro hcompress
    rw [hsent, ← agentCall_sent, hl.proxyInner]
    apply Silenced.sends hsetup.magic hsetup.layout (h.up hcompress) rfl hl.connection
    · exact fun m r _ => hw.agentCodec.2.trans hcompress
    · intro m r hcall
      obtain rfl := agentCall_feed hcall
      exact fun x hx => (hw.agent.feeds.feed_calm (agent_steady setup.toSetup) hs rfl x hx).1
    · intro m r hcall
      obtain rfl := agentCall_feed hcall
      rw [hids.agent _ (agent_messageId hw.agentIds hs)]
      decide

theorem Unheard.proxyStep {side : Option Side} {e : Event proxySig} {proxy : TransportTasks}
    {links : WireLinks setup.libs} (hs : Tasks.Step Proxy.spawn w.proxy side (some e) proxy)
    (hl : ProxyWires w.links e links) : Unheard setup { w with proxy, links } := by
  have hsent : proxy.history agentSent .down =
      w.proxy.history agentSent .down ++ (agentSent e).toList :=
    hw.proxy.tasks.history_step proxySpec_sound proxy_uses_agentSent hs
  have hrecv : proxy.history agentRecv .up =
      w.proxy.history agentRecv .up ++ (agentRecv e).toList :=
    hw.proxy.tasks.history_step proxySpec_sound proxy_uses_agentRecv hs
  constructor
  · rw [hsent, ← proxyCall_sent, hl.agentInner]
    apply Silenced.sends hsetup.magic hsetup.layout h.down rfl hl.connection
    · intro m r hcall
      obtain rfl := proxyCall_feed hcall
      rcases hsetup.compress with hcompress | hcompress
      · -- a proxy that has heard nothing feeds nothing
        exact (hw.proxy.step_opens (h.heardBy hcompress) hs).2.elim
      · exact hw.proxyCodec.2.trans hcompress
    · intro m r hcall
      obtain rfl := proxyCall_feed hcall
      exact fun x hx => (hw.proxy.feeds.feed_calm proxy_steady hs rfl x hx).1
    · intro m r hcall
      obtain rfl := proxyCall_feed hcall
      rw [hids.proxy _ (proxy_messageId hw.proxyIds hs)]
      decide
  · intro hcompress
    rw [hrecv, ← proxyCall_recv]
    apply Silenced.recvs (h.up hcompress) hl.connection
    intro r hcall
    obtain rfl := proxyCall_next hcall
    exact hw.proxy.next_first (h.heardBy hcompress) hs

end

theorem Unheard.agentPoll {side : Option Side} {r : AgentOp.proxyNext.Ans} {agent : AgentTasks}
    {c : PpaassProxyConnection setup.libs}
    (hs : Tasks.Step (Agent.spawn setup.agentConfig) w.agent side (some ⟨.proxyNext, r⟩) agent)
    (hpoll : PpaassProxyConnection.Poll w.links.proxyConnection c) :
    Unheard setup { w with links := w.links.setProxyConnection c } := by
  have hnil := hw.agent.next_first h.agentHeard hs
  have houtput : c.output = w.links.agentToProxy := by
    cases hpoll
    rfl
  constructor
  · have hdown := h.down
    rw [hnil] at hdown ⊢
    exact Silenced.poll hdown hpoll
  · intro hcompress
    show Silenced _ _ _ _ w.links.proxyInner c.output
    rw [houtput]
    exact h.up hcompress

theorem Unheard.proxyPoll {side : Option Side} {r : ProxyOp.agentNext.Ans} {proxy : TransportTasks}
    {c : PpaassAgentConnection setup.libs}
    (hs : Tasks.Step Proxy.spawn w.proxy side (some ⟨.agentNext, r⟩) proxy)
    (hpoll : PpaassAgentConnection.Poll w.links.agentConnection c) :
    Unheard setup { w with links := w.links.setAgentConnection c } := by
  have houtput : c.output = w.links.proxyToAgent := by
    cases hpoll
    rfl
  constructor
  · show Silenced _ _ _ _ w.links.agentInner c.output
    rw [houtput]
    exact h.down
  · intro hcompress
    have hnil := hw.proxy.next_first (h.heardBy hcompress) hs
    have hup := h.up hcompress
    rw [hnil] at hup ⊢
    exact Silenced.poll hup hpoll

omit hw in
theorem Unheard.env {links : WireLinks setup.libs} (hl : w.links.Env links) :
    Unheard setup { w with links } := by
  cases hl with
  | breakAgentToProxy hb => exact { h with up := fun hcompress => (h.up hcompress).break hb }
  | breakProxyToAgent hb => exact { h with down := h.down.break hb }
  | _ => exact { h with }

/-- **A step keeps it.** -/
theorem Unheard.step (hsetup : setup.Uncompressed) (hids : DrawsUuids w) (hstep : Step setup w w') :
    Unheard setup w' := by
  cases hstep with
  | env hl => exact h.env hl
  | task ht =>
    cases ht with
    | agent hs hl => exact h.agentStep hw hsetup hids hs hl
    | proxy hs hl => exact h.proxyStep hw hsetup hids hs hl
    | agentPoll hs hpoll => exact h.agentPoll hw hs hpoll
    | proxyPoll hs hpoll => exact h.proxyPoll hw hs hpoll
    | @agentSilent _ agent hs =>
      have hsilent : ∀ {B : Type} (f : Event agentSig → Option B) side,
          agent.history f side = w.agent.history f side := fun f side =>
        hw.agent.tasks.history_silent (agentSpec_sound _) hs
      exact {
        down := by rw [hsilent]; exact h.down
        up := fun hcompress => by rw [hsilent]; exact h.up hcompress }
    | @proxySilent _ proxy hs =>
      have hsilent : ∀ {B : Type} (f : Event proxySig → Option B) side,
          proxy.history f side = w.proxy.history f side := fun f side =>
        hw.proxy.tasks.history_silent proxySpec_sound hs
      exact {
        down := by rw [hsilent]; exact h.down
        up := fun hcompress => by rw [hsilent]; exact h.up hcompress }

end

theorem reachable_unheard (hsetup : setup.Uncompressed) (h : Reachable setup w)
    (hids : DrawsUuids w) : Unheard setup w := by
  induction h with
  | refl => exact start_unheard
  | tail hreach hstep ih =>
    have hw := reachable_parties hreach
    have hids' := hids.of_step hw hstep
    exact (ih hids').step hw hsetup hids' hstep

/-! ## No tunnel -/

/-- The agent has committed itself to nothing; and the proxy has done nothing, if it cannot hear the
agent. -/
structure Severed (setup : WireSetup) (w : WireSystem setup.libs) : Prop where
  agentHeard : Tunnel.agentHeard w.agent = []
  uncommitted : ∀ op a, Commits op → ⟨op, a⟩ ∉ w.agent.main.trace
  agentAlone : ∀ side, w.agent.task side = none
  proxyHeard : setup.agentCompress = false → Tunnel.heardBy w.proxy = []
  proxyOpens : setup.agentCompress = false → ∀ op a, ⟨op, a⟩ ∈ w.proxy.main.trace → Opens op
  proxyAlone : setup.agentCompress = false → ∀ side, w.proxy.task side = none

/-- **Without compression there is no tunnel**, in any run on the wire in which the ids are
UUIDs. -/
theorem wire_uncompressed (setup : WireSetup) (hsetup : setup.Uncompressed)
    (w : WireSystem setup.libs) (h : Reachable setup w) (hids : DrawsUuids w) :
    Severed setup w := by
  have hw := reachable_parties h
  have hunheard := reachable_unheard hsetup h hids
  refine {
    agentHeard := hunheard.agentHeard
    uncommitted := fun op a hop => hw.agent.uncommitted hunheard.agentHeard hop
    agentAlone := fun side => ?_
    proxyHeard := hunheard.heardBy
    proxyOpens := fun hcompress op a => hw.proxy.opens (hunheard.heardBy hcompress)
    proxyAlone := fun hcompress side => ?_ }
  · have halone := hw.agent.alone hunheard.agentHeard side
    rwa [← hw.agent.tasks.spawned side, not_not] at halone
  · have halone := hw.proxy.alone (hunheard.heardBy hcompress) side
    rwa [← hw.proxy.tasks.spawned side, not_not] at halone

/-- An agent that has sent its request, without compression. -/
theorem exists_wire_asked : ∃ w : WireSystem (asking false).libs, Reachable (asking false) w ∧
    (∃ m, ⟨.proxyFeed m, .ok ()⟩ ∈ w.agent.main.trace) ∧
    (∀ id, ⟨.newUuid, id⟩ ∈ w.agent.events → id = "8d3e3c5a-6d0f-4c2e-9a51-0b7f7e6d1c22") ∧
    w.proxy.events = [] := by
  let token : BlockMode.Block 32 := ⟨List.replicate 32 7, rfl⟩
  let messageId := "8d3e3c5a-6d0f-4c2e-9a51-0b7f7e6d1c22"
  let request := generateAgentTcpInitMessage messageId "user1" (asking false).srcAddress
    (.ip (.v4 ⟨10, 0, 0, 1⟩ 80)) (.aes token.1)
  have hrequest : ConnectionCodec.Encodes Reference.libs.agentPayload (asking false).agentCodec
      request _ :=
    @ConnectionCodec.encodes_frameOf _ _ _ (asking false).agentCodec ((), request)
      (by decide +kernel)
  have h0 : Reachable (asking false) (asking false).wireStart := .refl
  have h1 := reachable_agentMain .random32Bytes token h0 rfl (agentFlows_refl rfl rfl rfl rfl)
  have h2 := reachable_agentMain .newUuid messageId h1 rfl (agentFlows_refl rfl rfl rfl rfl)
  have h3 := reachable_agentMain .proxyConnect (some (.ok ())) h2 rfl
    (agentFlows_refl rfl rfl rfl rfl)
  have h4 := reachable_agentMain .proxySetNodelay (.ok ()) h3 rfl (agentFlows_refl rfl rfl rfl rfl)
  have h5 := reachable_agentMain (.proxyFeed request) (.ok ()) h4 rfl
    (agentFlows_call rfl (PpaassConnection.feed_flowing [] [] hrequest) rfl)
  have h6 := reachable_agentMain .proxyFlush (.ok ()) h5 rfl
    (agentFlows_call rfl (PpaassConnection.flush_flowing [] _ false) rfl)
  refine ⟨_, h6, ⟨request, List.mem_append_left _ List.mem_concat_self⟩, fun drawn hdrawn => ?_,
    rfl⟩
  have hevents : (⟨.newUuid, drawn⟩ : Event agentSig) ∈ [⟨.random32Bytes, token⟩,
    ⟨.newUuid, messageId⟩, ⟨.proxyConnect, some (.ok ())⟩, ⟨.proxySetNodelay, .ok ()⟩,
    ⟨.proxyFeed request, .ok ()⟩, ⟨.proxyFlush, .ok ()⟩] := hdrawn
  simp only [List.mem_cons, List.not_mem_nil, or_false] at hevents
  rcases hevents with h | h | h | h | h | h <;> cases h
  rfl

theorem wire_uncompressed_asked : ∃ w : WireSystem (asking false).libs,
    (∃ m, ⟨.proxyFeed m, .ok ()⟩ ∈ w.agent.main.trace) ∧ Severed (asking false) w := by
  obtain ⟨w, h, hasked, hagent, hproxy⟩ := exists_wire_asked
  have hids : DrawsUuids w := by
    constructor
    · intro id hid
      rw [hagent id hid]
      decide
    · intro id hid
      rw [hproxy] at hid
      cases hid
  have hsetup : (asking false).Uncompressed :=
    ⟨Reference.gunzipMagic, Reference.envelopeLayout, .inl rfl⟩
  exact ⟨w, hasked, wire_uncompressed (asking false) hsetup w h hids⟩

end WireSystem

end Ppaass.Tunnel
