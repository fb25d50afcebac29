import Ppaass.Tunnel.Proof.Conversation
import Ppaass.Tunnel.Proof.Success

/-!
# What an agent makes of a request

Whatever its client and its proxy do, the tasks of an agent for one request have said nothing; or
have asked for the tunnel, with no reply to the client; or have heard a grant, and relay (`Request`,
`requests`). Everything is said for the configured user.

On both sides of a tunnel no message follows a send that has failed (`hushed_after_failure`).
-/

namespace Ppaass.Tunnel

open Wire Prog Relation
open Framed (Fault)
open Agent (AgentOp agentSig AgentError)
open Proxy (ProxyServer)

/-- The tasks of the agent for one request. -/
abbrev AgentTasks := Tasks agentSig (Except (Fault AgentError) Unit)

/-- What is said to the proxy. -/
def agentSaid (g : AgentTasks) : List AgentContent :=
  (g.history proxySent .up).flatMap SendEvent.fed

def agentHeard (g : AgentTasks) : List ProxyContent :=
  (g.history proxyRecv .down).flatMap RecvEvent.taken

/-- What the relay has taken from the client. -/
def takenFrom (g : AgentTasks) : Bytes := (g.history clientRecv .up).flatMap RecvEvent.taken

def givenTo (g : AgentTasks) : Bytes := (g.history clientSent .down).flatMap SendEvent.fed

/-- What is said to the proxy and heard from it, taken from the client and given to it, by an agent
whose main task asks for this and has this trace. -/
inductive Request (ask : Ask) (t : Trace agentSig) :
    List AgentContent → List ProxyContent → Bytes → Bytes → Prop
  | unasked (hsilent : ∀ bytes r, ⟨.clientSend bytes, r⟩ ∉ t) : Request ask t [] [] [] []
  | asked {c : AgentContent} {heard : List ProxyContent}
      (hc : c.2.2 = .tcp (.init ask.srcAddress ask.dstAddress)) (honce : heard.length ≤ 1)
      (hsilent : ∀ bytes r, ⟨.clientSend bytes, r⟩ ∉ t) : Request ask t [c] heard [] []
  | granted {c : AgentContent} {data : List AgentContent} {grant : ProxyContent}
      {heard : List ProxyContent} {taken given : Bytes}
      (hc : c.2.2 = .tcp (.init ask.srcAddress ask.dstAddress)) (hgrants : Grants grant)
      (hdata : ∀ d ∈ data, IsAgentData d)
      (hup : clientToProxyPump.outValues data <+: ask.initData.getD [] ++ taken)
      (hdown : given <+: proxyToClientPump.inValues heard) :
      Request ask t (c :: data) (grant :: heard) taken given

section
variable {setup : Setup} {g : AgentTasks}

/-- What holds of the agent's tasks. -/
structure AgentHolds (setup : Setup) (g : AgentTasks) : Prop where
  tasks : g.Holds (Agent.spawn setup.agentConfig) (agentSpec setup)
  feeds : g.Holds (Agent.spawn setup.agentConfig) ((agentSpec setup).and (agentFeedsSpec setup))
  hushed : Hushed (g.history proxySent .up)

theorem agentHolds_new (setup : Setup) : AgentHolds setup (Tasks.new setup.agentTask) where
  tasks := .new (agentTask_spec setup)
  feeds := .new (wp_and (agentTask_spec setup) (agentTask_feeds setup))
  hushed := hushed_nil

theorem AgentHolds.step {g' : AgentTasks} {side : Option Side} {e : Option (Event agentSig)}
    (h : AgentHolds setup g) (hstep : Tasks.Step (Agent.spawn setup.agentConfig) g side e g') :
    AgentHolds setup g' where
  tasks := h.tasks.step (agentSpec_sound setup) hstep
  feeds := h.feeds.step (agentFeedsSpec_sound setup) hstep
  hushed := h.feeds.hushed_step (agentFeedsSpec_sound setup) (agent_steady setup) hstep h.hushed

/-- An event of the connection gives one message at most. -/
theorem proxyRecv_once {t : Trace agentSig} {r : RecvEvent ProxyContent}
    (h : r ∈ t.filterMap proxyRecv) : r.taken.length ≤ 1 := by
  obtain ⟨⟨op, a⟩, -, hr⟩ := List.mem_filterMap.1 h
  cases op with
  | proxyNext =>
    obtain rfl : nextEvent a = r := Option.some.inj hr
    rcases a with _ | _ | message <;> simp [nextEvent, RecvEvent.taken]
  | _ => cases hr

variable (h : AgentHolds setup g)
include h

theorem AgentHolds.givenTo_eq : givenTo g = proxyToClientPump.fed (g.trace (some .down)) := by
  have hmain : (g.trace none).filterMap clientSent = [] := by
    apply (h.tasks.respects none).filterMap_eq_nil
    intro op a t hmain
    obtain ⟨_, stage, _, _, hallow⟩ := hmain
    cases op <;> first | rfl | (cases stage <;> exact hallow.elim)
  rw [givenTo, Tasks.history, hmain]
  rfl

theorem AgentHolds.takenFrom_eq : takenFrom g = clientToProxyPump.taken (g.trace (some .up)) := by
  have hmain : (g.trace none).filterMap clientRecv = [] := by
    apply (h.tasks.respects none).filterMap_eq_nil
    intro op a t hmain
    obtain ⟨_, stage, _, _, hallow⟩ := hmain
    cases op <;> first | rfl | (cases stage <;> exact hallow.elim)
  rw [takenFrom, Tasks.history, hmain]
  rfl

/-- Before the relay tasks are spawned the main task alone talks. -/
theorem AgentHolds.unspawned
    (hnone : ∀ side, ¬ Tasks.Spawned (Agent.spawn setup.agentConfig) side g.main.trace) :
    agentSaid g = (g.main.trace.filterMap proxySent).flatMap SendEvent.fed ∧
      agentHeard g = (g.main.trace.filterMap proxyRecv).flatMap RecvEvent.taken ∧
      takenFrom g = [] ∧ givenTo g = [] := by
  have htrace : ∀ side, g.trace (some side) = [] := fun side => h.tasks.trace_eq_nil (hnone side)
  rw [h.takenFrom_eq, h.givenTo_eq, agentSaid, agentHeard, Tasks.history, Tasks.history, htrace,
    htrace]
  simp [Tasks.trace, Pump.fed, Pump.sents, Pump.taken, Pump.recvs]

/-- An agent that has heard no grant. -/
theorem AgentHolds.ungranted
    (hgot : ∀ c, Grants c → ¬ [.read [c]] <+: g.main.trace.filterMap proxyRecv) (bytes : Bytes)
    (r : (AgentOp.clientSend bytes).Ans) : ⟨.clientSend bytes, r⟩ ∉ g.main.trace := by
  intro hmem
  have hreplied : Commits (.clientSend bytes) := trivial
  obtain ⟨c, hc, hpre⟩ := committed_of_respects (h.tasks.respects none) hreplied hmem
  exact hgot c hc hpre

/-- An agent that has heard a grant has said its request, the data of the request, and what its
relay task has fed. -/
theorem AgentHolds.granted_request {ask : Ask} {stage : AgentStage} {grant : ProxyContent}
    {said : List PpaassAgentMessagePayload}
    (hat : (agentDialog setup.agentConfig).At [.read [grant]] (stage.said ask) stage.running
      g.main.trace) (hgrants : Grants grant)
    (hstage : stage.said ask = .tcp (.init ask.srcAddress ask.dstAddress) :: said)
    (hsaid : ∀ p ∈ said, ∃ bytes, p = .tcp (.data bytes)) :
    Request ask g.main.trace (agentSaid g) (agentHeard g) (takenFrom g) (givenTo g) := by
  have hheard : agentHeard g = grant :: proxyToClientPump.taken (g.trace (some .down)) := by
    rw [agentHeard, Tasks.history, List.flatMap_append,
      show (g.trace none).filterMap proxyRecv = _ from hat.got]
    rfl
  have hmain := hat.said.trans hstage
  obtain ⟨c, data, hfed, hc, hdata⟩ := List.map_eq_cons_iff.1 hmain
  have hsaidBy : agentSaid g = c :: (data ++ clientToProxyPump.fed (g.trace (some .up))) := by
    rw [agentSaid, Tasks.history, List.flatMap_append,
      show ((g.trace none).filterMap proxySent).flatMap SendEvent.fed = _ from hfed]
    rfl
  obtain ⟨hup, hvalid⟩ := Pump.outValues_le (h.tasks.respects (some .up))
  obtain ⟨hdown, -⟩ := Pump.outValues_le (h.tasks.respects (some .down))
  rw [hsaidBy, hheard, h.takenFrom_eq, h.givenTo_eq]
  refine .granted hc hgrants (fun d hd => ?_) ?_ ?_
  · rcases List.mem_append.1 hd with hd | hd
    · obtain ⟨bytes, hbytes⟩ := hsaid d.2.2 (hdata ▸ List.mem_map_of_mem hd)
      exact ⟨bytes, hbytes⟩
    · exact agentData_isSome.1 (hvalid d hd)
  · rw [Pump.outValues_append, outValues_said hdata]
    have hbytes : (stage.said ask).flatMap saidData = said.flatMap saidData := by
      rw [hstage]
      rfl
    rw [inValues_bytes (p := clientToProxyPump) rfl] at hup
    by_cases hspawned : .up ∈ stage.running
    · rw [← hbytes, said_data_running hspawned]
      exact (List.prefix_append_right_inj _).2 hup
    · have hnil : g.trace (some .up) = [] :=
        h.tasks.trace_eq_nil fun hs => hspawned ((hat.running .up).1 hs)
      have hle := (said_data_le ask stage).trans
        (List.prefix_append _ (clientToProxyPump.taken (g.trace (some .up))))
      rw [← hbytes, hnil] at *
      simpa [Pump.fed, Pump.sents, Pump.outValues] using hle
  · rwa [outValues_bytes (p := proxyToClientPump) rfl] at hdown

theorem AgentHolds.request : ∃ ask, (setup.Asks ask ∨ agentSaid g = []) ∧
    Request ask g.main.trace (agentSaid g) (agentHeard g) (takenFrom g) (givenTo g) := by
  obtain ⟨ask, stage, hask, got, hgot, hat⟩ := agentMain_stage h.tasks.main
  have hrecv : g.main.trace.filterMap proxyRecv = got := hat.got
  -- where nothing is spawned and no grant is heard
  have hquiet : stage.running = [] → (∀ c, Grants c → ¬ [.read [c]] <+: got) →
      agentSaid g = (g.main.trace.filterMap proxySent).flatMap SendEvent.fed ∧
      agentHeard g = got.flatMap RecvEvent.taken ∧ takenFrom g = [] ∧ givenTo g = [] ∧
      ∀ bytes r, ⟨.clientSend bytes, r⟩ ∉ g.main.trace := by
    intro hrun hnot
    obtain ⟨hsaid, hheard, htaken, hgiven⟩ := h.unspawned fun side hside => by
      have := (hat.running side).1 hside
      rw [hrun] at this
      cases this
    rw [hrecv] at hheard
    exact ⟨hsaid, hheard, htaken, hgiven, h.ungranted (hrecv ▸ hnot)⟩
  cases stage with
  | start =>
    obtain rfl : got = [] := hgot
    obtain ⟨hsaid, hheard, htaken, hgiven, hsilent⟩ := hquiet rfl (by simp)
    have hnil : agentSaid g = [] := hsaid.trans (List.map_eq_nil_iff.1 hat.said)
    refine ⟨ask, .inr hnil, ?_⟩
    rw [hnil, hheard, htaken, hgiven]
    exact .unasked hsilent
  | asked =>
    obtain rfl : got = [] := hgot
    obtain ⟨hsaid, hheard, htaken, hgiven, hsilent⟩ := hquiet rfl (by simp)
    obtain ⟨c, hfed, hc⟩ := List.map_eq_singleton_iff.1 hat.said
    refine ⟨ask, .inl (hask.resolve_left nofun), ?_⟩
    rw [hsaid.trans hfed, hheard, htaken, hgiven]
    exact .asked hc (Nat.zero_le 1) hsilent
  | refused =>
    obtain ⟨r, rfl, hr⟩ := hgot
    obtain ⟨hsaid, hheard, htaken, hgiven, hsilent⟩ := hquiet rfl fun c hc hpre =>
      hr c hc (by simpa [eq_comm] using hpre)
    obtain ⟨c, hfed, hc⟩ := List.map_eq_singleton_iff.1 hat.said
    refine ⟨ask, .inl (hask.resolve_left nofun), ?_⟩
    rw [hsaid.trans hfed, hheard, htaken, hgiven, List.flatMap_singleton]
    exact .asked hc (proxyRecv_once (t := g.main.trace) (by rw [hrecv]; simp)) hsilent
  | granted | ready | spawning | relaying =>
    obtain ⟨grant, hgrants, rfl⟩ := hgot
    exact ⟨ask, .inl (hask.resolve_left nofun), h.granted_request hat hgrants rfl (by simp)⟩

end

end Ppaass.Tunnel
