import Ppaass.Lib.Dialog
import Ppaass.Tunnel.Proof.Relays

/-!
# The agent's main task

From the request to the spawn of the relay tasks: it asks for a tunnel, waits for the first message
of the proxy, which has to grant it, answers the client or passes on the data of the request, and
spawns. `AgentStage` is how far it has come; `agentTask_spec` says that every operation is one that
its stage allows.
-/

namespace Ppaass.Tunnel

open Wire Prog
open Framed (Fault)
open Agent (AgentOp agentSig AgentError)

/-- What the agent and the proxy say on the way from the agent to the proxy and back. -/
def agentDialog (config : Agent.AgentConfig) :
    Dialog agentSig ProxyContent AgentContent PpaassAgentMessagePayload where
  recv := proxyRecv
  sent := proxySent
  payload := fun c => c.2.2
  spawn := Agent.spawn config

/-- The message grants a tunnel. -/
def Grants (c : ProxyContent) : Prop :=
  ∃ srcAddress dstAddress tunnelId, c.2.2 = .tcp (.init srcAddress dstAddress (.success tunnelId))

/-! ## Stages -/

inductive AgentStage where
  | start
  | asked
  /-- the first message of the proxy was something else than a grant -/
  | refused
  | granted
  | ready
  | spawning
  | relaying

/-- What the agent asks for: the destination, and the data to send there first. -/
structure Ask where
  srcAddress : PpaassUnifiedAddress
  dstAddress : PpaassUnifiedAddress
  initData : Option Bytes

namespace AgentStage

/-- What the agent has said to the proxy. -/
def said (ask : Ask) : AgentStage → List PpaassAgentMessagePayload
  | start => []
  | asked | refused | granted => [.tcp (.init ask.srcAddress ask.dstAddress)]
  | ready | spawning | relaying =>
    .tcp (.init ask.srcAddress ask.dstAddress) :: ask.initData.toList.map fun d => .tcp (.data d)

/-- What the agent has heard from the proxy. -/
def Heard : AgentStage → List (RecvEvent ProxyContent) → Prop
  | start, got | asked, got => got = []
  | refused, got => ∃ r, got = [r] ∧ ∀ c, Grants c → r ≠ .read [c]
  | _, got => ∃ c, Grants c ∧ got = [.read [c]]

def running : AgentStage → List Side
  | spawning => [.up]
  | relaying => [.up, .down]
  | _ => []

/-- The trace of the agent's main task at this stage. -/
def At (config : Agent.AgentConfig) (ask : Ask) (stage : AgentStage) (t : Trace agentSig) : Prop :=
  ∃ got, stage.Heard got ∧ (agentDialog config).At got (stage.said ask) stage.running t

/-- The operations of a stage. -/
def Allows (ask : Ask) : AgentStage → AgentOp → Prop
  | start, .proxyFeed m => m.payload = .tcp (.init ask.srcAddress ask.dstAddress)
  | start, .newUuid | start, .random32Bytes | start, .proxyConnect | start, .proxySetNodelay => True
  | asked, .proxyFlush | asked, .proxyNext => True
  | granted, .clientSend _ | granted, .random32Bytes | granted, .newUuid => True
  | granted, .proxyFeed m => ∃ d, ask.initData = some d ∧ m.payload = .tcp (.data d)
  | ready, .proxyFlush | ready, .spawnClientToProxy _ => True
  | spawning, .spawnProxyToClient => True
  | _, _ => False

end AgentStage

variable (setup : Setup)

/-- The request is one for a tunnel with these addresses and this data. -/
def Setup.Asks (ask : Ask) : Prop :=
  ask.srcAddress = setup.srcAddress ∧ setup.request.target = .ok (ask.dstAddress, ask.initData)

/-- Every operation is one of the stage that the task has reached. -/
def agentMain : Assertion agentSig
  | none, _ => False
  | some op, t => ∃ ask stage, setup.Asks ask ∧ AgentStage.At setup.agentConfig ask stage t ∧
    stage.Allows ask op

/-- The task has returned: it relays, or it has failed before it spawned anything. -/
def agentMainPost (r : Except (Fault AgentError) Unit) (t : Trace agentSig) : Prop :=
  (t = [] ∧ r.isOk = false) ∨
    ∃ ask stage, setup.Asks ask ∧ AgentStage.At setup.agentConfig ask stage t ∧
      (r.isOk = true ∧ stage = .relaying ∨ r.isOk = false ∧ stage.running = [])

/-! ## What an event does to a stage -/

section
variable {config : Agent.AgentConfig} {ask : Ask} {stage : AgentStage} {t : Trace agentSig}
  {e : Event agentSig}

/-- The task has come no further than the spawns. -/
def AgentStopped (config : Agent.AgentConfig) (ask : Ask) (t : Trace agentSig) : Prop :=
  ∃ stage : AgentStage, stage.At config ask t ∧ stage.running = []

theorem start_nil : AgentStage.start.At config ask [] := ⟨[], rfl, Dialog.at_nil⟩

theorem AgentStage.At.quiet (h : stage.At config ask t) (hr : proxyRecv e = none)
    (hs : ∀ x ∈ proxySent e, x.fed = []) (hspawn : Agent.spawn config e.op = none) :
    stage.At config ask (t ++ [e]) := by
  obtain ⟨got, hheard, hat⟩ := h
  exact ⟨got, hheard, hat.quiet hr hs hspawn⟩

theorem AgentStage.At.sayInit {message : PpaassAgentMessage}
    (h : AgentStage.start.At config ask t)
    (hm : message.payload = .tcp (.init ask.srcAddress ask.dstAddress)) :
    AgentStage.asked.At config ask (t ++ [⟨AgentOp.proxyFeed message, .ok ()⟩]) := by
  obtain ⟨got, hheard, hat⟩ := h
  refine ⟨got, hheard, ?_⟩
  have := hat.say (e := (⟨.proxyFeed message, .ok ()⟩ : Event agentSig)) rfl rfl rfl
  rwa [show (agentDialog config).payload message.content = _ from hm] at this

theorem AgentStage.At.sayData {message : PpaassAgentMessage} {d : Bytes}
    (h : AgentStage.granted.At config ask t) (hd : ask.initData = some d)
    (hm : message.payload = .tcp (.data d)) :
    AgentStage.ready.At config ask (t ++ [⟨AgentOp.proxyFeed message, .ok ()⟩]) := by
  obtain ⟨got, hheard, hat⟩ := h
  refine ⟨got, hheard, ?_⟩
  have := hat.say (e := (⟨.proxyFeed message, .ok ()⟩ : Event agentSig)) rfl rfl rfl
  rw [show (agentDialog config).payload message.content = _ from hm] at this
  simpa [AgentStage.said, AgentStage.running, hd] using this

/-- Without data of the request there is nothing more to say. -/
theorem AgentStage.At.noData (h : AgentStage.granted.At config ask t)
    (hd : ask.initData = none) : AgentStage.ready.At config ask t := by
  obtain ⟨got, hheard, hat⟩ := h
  exact ⟨got, hheard, by simpa [AgentStage.said, AgentStage.running, hd] using hat⟩

theorem AgentStage.At.hear {r : Option (Except CommonError PpaassProxyMessage)}
    (h : AgentStage.asked.At config ask t) :
    (agentDialog config).At [nextEvent r] (AgentStage.asked.said ask) []
      (t ++ [⟨AgentOp.proxyNext, r⟩]) := by
  obtain ⟨got, rfl, hat⟩ := h
  exact hat.hear rfl rfl rfl

end

/-- The first message decides. -/
theorem tunnelIdOf_ok {client tunnelId : String} {srcAddress : PpaassUnifiedAddress}
    {r : Option (Except CommonError PpaassProxyMessage)}
    (h : Agent.tunnelIdOf client srcAddress r = .ok tunnelId) :
    ∃ c, Grants c ∧ nextEvent r = .read [c] := by
  rcases r with _ | e | ⟨id, user, encryption, (⟨src, dst, result⟩ | content) | payload⟩
  · cases h
  · cases h
  · cases result with
    | success tunnelId => exact ⟨_, ⟨src, dst, tunnelId, rfl⟩, rfl⟩
    | fail reason => cases h
  · cases h
  · cases h

theorem tunnelIdOf_error {client : String} {srcAddress : PpaassUnifiedAddress}
    {e : Fault AgentError} {r : Option (Except CommonError PpaassProxyMessage)}
    (h : Agent.tunnelIdOf client srcAddress r = .error e) (c : ProxyContent) (hc : Grants c) :
    nextEvent r ≠ .read [c] := by
  obtain ⟨src', dst', tunnelId', hc⟩ := hc
  rcases r with _ | e | message
  · nofun
  · nofun
  · intro hr
    obtain rfl : message.content = c := by simpa [nextEvent] using hr
    rw [Agent.tunnelIdOf, show message.payload = _ from hc] at h
    cases h

/-! ## Parts -/

section
variable {setup} {ask : Ask} {t : Trace agentSig} (hask : setup.Asks ask)
include hask

theorem allow {stage : AgentStage} {op : AgentOp} (hat : stage.At setup.agentConfig ask t)
    (h : stage.Allows ask op) : agentMain setup (some op) t := ⟨ask, stage, hask, hat, h⟩

theorem proxySend_spec {stage : AgentStage} (stage' : AgentStage) {message : PpaassAgentMessage}
    (ht : stage.At setup.agentConfig ask t) (hrun : stage.running = [])
    (hallow : stage.Allows ask (.proxyFeed message)) (hflush : stage'.Allows ask .proxyFlush)
    (hrun' : stage'.running = [])
    (hsay : stage'.At setup.agentConfig ask (t ++ [⟨.proxyFeed message, .ok ()⟩])) :
    wp (agentMain setup) (Agent.proxySend message)
      (OkOr (fun _ => stage'.At setup.agentConfig ask) (AgentStopped setup.agentConfig ask)) t := by
  refine wp_bind.2 ((Agent.wp_await _).2 ⟨allow hask ht hallow, fun r => ?_⟩)
  cases r with
  | error e => exact ⟨stage, ht.quiet rfl (fun x hx => by cases hx; rfl) rfl, hrun⟩
  | ok u =>
    refine (Agent.wp_await .proxyFlush).2 ⟨allow hask hsay hflush, fun r => ?_⟩
    have hnext := hsay.quiet (e := ⟨.proxyFlush, r⟩) rfl (fun x hx => by cases hx; rfl) rfl
    cases r with
    | ok u => exact hnext
    | error e => exact ⟨stage', hnext, hrun'⟩

theorem randomEncryption_spec {stage : AgentStage} (ht : stage.At setup.agentConfig ask t)
    (hallow : stage.Allows ask .random32Bytes) :
    wp (agentMain setup) (Agent.randomEncryption setup.agentConfig).run
      (OkOr (fun _ => stage.At setup.agentConfig ask) (AgentStopped setup.agentConfig ask)) t :=
  wp_run_bind.2 ((Agent.wp_awaitM _).2 ⟨allow hask ht hallow,
    fun _ => ht.quiet rfl (fun x hx => by cases hx) rfl⟩)

theorem createConnection_spec (ht : AgentStage.start.At setup.agentConfig ask t) :
    wp (agentMain setup) (Agent.createConnection setup.agentConfig).run
      (OkOr (fun _ => AgentStage.start.At setup.agentConfig ask)
        (AgentStopped setup.agentConfig ask)) t := by
  refine wp_run_bind.2 ((Agent.wp_awaitM _).2 ⟨allow hask ht trivial, fun r => ?_⟩)
  have ht' := ht.quiet (e := ⟨.proxyConnect, r⟩) rfl (fun x hx => by cases hx) rfl
  rcases r with _ | e | _
  · exact ⟨.start, ht', rfl⟩
  · exact ⟨.start, ht', rfl⟩
  · refine wp_run_bind.2 ((Agent.wp_awaitM _).2 ⟨allow hask ht' trivial, fun r => ?_⟩)
    have ht'' := ht'.quiet (e := ⟨.proxySetNodelay, r⟩) rfl (fun x hx => by cases hx) rfl
    cases r with
    | ok u => exact ht''
    | error e => exact ⟨.start, ht'', rfl⟩

/-- **The first message of the proxy decides.** -/
theorem initTunnel_spec (client : String) (ht : AgentStage.start.At setup.agentConfig ask t) :
    wp (agentMain setup)
      (Agent.initTunnel setup.agentConfig client ask.srcAddress ask.dstAddress).run
      (OkOr (fun _ => AgentStage.granted.At setup.agentConfig ask)
        (AgentStopped setup.agentConfig ask)) t := by
  refine wp_run_seq (randomEncryption_spec hask ht trivial) (fun encryption t ht => ?_)
    fun _ _ h => h
  refine wp_run_bind.2 ((Agent.wp_awaitM _).2 ⟨allow hask ht trivial, fun messageId => ?_⟩)
  refine wp_run_seq (createConnection_spec hask (ht.quiet rfl (fun x hx => by cases hx) rfl))
    (fun _ t ht => ?_) fun _ _ h => h
  refine wp_run_bind.2 (wp_lift.2 (wp_mono (proxySend_spec hask .asked ht rfl rfl trivial
    rfl (ht.sayInit rfl)) fun r t ht => ?_))
  cases r with
  | error e => exact ht
  | ok u =>
    refine wp_run_bind.2 ((wp_orFail _ _).2 (wp_run_bind.2
      ((Agent.wp_awaitM .proxyNext).2 ⟨allow hask ht trivial, fun r => ?_⟩)))
    have hhear := ht.hear (r := r)
    refine (wp_orFail _ _).2 ?_
    cases hid : Agent.tunnelIdOf client ask.srcAddress r with
    | ok tunnelId =>
      obtain ⟨c, hc, hread⟩ := tunnelIdOf_ok hid
      exact ⟨_, ⟨c, hc, congrArg (fun x => [x]) hread⟩, hhear⟩
    | error e => exact ⟨.refused, ⟨_, ⟨_, rfl, tunnelIdOf_error hid⟩, hhear⟩, rfl⟩

/-- A reply to the client goes out where the tunnel is granted. -/
theorem clientReply_spec {σ ε : Type} {encode : Framed.CodecM σ ε Unit} {codec : σ}
    {io : StdIoError → ε} {fail : ε → AgentError}
    (ht : AgentStage.granted.At setup.agentConfig ask t) :
    wp (agentMain setup) (Agent.clientReply encode codec io fail).run
      (OkOr (fun _ => AgentStage.granted.At setup.agentConfig ask)
        (AgentStopped setup.agentConfig ask)) t := by
  unfold Agent.clientReply
  split
  · next codec' bytes _ =>
    refine wp_run_bind.2 ((Agent.wp_awaitM (.clientSend bytes)).2
      ⟨allow hask ht trivial, fun r => ?_⟩)
    have ht' := ht.quiet (e := ⟨.clientSend bytes, r⟩) rfl (fun x hx => by cases hx) rfl
    cases r with
    | ok u => exact ht'
    | error e => exact ⟨.granted, ht', rfl⟩
  · exact ⟨.granted, ht, rfl⟩
  · exact ⟨.granted, ht, rfl⟩

theorem handleConnectCommand_spec (ht : AgentStage.start.At setup.agentConfig ask t)
    (hdata : ask.initData = none) :
    wp (agentMain setup) (Agent.Socks5ClientTransport.handleConnectCommand setup.agentConfig
      ask.srcAddress ask.dstAddress).run
      (OkOr (fun info t => AgentStage.granted.At setup.agentConfig ask t ∧
        info.initData = ask.initData) (AgentStopped setup.agentConfig ask)) t := by
  refine wp_run_bind.2 ((wp_orFail _ _).2 ?_)
  cases Agent.Socks5ClientTransport.checkDestination ask.dstAddress with
  | error e => exact ⟨.start, ht, rfl⟩
  | ok u =>
    refine wp_run_seq (initTunnel_spec hask "socks5" ht) (fun _ t ht => ?_) fun _ _ h => h
    exact wp_run_seq (clientReply_spec hask ht) (fun _ t ht => ⟨ht, hdata.symm⟩) fun _ _ h => h

theorem tcpRelay_spec {info : Agent.ClientTransportTcpDataRelay}
    (ht : AgentStage.granted.At setup.agentConfig ask t) (hdata : info.initData = ask.initData) :
    wp (agentMain setup) (Agent.tcpRelay setup.agentConfig info).run
      (OkOr (fun _ => AgentStage.relaying.At setup.agentConfig ask)
        (AgentStopped setup.agentConfig ask)) t := by
  have hspawn : ∀ encryption t, AgentStage.ready.At setup.agentConfig ask t →
      wp (agentMain setup) (do
        Agent.awaitM (.spawnClientToProxy encryption)
        Agent.awaitM .spawnProxyToClient : Agent.AgentM Unit).run
      (OkOr (fun _ => AgentStage.relaying.At setup.agentConfig ask)
        (AgentStopped setup.agentConfig ask)) t := by
    intro encryption t ht
    refine wp_run_bind.2 ((Agent.wp_awaitM (.spawnClientToProxy encryption)).2
      ⟨allow hask ht trivial, fun _ => ?_⟩)
    obtain ⟨got, hheard, hat⟩ := ht
    have hup : AgentStage.spawning.At setup.agentConfig ask
        (t ++ [⟨.spawnClientToProxy encryption, ()⟩]) := ⟨got, hheard, hat.spawn rfl rfl rfl⟩
    refine (Agent.wp_awaitM .spawnProxyToClient).2 ⟨allow hask hup trivial, fun _ => ?_⟩
    obtain ⟨got, hheard, hat⟩ := hup
    exact ⟨got, hheard, hat.spawn rfl rfl rfl⟩
  refine wp_run_seq (randomEncryption_spec hask ht trivial) (fun encryption t ht => ?_)
    fun _ _ h => h
  rw [hdata]
  cases hd : ask.initData with
  | none => exact wp_run_bind.2 (hspawn encryption t (ht.noData hd))
  | some d =>
    refine wp_run_seq (K := fun _ => AgentStage.ready.At setup.agentConfig ask) ?_
      (fun _ => hspawn encryption) fun _ _ h => h
    refine wp_run_bind.2 ((Agent.wp_awaitM .newUuid).2 ⟨allow hask ht trivial, fun messageId => ?_⟩)
    have ht' := ht.quiet (e := ⟨.newUuid, messageId⟩) rfl (fun x hx => by cases hx) rfl
    refine wp_run_bind.2 (wp_lift.2 (wp_mono (proxySend_spec hask .ready ht' rfl ⟨d, hd, rfl⟩
      trivial rfl (ht'.sayData hd rfl)) fun r t ht => ?_))
    cases r with
    | ok u => exact ht
    | error e => exact ht

end

/-! ## The task and what it spawns -/

/-- The handshake and the relay, for a handshake that grants or stops. -/
theorem relayed_spec {setup : Setup} {ask : Ask} {t : Trace agentSig} (hask : setup.Asks ask)
    {x : Agent.AgentM Agent.ClientTransportTcpDataRelay}
    (hx : wp (agentMain setup) x.run (OkOr (fun info t =>
      AgentStage.granted.At setup.agentConfig ask t ∧ info.initData = ask.initData)
      (AgentStopped setup.agentConfig ask)) t) :
    wp (agentMain setup) (do Agent.tcpRelay setup.agentConfig (← x) : Agent.AgentM Unit).run
      (agentMainPost setup) t := by
  have hstop : ∀ (e : Fault AgentError) t, AgentStopped setup.agentConfig ask t →
      agentMainPost setup (.error e) t := fun e t ⟨stage, hat, hrun⟩ =>
    .inr ⟨ask, stage, hask, hat, .inr ⟨rfl, hrun⟩⟩
  refine wp_run_seq hx (fun info t ⟨ht, hdata⟩ => ?_) hstop
  refine wp_mono (tcpRelay_spec hask ht hdata) fun r t h => ?_
  cases r with
  | ok u => exact .inr ⟨ask, .relaying, hask, h, .inl ⟨rfl, rfl⟩⟩
  | error e => exact hstop e t h

/-- **The agent's main task keeps to its stages.** -/
theorem agentTask_spec : wp (agentMain setup) setup.agentTask (agentMainPost setup) [] := by
  unfold Setup.agentTask Setup.handshake
  split
  · next dstAddress hreq =>
    have hask : setup.Asks ⟨setup.srcAddress, dstAddress.toUnified, none⟩ :=
      ⟨rfl, by rw [hreq, ClientRequest.target]⟩
    exact relayed_spec hask (handleConnectCommand_spec hask start_nil rfl)
  · next request hreq =>
    have htarget : setup.request.target = Agent.target setup.http request := by
      rw [hreq, ClientRequest.target]
    cases ht : Agent.target setup.http request with
    | error e =>
      unfold Agent.HttpClientTransport.handleRequest
      rw [ht]
      exact .inl ⟨rfl, rfl⟩
    | ok target =>
      obtain ⟨dstAddress, initData⟩ := target
      have hask : setup.Asks ⟨setup.srcAddress, dstAddress, initData⟩ :=
        ⟨rfl, htarget.trans ht⟩
      refine relayed_spec hask ?_
      unfold Agent.HttpClientTransport.handleRequest
      rw [ht]
      refine wp_run_bind.2 (wp_run_seq (initTunnel_spec hask "http" start_nil) (fun _ t hat => ?_)
        fun _ _ h => h)
      dsimp only
      split
      · exact wp_run_seq (clientReply_spec hask hat) (fun _ t hat => ⟨hat, rfl⟩) fun _ _ h => h
      · exact ⟨hat, rfl⟩

/-- Where the main task still runs nothing is spawned, but for the first task before the second. -/
theorem agentMain_spawned {setup : Setup} {op : AgentOp} {t : Trace agentSig}
    (h : agentMain setup (some op) t) :
    (∀ side, ¬ Tasks.Spawned (Agent.spawn setup.agentConfig) side t) ∨
      op = .spawnProxyToClient ∧ ¬ Tasks.Spawned (Agent.spawn setup.agentConfig) .down t := by
  obtain ⟨ask, stage, -, ⟨got, -, hat⟩, hallow⟩ := h
  have hrunning : ∀ side, Tasks.Spawned (Agent.spawn setup.agentConfig) side t ↔
      side ∈ stage.running := hat.running
  simp only [hrunning]
  cases stage with
  | spawning =>
    cases op with
    | spawnProxyToClient => exact .inr ⟨rfl, by simp [AgentStage.running]⟩
    | _ => exact hallow.elim
  | relaying => cases op <;> exact hallow.elim
  | _ => exact .inl fun side => List.not_mem_nil

/-- The stage that the main task has reached; before it asks there may be no request for a
tunnel. -/
theorem agentMain_stage {setup : Setup} {th : Thread agentSig (Except (Fault AgentError) Unit)}
    (h : th.Holds (agentMain setup) (agentMainPost setup)) :
    ∃ ask, ∃ stage : AgentStage, (stage = .start ∨ setup.Asks ask) ∧
      stage.At setup.agentConfig ask th.trace := by
  rcases wp_inv h.wp with ⟨_ | op, ho⟩ | ⟨r, -, ⟨hnil, -⟩ | ⟨ask, stage, hask, hat, -⟩⟩
  · exact ho.elim
  · obtain ⟨ask, stage, hask, hat, -⟩ := ho
    exact ⟨ask, stage, .inr hask, hat⟩
  · rw [hnil]
    exact ⟨⟨setup.srcAddress, setup.srcAddress, none⟩, .start, .inl rfl, start_nil⟩
  · exact ⟨ask, stage, .inr hask, hat⟩

/-- What holds of the agent's tasks. -/
def agentSpec : Tasks.Spec agentSig (Except (Fault AgentError) Unit) where
  assertion
    | none => agentMain setup
    | some .up => clientToProxyPump.assertion
    | some .down => proxyToClientPump.assertion
  mainPost := agentMainPost setup
  post
    | .up => clientToProxyPump.Finished
    | .down => proxyToClientPump.Finished

theorem agentSpec_sound : (agentSpec setup).Sound (Agent.spawn setup.agentConfig) where
  spawns := by
    intro op side p h
    cases op <;> cases h
    · exact relayClientToProxy_spec _ _
    · exact relayProxyToClient_spec
  once := by
    intro op side p t h hmain
    rcases agentMain_spawned hmain with hnone | ⟨rfl, hdown⟩
    · exact hnone side
    · cases h
      exact hdown

/-- A link that a relay task of the agent uses, and the main task before it. -/
theorem agentSpec_uses {B : Type} {f : Event agentSig → Option B} {side : Side}
    (hspawn : ∀ a, f ⟨.spawnProxyToClient, a⟩ = none)
    (hother : ∀ s op a t, s ≠ side → (agentSpec setup).assertion (some s) (some op) t →
      f ⟨op, a⟩ = none) :
    (agentSpec setup).Uses (Agent.spawn setup.agentConfig) f side where
  main := by
    intro op a t hmain hf
    rcases agentMain_spawned hmain with hnone | ⟨rfl, -⟩
    · exact hnone side
    · exact (hf (hspawn _)).elim
  other := fun hs h => hother _ _ _ _ hs h

theorem agent_uses_clientRecv :
    (agentSpec setup).Uses (Agent.spawn setup.agentConfig) clientRecv .up :=
  agentSpec_uses setup (fun _ => rfl) fun s op a t hs h => by
    cases s with
    | up => exact (hs rfl).elim
    | down => cases op <;> first | rfl | exact h.1.elim

theorem agent_uses_proxySent :
    (agentSpec setup).Uses (Agent.spawn setup.agentConfig) proxySent .up :=
  agentSpec_uses setup (fun _ => rfl) fun s op a t hs h => by
    cases s with
    | up => exact (hs rfl).elim
    | down => cases op <;> first | rfl | exact h.1.elim

theorem agent_uses_proxyRecv :
    (agentSpec setup).Uses (Agent.spawn setup.agentConfig) proxyRecv .down :=
  agentSpec_uses setup (fun _ => rfl) fun s op a t hs h => by
    cases s with
    | up => cases op <;> first | rfl | exact h.1.elim
    | down => exact (hs rfl).elim

theorem agent_uses_clientSent :
    (agentSpec setup).Uses (Agent.spawn setup.agentConfig) clientSent .down :=
  agentSpec_uses setup (fun _ => rfl) fun s op a t hs h => by
    cases s with
    | up => cases op <;> first | rfl | exact h.1.elim
    | down => exact (hs rfl).elim

/-! ## Committing -/

/-- The operations that commit the agent to a tunnel: it tells the client of it, or relays. -/
def Commits : AgentOp → Prop
  | .clientSend _ | .spawnClientToProxy _ | .spawnProxyToClient => True
  | _ => False

/-- The agent commits itself only once it has heard a grant. -/
theorem committed_of_respects {setup : Setup} {t : Trace agentSig}
    (h : Respects (agentMain setup) t) {op : AgentOp} {a : op.Ans} (hop : Commits op)
    (hmem : ⟨op, a⟩ ∈ t) : ∃ c, Grants c ∧ [.read [c]] <+: t.filterMap proxyRecv := by
  obtain ⟨t', hle, ask, stage, -, ⟨got, hgot, hat⟩, hallow⟩ := h.mem hmem
  have hgranted : ∃ c, Grants c ∧ t'.filterMap proxyRecv = [.read [c]] := by
    rw [show t'.filterMap proxyRecv = got from hat.got]
    cases stage with
    | granted | ready | spawning | relaying => exact hgot
    | start | asked | refused => cases op <;> first | exact hop.elim | exact hallow.elim
  obtain ⟨c, hc, hheard⟩ := hgranted
  refine ⟨c, hc, ?_⟩
  rw [← hheard]
  exact hle.filterMap proxyRecv

end Ppaass.Tunnel
