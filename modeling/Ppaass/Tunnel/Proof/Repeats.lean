import Ppaass.Lib.Ecb
import Ppaass.Tunnel.Proof.Secrecy

/-!
# What relayed data shows

A relay task puts all its messages under one token, block by block. Who reads the link sees of two
messages of a relay, or of one, which of their blocks are the same, wherever they stand
(`ShowsBlocks`, `relays_show_blocks`): data that is relayed twice is recognised.
-/

namespace Ppaass.Tunnel

open Wire Prog BlockMode ConnectionCodec
open Agent (AgentServer agentSig)
open Proxy (ProxyServer ProxyOp proxySig TransportTasks)

/-- These messages are under one token, and blocks of their ciphertexts are the same exactly where
those of the padded payloads are. -/
def ShowsBlocks {P : Type} (libs : Libs) (cipher : BlockCipher AesKey 16) (payload : Serde P)
    (messages : List (PpaassMessage P)) : Prop :=
  ∃ token : Block 32, (∀ m ∈ messages, EncodesCiphered libs cipher payload token m) ∧
    ∀ m ∈ messages, ∀ m' ∈ messages, ∀ v v', payload.serialize m.payload = .ok v →
      payload.serialize m'.payload = .ok v' →
        (cipher.ciphertext token v.bytes = cipher.ciphertext token v'.bytes ↔
          v.bytes = v'.bytes) ∧
        ∀ i j, blockAt 16 i (cipher.ciphertext token v.bytes) =
            blockAt 16 j (cipher.ciphertext token v'.bytes) ↔
          blockAt 16 i (padded 16 v.bytes) = blockAt 16 j (padded 16 v'.bytes)

theorem showsBlocks_of_token {P : Type} {libs : Libs} {cipher : BlockCipher AesKey 16}
    (hc : libs.aes256Ecb = cipher.ecb) (payload : Serde P) {messages : List (PpaassMessage P)}
    (token : Block 32) (h : ∀ m ∈ messages, m.encryption = .aes token.1) :
    ShowsBlocks libs cipher payload messages := by
  refine ⟨token, fun m hm => encode_ciphered hc payload (h m hm), ?_⟩
  intro m _ m' _ v v' _ _
  exact ⟨BlockCipher.ciphertext_inj (by decide) (by decide),
    BlockCipher.ciphertext_blocks (by decide) token v.bytes v'.bytes⟩

/-- A task uses one value at most, one that the main program has drawn. -/
theorem Drawn.used_one {S : Sig} {V α : Type} {d : Draw S V} {g : Tasks S α} (h : Tasks.Drawn d g)
    (side : Side) : d.used (g.trace (some side)) = [] ∨
      ∃ v ∈ d.drawn g.main.trace, ∀ v' ∈ d.used (g.trace (some side)), v' = v := by
  cases hside : g.task side with
  | none => simp [Tasks.trace, hside, Draw.used]
  | some th =>
    obtain ⟨o, ho, hth⟩ := h.task hside
    have hused : ∀ v' ∈ d.used (g.trace (some side)), v' ∈ o := by
      rw [Tasks.trace, hside]
      exact fun v' hv' => Draw.used_of_only hth.respects hv'
    cases o with
    | none =>
      left
      apply List.eq_nil_iff_forall_not_mem.2
      intro v hv
      cases hused v hv
    | some v => exact .inr ⟨v, ho v rfl, fun v' hv' => (Option.some.inj (hused v' hv')).symm⟩

/-- The messages that a relay task of the agent has fed. -/
def agentRelayed {α : Type} (g : Tasks agentSig α) (side : Side) : List PpaassAgentMessage :=
  (g.trace (some side)).filterMap fun
    | ⟨.proxyFeed message, _⟩ => some message
    | _ => none

/-- The messages that a relay task of the proxy has fed. -/
def proxyRelayed (g : TransportTasks) (side : Side) : List PpaassProxyMessage :=
  (g.trace (some side)).filterMap fun
    | ⟨.agentFeed message, _⟩ => some message
    | _ => none

/-- **The data of a relay shows its blocks**, on both sides, whatever their peers do. -/
theorem relays_show_blocks {http : Agent.HttpLib} {agentConfig : Agent.AgentConfig}
    {proxyConfig : Proxy.ProxyConfig} {agent : AgentServer} {proxy : ProxyServer}
    (hagent : agent.Reachable http agentConfig) (hproxy : proxy.Reachable proxyConfig)
    {libs : Libs} {cipher : BlockCipher AesKey 16} (hc : libs.aes256Ecb = cipher.ecb) :
    (∀ c ∈ agent.connections, ∀ side,
      ShowsBlocks libs cipher libs.agentPayload (agentRelayed c.tasks side)) ∧
    (∀ g ∈ proxy.transports, ∀ side,
      ShowsBlocks libs cipher libs.proxyPayload (proxyRelayed g side)) := by
  constructor
  · intro c hmem side
    have hused : ∀ m ∈ agentRelayed c.tasks side,
        m.encryption ∈ Agent.encryptionDraw.used (c.tasks.trace (some side)) := by
      intro m hm
      obtain ⟨⟨op, a⟩, he, hop⟩ := List.mem_filterMap.1 hm
      cases op <;> cases hop
      exact List.mem_filterMap.2 ⟨_, he, rfl⟩
    obtain hnone | ⟨v, hv, hall⟩ :=
      Drawn.used_one (AgentServer.reachable_drawn hagent c hmem).tasks side
    · apply showsBlocks_of_token hc _ ⟨List.replicate 32 0, rfl⟩
      intro m hm
      have hm' := hused m hm
      rw [hnone] at hm'
      cases hm'
    · obtain ⟨token, rfl, -⟩ := Agent.mem_drawn hv
      exact showsBlocks_of_token hc _ token fun m hm => hall _ (hused m hm)
  · intro g hmem side
    have hused : ∀ m ∈ proxyRelayed g side,
        m.encryption ∈ Proxy.encryptionDraw.used (g.trace (some side)) := by
      intro m hm
      obtain ⟨⟨op, a⟩, he, hop⟩ := List.mem_filterMap.1 hm
      cases op <;> cases hop
      exact List.mem_filterMap.2 ⟨_, he, rfl⟩
    obtain hnone | ⟨v, hv, hall⟩ :=
      Drawn.used_one (ProxyServer.reachable_drawn hproxy g hmem) side
    · apply showsBlocks_of_token hc _ ⟨List.replicate 32 0, rfl⟩
      intro m hm
      have hm' := hused m hm
      rw [hnone] at hm'
      cases hm'
    · obtain ⟨token, rfl, -⟩ := Proxy.mem_drawn hv
      exact showsBlocks_of_token hc _ token fun m hm => hall _ (hused m hm)

/-- A relay task of a lone transport takes a step. -/
theorem reachable_relay {config : Proxy.ProxyConfig} {n : UInt64} {g : TransportTasks} {side : Side}
    {th : Thread proxySig Unit} {e : Option (Event proxySig)} {p : Prog proxySig Unit}
    (h : ProxyServer.Reachable config
      ⟨n, [{ g with task := Function.update g.task side (some th) }]⟩)
    (hs : Prog.Step th.prog e p) :
    ProxyServer.Reachable config ⟨ProxyServer.counted n e,
      [{ g with task := Function.update g.task side (some ⟨p, after th.trace e⟩) }]⟩ := by
  have hstep : Tasks.Step Proxy.spawn { g with task := Function.update g.task side (some th) }
      (some side) e _ := .task (Function.update_self ..) (.mk th.trace hs)
  rw [Function.update_idem] at hstep
  exact .tail h ⟨_, .task n [] [] hstep⟩

/-- A destination that answers with the same bytes twice. -/
theorem relays_show_blocks_download : ∃ config proxy, ProxyServer.Reachable config proxy ∧
    ∃ g ∈ proxy.transports, ∃ m m', proxyRelayed g .down = [m, m'] ∧
      ShowsBlocks Reference.libs Reference.cipher Reference.libs.proxyPayload [m, m'] := by
  let token : Block 32 := ⟨List.replicate 32 7, rfl⟩
  let request := generateAgentTcpInitMessage "m1" "user1" (.ip (.v4 ⟨10, 0, 0, 1⟩ 5000))
    (.ip (.v4 ⟨1, 2, 3, 4⟩ 80)) .plain
  let page : Bytes := [1, 2, 3]
  have h0 : ProxyServer.Reachable ⟨none, none, none⟩ ⟨0, [Tasks.new (ProxyServer.serve _)]⟩ :=
    .single ⟨_, .accept _ _⟩
  have h1 := reachable_main .fetchAdd () h0 rfl
  have h2 := reachable_main .newUuid "t1" h1 rfl
  have h3 := reachable_main .agentNext (some (.ok request)) h2 rfl
  have h4 := reachable_main .random32Bytes token h3 rfl
  have h5 := reachable_main (.tcpConnect _) (some (.ok ())) h4 rfl
  have h6 := reachable_main .setNodelay (.ok ()) h5 rfl
  have h7 := reachable_main .setLinger (.ok ()) h6 rfl
  have h8 := reachable_main .newUuid "m2" h7 rfl
  have h9 := reachable_main (.agentFeed _) (.ok ()) h8 rfl
  have h10 := reachable_main .agentFlush (.ok ()) h9 rfl
  have h11 := reachable_main .spawnAgentToDst () h10 rfl
  have h12 := reachable_main (.spawnDstToAgent _ _) () h11 rfl
  have r1 := reachable_relay h12 (.loop _ _ _)
  have r2 := reachable_relay r1 (.vis (S := proxySig) .pending _ false)
  have r3 := reachable_relay r2 (.vis (S := proxySig) .dstRead _ (.ok page))
  have r4 := reachable_relay r3 (.vis (S := proxySig) .newUuid _ "m3")
  have r5 := reachable_relay r4 (.vis (S := proxySig) (.agentFeed _) _ (.ok ()))
  have r6 := reachable_relay r5 (.loop _ _ _)
  have r7 := reachable_relay r6 (.vis (S := proxySig) .pending _ false)
  have r8 := reachable_relay r7 (.vis (S := proxySig) .dstRead _ (.ok page))
  have r9 := reachable_relay r8 (.vis (S := proxySig) .newUuid _ "m4")
  have r10 := reachable_relay r9 (.vis (S := proxySig) (.agentFeed _) _ (.ok ()))
  have hshows := (@relays_show_blocks .none ⟨"user1", none⟩ _ _ _ .refl r10
    Reference.libs _ rfl).2 _ (List.mem_singleton.2 rfl) .down
  exact ⟨_, _, r10, _, List.mem_singleton.2 rfl, _, _, rfl, hshows⟩

end Ppaass.Tunnel
