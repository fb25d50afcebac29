import Ppaass.Lib.Drawn
import Ppaass.Proxy.Proof.Operations
import Ppaass.Proxy.Server

/-!
# The user of what the proxy sends

The first message of an agent connection names a user, and each message that the proxy feeds to this
connection carries that user: the answer to a request for a tunnel, the data of the relay, and the
reply to a datagram. The relay from the agent does not look at the user of the messages it reads, so
that a later message under another user changes nothing.
-/

namespace Ppaass.Proxy

open Wire Prog
open Draw (usesOnly_of_none)

/-- A message that is read names the user; messages, and the relay task, use one. -/
def userDraw : Draw proxySig String where
  uses
    | .agentFeed message => some message.userToken
    | .spawnDstToAgent userToken _ => some userToken
    | _ => none
  draws
    | ⟨.agentNext, some (.ok message)⟩ => some message.userToken
    | _ => none

/-- The user is that of a message which was read. -/
theorem mem_drawn_user {t : Trace proxySig} {userToken : String}
    (h : userToken ∈ userDraw.drawn t) :
    ∃ message : PpaassAgentMessage, message.userToken = userToken ∧
      ⟨.agentNext, some (.ok message)⟩ ∈ t := by
  obtain ⟨⟨op, a⟩, he, hv⟩ := List.mem_filterMap.1 h
  cases op with
  | agentNext =>
    rcases a with _ | e | message
    · cases hv
    · cases hv
    · exact ⟨message, Option.some.inj hv, he⟩
  | _ => cases hv

/-- The operation uses no other user than this. -/
abbrev As (userToken : String) : ProxyOp → Prop := userDraw.UsesOnly (some userToken)

theorem as_of_eq {userToken : String} {op : ProxyOp} (h : userDraw.uses op = some userToken) :
    As userToken op := by
  intro v hv
  rw [h] at hv
  exact hv

section
variable (config : ProxyConfig)

theorem only_execTcp_as (transportId userToken : String)
    (payloadEncryption : PpaassMessagePayloadEncryption) (payload : AgentTcpPayload) :
    Only (As userToken)
      (Transport.execTcp config transportId userToken payloadEncryption payload).run := by
  cases payload with
  | data content => exact only_pure _
  | init srcAddress dstAddress =>
    have hhandler : Only (As userToken) (TcpHandler.exec config
        ⟨transportId, userToken, srcAddress, dstAddress, payloadEncryption⟩).run := by
      refine only_mono (only_tcpHandler_performs config _) fun op hop => ?_
      cases op <;> first
        | exact hop.elim
        | exact usesOnly_of_none rfl
        | exact as_of_eq (congrArg some hop.1)
        | (obtain ⟨messageId, result, rfl⟩ := hop
           exact as_of_eq rfl)
    refine only_run_bind (only_lift hhandler) fun r => ?_
    cases r with
    | ok => exact only_pure _
    | error e => exact (only_awaitM .fetchSub).2 (usesOnly_of_none rfl)

theorem only_execUdp_as (transportId userToken : String)
    (payloadEncryption : PpaassMessagePayloadEncryption) (payload : AgentUdpPayload) :
    Only (As userToken)
      (Transport.execUdp config transportId userToken payloadEncryption payload).run := by
  have hhandler : Only (As userToken) (UdpHandler.exec config
      ⟨transportId, userToken, payload.srcAddress, payload.dstAddress, payload.data,
        payloadEncryption, payload.needResponse⟩).run := by
    refine only_mono (only_udpHandler_performs config _) fun op hop => ?_
    cases op <;> first
      | exact hop.elim
      | exact usesOnly_of_none rfl
      | (obtain ⟨messageId, data, rfl⟩ := hop
         exact as_of_eq rfl)
  refine only_run_bind (only_lift hhandler) fun r => ?_
  cases r with
  | ok => exact (only_awaitM .fetchSub).2 (usesOnly_of_none rfl)
  | error e =>
    exact only_run_bind ((only_awaitM .fetchSub).2 (usesOnly_of_none rfl)) fun _ => only_pure _

/-- **The first message names the user, and what follows uses nothing else.** -/
theorem serve_user : userDraw.Sound (ProxyServer.serve config) := by
  refine Draw.Sound.bind (Draw.sound_of_only ((only_await .fetchAdd).2 (usesOnly_of_none rfl)))
    fun _ => Draw.Sound.bind
      (Draw.sound_of_only ((only_await .newUuid).2 (usesOnly_of_none rfl))) fun transportId t => ?_
  refine wp_run_bind.2 ((wp_awaitM .agentNext).2 ⟨Draw.fresh_of_none rfl, fun r => ?_⟩)
  rcases r with _ | e | agentMessage
  · trivial
  · trivial
  · refine wp_run_bind.2 ((wp_orFail _ _).2 (wp_run_bind.2 ((wp_awaitM .random32Bytes).2
      ⟨Draw.fresh_of_none rfl, fun token => ?_⟩)))
    refine Draw.wp_fresh_of_only (o := some agentMessage.userToken) ?_ fun v hv => ?_
    · dsimp only
      split
      · exact only_execTcp_as config _ _ _ _
      · exact only_execUdp_as config _ _ _ _
    · cases hv
      exact Draw.drawn_mono (by simp [Draw.drawn, userDraw])

end

/-! ## The relay tasks -/

/-- The messages of the relay carry the user it was spawned with. -/
theorem relayDstToAgent_as (userToken : String)
    (payloadEncryption : PpaassMessagePayloadEncryption) (t : Trace proxySig) :
    wp (userDraw.only (some userToken))
      (TcpHandler.relayDstToAgent userToken payloadEncryption) (fun _ _ => True) t := by
  refine wp_bind.2 (wp_mono (Forward.wp_run (Q := fun _ _ => True) (fun _ => True) (fun _ => True)
    trivial (fun _ _ => trivial) (fun t _ => ?_) (fun t _ => ?_)) fun _ t _ => ?_)
  · -- whether the destination has sent anything
    refine (wp_await _).2 ⟨usesOnly_of_none rfl, fun b => ?_⟩
    cases b with
    | false => exact trivial
    | true => exact (wp_await _).2 ⟨usesOnly_of_none rfl, fun r => by cases r <;> exact trivial⟩
  · refine wp_bind.2 ((wp_await _).2 ⟨usesOnly_of_none rfl, fun r => ?_⟩)
    rcases r with e | _ | ⟨b, bs⟩
    · exact (wp_await _).2 ⟨usesOnly_of_none rfl, fun _ => trivial⟩
    · exact (wp_await _).2 ⟨usesOnly_of_none rfl, fun _ => trivial⟩
    · refine wp_bind.2 ((wp_await _).2 ⟨usesOnly_of_none rfl, fun messageId => ?_⟩)
      exact (wp_await _).2 ⟨as_of_eq rfl, fun r => by cases r <;> exact trivial⟩
  · refine wp_bind.2 ((wp_await _).2 ⟨usesOnly_of_none rfl, fun _ => ?_⟩)
    exact wp_bind.2 ((wp_await _).2 ⟨usesOnly_of_none rfl, fun _ => trivial⟩)

theorem spawnsOnly_user : Tasks.SpawnsOnly userDraw spawn := by
  intro op side p hspawn
  cases op <;> try (cases hspawn; done)
  · cases hspawn
    refine wp_mono (wp_only (P := AgentToDstOp) (fun _ => True) only_relayAgentToDst trivial
      (fun _ _ => trivial) fun _ op _ hop => ⟨?_, fun _ => trivial⟩) fun _ _ _ => trivial
    cases op <;> first
      | exact hop.elim
      | exact usesOnly_of_none rfl
  · cases hspawn
    exact relayDstToAgent_as _ _ []

end Ppaass.Proxy
