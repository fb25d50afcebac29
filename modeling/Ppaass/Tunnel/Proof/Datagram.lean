import Ppaass.Tunnel.Proof.ProxyMain

/-!
# What the proxy does for a datagram

`DatagramView` is what the trace of a transport's task shows: the messages of the agent, where its
UDP socket was connected to, what it sent there and received from there, and its replies. The task
sends the data of the message it heard once, over a socket that is connected to the destination of
this message, and replies with what it received (`serve_spec`).
-/

namespace Ppaass.Tunnel

open Wire Prog
open Proxy (ProxyOp proxySig ProxyServerError ProxyM UdpHandlerRequest)

structure DatagramView where
  /-- the messages of the agent -/
  heard : List PpaassAgentMessagePayload
  /-- where the socket was connected to -/
  connected : List (List SocketAddr)
  sent : List Bytes
  received : Bytes
  replies : List PpaassProxyMessagePayload
  /-- an operation on the way to the destination has failed -/
  failed : Bool

namespace DatagramView

def start : DatagramView := ⟨[], [], [], [], [], false⟩

/-- The view after an event. -/
def next (v : DatagramView) : Event proxySig → DatagramView
  | ⟨.agentNext, some (.ok message)⟩ => { v with heard := v.heard ++ [message.payload] }
  | ⟨.udpBind _, .error _⟩ | ⟨.lookup _, .error _⟩ => { v with failed := true }
  | ⟨.udpConnect addrs, some (.ok ())⟩ => { v with connected := v.connected ++ [addrs] }
  | ⟨.udpConnect _, _⟩ => { v with failed := true }
  | ⟨.udpSend data, .ok ()⟩ => { v with sent := v.sent ++ [data] }
  | ⟨.udpSend data, .error _⟩ => { v with sent := v.sent ++ [data], failed := true }
  | ⟨.udpRecv, some (.ok data)⟩ => { v with received := v.received ++ data.1 }
  | ⟨.agentFeed message, _⟩ => { v with replies := v.replies ++ [message.payload] }
  | _ => v

def of (t : Trace proxySig) : DatagramView := t.foldl next start

@[simp] theorem of_snoc (t : Trace proxySig) (e : Event proxySig) : of (t ++ [e]) = (of t).next e :=
  List.foldl_append

end DatagramView

open DatagramView (of)

/-- The socket was connected once, to where this destination resolves. -/
def ConnectedTo (dstAddress : PpaassUnifiedAddress) (t : Trace proxySig) : Prop :=
  ∃ addrs, (of t).connected = [addrs] ∧ Resolved addrs t dstAddress

/-- What the task may do next, for a message that it heard. -/
def MayDo (payload : AgentUdpPayload) (t : Trace proxySig) : ProxyOp → Prop
  | .udpConnect addrs => (of t).connected = [] ∧ (of t).sent = [] ∧
      Resolved addrs t payload.dstAddress
  | .udpSend data => (of t).sent = [] ∧ data = payload.data ∧ ConnectedTo payload.dstAddress t
  | .udpRecv => (of t).sent = [payload.data] ∧ (of t).replies = []
  | .agentFeed message => (of t).sent = [payload.data] ∧ (of t).replies = [] ∧
      message.payload = .udp ⟨payload.srcAddress, payload.dstAddress, (of t).received⟩
  | .random32Bytes | .newUuid | .lookup _ | .udpBind _ | .agentFlush | .agentClose | .fetchSub =>
      True
  | _ => False

/-- Nothing is done before the first message, and no second message is heard. -/
def datagramMain : Assertion proxySig
  | none, _ => True
  | some op, t =>
    match (of t).heard with
    | [] => op = .fetchAdd ∨ op = .newUuid ∨ op = .agentNext
    | [.udp payload] => MayDo payload t op
    | [.tcp _] => op ≠ .agentNext
    | _ => False

/-! ## What it has done -/

/-- What a transport has done for the message that it heard. -/
structure Does (payload : AgentUdpPayload) (t : Trace proxySig) : Prop where
  sends : (of t).sent = [] ∧ ((of t).connected = [] ∨ ConnectedTo payload.dstAddress t) ∨
    (of t).sent = [payload.data] ∧ ConnectedTo payload.dstAddress t
  replies : (of t).replies = [] ∨ (of t).sent = [payload.data] ∧
    (of t).replies = [.udp ⟨payload.srcAddress, payload.dstAddress, (of t).received⟩]

/-- Nothing is done for a message that was not heard. -/
structure Idle (t : Trace proxySig) : Prop where
  connected : (of t).connected = []
  sent : (of t).sent = []
  received : (of t).received = []
  replies : (of t).replies = []

section
variable {payload : AgentUdpPayload} {t : Trace proxySig}

theorem ConnectedTo.snoc {dstAddress : PpaassUnifiedAddress} {e : Event proxySig}
    (h : ConnectedTo dstAddress t) (he : ((of t).next e).connected = (of t).connected) :
    ConnectedTo dstAddress (t ++ [e]) := by
  obtain ⟨addrs, hconnected, hres⟩ := h
  exact ⟨addrs, by rw [DatagramView.of_snoc, he, hconnected], hres.append _⟩

/-- An event that shows nothing new but a failure. -/
theorem Does.quiet {e : Event proxySig} (h : Does payload t) {failed : Bool}
    (he : (of t).next e = { of t with failed }) : Does payload (t ++ [e]) := by
  have hconnected : ConnectedTo payload.dstAddress t →
      ConnectedTo payload.dstAddress (t ++ [e]) := fun hc => hc.snoc (by rw [he])
  constructor
  · rw [DatagramView.of_snoc, he]
    exact h.sends.imp (And.imp_right (Or.imp_right hconnected)) (And.imp_right hconnected)
  · rw [DatagramView.of_snoc, he]
    exact h.replies

theorem Does.unreplied (h : Does payload t) (hsent : (of t).sent = []) : (of t).replies = [] := by
  rcases h.replies with hr | ⟨hs, -⟩
  · exact hr
  · rw [hsent] at hs
    cases hs

theorem Does.snoc {e : Event proxySig} (h : Does payload t) (he : MayDo payload t e.op) :
    Does payload (t ++ [e]) := by
  obtain ⟨op, a⟩ := e
  cases op with
  | udpConnect addrs =>
    obtain ⟨hconnected, hsent, hres⟩ := he
    rcases a with _ | _ | u
    · exact h.quiet rfl
    · exact h.quiet rfl
    · have hview := DatagramView.of_snoc t ⟨.udpConnect addrs, some (.ok u)⟩
      refine ⟨.inl ⟨?_, .inr ⟨addrs, ?_, hres.append _⟩⟩, .inl ?_⟩ <;> rw [hview]
      · exact hsent
      · exact congrArg (· ++ [addrs]) hconnected
      · exact h.unreplied hsent
  | udpSend data =>
    obtain ⟨hsent, rfl, hconnected⟩ := he
    refine ⟨.inr ⟨?_, hconnected.snoc ?_⟩, .inl ?_⟩
    · rw [DatagramView.of_snoc]
      cases a <;> exact congrArg (· ++ [payload.data]) hsent
    · cases a <;> rfl
    · rw [DatagramView.of_snoc]
      cases a <;> exact h.unreplied hsent
  | udpRecv =>
    obtain ⟨hsent, hreplies⟩ := he
    rcases a with _ | _ | data
    · exact h.quiet rfl
    · exact h.quiet rfl
    · have hconnected : ConnectedTo payload.dstAddress t := by
        rcases h.sends with ⟨hs, -⟩ | ⟨-, hc⟩
        · rw [hsent] at hs
          cases hs
        · exact hc
      refine ⟨.inr ⟨?_, hconnected.snoc rfl⟩, .inl ?_⟩ <;> rw [DatagramView.of_snoc]
      · exact hsent
      · exact hreplies
  | agentFeed message =>
    obtain ⟨hsent, hreplies, hm⟩ := he
    have hview := DatagramView.of_snoc t ⟨.agentFeed message, a⟩
    refine ⟨.inr ⟨?_, ?_⟩, .inr ⟨?_, ?_⟩⟩
    · rw [hview]
      exact hsent
    · rcases h.sends with ⟨hs, -⟩ | ⟨-, hc⟩
      · rw [hsent] at hs
        cases hs
      · exact hc.snoc rfl
    · rw [hview]
      exact hsent
    · rw [hview]
      exact (congrArg (· ++ [message.payload]) hreplies).trans (congrArg (fun p => [p]) hm)
  | lookup address => cases a <;> exact h.quiet rfl
  | udpBind addr => cases a <;> exact h.quiet rfl
  | random32Bytes => exact h.quiet rfl
  | newUuid => exact h.quiet rfl
  | agentFlush => exact h.quiet rfl
  | agentClose => exact h.quiet rfl
  | fetchSub => exact h.quiet rfl
  | _ => exact he.elim

theorem Idle.does (h : Idle t) : Does payload t := ⟨.inl ⟨h.sent, .inl h.connected⟩, .inl h.replies⟩

theorem Idle.snoc {e : Event proxySig} (h : Idle t)
    (he : e.op = .fetchAdd ∨ e.op = .newUuid ∨ e.op = .agentNext) : Idle (t ++ [e]) := by
  obtain ⟨hconnected, hsent, hreceived, hreplies⟩ := h
  obtain ⟨op, a⟩ := e
  rcases he with rfl | rfl | rfl
  · constructor <;> rw [DatagramView.of_snoc] <;> assumption
  · constructor <;> rw [DatagramView.of_snoc] <;> assumption
  · rcases a with _ | _ | message <;> constructor <;> rw [DatagramView.of_snoc] <;> assumption

theorem heard_snoc {e : Event proxySig} (he : e.op ≠ .agentNext) :
    (of (t ++ [e])).heard = (of t).heard := by
  rw [DatagramView.of_snoc]
  unfold DatagramView.next
  split <;> first
    | rfl
    | exact (he rfl).elim

/-- **What the assertion allows is what is done**, for each message that was heard. -/
theorem does_of_respects (h : Respects datagramMain t) :
    ((of t).heard = [] → Idle t) ∧ ∀ payload, (of t).heard = [.udp payload] → Does payload t := by
  induction h with
  | nil => exact ⟨fun _ => ⟨rfl, rfl, rfl, rfl⟩, fun payload h => by cases h⟩
  | @snoc t e _ he ih =>
    rw [datagramMain] at he
    split at he
    · next hheard =>
      have hidle := (ih.1 hheard).snoc he
      exact ⟨fun _ => hidle, fun payload _ => hidle.does⟩
    · next payload hheard =>
      have hne : e.op ≠ .agentNext := by
        intro hop
        rw [hop] at he
        exact he
      rw [heard_snoc hne, hheard]
      refine ⟨fun h => (by cases h), fun payload' h => ?_⟩
      cases h
      exact (ih.2 payload hheard).snoc he
    · next payload hheard =>
      rw [heard_snoc he, hheard]
      exact ⟨fun h => (by cases h), fun payload' h => (by cases h)⟩
    · exact he.elim

end

/-- One message is heard at most. -/
theorem heard_cases {t : Trace proxySig} (h : Respects datagramMain t) :
    (of t).heard = [] ∨ ∃ p, (of t).heard = [p] := by
  induction h with
  | nil => exact .inl rfl
  | @snoc t e _ he ih =>
    by_cases hop : e.op = .agentNext
    · rcases ih with hheard | ⟨p, hheard⟩
      · obtain ⟨op, a⟩ := e
        subst hop
        rw [DatagramView.of_snoc]
        rcases a with _ | _ | message
        · exact .inl hheard
        · exact .inl hheard
        · exact .inr ⟨message.payload, congrArg (· ++ [message.payload]) hheard⟩
      · -- no other is awaited
        rw [datagramMain, hheard, hop] at he
        cases p with
        | tcp payload => exact (he rfl).elim
        | udp payload => exact he.elim
    · rw [heard_snoc hop]
      exact ih

/-! ## What the links have seen of it -/

theorem heard_eq (t : Trace proxySig) :
    (of t).heard = ((t.filterMap agentRecv).flatMap RecvEvent.taken).map fun c => c.2.2 := by
  induction t using List.reverseRecOn with
  | nil => rfl
  | append_singleton t e ih =>
    rw [DatagramView.of_snoc, List.filterMap_append, List.flatMap_append, List.map_append, ← ih]
    obtain ⟨op, a⟩ := e
    by_cases hop : op = .agentNext
    · subst hop
      rcases a with _ | _ | message
      · exact (List.append_nil _).symm
      · exact (List.append_nil _).symm
      · rfl
    · have hnone : agentRecv ⟨op, a⟩ = none := by
        unfold agentRecv
        split
        · next h => cases h; exact (hop rfl).elim
        · rfl
      have hheard := heard_snoc (t := t) (e := ⟨op, a⟩) hop
      rw [DatagramView.of_snoc] at hheard
      rw [hheard]
      simp [hnone]

/-- What was fed to the link is a reply. -/
theorem mem_replies {t : Trace proxySig} {c : ProxyContent}
    (h : c ∈ (t.filterMap agentSent).flatMap SendEvent.fed) : c.2.2 ∈ (of t).replies := by
  induction t using List.reverseRecOn with
  | nil => cases h
  | append_singleton t e ih =>
    have hold : ∀ {p}, p ∈ (of t).replies → p ∈ ((of t).next e).replies := by
      intro p hp
      unfold DatagramView.next
      split <;> first
        | exact hp
        | exact List.mem_append_left _ hp
    rw [DatagramView.of_snoc]
    rw [List.filterMap_append, List.flatMap_append, List.mem_append] at h
    rcases h with h | h
    · exact hold (ih h)
    · obtain ⟨op, a⟩ := e
      cases op with
      | agentFeed message =>
        cases a with
        | error e => cases h
        | ok u =>
          cases List.mem_singleton.1 h
          exact List.mem_append_right _ (List.mem_singleton.2 rfl)
      | _ => cases h

/-! ## The handler -/

/-- The message is heard, and nothing is done for it yet. -/
def Heard (payload : AgentUdpPayload) (t : Trace proxySig) : Prop :=
  of t = ⟨[.udp payload], [], [], [], [], false⟩

/-- The data is sent, this was received since, and nothing is replied yet. -/
def Sent (payload : AgentUdpPayload) (received : Bytes) (t : Trace proxySig) : Prop :=
  ∃ addrs, of t = ⟨[.udp payload], [addrs], [payload.data], received, [], false⟩

/-- The data is sent, or an operation has failed. -/
def Served (payload : AgentUdpPayload) (t : Trace proxySig) : Prop :=
  (of t).heard = [.udp payload] ∧ ((of t).sent = [payload.data] ∨ (of t).failed = true)

section
variable {payload : AgentUdpPayload} {t : Trace proxySig}

theorem Sent.served {received : Bytes} (h : Sent payload received t) : Served payload t := by
  obtain ⟨addrs, h⟩ := h
  rw [Served, h]
  exact ⟨rfl, .inl rfl⟩

theorem allowed {op : ProxyOp} (hheard : (of t).heard = [.udp payload])
    (hop : MayDo payload t op) : datagramMain (some op) t := by
  rw [datagramMain, hheard]
  exact hop

theorem Heard.allowed {op : ProxyOp} (h : Heard payload t) (hop : MayDo payload t op) :
    datagramMain (some op) t := Tunnel.allowed (congrArg DatagramView.heard h) hop

/-- An event that shows nothing new. -/
theorem Heard.quiet {e : Event proxySig} (h : Heard payload t) (he : (of t).next e = of t) :
    Heard payload (t ++ [e]) := by
  rw [Heard, DatagramView.of_snoc, he]
  exact h

theorem Served.quiet {e : Event proxySig} (h : Served payload t) (he : (of t).next e = of t) :
    Served payload (t ++ [e]) := by
  rw [Served, DatagramView.of_snoc, he]
  exact h

/-- An operation on the way to the destination fails. -/
theorem Heard.fail {e : Event proxySig} (h : Heard payload t)
    (he : (of t).next e = { of t with failed := true }) : Served payload (t ++ [e]) := by
  rw [Served, DatagramView.of_snoc, he, show of t = _ from h]
  exact ⟨rfl, .inr rfl⟩

theorem resolve_spec (h : Heard payload t) :
    wp datagramMain (Proxy.toSocketAddrs payload.dstAddress) (OkOr
      (fun addrs t => Heard payload t ∧ Resolved addrs t payload.dstAddress)
      (Served payload)) t := by
  obtain ⟨src, dst, data, needResponse⟩ := payload
  cases dst with
  | ip addr => exact ⟨h, rfl⟩
  | domain host port =>
    refine wp_bind.2 ((Proxy.wp_await _).2 ⟨h.allowed trivial, fun r => ?_⟩)
    cases r with
    | ok addrs => exact ⟨h.quiet rfl, List.mem_concat_self⟩
    | error e => exact h.fail rfl

/-- The agent's connection is closed. -/
theorem failClosed_spec {α : Type} {e : ProxyServerError} (h : Served payload t)
    {Q : Except ProxyServerError α → Trace proxySig → Prop}
    (hQ : ∀ t, Served payload t → Q (.error e) t) :
    wp datagramMain (Proxy.UdpHandler.failClosed e : ProxyM α).run Q t :=
  wp_run_bind.2 ((Proxy.wp_awaitM .agentClose).2
    ⟨allowed h.1 trivial, fun _ => hQ _ (h.quiet rfl)⟩)

end

section
variable (config : Proxy.ProxyConfig) (request : UdpHandlerRequest) {t : Trace proxySig}

/-- The message that a request comes from. -/
def payloadOf : AgentUdpPayload :=
  ⟨request.srcAddress, request.dstAddress, request.udpData, request.needResponse⟩

/-- **The data is sent to the destination.** -/
theorem sendToDst_spec (h : Heard (payloadOf request) t) :
    wp datagramMain (Proxy.UdpHandler.sendToDst config request).run
      (OkOr (fun _ => Sent (payloadOf request) []) (Served (payloadOf request))) t := by
  refine wp_run_bind.2 ((Proxy.wp_awaitM _).2 ⟨h.allowed trivial, fun r => ?_⟩)
  cases r with
  | error e => exact wp_run_bind.2 ((wp_orFail _ _).2 (h.fail rfl))
  | ok u =>
    refine wp_run_bind.2 ((wp_orFail _ _).2 ?_)
    refine wp_run_bind.2 (wp_lift.2 (wp_mono (resolve_spec (h.quiet rfl)) fun r t hr => ?_))
    cases r with
    | error e => exact wp_run_bind.2 ((wp_orFail _ _).2 hr)
    | ok addrs =>
      obtain ⟨h, hres⟩ := hr
      refine wp_run_bind.2 ((wp_orFail _ _).2 ?_)
      refine wp_run_bind.2 ((Proxy.wp_awaitM (.udpConnect addrs)).2 ⟨h.allowed ?_, fun r => ?_⟩)
      · refine ⟨?_, ?_, hres⟩ <;> rw [show of t = _ from h]
      rcases r with _ | e | u
      · exact failClosed_spec (h.fail rfl) fun _ h => h
      · exact failClosed_spec (h.fail rfl) fun _ h => h
      have hview : of (t ++ [⟨.udpConnect addrs, some (.ok u)⟩]) =
          ⟨[.udp (payloadOf request)], [addrs], [], [], [], false⟩ := by
        rw [DatagramView.of_snoc, show of t = _ from h]
        rfl
      refine wp_run_bind.2 ((Proxy.wp_awaitM (.udpSend request.udpData)).2
        ⟨allowed (congrArg DatagramView.heard hview) ?_, fun r => ?_⟩)
      · exact ⟨congrArg DatagramView.sent hview, rfl, addrs,
          congrArg DatagramView.connected hview, hres.append _⟩
      cases r with
      | ok u =>
        refine ⟨addrs, ?_⟩
        rw [DatagramView.of_snoc, hview]
        rfl
      | error e =>
        refine failClosed_spec ?_ fun _ h => h
        rw [Served, DatagramView.of_snoc, hview]
        exact ⟨rfl, .inr rfl⟩

theorem recvRound_spec {udpData : Bytes} (h : Sent (payloadOf request) udpData t) :
    wp datagramMain (Proxy.UdpHandler.recvRound config request udpData)
      (Sum.elim (Sent (payloadOf request)) (OkOr (Sent (payloadOf request))
        (Served (payloadOf request)))) t := by
  obtain ⟨addrs, hview⟩ := h
  have hheard := congrArg DatagramView.heard hview
  refine wp_bind.2 ((Proxy.wp_await .udpRecv).2 ⟨allowed hheard ?_, fun r => ?_⟩)
  · exact ⟨congrArg DatagramView.sent hview, congrArg DatagramView.replies hview⟩
  have hquiet : ∀ {a}, (of t).next ⟨.udpRecv, a⟩ = of t →
      Served (payloadOf request) (t ++ [⟨.udpRecv, a⟩]) :=
    fun ha => Served.quiet (Sent.served ⟨addrs, hview⟩) ha
  rcases r with _ | e | ⟨data, hlen⟩
  · exact wp_bind.2 (failClosed_spec (hquiet rfl) fun _ h => h)
  · exact hquiet rfl
  have hsent : Sent (payloadOf request) (udpData ++ data)
      (t ++ [⟨.udpRecv, some (.ok ⟨data, hlen⟩)⟩]) := by
    refine ⟨addrs, ?_⟩
    rw [DatagramView.of_snoc, hview]
    rfl
  cases data with
  | nil =>
    rw [List.append_nil] at hsent
    exact hsent
  | cons b bs =>
    dsimp only
    split
    · exact hsent
    · exact hsent

theorem respond_spec {udpData : Bytes} (h : Sent (payloadOf request) udpData t) :
    wp datagramMain (Proxy.UdpHandler.respond request udpData).run
      (fun _ => Served (payloadOf request)) t := by
  unfold Proxy.UdpHandler.respond
  split
  · exact h.served
  · obtain ⟨addrs, hview⟩ := h
    refine wp_run_bind.2 ((Proxy.wp_awaitM .newUuid).2
      ⟨allowed (congrArg DatagramView.heard hview) trivial, fun messageId => ?_⟩)
    have hview' : of (t ++ [⟨.newUuid, messageId⟩]) = of t := DatagramView.of_snoc _ _
    rw [← hview'] at hview
    refine wp_run_bind.2 (wp_lift.2 (wp_bind.2 ((Proxy.wp_await (.agentFeed _)).2
      ⟨allowed (congrArg DatagramView.heard hview) ?_, fun r => ?_⟩)))
    · exact ⟨congrArg DatagramView.sent hview, congrArg DatagramView.replies hview,
        congrArg (fun data => PpaassProxyMessagePayload.udp
          ⟨request.srcAddress, request.dstAddress, data⟩)
          (congrArg DatagramView.received hview).symm⟩
    have hserved : Served (payloadOf request) (t ++ [⟨.newUuid, messageId⟩] ++
        [⟨.agentFeed (generateProxyUdpDataMessage messageId request.userToken
          request.payloadEncryption request.srcAddress request.dstAddress udpData), r⟩]) := by
      rw [Served, DatagramView.of_snoc, hview]
      exact ⟨rfl, .inl rfl⟩
    cases r with
    | error e => exact hserved
    | ok u =>
      exact (Proxy.wp_await .agentFlush).2
        ⟨allowed hserved.1 trivial, fun _ => hserved.quiet rfl⟩

/-- **The handler has sent the data, unless an operation failed.** -/
theorem udpHandler_spec (h : Heard (payloadOf request) t) :
    wp datagramMain (Proxy.UdpHandler.exec config request).run
      (fun _ => Served (payloadOf request)) t := by
  refine wp_run_seq (sendToDst_spec config request h) (fun _ t h => ?_) fun _ _ h => h
  have hclose : ∀ t, Served (payloadOf request) t → wp datagramMain
      (do let _ ← Proxy.awaitM .agentClose : ProxyM Unit).run
      (fun _ => Served (payloadOf request)) t := fun t h =>
    wp_run_bind.2 ((Proxy.wp_awaitM .agentClose).2
      ⟨allowed h.1 trivial, fun _ => h.quiet rfl⟩)
  have hrespond : wp datagramMain (Proxy.UdpHandler.recvAndRespond config request).run
      (fun _ => Served (payloadOf request)) t := by
    refine wp_run_bind.2 (wp_mono (wp_iterate (Sent (payloadOf request)) h
      fun udpData t h => ⟨trivial, recvRound_spec config request h⟩) fun r t hr => ?_)
    cases r with
    | ok udpData => exact respond_spec request hr
    | error e => exact hr
  dsimp only
  split
  · refine wp_run_bind.2 (wp_mono hrespond fun r t h => ?_)
    cases r with
    | ok => exact hclose t h
    | error e => exact h
  · exact hclose t h.served

end

/-! ## The task -/

/-- The agent's connection ended, or failed. -/
def Unheard (t : Trace proxySig) : Prop :=
  .eof ∈ t.filterMap agentRecv ∨ .error ∈ t.filterMap agentRecv

/-- What holds where the task has returned. -/
def datagramPost (t : Trace proxySig) : Prop :=
  Unheard t ∨ (∃ payload, (of t).heard = [.tcp payload]) ∨ ∃ payload, Served payload t

theorem execUdp_served (config : Proxy.ProxyConfig) (transportId userToken : String)
    (payloadEncryption : PpaassMessagePayloadEncryption) {payload : AgentUdpPayload}
    {t : Trace proxySig} (h : Heard payload t) :
    wp datagramMain (Proxy.Transport.execUdp config transportId userToken payloadEncryption
      payload).run (fun _ => datagramPost) t := by
  refine wp_run_bind.2 (wp_lift.2 (wp_mono (udpHandler_spec config
    { transportId, userToken, payloadEncryption
      srcAddress := payload.srcAddress
      dstAddress := payload.dstAddress
      udpData := payload.data
      needResponse := payload.needResponse } h) fun r t h => ?_))
  cases r with
  | ok =>
    exact (Proxy.wp_awaitM .fetchSub).2 ⟨allowed h.1 trivial, fun _ => .inr (.inr ⟨_, h.quiet rfl⟩)⟩
  | error e =>
    exact wp_run_bind.2 ((Proxy.wp_awaitM .fetchSub).2
      ⟨allowed h.1 trivial, fun _ => .inr (.inr ⟨_, h.quiet rfl⟩)⟩)

/-- The task hears no second message while it serves a tunnel. -/
theorem execTcp_served (config : Proxy.ProxyConfig) (transportId userToken : String)
    (payloadEncryption : PpaassMessagePayloadEncryption) {payload : AgentTcpPayload}
    {t : Trace proxySig} (h : (of t).heard = [.tcp payload]) :
    wp datagramMain (Proxy.Transport.execTcp config transportId userToken payloadEncryption
      payload).run (fun _ => datagramPost) t := by
  have hpost : ∀ t, (of t).heard = [.tcp payload] → datagramPost t :=
    fun t h => .inr (.inl ⟨payload, h⟩)
  cases payload with
  | data content => exact hpost t h
  | init srcAddress dstAddress =>
    refine wp_run_bind.2 (wp_lift.2 (wp_mono (wp_only
      (P := Proxy.TcpHandler.Performs
        { transportId, userToken, srcAddress, dstAddress, payloadEncryption })
      (fun t => (of t).heard = [.tcp (.init srcAddress dstAddress)])
      (Proxy.only_tcpHandler_performs config _) h (fun _ _ => trivial) ?_) fun r t h => ?_))
    · intro t op h hop
      have hne : op ≠ .agentNext := by
        rintro rfl
        exact hop
      refine ⟨by rw [datagramMain, h]; exact hne, fun a => ?_⟩
      exact (heard_snoc hne).trans h
    · cases r with
      | ok => exact hpost t h
      | error e =>
        refine (Proxy.wp_awaitM .fetchSub).2 ⟨by rw [datagramMain, h]; simp, fun _ => ?_⟩
        exact hpost _ ((heard_snoc (by simp)).trans h)

/-- **A transport does for a datagram what it may do, and has served it where it returns.** -/
theorem serve_spec (config : Proxy.ProxyConfig) :
    wp datagramMain (Proxy.ProxyServer.serve config) (fun _ => datagramPost) [] := by
  refine wp_bind.2 ((Proxy.wp_await .fetchAdd).2 ⟨.inl rfl, fun _ => ?_⟩)
  refine wp_bind.2 ((Proxy.wp_await .newUuid).2 ⟨.inr (.inl rfl), fun transportId => ?_⟩)
  refine wp_run_bind.2 ((Proxy.wp_awaitM .agentNext).2 ⟨.inr (.inr rfl), fun r => ?_⟩)
  rcases r with _ | e | message
  · exact .inl (.inl (List.mem_singleton.2 rfl))
  · exact .inl (.inr (List.mem_singleton.2 rfl))
  obtain ⟨messageId, userToken, encryption, payload⟩ := message
  refine wp_run_bind.2 (wp_run_bind.2 ((Proxy.wp_awaitM .random32Bytes).2 ⟨?_, fun token => ?_⟩))
  · cases payload with
    | tcp payload => exact ProxyOp.noConfusion
    | udp payload => trivial
  · cases payload with
    | tcp payload => exact execTcp_served config _ _ _ rfl
    | udp payload => exact execUdp_served config _ _ _ rfl

end Ppaass.Tunnel
