import Ppaass.Agent.Proof.Operations
import Ppaass.Agent.Proof.Packet
import Ppaass.Agent.Proof.Relay
import Ppaass.Lib.Environment
import Ppaass.Tunnel.Association
import Ppaass.Tunnel.Proof.Datagram

/-!
# To which packet a reply belongs

Each packet that the agent accepts has a connection with the proxy of its own, in the order in which
they were accepted (`UdpSystem.Inv`). Nothing but this packet is heard at its other end
(`Exchange.Inv`), so that the transport there sends the packet's data to the packet's destination
and replies with what it received from it, and the reply that the agent reads is sent on to the
client before another connection is made.
-/

namespace Ppaass.Tunnel

open Wire Prog
open Framed (Fault)
open Agent (AgentOp agentSig AgentError RelayView RelayMayDo Socks5UdpDataPacket relayAssertion
  packetPayload)
open Proxy (ProxyOp proxySig ProxyServerError)
open DatagramView (of)

/-! ## One connection -/

/-- What the proxy's task for the connection has done. -/
abbrev Exchange.trace (x : Exchange) : Trace proxySig := x.proxy.main.trace

/-- A connection on which a packet is sent, and nothing else. -/
structure Exchange.Inv (restrict : PpaassUnifiedAddress) (packet : Socks5UdpDataPacket)
    (x : Exchange) : Prop where
  main : x.proxy.main.Holds datagramMain fun _ => datagramPost
  alone : ∀ side, x.proxy.task side = none
  asked : ∀ c ∈ x.agentToProxy.fed, c.2.2 = packetPayload restrict packet
  opened : x.agentToProxy.closed = false
  heard : x.agentToProxy.ReadBy (x.trace.filterMap agentRecv)
  replied : x.proxyToAgent.SentBy (x.trace.filterMap agentSent)

theorem filterMap_after {S : Sig} {B : Type} (f : Event S → Option B) (t : Trace S)
    (e : Option (Event S)) : (after t e).filterMap f = t.filterMap f ++ (e.bind f).toList := by
  cases e with
  | none => simp [after]
  | some e => cases h : f e <;> simp [after, h]

namespace Exchange

variable {restrict : PpaassUnifiedAddress} {packet : Socks5UdpDataPacket} {x x' : Exchange}

theorem start_inv (config : Proxy.ProxyConfig) : (start config).Inv restrict packet where
  main := .new (serve_spec config)
  alone := fun _ => rfl
  asked := by simp [start, Channel.empty]
  opened := rfl
  heard := Channel.readBy_empty
  replied := Channel.sentBy_empty

/-- The transport hears the packet, or nothing. -/
theorem Inv.heard_eq (h : x.Inv restrict packet) {payload : PpaassAgentMessagePayload}
    (hp : payload ∈ (of x.trace).heard) : payload = packetPayload restrict packet := by
  rw [Tunnel.heard_eq, ← h.heard.read] at hp
  obtain ⟨c, hc, rfl⟩ := List.mem_map.1 hp
  exact h.asked c (x.agentToProxy.read_fed.subset hc)

/-- It spawns nothing. -/
theorem Inv.spawn_eq_none (h : x.Inv restrict packet) {op : ProxyOp}
    (hop : datagramMain (some op) x.trace) : Proxy.spawn op = none := by
  rw [datagramMain] at hop
  split at hop
  · rcases hop with rfl | rfl | rfl <;> rfl
  · cases op <;> first
      | rfl
      | exact hop.elim
  · next payload hheard =>
    have hp := h.heard_eq (hheard ▸ List.mem_singleton.2 rfl)
    cases hp
  · exact hop.elim

/-- Only its main task takes steps. -/
theorem Inv.main_step {side : Option Side} {e : Option (Event proxySig)} {g : Proxy.TransportTasks}
    (h : x.Inv restrict packet) (hs : Tasks.Step Proxy.spawn x.proxy side e g) :
    ∃ th, g = ⟨th, x.proxy.task⟩ ∧ Thread.Step x.proxy.main e th := by
  cases hs with
  | task hside hs =>
    rw [h.alone] at hside
    cases hside
  | @main _ th hs =>
    refine ⟨th, ?_, hs⟩
    cases e with
    | none => rfl
    | some e =>
      have hnone : Proxy.spawn e.op = none := h.spawn_eq_none (h.main.allowed hs)
      simp [Tasks.spawned, hnone]

/-- **A step of the transport.** -/
theorem Inv.proxy {side : Option Side} {e : Option (Event proxySig)} (h : x.Inv restrict packet)
    (hs : Tasks.Step Proxy.spawn x.proxy side e x'.proxy)
    (hrecv : x.agentToProxy.Recvs (e.bind agentRecv) x'.agentToProxy)
    (hsend : x.proxyToAgent.Sends (e.bind agentSent) x'.proxyToAgent) :
    x'.Inv restrict packet := by
  obtain ⟨th, hproxy, hth⟩ := h.main_step hs
  have hmain : x'.proxy.main = th := by rw [hproxy]
  have htask : x'.proxy.task = x.proxy.task := by rw [hproxy]
  have hup : x'.agentToProxy.fed = x.agentToProxy.fed ∧
      x'.agentToProxy.closed = x.agentToProxy.closed := by
    cases hr : e.bind agentRecv with
    | none =>
      rw [hr] at hrecv
      rw [show x'.agentToProxy = _ from hrecv]
      exact ⟨rfl, rfl⟩
    | some r =>
      rw [hr] at hrecv
      exact ⟨hrecv.fed, hrecv.closed⟩
  constructor
  · exact hmain ▸ h.main.step hth
  · rw [htask]
    exact h.alone
  · rw [hup.1]
    exact h.asked
  · exact hup.2.trans h.opened
  · rw [trace, hmain, hth.trace, filterMap_after]
    exact h.heard.recvs hrecv
  · rw [trace, hmain, hth.trace, filterMap_after]
    exact h.replied.sends hsend

/-- What an event of the agent feeds to the link, and whether it closes it. -/
theorem proxySent_spec {e : Event agentSig} {sent : SendEvent AgentContent}
    (h : proxySent e = some sent) :
    (∀ c ∈ sent.fed, ∃ message, e.op = .proxyFeed message ∧ c = message.content) ∧
      ∀ ok, sent = .close ok → e.op = .proxyClose := by
  obtain ⟨op, a⟩ := e
  cases op with
  | proxyFeed message =>
    cases h
    refine ⟨fun c hc => ⟨message, rfl, ?_⟩, fun ok h => by cases h⟩
    cases a with
    | ok => exact List.mem_singleton.1 hc
    | error e => cases hc
  | proxyFlush =>
    cases h
    exact ⟨fun c hc => (by cases hc), fun ok h => (by cases h)⟩
  | proxyClose =>
    cases h
    exact ⟨fun c hc => (by cases hc), fun ok h => rfl⟩
  | _ => cases h

/-- **An event of the agent**, which sends nothing but the packet. -/
theorem Inv.agent {e : Event agentSig} (h : x.Inv restrict packet)
    (hsend : x.agentToProxy.Sends (proxySent e) x'.agentToProxy)
    (hrecv : x.proxyToAgent.Recvs (proxyRecv e) x'.proxyToAgent) (hproxy : x'.proxy = x.proxy)
    (hfeed : ∀ message, e.op = .proxyFeed message → message.payload = packetPayload restrict packet)
    (hclose : e.op ≠ .proxyClose) : x'.Inv restrict packet := by
  obtain ⟨g, up, down⟩ := x
  obtain ⟨g', up', down'⟩ := x'
  cases hproxy
  have hup : (∀ c ∈ up'.fed, c.2.2 = packetPayload restrict packet) ∧ up'.closed = false := by
    cases hsent : proxySent e with
    | none =>
      rw [hsent] at hsend
      cases hsend
      exact ⟨h.asked, h.opened⟩
    | some sent =>
      obtain ⟨hfed, hclosed⟩ := proxySent_spec hsent
      rw [hsent] at hsend
      constructor
      · intro c hc
        rw [hsend.fed_of_open h.opened] at hc
        rcases List.mem_append.1 hc with hc | hc
        · exact h.asked c hc
        · obtain ⟨message, hop, rfl⟩ := hfed c hc
          exact hfeed message hop
      · refine Bool.eq_false_iff.2 fun hc => ?_
        rcases hsend.closed.1 hc with hc | hc
        · exact absurd (h.opened.symm.trans hc) (by simp)
        · exact hclose (hclosed true hc)
  exact {
    main := h.main
    alone := h.alone
    asked := hup.1
    opened := hup.2
    heard := h.heard.sends hsend
    replied := h.replied.recvs hrecv }

theorem Inv.breakAgentToProxy {c : Channel AgentContent} (h : x.Inv restrict packet)
    (hb : x.agentToProxy.Break c) : Inv restrict packet { x with agentToProxy := c } where
  main := h.main
  alone := h.alone
  asked := by
    rw [hb.fed]
    exact h.asked
  opened := hb.closed.trans h.opened
  heard := h.heard.break hb
  replied := h.replied

theorem Inv.breakProxyToAgent {c : Channel ProxyContent} (h : x.Inv restrict packet)
    (hb : x.proxyToAgent.Break c) : Inv restrict packet { x with proxyToAgent := c } where
  main := h.main
  alone := h.alone
  asked := h.asked
  opened := h.opened
  heard := h.heard
  replied := h.replied.break hb

end Exchange

/-! ## The connections of an association -/

/-- The connections are those that the relay has made, one for each packet but perhaps the last. -/
structure Matches (restrict : PpaassUnifiedAddress) (v : RelayView) (xs : List Exchange) :
    Prop where
  connected : xs.length = v.connected
  exchange : ∀ (i : Nat) (x : Exchange), xs[i]? = some x →
    ∃ packet, v.accepted[i]? = some packet ∧ x.Inv restrict packet
  reply : ∀ message ∈ v.reply, ∃ x ∈ xs.getLast?, message.content ∈ x.proxyToAgent.read

section
variable {restrict : PpaassUnifiedAddress} {v : RelayView} {xs pre post : List Exchange}
  {x x' : Exchange}

theorem getElem?_replace {i : Nat} {y : Exchange} (h : (pre ++ x' :: post)[i]? = some y) :
    (i = pre.length ∧ y = x') ∨ (pre ++ x :: post)[i]? = some y := by
  rcases Nat.lt_trichotomy i pre.length with hi | hi | hi
  · rw [List.getElem?_append_left hi] at h ⊢
    exact .inr h
  · subst hi
    simp at h
    exact .inl ⟨rfl, h.symm⟩
  · obtain ⟨k, rfl⟩ := Nat.exists_eq_add_of_lt hi
    rw [List.getElem?_append_right (by omega)] at h ⊢
    have hk : pre.length + k + 1 - pre.length = k + 1 := by omega
    rw [hk] at h ⊢
    exact .inr h

/-- One of the connections takes a step. -/
theorem Matches.replace (h : Matches restrict v (pre ++ x :: post))
    (hinv : ∀ packet, v.accepted[pre.length]? = some packet → x.Inv restrict packet →
      x'.Inv restrict packet)
    (hread : x.proxyToAgent.read <+: x'.proxyToAgent.read) :
    Matches restrict v (pre ++ x' :: post) where
  connected := by simpa using h.connected
  exchange := by
    intro i y hy
    rcases getElem?_replace hy with ⟨rfl, rfl⟩ | hy
    · obtain ⟨packet, hpacket, hx⟩ := h.exchange pre.length x (by simp)
      exact ⟨packet, hpacket, hinv packet hpacket hx⟩
    · exact h.exchange i y hy
  reply := by
    intro message hm
    obtain ⟨y, hy, hmem⟩ := h.reply message hm
    rcases List.eq_nil_or_concat post with rfl | ⟨post', z, rfl⟩
    · have hyx : y = x := by simpa using hy.symm
      subst hyx
      exact ⟨x', by simp, hread.subset hmem⟩
    · have hlast : ∀ w : Exchange, (pre ++ w :: post'.concat z).getLast? = some z := by
        intro w
        rw [show pre ++ w :: post'.concat z = (pre ++ w :: post') ++ [z] by simp]
        exact List.getLast?_concat
      rw [hlast] at hy
      cases hy
      exact ⟨y, hlast x', hmem⟩

/-- The relay goes on, with the connections as they are. -/
theorem Matches.view {v' : RelayView} (h : Matches restrict v xs)
    (haccepted : v.accepted <+: v'.accepted) (hconnected : v'.connected = v.connected)
    (hreply : ∀ message ∈ v'.reply, message ∈ v.reply ∨
      ∃ x ∈ xs.getLast?, message.content ∈ x.proxyToAgent.read) : Matches restrict v' xs where
  connected := h.connected.trans hconnected.symm
  exchange := by
    intro i x hx
    obtain ⟨packet, hpacket, hinv⟩ := h.exchange i x hx
    obtain ⟨more, hmore⟩ := haccepted
    refine ⟨packet, ?_, hinv⟩
    rw [← hmore, List.getElem?_append_left (List.getElem?_eq_some_iff.1 hpacket).1]
    exact hpacket
  reply := fun message hm => (hreply message hm).elim (h.reply message) id

/-- A connection is made for the packet that was accepted last. -/
theorem Matches.connect (config : Proxy.ProxyConfig) (h : Matches restrict v xs)
    (hv : v.accepted.length = v.connected + 1) :
    Matches restrict (v.next restrict ⟨.proxyConnect, some (.ok ())⟩) (xs ++ [.start config]) where
  connected := by
    rw [List.length_append, h.connected]
    rfl
  exchange := by
    intro i x hx
    rcases Nat.lt_or_ge i xs.length with hi | hi
    · rw [List.getElem?_append_left hi] at hx
      exact h.exchange i x hx
    · have hxs := h.connected
      have hlt := (List.getElem?_eq_some_iff.1 hx).1
      rw [List.length_append, List.length_singleton] at hlt
      obtain rfl : i = xs.length := by omega
      rw [List.getElem?_concat_length] at hx
      cases hx
      have hlast : xs.length < v.accepted.length := by omega
      exact ⟨v.accepted[xs.length], List.getElem?_eq_getElem hlast, Exchange.start_inv config⟩
  reply := fun message hm => by cases hm

/-- What was read stays read, and the message of an answer is read. -/
theorem read_recvs {e : Event agentSig} (h : x.proxyToAgent.Recvs (proxyRecv e) x'.proxyToAgent) :
    x.proxyToAgent.read <+: x'.proxyToAgent.read ∧ ∀ message,
      e = ⟨.proxyNext, some (.ok message)⟩ → message.content ∈ x'.proxyToAgent.read := by
  cases hr : proxyRecv e with
  | none =>
    rw [hr] at h
    rw [show x'.proxyToAgent = _ from h]
    refine ⟨List.prefix_rfl, fun message he => ?_⟩
    subst he
    cases hr
  | some r =>
    rw [hr] at h
    rw [h.read]
    refine ⟨List.prefix_append _ _, fun message he => ?_⟩
    subst he
    cases hr
    exact List.mem_append_right _ (List.mem_singleton.2 rfl)

/-- What the proxy sends does not change what the agent has read. -/
theorem read_sends {A : Type} {c c' : Channel A} {e : Option (SendEvent A)} (h : c.Sends e c') :
    c'.read = c.read := by
  cases e with
  | none =>
    cases h
    rfl
  | some e => exact h.read

/-- **An event of the relay**, which does what it may do. -/
theorem Matches.answer {config : Proxy.ProxyConfig} {e : Event agentSig} {xs' : List Exchange}
    (h : Matches restrict v xs) (hop : RelayMayDo restrict v e.op)
    (hx : Exchange.Answers config xs e xs') : Matches restrict (v.next restrict e) xs' := by
  cases hx with
  | connect => exact h.connect config hop
  | @connection pre x x' _ hconnect hsend hrecv hproxy =>
    obtain ⟨hread, hnext⟩ := read_recvs hrecv
    have hlast : v.connected = pre.length + 1 := by simpa using h.connected.symm
    have hinv : ∀ packet, v.accepted[pre.length]? = some packet → x.Inv restrict packet →
        x'.Inv restrict packet := by
      intro packet hpacket hinv
      refine hinv.agent hsend hrecv hproxy (fun message hfeed => ?_) fun hclose => ?_
      · rw [hfeed] at hop
        obtain ⟨hall, packet', hpacket', hm⟩ := hop
        have hindex : v.accepted.length - 1 = pre.length := by omega
        rw [List.getLast?_eq_getElem?, hindex, hpacket] at hpacket'
        cases hpacket'
        exact hm
      · rw [hclose] at hop
        exact hop
    refine (h.replace hinv hread).view RelayView.accepted_next
      (RelayView.connected_next hconnect) fun message hm => ?_
    rcases RelayView.reply_next hm with hm | he
    · exact .inl hm
    · exact .inr ⟨x', by simp, hnext message he⟩
  | other _ hconnect hsend hrecv =>
    refine h.view RelayView.accepted_next (RelayView.connected_next hconnect) fun message hm => ?_
    rcases RelayView.reply_next hm with hm | rfl
    · exact .inl hm
    · cases hrecv

end

/-! ## The invariant -/

namespace UdpSystem

variable {agentConfig : Agent.AgentConfig} {proxyConfig : Proxy.ProxyConfig}
  {restrict : PpaassUnifiedAddress} {s s' : UdpSystem}

/-- What the relay of the association has done. -/
abbrev view (restrict : PpaassUnifiedAddress) (s : UdpSystem) : RelayView :=
  .of restrict s.association.right.trace

/-- The other branch of the association reads the client's connection. -/
def readsClient : Assertion agentSig
  | none, _ => True
  | some op, _ => op = .clientRead

structure Inv (restrict : PpaassUnifiedAddress) (s : UdpSystem) : Prop where
  association : s.association.Holds readsClient (relayAssertion restrict) (fun _ _ => True)
    fun _ _ => True
  exchanges : Matches restrict (s.view restrict) s.exchanges

theorem start_inv (agentConfig : Agent.AgentConfig) (restrict : PpaassUnifiedAddress) :
    Inv restrict (start agentConfig restrict) where
  association := by
    refine .new ?_ (Agent.relayUdpData_allowed agentConfig restrict)
    exact wp_mono (wp_only (fun _ => True)
      (Agent.only_checkUdpRelayTcpConnection (P := (· = .clientRead)) rfl) trivial
      (fun _ _ => trivial) fun _ _ _ hop => ⟨hop, fun _ => trivial⟩) fun _ _ _ => trivial
  exchanges := ⟨rfl, fun i x hx => (by simp [start] at hx), fun message hm => (by cases hm)⟩

/-- Reading the client's connection does not touch those with the proxy. -/
theorem answers_clientRead {r : Except StdIoError Bytes} {xs xs' : List Exchange}
    (h : Exchange.Answers proxyConfig xs ⟨.clientRead, r⟩ xs') : xs' = xs := by
  cases h with
  | @connection pre x x' _ hconnect hsend hrecv hproxy =>
    obtain ⟨g, up, down⟩ := x
    obtain ⟨g', up', down'⟩ := x'
    cases hproxy
    cases hsend
    cases hrecv
    rfl
  | other => rfl

theorem Inv.step (h : Inv restrict s) (hstep : Step proxyConfig s s') : Inv restrict s' := by
  cases hstep with
  | @agent _ e a xs hs hx =>
    refine ⟨h.association.step hs, ?_⟩
    cases hs with
    | @right th hleft hth =>
      have hop : RelayMayDo restrict (s.view restrict) e.op := h.association.right.allowed hth
      show Matches restrict (.of restrict th.trace) _
      rw [hth.trace, after, RelayView.of_snoc]
      exact h.exchanges.answer hop hx
    | left hright hth =>
      obtain ⟨op, r⟩ := e
      have hop : op = .clientRead := h.association.left.allowed hth
      subst hop
      rw [answers_clientRead hx]
      exact h.exchanges
  | agentSilent hs =>
    refine ⟨h.association.step hs, ?_⟩
    cases hs with
    | @right th hleft hth =>
      show Matches restrict (.of restrict th.trace) _
      rw [hth.trace]
      exact h.exchanges
    | left hright hth => exact h.exchanges
  | proxy pre post hs hrecv hsend =>
    refine ⟨h.association, h.exchanges.replace (fun _ _ hx => hx.proxy hs hrecv hsend) ?_⟩
    rw [read_sends hsend]
  | breakAgentToProxy pre post hb =>
    exact ⟨h.association, h.exchanges.replace (fun _ _ hx => hx.breakAgentToProxy hb)
      List.prefix_rfl⟩
  | breakProxyToAgent pre post hb =>
    refine ⟨h.association, h.exchanges.replace (fun _ _ hx => hx.breakProxyToAgent hb) ?_⟩
    rw [hb.read]

/-- **The invariant holds in every state that a run reaches.** -/
theorem reachable_inv (h : Reachable agentConfig proxyConfig restrict s) : Inv restrict s := by
  induction h with
  | refl => exact start_inv agentConfig restrict
  | tail _ hstep ih => exact ih.step hstep

end UdpSystem

/-! ## What is sent, and what is replied -/

/-- What the proxy does for a packet. -/
structure Exchange.Carries (packet : Socks5UdpDataPacket) (x : Exchange) : Prop where
  /-- it sends the data once, and nothing else, and to the destination -/
  sends : (of x.trace).sent = [] ∨ (of x.trace).sent = [packet.data] ∧
    ConnectedTo packet.address.toUnified x.trace
  /-- where it has come to its end, it has sent the data, or an operation or the link has failed -/
  served : x.proxy.main.done = true → (of x.trace).sent = [packet.data] ∨
    (of x.trace).failed = true ∨ x.agentToProxy.broken = true
  /-- it has no other tasks -/
  alone : ∀ side, x.proxy.task side = none

namespace Exchange.Inv

variable {restrict : PpaassUnifiedAddress} {packet : Socks5UdpDataPacket} {x : Exchange}

theorem carries (h : x.Inv restrict packet) : x.Carries packet where
  sends := by
    obtain ⟨hidle, hdoes⟩ := does_of_respects h.main.respects
    rcases heard_cases h.main.respects with hheard | ⟨p, hheard⟩
    · exact .inl (hidle hheard).sent
    · have hp : p = packetPayload restrict packet :=
        h.heard_eq (hheard ▸ List.mem_singleton.2 rfl)
      rw [hp] at hheard
      exact (hdoes _ hheard).sends.imp And.left id
  served := by
    intro hdone
    obtain ⟨r, hpost⟩ := h.main.done hdone
    rcases hpost with (heof | herror) | ⟨payload, hheard⟩ | ⟨payload, hheard, hserved⟩
    · rcases h.heard.eof heof with hbroken | ⟨hclosed, -⟩
      · exact .inr (.inr hbroken)
      · exact absurd (h.opened.symm.trans hclosed) (by simp)
    · exact .inr (.inr (h.heard.sound herror))
    · have hp := h.heard_eq (hheard ▸ List.mem_singleton.2 rfl)
      cases hp
    · have hp := h.heard_eq (hheard ▸ List.mem_singleton.2 rfl)
      cases hp
      exact hserved.imp id .inl
  alone := h.alone

/-- **A message that the agent read is the reply** to the packet, with what was received for it. -/
theorem reply_eq (h : x.Inv restrict packet) {message : PpaassProxyMessage}
    (hread : message.content ∈ x.proxyToAgent.read) :
    message.payload = .udp ⟨restrict, packet.address.toUnified, (of x.trace).received⟩ := by
  have hfed := h.replied.fed_le.subset (x.proxyToAgent.read_fed.subset hread)
  have hreply : message.payload ∈ (of x.trace).replies := mem_replies hfed
  obtain ⟨hidle, hdoes⟩ := does_of_respects h.main.respects
  rcases heard_cases h.main.respects with hheard | ⟨p, hheard⟩
  · rw [(hidle hheard).replies] at hreply
    cases hreply
  · have hp : p = packetPayload restrict packet :=
      h.heard_eq (hheard ▸ List.mem_singleton.2 rfl)
    rw [hp] at hheard
    rcases (hdoes _ hheard).replies with hnone | ⟨-, hone⟩
    · rw [hnone] at hreply
      cases hreply
    · rw [hone] at hreply
      exact List.mem_singleton.1 hreply

end Exchange.Inv

/-- The host of an address has at most 255 bytes, if there is one. -/
def HostFits (address : Agent.Socks5Address) : Prop :=
  ∀ host port, address = .domain host port → host.utf8ByteSize ≤ 255

namespace UdpSystem

/-- What the proxy and the client get for the packets that were accepted. -/
structure Attributed (restrict : PpaassUnifiedAddress) (s : UdpSystem) : Prop where
  /-- each packet is carried by a connection of its own, but perhaps the last if none is made yet -/
  carried : (s.view restrict).accepted.length ≤ s.exchanges.length + 1
  exchange : ∀ (i : Nat) (x : Exchange), s.exchanges[i]? = some x →
    ∃ packet, (s.view restrict).accepted[i]? = some packet ∧ x.Carries packet
  /-- what is sent to the client is the reply to the packet that was accepted last -/
  reply : ∀ (bytes : Bytes) (addrs : List SocketAddr) (r : Except StdIoError Unit)
    (a : Agent.Association), s.association.Step (some ⟨.udpSendTo bytes addrs, r⟩) a →
    ∃ packet x client, (s.view restrict).accepted.getLast? = some packet ∧
      s.exchanges.getLast? = some x ∧ s.exchanges.length = (s.view restrict).accepted.length ∧
      restrict = .ip client ∧ addrs = [client] ∧
      (HostFits packet.address → Agent.udpPacket bytes =
        .ok ⟨0, packet.address, (of x.trace).received⟩)

variable {agentConfig : Agent.AgentConfig} {proxyConfig : Proxy.ProxyConfig}
  {restrict : PpaassUnifiedAddress} {s : UdpSystem}

/-- The connection that was made last is that of the packet that was accepted last. -/
theorem Inv.last (h : Inv restrict s) {x : Exchange} (hx : x ∈ s.exchanges.getLast?)
    (hall : (s.view restrict).connected = (s.view restrict).accepted.length) :
    ∃ packet, (s.view restrict).accepted.getLast? = some packet ∧ x.Inv restrict packet := by
  rw [List.getLast?_eq_getElem?] at hx
  obtain ⟨packet, hpacket, hinv⟩ := h.exchanges.exchange _ _ hx
  refine ⟨packet, ?_, hinv⟩
  rw [List.getLast?_eq_getElem?, ← hall, ← h.exchanges.connected]
  exact hpacket

/-- What the relay may send to the client. -/
theorem Inv.mayDo (h : Inv restrict s) {bytes : Bytes} {addrs : List SocketAddr}
    {r : Except StdIoError Unit} {a : Agent.Association}
    (hstep : s.association.Step (some ⟨.udpSendTo bytes addrs, r⟩) a) :
    RelayMayDo restrict (s.view restrict) (.udpSendTo bytes addrs) := by
  cases hstep with
  | right hleft hth => exact h.association.right.allowed hth
  | left hright hth => cases h.association.left.allowed hth

/-- **Replies are attributed to the packet they answer.** -/
theorem udp_attributed (h : Reachable agentConfig proxyConfig restrict s) :
    s.Attributed restrict where
  carried := by
    rw [(reachable_inv h).exchanges.connected]
    exact Agent.accepted_le (reachable_inv h).association.right.respects
  exchange := by
    intro i x hx
    obtain ⟨packet, hpacket, hinv⟩ := (reachable_inv h).exchanges.exchange i x hx
    exact ⟨packet, hpacket, hinv.carries⟩
  reply := by
    intro bytes addrs r a hstep
    have hinv := reachable_inv h
    obtain ⟨hall, message, hreply, hforwards⟩ := hinv.mayDo hstep
    obtain ⟨x, hx, hread⟩ := hinv.exchanges.reply message hreply
    obtain ⟨packet, hlast, hxinv⟩ := hinv.last hx hall
    obtain ⟨⟨client, hclient⟩, datagram, hdatagram⟩ :=
      Agent.accepted_spec (List.mem_of_getLast? hlast)
    cases hforwards with
    | @mk src dst data _ hm haddrs =>
      have hpayload := hxinv.reply_eq hread
      rw [hm] at hpayload
      cases hpayload
      refine ⟨packet, x, client, hlast, hx, hinv.exchanges.connected.trans hall, hclient,
        haddrs client hclient, fun hfits => ?_⟩
      obtain ⟨-, -, address, -, hat⟩ := Agent.udpPacket_eq_ok.1 hdatagram
      rw [Agent.Socks5Address.ofUnified_toUnified]
      exact Agent.udpPacket_toBytes (hat.sendable hfits)

end UdpSystem

/-! ## A run -/

namespace UdpSystem

section
variable {agentConfig : Agent.AgentConfig} {proxyConfig : Proxy.ProxyConfig}
  {restrict : PpaassUnifiedAddress}

/-- The relay performs its next operation. -/
theorem reachable_agent {left th : Thread agentSig (Except (Fault AgentError) Unit)}
    {xs xs' : List Exchange} (op : AgentOp) (a : op.Ans) {k : op.Ans → Prog agentSig _}
    (h : Reachable agentConfig proxyConfig restrict ⟨⟨left, th⟩, xs⟩) (hleft : left.done = false)
    (hth : th.prog = .vis op k) (hx : Exchange.Answers proxyConfig xs ⟨op, a⟩ xs') :
    Reachable agentConfig proxyConfig restrict ⟨⟨left, ⟨k a, th.trace ++ [⟨op, a⟩]⟩⟩, xs'⟩ :=
  .tail h (.agent (.right hleft (.performs (S := agentSig) op a hth)) hx)

theorem reachable_agentLoop {left th : Thread agentSig (Except (Fault AgentError) Unit)}
    {xs : List Exchange} {σ β : Type} {body : σ → Prog agentSig (σ ⊕ β)} {i : σ}
    {k : β → Prog agentSig _}
    (h : Reachable agentConfig proxyConfig restrict ⟨⟨left, th⟩, xs⟩) (hleft : left.done = false)
    (hth : th.prog = .loop body i k) :
    Reachable agentConfig proxyConfig restrict
      ⟨⟨left, ⟨(body i).bind (Sum.elim (fun i => .loop body i k) k), th.trace⟩⟩, xs⟩ := by
  obtain ⟨prog, t⟩ := th
  cases hth
  exact .tail h (.agentSilent (.right hleft (.mk t (.enter body i k))))

/-- The transport of the only connection performs its next operation. -/
theorem reachable_proxy {a : Agent.Association} {g : Proxy.TransportTasks}
    {up up' : Channel AgentContent} {down down' : Channel ProxyContent} (op : ProxyOp) (r : op.Ans)
    {k : op.Ans → Prog proxySig _}
    (h : Reachable agentConfig proxyConfig restrict ⟨a, [⟨g, up, down⟩]⟩)
    (hg : g.main.prog = .vis op k) (hrecv : up.Recvs (agentRecv ⟨op, r⟩) up')
    (hsend : down.Sends (agentSent ⟨op, r⟩) down') :
    Reachable agentConfig proxyConfig restrict ⟨a, [⟨Tasks.spawned Proxy.spawn
      { g with main := ⟨k r, g.main.trace ++ [⟨op, r⟩]⟩ } (some ⟨op, r⟩), up', down'⟩]⟩ :=
  .tail h (.proxy [] [] (.main (.performs (S := proxySig) op r hg)) hrecv hsend)

theorem reachable_proxyLoop {a : Agent.Association} {g : Proxy.TransportTasks}
    {up : Channel AgentContent} {down : Channel ProxyContent} {σ β : Type}
    {body : σ → Prog proxySig (σ ⊕ β)} {i : σ} {k : β → Prog proxySig _}
    (h : Reachable agentConfig proxyConfig restrict ⟨a, [⟨g, up, down⟩]⟩)
    (hg : g.main.prog = .loop body i k) :
    Reachable agentConfig proxyConfig restrict ⟨a, [⟨
      { g with main := ⟨(body i).bind (Sum.elim (fun i => .loop body i k) k), g.main.trace⟩ },
      up, down⟩]⟩ := by
  obtain ⟨⟨prog, t⟩, task⟩ := g
  cases hg
  have hs : Tasks.Step Proxy.spawn ⟨⟨.loop body i k, t⟩, task⟩ none none _ :=
    .main (.mk t (.enter body i k))
  exact .tail h (.proxy [] [] hs (by exact rfl) (by exact rfl))

end

/-- The agent sends a reply to its client. -/
theorem udp_attributed_reply : ∃ agentConfig proxyConfig client s,
    Reachable agentConfig proxyConfig (.ip client) s ∧ s.Attributed (.ip client) ∧
    ∃ bytes addrs r a, s.association.Step (some ⟨.udpSendTo bytes addrs, r⟩) a := by
  let token : BlockMode.Block 32 := ⟨List.replicate 32 7, rfl⟩
  let client : SocketAddr := .v4 ⟨192, 168, 0, 2⟩ 5000
  let dstAddress : PpaassUnifiedAddress := .ip (.v4 ⟨8, 8, 8, 8⟩ 53)
  let query := generateAgentUdpDataMessage "m1" "user1" (.aes token.1) (.ip client) dstAddress
    [104, 105] true
  let answer := generateProxyUdpDataMessage "m2" "user1" (.aes token.1) (.ip client) dstAddress
    [111, 107]
  have h0 : Reachable ⟨"user1", none⟩ ⟨none, none, none⟩ (.ip client) _ := .refl
  -- the agent accepts a datagram and sends it to the proxy
  have h1 := reachable_agent .random32Bytes token h0 rfl rfl (.other _ (by rintro ⟨⟩) rfl rfl)
  have h2 := reachable_agentLoop h1 rfl rfl
  have h3 := reachable_agent .udpRecvFrom
    (.ok ([0, 0, 0, 1, 8, 8, 8, 8, 0, 53, 104, 105], client)) h2 rfl rfl
    (.other _ (by rintro ⟨⟩) rfl rfl)
  have h4 := reachable_agent .newUuid "m1" h3 rfl rfl (.other _ (by rintro ⟨⟩) rfl rfl)
  have h5 := reachable_agent .proxyConnect (some (.ok ())) h4 rfl rfl (.connect _)
  have h6 := reachable_agent .proxySetNodelay (.ok ()) h5 rfl rfl (.other _ (by rintro ⟨⟩) rfl rfl)
  have h7 := reachable_agent (.proxyFeed _) (.ok ()) h6 rfl rfl
    (show Exchange.Answers _ _ _ [⟨_, .flowing [] [query.content] false, .empty⟩] from
      .connection [] (by rintro ⟨⟩) (Channel.flowing_feed [] [] _) rfl rfl)
  have h8 := reachable_agent .proxyFlush (.ok ()) h7 rfl rfl
    (show Exchange.Answers _ _ _ [⟨_, .flowing [] [query.content] false, .empty⟩] from
      .connection [] (by rintro ⟨⟩) (Channel.flowing_flush [] _ false) rfl rfl)
  -- the proxy sends it to the destination
  have p1 := reachable_proxy .fetchAdd () h8 rfl rfl rfl
  have p2 := reachable_proxy .newUuid "t1" p1 rfl rfl rfl
  have p3 := reachable_proxy .agentNext (some (.ok query)) p2 rfl
    (Channel.flowing_read [] [query.content] false) rfl
  have p4 := reachable_proxy .random32Bytes token p3 rfl rfl rfl
  have p5 := reachable_proxy (.udpBind _) (.ok ()) p4 rfl rfl rfl
  have p6 := reachable_proxy (.udpConnect _) (some (.ok ())) p5 rfl rfl rfl
  have p7 := reachable_proxy (.udpSend _) (.ok ()) p6 rfl rfl rfl
  have p8 := reachable_proxyLoop p7 rfl
  -- and its reply to the agent
  have p9 := reachable_proxy .udpRecv (some (.ok ⟨[111, 107], by decide⟩)) p8 rfl rfl rfl
  have p10 := reachable_proxy .newUuid "m2" p9 rfl rfl rfl
  have p11 := reachable_proxy (.agentFeed _) (.ok ()) p10 rfl rfl
    (Channel.flowing_feed [] [] [answer.content])
  have h9 := reachable_agent .proxyNext (some (.ok answer)) p11 rfl rfl
    (show Exchange.Answers _ _ _ [⟨_, _, .flowing [answer.content] [] false⟩] from
      .connection [] (by rintro ⟨⟩) rfl (Channel.flowing_read [] [answer.content] false) rfl)
  exact ⟨_, _, _, _, h9, udp_attributed h9, _, _, .ok (), _,
    .right rfl (.mk _ (Step.vis (S := agentSig) _ _ _))⟩

end UdpSystem

end Ppaass.Tunnel
