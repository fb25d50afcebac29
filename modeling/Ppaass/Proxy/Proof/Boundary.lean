import Ppaass.Lib.Environment
import Ppaass.Proxy.Transport

/-!
# What the agent gets of the datagrams that a destination returns

`UdpHandler.exec` receives datagrams in a loop that would suit a stream: it goes on behind a read
that fills its buffer, appends what it reads, and takes an empty read for the end.

* `received`: what the loop makes of the datagrams that arrive; `recvLoop_always`: every run of the
  loop comes to that.
* `first_datagram_iff`: the agent gets the first datagram as it was exactly where that is not empty,
  and shorter than the buffer or followed by an empty one.
-/

namespace Ppaass.Proxy

open Wire Prog

/-! ## The destination -/

/-- What surrounds the handler of a UDP request. -/
structure UdpDst where
  /-- the datagrams that arrive, before a receive times out -/
  arriving : List Datagram
  /-- what was fed to the connection with the agent -/
  sent : List PpaassProxyMessage

namespace UdpDst

/-- The destination is reached, and the connection with the agent takes what is sent. -/
inductive Answers : UdpDst → Event proxySig → UdpDst → Prop
  | udpBind (n : UdpDst) (addr : String) : Answers n ⟨.udpBind addr, .ok ()⟩ n
  | lookup (n : UdpDst) (address : String) (addrs : List SocketAddr) :
      Answers n ⟨.lookup address, .ok addrs⟩ n
  | udpConnect (n : UdpDst) (addrs : List SocketAddr) :
      Answers n ⟨.udpConnect addrs, some (.ok ())⟩ n
  | udpSend (n : UdpDst) (data : Bytes) : Answers n ⟨.udpSend data, .ok ()⟩ n
  | udpRecv {n : UdpDst} {d : Datagram} {ds : List Datagram} (h : n.arriving = d :: ds) :
      Answers n ⟨.udpRecv, some (.ok d)⟩ { n with arriving := ds }
  | udpTimeout {n : UdpDst} (h : n.arriving = []) : Answers n ⟨.udpRecv, none⟩ n
  | newUuid (n : UdpDst) (id : String) : Answers n ⟨.newUuid, id⟩ n
  | agentFeed (n : UdpDst) (message : PpaassProxyMessage) :
      Answers n ⟨.agentFeed message, .ok ()⟩ { n with sent := n.sent ++ [message] }
  | agentFlush (n : UdpDst) (r : Except CommonError Unit) : Answers n ⟨.agentFlush, r⟩ n
  | agentClose (n : UdpDst) (r : Except CommonError Unit) : Answers n ⟨.agentClose, r⟩ n

end UdpDst

open UdpDst (Answers)

theorem UdpDst.exists_udpRecv (n : UdpDst) : ∃ a n', n.Answers ⟨.udpRecv, a⟩ n' := by
  cases harriving : n.arriving with
  | nil => exact ⟨_, _, .udpTimeout harriving⟩
  | cons d ds => exact ⟨_, _, .udpRecv harriving⟩

namespace UdpHandler

variable (config : ProxyConfig) (request : UdpHandlerRequest)

/-- The reply that carries this data. -/
def reply (messageId : String) (data : Bytes) : PpaassProxyMessage :=
  generateProxyUdpDataMessage messageId request.userToken request.payloadEncryption
    request.srcAddress request.dstAddress data

/-- Every run of the handler sends the agent one message, which carries the first datagram. -/
def PreservesFirst (d : Datagram) (ds : List Datagram) : Prop :=
  Always Answers (fun _ n => ∃ messageId, n.sent = [reply request messageId d.1])
    (exec config request).run ⟨d :: ds, []⟩

/-! ## The receive loop -/

/-- What the loop makes of the datagrams that arrive, behind what it has received. -/
def received (udpData : Bytes) : List Datagram → Except ProxyServerError Bytes
  | [] => .error (recvTimeout config request)
  | d :: ds =>
    if d.1 = [] then .ok udpData
    else if d.1.length < MAX_UDP_PACKET_SIZE then .ok (udpData ++ d.1)
    else received (udpData ++ d.1) ds

section
variable {config request} {n : UdpDst}

theorem always_awaitM (e : ProxyOp) {Q : Except ProxyServerError e.Ans → UdpDst → Prop}
    (hanswer : ∃ a n', n.Answers ⟨e, a⟩ n') (h : ∀ a n', n.Answers ⟨e, a⟩ n' → Q (.ok a) n') :
    Always Answers Q (awaitM e).run n :=
  .vis hanswer fun a n' ha => .ret (h a n' ha)

theorem failClosed_always {α : Type} (e : ProxyServerError) :
    Always Answers (fun r n' => r = .error e ∧ n' = n) (failClosed e : ProxyM α).run n := by
  refine .run_bind (always_awaitM .agentClose ⟨_, _, .agentClose n (.ok ())⟩ fun a n' ha => ?_)
  cases ha
  exact .ret ⟨rfl, rfl⟩

/-- A round takes a datagram, and leaves the same to be received. -/
theorem recvRound_always (udpData : Bytes) :
    Always Answers (Sum.elim
        (fun udpData' n' => (received config request udpData' n'.arriving =
          received config request udpData n.arriving ∧ n'.sent = n.sent) ∧
          n'.arriving.length < n.arriving.length)
        fun r n' => r = received config request udpData n.arriving ∧ n'.sent = n.sent)
      (recvRound config request udpData) n := by
  refine .bind (.vis n.exists_udpRecv fun a n' ha => .ret ?_)
  cases ha with
  | udpTimeout harriving =>
    refine .bind ((failClosed_always (recvTimeout config request)).mono ?_)
    rintro r n' ⟨rfl, rfl⟩
    exact .ret ⟨by rw [harriving]; rfl, rfl⟩
  | @udpRecv d ds harriving =>
    rw [harriving]
    rcases d with ⟨_ | ⟨b, bs⟩, hd⟩
    · exact .ret ⟨rfl, rfl⟩
    · dsimp only
      split
      · next hlen =>
        refine .ret ⟨?_, rfl⟩
        rw [received, if_neg (List.cons_ne_nil b bs), if_pos hlen]
      · next hlen =>
        refine .ret ⟨⟨?_, rfl⟩, Nat.lt_succ_self _⟩
        rw [received, if_neg (List.cons_ne_nil b bs), if_neg hlen]

/-- **Every run of the loop ends with what is received.** -/
theorem recvLoop_always : Always Answers
    (fun r n' => r = received config request [] n.arriving ∧ n'.sent = n.sent)
    (iterate (recvRound config request) []) n := by
  refine .iterate (fun udpData m => received config request udpData m.arriving =
    received config request [] n.arriving ∧ m.sent = n.sent) (fun _ m => m.arriving.length)
    ⟨rfl, rfl⟩ ?_
  rintro udpData m ⟨hreceived, hsent⟩
  refine (recvRound_always udpData).mono ?_
  rintro (udpData' | r) m' h
  · exact ⟨⟨h.1.1.trans hreceived, h.1.2.trans hsent⟩, h.2⟩
  · exact ⟨h.1.trans hreceived, h.2.trans hsent⟩

/-! ## The handler -/

theorem toSocketAddrs_always (address : PpaassUnifiedAddress) :
    Always Answers (fun r n' => (∃ addrs, r = .ok addrs) ∧ n' = n) (toSocketAddrs address) n := by
  cases address with
  | ip addr => exact .ret ⟨⟨_, rfl⟩, rfl⟩
  | domain host port =>
    refine .bind (.vis ⟨_, _, .lookup n _ []⟩ fun a n' ha => .ret (.ret ?_))
    cases ha
    exact ⟨⟨_, rfl⟩, rfl⟩

theorem sendToDst_always : Always Answers (fun r n' => r = .ok () ∧ n' = n)
    (sendToDst config request).run n := by
  refine .run_bind (always_awaitM (.udpBind _) ⟨_, _, .udpBind n _⟩ fun a n' ha => ?_)
  cases ha
  refine .run_bind (.ret (.run_bind (.lift ((toSocketAddrs_always request.dstAddress).mono ?_))))
  rintro r n' ⟨⟨addrs, rfl⟩, rfl⟩
  refine .run_bind (.ret (.run_bind (always_awaitM (.udpConnect _) ⟨_, _, .udpConnect _ _⟩
    fun a n' ha => ?_)))
  cases ha
  refine .run_bind (always_awaitM (.udpSend _) ⟨_, _, .udpSend _ _⟩ fun a n' ha => ?_)
  cases ha
  exact .ret ⟨rfl, rfl⟩

theorem agentSend_always (message : PpaassProxyMessage) :
    Always Answers (fun _ n' => n' = { n with sent := n.sent ++ [message] })
      (agentSend message) n := by
  refine .bind (.vis ⟨_, _, .agentFeed n message⟩ fun a n' ha => .ret ?_)
  cases ha
  refine .vis ⟨_, _, .agentFlush _ (.ok ())⟩ fun a n' ha => .ret ?_
  cases ha
  rfl

/-- What is sent to the agent of what was received. -/
def replies (request : UdpHandlerRequest) (messageId : String) :
    Except ProxyServerError Bytes → List PpaassProxyMessage
  | .ok (b :: bs) => [reply request messageId (b :: bs)]
  | _ => []

theorem respond_always (udpData : Bytes) : Always Answers (fun r n' => r = .ok () ∧
    ∃ messageId, n'.sent = n.sent ++ replies request messageId (.ok udpData))
    (respond request udpData).run n := by
  cases udpData with
  | nil => exact .ret ⟨rfl, "", (List.append_nil _).symm⟩
  | cons b bs =>
    refine .run_bind (always_awaitM .newUuid ⟨_, _, .newUuid n ""⟩ fun messageId n' ha => ?_)
    cases ha
    refine .run_bind (.lift ((agentSend_always _).mono ?_))
    rintro r n' rfl
    exact .ret ⟨rfl, messageId, rfl⟩

/-- **What a handler sends to the agent** is what it has received, if that is anything. -/
theorem exec_always (hneed : request.needResponse = true) :
    Always Answers (fun _ n' => ∃ messageId, n'.sent =
      n.sent ++ replies request messageId (received config request [] n.arriving))
      (exec config request).run n := by
  refine .run_bind (sendToDst_always.mono ?_)
  rintro r n' ⟨rfl, rfl⟩
  dsimp only [ThenIn]
  rw [if_pos hneed]
  refine .run_bind (.run_bind (recvLoop_always.mono ?_))
  rintro r m ⟨hr, hsent⟩
  cases r with
  | error e =>
    refine ⟨"", ?_⟩
    rw [← hr, hsent]
    exact (List.append_nil _).symm
  | ok udpData =>
    refine (respond_always udpData).mono ?_
    rintro r m' ⟨rfl, messageId, hm'⟩
    refine .run_bind (always_awaitM .agentClose ⟨_, _, .agentClose m' (.ok ())⟩ fun a m'' ha => ?_)
    cases ha
    refine .ret ⟨messageId, ?_⟩
    rw [hm', hsent, hr]

end

/-! ## The first datagram -/

/-- A reply carries this datagram, and is the only one. -/
theorem replies_eq_iff (messageId : String) {r : Except ProxyServerError Bytes} {data : Bytes} :
    (∃ messageId', replies request messageId r = [reply request messageId' data]) ↔
      r = .ok data ∧ data ≠ [] := by
  constructor
  · rintro ⟨messageId', h⟩
    rcases r with e | _ | ⟨b, bs⟩
    · cases h
    · cases h
    · simp only [replies, reply, generateProxyUdpDataMessage, List.cons.injEq, and_true,
        PpaassMessage.mk.injEq] at h
      obtain ⟨-, -, -, hdata⟩ := h
      cases hdata
      exact ⟨rfl, List.cons_ne_nil b bs⟩
  · rintro ⟨rfl, hne⟩
    obtain ⟨b, bs, rfl⟩ := List.exists_cons_of_ne_nil hne
    exact ⟨messageId, rfl⟩

/-- What is received is as long as what was received before, at least. -/
theorem received_length {udpData data : Bytes} {ds : List Datagram}
    (h : received config request udpData ds = .ok data) :
    udpData.length ≤ data.length ∧
      (data.length = udpData.length → ∃ e es, ds = e :: es ∧ e.1 = []) := by
  induction ds generalizing udpData with
  | nil => cases h
  | cons d ds ih =>
    rw [received] at h
    split at h
    · next hnil =>
      cases h
      exact ⟨Nat.le_refl _, fun _ => ⟨d, ds, rfl, hnil⟩⟩
    · next hne =>
      have hpos : 0 < d.1.length := List.length_pos_iff.2 hne
      split at h
      · cases h
        rw [List.length_append]
        exact ⟨by omega, fun hlen => by omega⟩
      · have hle := (ih h).1
        rw [List.length_append] at hle
        exact ⟨by omega, fun hlen => by omega⟩

/-- The first datagram is received as it was. -/
theorem received_eq_first {d : Datagram} {ds : List Datagram} (hne : d.1 ≠ []) :
    received config request [] (d :: ds) = .ok d.1 ↔
      d.1.length < MAX_UDP_PACKET_SIZE ∨ ∃ e es, ds = e :: es ∧ e.1 = [] := by
  rw [received, if_neg hne, List.nil_append]
  constructor
  · intro h
    split at h
    · next hlen => exact .inl hlen
    · exact .inr ((received_length config request h).2 rfl)
  · rintro (hlen | ⟨e, es, rfl, he⟩)
    · rw [if_pos hlen]
    · split
      · rfl
      · rw [received, if_pos he]

variable {config request}

theorem PreservesFirst.first_datagram (hneed : request.needResponse = true) {d : Datagram}
    {ds : List Datagram} (h : PreservesFirst config request d ds) :
    d.1 ≠ [] ∧ (d.1.length < MAX_UDP_PACKET_SIZE ∨ ∃ e es, ds = e :: es ∧ e.1 = []) := by
  obtain ⟨_, n, ⟨messageId, hfirst⟩, messageId', hn⟩ :=
    h.exists_both (exec_always (n := ⟨d :: ds, []⟩) hneed)
  rw [hfirst, List.nil_append] at hn
  obtain ⟨hreceived, hne⟩ := (replies_eq_iff request messageId').1 ⟨messageId, hn.symm⟩
  exact ⟨hne, (received_eq_first config request hne).1 hreceived⟩

/-- **The agent gets the first datagram, and nothing else, exactly where** that is not empty, and
does not fill the buffer or is followed by an empty one. -/
theorem first_datagram_iff (hneed : request.needResponse = true) (d : Datagram)
    (ds : List Datagram) : PreservesFirst config request d ds ↔
      d.1 ≠ [] ∧ (d.1.length < MAX_UDP_PACKET_SIZE ∨ ∃ e es, ds = e :: es ∧ e.1 = []) := by
  constructor
  · intro h
    exact h.first_datagram hneed
  · rintro ⟨hne, hds⟩
    refine (exec_always (n := ⟨d :: ds, []⟩) hneed).mono ?_
    rintro r n ⟨messageId, hn⟩
    rw [(received_eq_first config request hne).2 hds, List.nil_append] at hn
    obtain ⟨messageId', hreply⟩ := (replies_eq_iff request messageId).2 ⟨rfl, hne⟩
    exact ⟨messageId', hn.trans hreply⟩

/-- A question to a name server. -/
def question : UdpHandlerRequest where
  transportId := "t1"
  userToken := "user1"
  srcAddress := .ip (.v4 ⟨192, 168, 0, 2⟩ 5000)
  dstAddress := .ip (.v4 ⟨8, 8, 8, 8⟩ 53)
  udpData := [63]
  payloadEncryption := .plain
  needResponse := true

/-- An answer of two bytes, followed by another. -/
theorem first_datagram_hi :
    PreservesFirst ⟨none, none, none⟩ question ⟨[104, 105], by decide⟩ [⟨[33], by decide⟩] :=
  (@first_datagram_iff _ question rfl _ _).2 ⟨by simp, .inl (by decide)⟩

def fullDatagram : Datagram := ⟨List.replicate MAX_UDP_PACKET_SIZE 0, by rw [List.length_replicate]⟩

/-- An empty answer does not reach the agent, and one that fills the buffer does so with the
next. -/
theorem first_datagram_lost :
    ¬ PreservesFirst ⟨none, none, none⟩ question ⟨[], by decide⟩ [] ∧
      ¬ PreservesFirst ⟨none, none, none⟩ question fullDatagram [⟨[33], by decide⟩] := by
  constructor
  · intro h
    exact (h.first_datagram rfl).1 rfl
  · intro h
    rcases (h.first_datagram rfl).2 with hlen | ⟨e, es, hds, he⟩
    · rw [fullDatagram, List.length_replicate] at hlen
      exact Nat.lt_irrefl _ hlen
    · cases hds
      cases he

end UdpHandler

end Ppaass.Proxy
