import Ppaass.Agent.Proof.Handover
import Ppaass.Agent.Proof.Http

/-!
# What the hand-over of an HTTP client keeps

The dispatcher hands its read buffer on to the reader of the request, which leaves the bytes it
decodes in the buffer. The relay starts on the bare connection, so that all of the buffer is
dropped: the request, and what has come with it.

`http_conserves_iff`: every byte behind the request is relayed exactly where the read that completes
the request ends with it.
-/

namespace Ppaass.Agent

open Wire Prog
open Framed (Fault)
open TcpNetwork (Answers)

/-- A read that holds a request and `more`: it begins as no SOCKS message does, and the request
decoder makes the request of it. -/
structure Arrives (http : HttpLib) (request : http.Request) (bytes more : Bytes) : Prop where
  first : ∃ b bs, bytes = b :: bs ∧ b ≠ SOCKS_V5 ∧ b ≠ SOCKS_V4
  decodes : ∃ decoder,
    http.decodeExact http.requestDecoder (bytes ++ more) = (.done request, decoder)

/-- The proxy was asked for a tunnel to the destination, and then sent the data of the request, if
it has any, and this data, and no other. -/
def RelayedBehind (srcAddress dstAddress : PpaassUnifiedAddress) (initData : Option Bytes)
    (data : Bytes) (n : TcpNetwork) : Prop :=
  ∃ parts : List Bytes, n.sent = .tcp (.init srcAddress dstAddress) :: initPayloads initData ++
    parts.map (fun part => .tcp (.data part)) ∧ parts.flatten = data

/-- Every run of the handshake succeeds, and every run of the relay task that it spawns relays this
data and nothing else behind the data of the request, up to the end of the client's connection. -/
def ConservesHttp (http : HttpLib) (config : AgentConfig) (clientSocketAddress : SocketAddr)
    (dstAddress : PpaassUnifiedAddress) (initData : Option Bytes) (data : Bytes)
    (reads : List Bytes) : Prop :=
  Always Answers (fun r n => r = .ok none ∧ ∃ payloadEncryption,
      n.relay = some payloadEncryption ∧
      Always Answers (fun _ => RelayedBehind (.ip clientSocketAddress) dstAddress initData data)
        (relayClientToProxy config.getUserToken payloadEncryption) n)
    (handleClientConnection http config clientSocketAddress).run (.start reads)

section
variable {http : HttpLib} {request : http.Request} {bytes more : Bytes} {n : TcpNetwork}
  {rest : List Bytes} {dstAddress : PpaassUnifiedAddress} {initData : Option Bytes}

/-! ## The handshake -/

theorem Arrives.dispatch_http (h : Arrives http request bytes more)
    (hreads : n.reads = (bytes ++ more) :: rest) :
    Always Answers (fun r n' => r = .ok (.http, bytes ++ more) ∧ n' = { n with reads := rest })
      dispatch.run n := by
  obtain ⟨b, bs, rfl, h5, h4⟩ := h.first
  have hdecode : SwitchClientProtocolDecoder.decode.run ((), b :: bs ++ more) =
      .ok (some .http) ((), b :: bs ++ more) := by
    simp [SwitchClientProtocolDecoder.decode, h5, h4]
  exact dispatch_always hreads (List.cons_ne_nil _ _) hdecode (by simp)

namespace HttpClientTransport

/-- A CONNECT request is answered. -/
theorem replyConnect_always {response : Bytes}
    (hresponse : http.encodeResponse httpConnectSuccessResponse = .ok response) :
    Always Answers (fun r n' => r = .ok () ∧ n' = n)
      (clientReply (HttpCodec.encode http httpConnectSuccessResponse) http.requestDecoder .io
        fun e => AgentError.encode (.http e)).run n := by
  have hencode : (HttpCodec.encode http httpConnectSuccessResponse).run
      (http.requestDecoder, []) = .ok () (http.requestDecoder, response) := by
    simp [HttpCodec.encode, hresponse]
  rw [clientReply, hencode]
  refine .run_bind (always_awaitM (.clientSend _) ⟨_, _, .clientSend n _⟩ fun a n' ha => ?_)
  cases ha
  exact .ret ⟨rfl, rfl⟩

/-- The tunnel is asked for, and granted; a request that has no data for the destination is
answered. -/
theorem handleRequest_always (config : AgentConfig) (srcAddress : PpaassUnifiedAddress)
    (htarget : target http request = .ok (dstAddress, initData))
    (hresponse : initData = none →
      ∃ bytes, http.encodeResponse httpConnectSuccessResponse = .ok bytes) :
    Always Answers (fun r n' => (∃ info, r = .ok info ∧ info.initData = initData) ∧
      n' = { n with sent := n.sent ++ [.tcp (.init srcAddress dstAddress)] })
      (handleRequest http config srcAddress request).run n := by
  unfold handleRequest
  rw [htarget]
  refine .run_bind (.ret (.run_bind
    ((initTunnel_always config "http" srcAddress dstAddress).mono ?_)))
  rintro r n' ⟨⟨tunnelId, rfl⟩, rfl⟩
  cases initData with
  | some data => exact .ret ⟨⟨_, rfl, rfl⟩, rfl⟩
  | none =>
    obtain ⟨response, hencode⟩ := hresponse rfl
    refine .run_bind ((replyConnect_always hencode).mono ?_)
    rintro r n' ⟨rfl, rfl⟩
    exact .ret ⟨⟨_, rfl, rfl⟩, rfl⟩

/-- The request is taken from the buffer, and all of the buffer is dropped. -/
theorem handshake_always (config : AgentConfig) (srcAddress : PpaassUnifiedAddress)
    (h : Arrives http request bytes more)
    (htarget : target http request = .ok (dstAddress, initData))
    (hresponse : initData = none →
      ∃ bytes, http.encodeResponse httpConnectSuccessResponse = .ok bytes) :
    Always Answers (fun r n' => (∃ info, r = .ok (.tcp info) ∧ info.initData = initData) ∧
      n' = { n with sent := n.sent ++ [.tcp (.init srcAddress dstAddress)] })
      (handshake http config srcAddress (bytes ++ more)).run n := by
  obtain ⟨decoder, hdecodes⟩ := h.decodes
  refine .run_bind (.lift ((ReadFrame.framedNext_buffered .io (run_decode hdecodes)).mono ?_))
  rintro ⟨item, frame⟩ n' ⟨rfl, -, rfl⟩
  refine .run_bind (.ret (.run_bind
    ((handleRequest_always config srcAddress htarget hresponse).mono ?_)))
  rintro r n' ⟨⟨info, rfl, hinfo⟩, rfl⟩
  exact .ret ⟨⟨info, rfl, hinfo⟩, rfl⟩

end HttpClientTransport

/-! ## The whole connection -/

/-- The relay task finds what was not read when the request was complete. -/
theorem http_connection_always (config : AgentConfig) (clientSocketAddress : SocketAddr)
    (h : Arrives http request bytes more)
    (htarget : target http request = .ok (dstAddress, initData))
    (hresponse : initData = none →
      ∃ bytes, http.encodeResponse httpConnectSuccessResponse = .ok bytes) :
    Always Answers (fun r n => r = .ok none ∧ ∃ payloadEncryption,
      n = ⟨rest, .tcp (.init (.ip clientSocketAddress) dstAddress) :: initPayloads initData,
        some payloadEncryption⟩)
      (handleClientConnection http config clientSocketAddress).run
      (.start ((bytes ++ more) :: rest)) := by
  refine .run_bind ((h.dispatch_http rfl).mono ?_)
  rintro r n' ⟨rfl, rfl⟩
  refine .run_bind ((HttpClientTransport.handshake_always config _ h htarget hresponse).mono ?_)
  rintro r n' ⟨⟨info, rfl, rfl⟩, rfl⟩
  refine .run_bind ((tcpRelay_always config info).mono ?_)
  rintro r n' ⟨rfl, payloadEncryption, rfl⟩
  exact .ret ⟨rfl, payloadEncryption, rfl⟩

/-- What the relay task sends comes behind what was sent before. -/
theorem relayedBehind_iff {srcAddress : PpaassUnifiedAddress} {data : Bytes} {m : TcpNetwork}
    (hn : n.sent = .tcp (.init srcAddress dstAddress) :: initPayloads initData) :
    RelayedBehind srcAddress dstAddress initData data m ↔ SentData n data m := by
  unfold RelayedBehind SentData
  rw [hn]

/-- What came with the request is not relayed. -/
theorem ConservesHttp.more_eq_nil {config : AgentConfig} {clientSocketAddress : SocketAddr}
    (hconserves : ConservesHttp http config clientSocketAddress dstAddress initData
      (more ++ rest.flatten) ((bytes ++ more) :: rest))
    (h : Arrives http request bytes more)
    (htarget : target http request = .ok (dstAddress, initData))
    (hresponse : initData = none →
      ∃ bytes, http.encodeResponse httpConnectSuccessResponse = .ok bytes)
    (hne : ∀ c ∈ rest, c ≠ []) : more = [] := by
  obtain ⟨r, n, ⟨-, payloadEncryption, -, hrelays⟩, -, payloadEncryption', rfl⟩ :=
    hconserves.exists_both
      (http_connection_always config clientSocketAddress h htarget hresponse)
  have hflatten : rest.flatten = more ++ rest.flatten :=
    (sends_iff _ _ hne).1 (hrelays.mono fun _ m hm => (relayedBehind_iff rfl).1 hm)
  exact List.self_eq_append_left.1 hflatten

end

/-- **When the handshake conserves the bytes behind an HTTP request**: the buffer that the request
is decoded from is dropped, so that the read that completes the request must end with it. -/
theorem http_conserves_iff (http : HttpLib) (config : AgentConfig)
    (clientSocketAddress : SocketAddr) (request : http.Request) (bytes more : Bytes)
    (rest : List Bytes) (dstAddress : PpaassUnifiedAddress) (initData : Option Bytes)
    (h : Arrives http request bytes more)
    (htarget : target http request = .ok (dstAddress, initData))
    (hresponse : initData = none →
      ∃ bytes, http.encodeResponse httpConnectSuccessResponse = .ok bytes)
    (hne : ∀ c ∈ rest, c ≠ []) :
    ConservesHttp http config clientSocketAddress dstAddress initData (more ++ rest.flatten)
      ((bytes ++ more) :: rest) ↔ more = [] := by
  constructor
  · intro hconserves
    exact hconserves.more_eq_nil h htarget hresponse hne
  · rintro rfl
    refine (http_connection_always config clientSocketAddress h htarget hresponse).mono ?_
    rintro r n ⟨rfl, payloadEncryption, rfl⟩
    refine ⟨rfl, payloadEncryption, rfl, ?_⟩
    exact ((sends_iff _ _ hne).2 rfl).mono fun _ m hm => (relayedBehind_iff rfl).2 hm

/-! ## A CONNECT request -/

def connectText : Bytes := utf8 "CONNECT a:1 HTTP/1.1\r\n\r\n"

/-- The library on `connectText`. -/
def HttpLib.connectA : HttpLib :=
  { HttpLib.connect "a:1" ⟨"https", some "a", some 1, "https://a:1"⟩ with
    encodeResponse := fun _ => .ok (utf8 "HTTP/1.1 200 Connection Established\r\n\r\n") }

theorem arrives_connectText (more : Bytes) : Arrives HttpLib.connectA () connectText more where
  first := ⟨67, utf8 "ONNECT a:1 HTTP/1.1\r\n\r\n", by decide +kernel, by decide, by decide⟩
  decodes := by
    have hne : connectText ≠ [] := by decide +kernel
    exact ⟨(), by simp [HttpLib.connectA, HttpLib.connect, hne]⟩

theorem target_connectA : target HttpLib.connectA () = .ok (.domain "a" 1, none) := by
  decide +kernel

/-- A client that waits for the reply. -/
theorem http_conserves_waiting :
    ConservesHttp HttpLib.connectA ⟨"user1", none⟩ (.v4 ⟨192, 168, 0, 2⟩ 5000) (.domain "a" 1) none
      ([] ++ [[104, 105]].flatten) [connectText ++ [], [104, 105]] :=
  (http_conserves_iff HttpLib.connectA ⟨"user1", none⟩ (.v4 ⟨192, 168, 0, 2⟩ 5000) () connectText []
    [[104, 105]] (.domain "a" 1) none (arrives_connectText []) target_connectA
    (fun _ => ⟨_, rfl⟩) (by simp)).2 rfl

/-- A client that sends its first bytes with the request. -/
theorem early_http_bytes_lost :
    Arrives HttpLib.connectA () connectText [104, 105] ∧
    target HttpLib.connectA () = .ok (.domain "a" 1, none) ∧
    ¬ ConservesHttp HttpLib.connectA ⟨"user1", none⟩ (.v4 ⟨192, 168, 0, 2⟩ 5000) (.domain "a" 1)
      none ([104, 105] ++ ([] : List Bytes).flatten) [connectText ++ [104, 105]] := by
  refine ⟨arrives_connectText _, target_connectA, fun h => ?_⟩
  cases h.more_eq_nil (arrives_connectText [104, 105]) target_connectA (fun _ => ⟨_, rfl⟩) (by simp)

end Ppaass.Agent
