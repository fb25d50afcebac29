import Ppaass.Agent.Proof.Handover
import Ppaass.Agent.Proof.Http
import Ppaass.Agent.Proof.Relay

/-!
# What a client connection comes to

`ClientView` is what the task of a client connection has read from its client and sent it, asked of
the proxy and heard from it, and which relay tasks it has spawned. Whatever its peers do, at every
moment it is one of six (`Served`, `clients_served`): the client was sent nothing; it was greeted; a
UDP association was opened for it; the proxy was asked for the tunnel that the client's bytes name;
the proxy has granted this tunnel and the client was told so; or its request was passed on.

A client is never told of a failure.
-/

namespace Ppaass.Agent

open Wire Prog
open Framed (CodecM Fault)

/-! ## What the decoders have taken -/

/-- An address and what follows it. -/
theorem AddressAt.split {b rest : Bytes} {a : Socks5Address} (h : AddressAt b a rest) :
    ∃ front, b = front ++ rest ∧ AddressAt front a [] := by
  cases h with
  | ipv4 a b c d port =>
    exact ⟨_, by simp, .ipv4 a b c d port []⟩
  | ipv6 ip port => exact ⟨_, by simp, .ipv6 ip port []⟩
  | domain n name hname port => exact ⟨_, by simp, .domain n name hname port []⟩

/-- A method selection, and what was read behind it. -/
def Selects (selection : Bytes) : Prop :=
  ∃ auth dropped, selection = auth ++ dropped ∧ MethodSelection auth

/-- A request, and what was read behind it. -/
def Requests (request : Bytes) (command : Socks5InitCommand) : Prop :=
  ∃ init dropped, request = init ++ dropped ∧ RequestOf init command

theorem selects_of_decode {selection : Bytes} {command : Socks5AuthCommand} {st : Unit × Bytes}
    (h : Socks5AuthCommandContentCodec.decode.run ((), selection) = .ok (some command) st) :
    Selects selection := by
  rcases selection with _ | ⟨v, _ | ⟨n, buf⟩⟩
  · rw [Socks5AuthCommandContentCodec.decode_short (by simp)] at h
    cases h
  · rw [Socks5AuthCommandContentCodec.decode_short (by simp)] at h
    cases h
  by_cases hv : v = SOCKS_V5
  · subst hv
    by_cases hlen : n.toNat ≤ buf.length
    · refine ⟨SOCKS_V5 :: n :: buf.take n.toNat, buf.drop n.toNat, by simp, ?_⟩
      exact .mk n _ (List.length_take_of_le hlen)
    · rw [Socks5AuthCommandContentCodec.decode_methods_short (Nat.not_le.1 hlen)] at h
      cases h
  · rw [Socks5AuthCommandContentCodec.decode_badVersion hv] at h
    cases h

theorem requests_of_decode {request : Bytes} {command : Socks5InitCommand} {st : Unit × Bytes}
    (h : Socks5InitCommandContentCodec.decode.run ((), request) = .ok (some command) st) :
    Requests request command := by
  rcases Nat.lt_or_ge request.length 4 with hlen | hlen
  · rw [Socks5InitCommandContentCodec.decode_short hlen] at h
    cases h
  rw [Socks5InitCommandContentCodec.decode_long hlen] at h
  rcases request with _ | ⟨v, _ | ⟨t, _ | ⟨r, buf⟩⟩⟩
  iterate 3 · simp at hlen
  by_cases hv : v = SOCKS_V5
  · subst hv
    rcases ht : Socks5InitCommandType.tryFrom t with e | requestType
    · simp [Socks5InitCommandContentCodec.decodeRequest, ht] at h
    rcases addressAt_or_error Socks5DecodeError.parse () buf with ⟨a, rest, ha⟩ | ⟨e, st', herr⟩
    · have hparse := parse_of_addressAt Socks5DecodeError.parse () ha
      have hrun : Socks5InitCommandContentCodec.decodeRequest.run
          ((), SOCKS_V5 :: t :: r :: buf) = .ok (some ⟨requestType, a⟩) ((), rest) := by
        simp [Socks5InitCommandContentCodec.decodeRequest, ht, hparse]
      rw [hrun] at h
      cases h
      obtain ⟨front, rfl, hfront⟩ := ha.split
      exact ⟨SOCKS_V5 :: t :: r :: front, rest, rfl, .mk ht r hfront⟩
    · simp [Socks5InitCommandContentCodec.decodeRequest, ht, herr] at h
  · simp [Socks5InitCommandContentCodec.decodeRequest, hv] at h

/-! ## The view -/

structure ClientView where
  /-- what was read from the client -/
  read : Bytes
  /-- what the client was sent, but for what the relay gives it -/
  sent : List Bytes
  /-- what the proxy was asked, for which user -/
  asked : List (String × PpaassAgentMessagePayload)
  heard : List (Option (Except CommonError PpaassProxyMessage))
  /-- the relay tasks that were spawned -/
  spawned : List Side

namespace ClientView

def start : ClientView := ⟨[], [], [], [], []⟩

def next (v : ClientView) : Event agentSig → ClientView
  | ⟨.clientRead, .ok bytes⟩ => { v with read := v.read ++ bytes }
  | ⟨.clientSend bytes, _⟩ => { v with sent := v.sent ++ [bytes] }
  | ⟨.proxyFeed message, _⟩ =>
    { v with asked := v.asked ++ [(message.userToken, message.payload)] }
  | ⟨.proxyNext, (r : Option (Except CommonError PpaassProxyMessage))⟩ =>
    { v with heard := v.heard ++ [r] }
  | ⟨.spawnClientToProxy _, _⟩ => { v with spawned := v.spawned ++ [.up] }
  | ⟨.spawnProxyToClient, _⟩ => { v with spawned := v.spawned ++ [.down] }
  | _ => v

def of (t : Trace agentSig) : ClientView := t.foldl next start

@[simp] theorem of_snoc (t : Trace agentSig) (e : Event agentSig) :
    of (t ++ [e]) = (of t).next e := by simp [of]

/-- More was read. -/
def reading (v : ClientView) (bytes : Bytes) : ClientView := { v with read := v.read ++ bytes }

@[simp] theorem reading_nil (v : ClientView) : v.reading [] = v := by simp [reading]

@[simp] theorem reading_reading (v : ClientView) (bytes more : Bytes) :
    (v.reading bytes).reading more = v.reading (bytes ++ more) := by simp [reading]

end ClientView

/-- The operation changes nothing of a view. -/
def Quiet (op : AgentOp) : Prop := ∀ (v : ClientView) (a : op.Ans), v.next ⟨op, a⟩ = v

/-! ## What is served -/

/-- A tunnel that the proxy is asked for: the destination, the data to send there first, and the
bytes that tell the client of it, if there are any. -/
structure Demand where
  dstAddress : PpaassUnifiedAddress
  initData : Option Bytes
  reply : Option Bytes

/-- What answers a method selection. -/
def methodReply : Bytes := [SOCKS_V5, Socks5AuthMethod.noAuthenticationRequired.toU8]

/-- What tells a SOCKS5 client that its request has succeeded. -/
def successReply (bindAddress : Socks5Address) : Bytes :=
  [5, Socks5InitCommandResultStatus.succeeded.toU8, 0] ++ bindAddress.toBytes

variable (http : HttpLib) (config : AgentConfig) (srcAddress : PpaassUnifiedAddress)

/-- Where the client's bytes are these and it was sent this, they ask for this tunnel. -/
inductive Demands : Bytes → List Bytes → Demand → Prop
  | socks5 {selection request : Bytes} {dst : Socks5Address} (hselection : Selects selection)
      (hrequest : Requests request ⟨.connect, dst⟩)
      (hallowed : Socks5ClientTransport.checkDestination dst.toUnified = .ok ()) :
      Demands (selection ++ request) [methodReply] ⟨dst.toUnified, none, some (successReply dst)⟩
  | http {first : UInt8} {bytes : Bytes} {request : http.Request}
      {decoder decoder' : http.RequestDecoder} {dstAddress : PpaassUnifiedAddress}
      {initData : Option Bytes} (hfirst : first ≠ SOCKS_V5 ∧ first ≠ SOCKS_V4)
      (hrequest : http.decodeExact decoder (first :: bytes) = (.done request, decoder'))
      (htarget : target http request = .ok (dstAddress, initData)) :
      Demands (first :: bytes) [] ⟨dstAddress, initData,
        if initData.isNone then (http.encodeResponse httpConnectSuccessResponse).toOption else none⟩

/-- The proxy has granted a tunnel. -/
def Granted (r : Option (Except CommonError PpaassProxyMessage)) : Prop :=
  ∃ message src dst tunnelId, r = some (.ok message) ∧
    message.payload = .tcp (.init src dst (.success tunnelId))

/-- The request for a tunnel. -/
def Demand.init (d : Demand) : String × PpaassAgentMessagePayload :=
  (config.getUserToken, .tcp (.init srcAddress d.dstAddress))

/-- The client has opened an association that is restricted to this address. -/
def Associated (restrict : PpaassUnifiedAddress) (v : ClientView) : Prop :=
  ∃ selection request declared localAddr, Selects selection ∧
    Requests request ⟨.udpAssociate, declared⟩ ∧ restrict = declared.toUnified ∧
    v = ⟨selection ++ request, [methodReply, successReply (.ip localAddr)], [], [], []⟩

/-- What a connection comes to. -/
inductive Served : ClientView → Prop
  | unanswered (read : Bytes) : Served ⟨read, [], [], [], []⟩
  | greeted {selection : Bytes} (h : Selects selection) (more : Bytes) :
      Served ⟨selection ++ more, [methodReply], [], [], []⟩
  | associated {restrict : PpaassUnifiedAddress} {v : ClientView} (h : Associated restrict v) :
      Served v
  | asked {read : Bytes} {sent : List Bytes} {d : Demand}
      {heard : List (Option (Except CommonError PpaassProxyMessage))} (h : Demands http read sent d)
      (honce : heard.length ≤ 1) : Served ⟨read, sent, [d.init config srcAddress], heard, []⟩
  | told {read : Bytes} {sent : List Bytes} {d : Demand} {reply : Bytes}
      {r : Option (Except CommonError PpaassProxyMessage)} {spawned : List Side}
      (h : Demands http read sent d) (hr : Granted r) (hdata : d.initData = none)
      (hreply : d.reply = some reply) (hspawned : spawned <+: [.up, .down]) :
      Served ⟨read, sent ++ [reply], [d.init config srcAddress], [r], spawned⟩
  | passedOn {read : Bytes} {sent : List Bytes} {d : Demand} {data : Bytes}
      {r : Option (Except CommonError PpaassProxyMessage)} {spawned : List Side}
      (h : Demands http read sent d) (hr : Granted r) (hdata : d.initData = some data)
      (hspawned : spawned <+: [.up, .down]) :
      Served ⟨read, sent, [d.init config srcAddress, (config.getUserToken, .tcp (.data data))],
        [r], spawned⟩

/-- At every operation and every round of a loop. -/
def serves : Assertion agentSig := fun _ t => Served http config srcAddress (.of t)

section
variable {http : HttpLib} {config : AgentConfig} {srcAddress : PpaassUnifiedAddress}
  {v : ClientView} {t : Trace agentSig}

theorem Demands.before {read : Bytes} {sent : List Bytes} {d : Demand}
    (h : Demands http read sent d) : Served http config srcAddress ⟨read, sent, [], [], []⟩ := by
  cases h with
  | socks5 hselection hrequest hallowed => exact .greeted hselection _
  | http hfirst hrequest htarget => exact .unanswered _

/-- What may fail: where it does, the connection comes to something that is served. -/
abbrev OrServed {α : Type} (http : HttpLib) (config : AgentConfig)
    (srcAddress : PpaassUnifiedAddress) (K : α → ClientView → Prop)
    (r : Except (Fault AgentError) α) (t : Trace agentSig) : Prop :=
  OkOr (fun a t => K a (.of t)) (fun t => Served http config srcAddress (.of t)) r t

/-! ## Parts -/

theorem serves_of {o : Option AgentOp} (h : Served http config srcAddress v) (ht : .of t = v) :
    serves http config srcAddress o t := by
  unfold serves
  rw [ht]
  exact h

theorem Served.at (h : Served http config srcAddress v) (ht : .of t = v) :
    Served http config srcAddress (.of t) := by
  rw [ht]
  exact h

theorem wp_quiet {α : Type} {p : Prog agentSig α} (h : Only Quiet p)
    (hserved : Served http config srcAddress v) (ht : .of t = v) :
    wp (serves http config srcAddress) p (fun _ t => .of t = v) t := by
  apply wp_only (fun t => .of t = v) h ht
  · exact fun t ht => serves_of hserved ht
  · intro t op ht hop
    refine ⟨serves_of hserved ht, fun a => ?_⟩
    rw [ClientView.of_snoc, ht, hop v a]

namespace ReadFrame

variable {σ ε ι : Type} {decode : CodecM σ ε (Option ι)} {io : StdIoError → ε} {f : ReadFrame σ}

/-- The decoder leaves a buffer that holds no item as it is. -/
def Leaves (decode : CodecM σ ε (Option ι)) : Prop :=
  ∀ {codec codec' buf buf'}, decode.run (codec, buf) = .ok none (codec', buf') → buf' = buf

theorem decoded_cases (hleaves : Leaves decode) (f : ReadFrame σ) :
    (∃ codec, decoded decode f = (none, { f with codec })) ∨
    (∃ item codec buffer, decode.run (f.codec, f.buffer) = .ok (some item) (codec, buffer) ∧
      decoded decode f = (some (.ok item), { f with codec, buffer })) ∨
    ∃ e f', decoded decode f = (some (.error e), f') := by
  unfold decoded
  cases hrun : decode.run (f.codec, f.buffer) with
  | error e st => exact .inr (.inr ⟨e, _, rfl⟩)
  | ok item st =>
    obtain ⟨codec, buffer⟩ := st
    cases item with
    | none =>
      obtain rfl := hleaves hrun
      exact .inl ⟨codec, rfl⟩
    | some item => exact .inr (.inl ⟨item, codec, buffer, rfl, rfl⟩)

/-- What `next` answers, once these bytes were read: an item comes out of them. -/
def Comes (decode : CodecM σ ε (Option ι)) (bytes : Bytes) (r : Polled ε ι × ReadFrame σ) : Prop :=
  ∀ item, r.1 = some (.ok item) →
    ∃ codec codec', decode.run (codec, bytes) = .ok (some item) (codec', r.2.buffer)

/-- These bytes were read since the view `v`, first those that had been read before. -/
def Gathered (v : ClientView) (front bytes : Bytes) (t : Trace agentSig) : Prop :=
  front <+: bytes ∧ .of t = v.reading bytes

section
variable {front : Bytes} (hserved : ∀ bytes, Served http config srcAddress (v.reading bytes))
include hserved

theorem readMore_served (ht : Gathered v front f.buffer t) :
    wp (serves http config srcAddress) (readMore io f)
      (Sum.elim (fun f t => Gathered v front f.buffer t) fun r t =>
        ∃ bytes, Gathered v front bytes t ∧ Comes decode bytes r) t := by
  refine wp_bind.2 ((wp_await .clientRead).2 ⟨serves_of (hserved _) ht.2, fun a => ?_⟩)
  rcases a with e | _ | ⟨b, bs⟩
  · refine ⟨f.buffer, ⟨ht.1, ?_⟩, nofun⟩
    simpa [ClientView.next] using ht.2
  · have hnext : Gathered v front f.buffer (t ++ [⟨.clientRead, .ok []⟩]) := by
      refine ⟨ht.1, ?_⟩
      simp [ClientView.next, ht.2]
    dsimp only
    split
    · exact ⟨f.buffer, hnext, nofun⟩
    · exact hnext
  · refine ⟨ht.1.trans (List.prefix_append _ _), ?_⟩
    show ClientView.of (t ++ [⟨.clientRead, .ok (b :: bs)⟩]) = v.reading (f.buffer ++ b :: bs)
    simp [ClientView.next, ht.2, ClientView.reading]

/-- **An item comes out of all bytes that were read.** -/
theorem framedNext_served (hleaves : Leaves decode) (ht : .of t = v.reading f.buffer) :
    wp (serves http config srcAddress) (framedNext decode io f)
      (fun r t => ∃ bytes, Gathered v f.buffer bytes t ∧ Comes decode bytes r) t := by
  apply wp_iterate (fun f' t => Gathered v f.buffer f'.buffer t) ⟨List.prefix_rfl, ht⟩
  generalize f.buffer = front
  intro f t ht
  refine ⟨serves_of (hserved _) ht.2, ?_⟩
  unfold pollRound
  split
  · exact ⟨f.buffer, ht, nofun⟩
  split
  · exact readMore_served hserved ht
  obtain ⟨codec, hnone⟩ | ⟨item, codec, buffer, hrun, hitem⟩ | ⟨e, f', herr⟩ :=
    decoded_cases hleaves f
  · split
    · -- the end of the client's connection
      refine ⟨f.buffer, ht, ?_⟩
      unfold decodedEof
      rw [hnone]
      dsimp only
      split <;> nofun
    · rw [hnone]
      exact readMore_served hserved ht
  · have hcomes : Comes decode f.buffer (some (.ok item), { f with codec, buffer }) := by
      intro item' h
      cases h
      exact ⟨f.codec, codec, hrun⟩
    split
    · rw [decodedEof, hitem]
      exact ⟨f.buffer, ht, hcomes⟩
    · rw [hitem]
      exact ⟨f.buffer, ht, hcomes⟩
  · split
    · rw [decodedEof, herr]
      exact ⟨f.buffer, ht, nofun⟩
    · rw [herr]
      exact ⟨f.buffer, ht, nofun⟩

end

end ReadFrame

/-! ## The decoders -/

/-- The first byte decides, and is left in the buffer. -/
theorem run_switch (first : UInt8) (bytes : Bytes) :
    SwitchClientProtocolDecoder.decode.run ((), first :: bytes) =
      .ok (some (if first = SOCKS_V5 then .socks5 else if first = SOCKS_V4 then .socks4 else .http))
        ((), first :: bytes) := by
  by_cases h5 : first = SOCKS_V5
  · simp [SwitchClientProtocolDecoder.decode, h5]
  · by_cases h4 : first = SOCKS_V4
    · simp [SwitchClientProtocolDecoder.decode, h4, SOCKS_V4, SOCKS_V5]
    · simp [SwitchClientProtocolDecoder.decode, h4, h5]

theorem leaves_switch : ReadFrame.Leaves SwitchClientProtocolDecoder.decode := by
  intro codec codec' buf buf' h
  cases buf with
  | nil =>
    cases h
    rfl
  | cons first bytes =>
    rw [run_switch] at h
    cases h

theorem switch_some {codec codec' : Unit} {buf buf' : Bytes} {protocol : ClientProtocol}
    (h : SwitchClientProtocolDecoder.decode.run (codec, buf) = .ok (some protocol) (codec', buf')) :
    buf' = buf ∧ (protocol = .http →
      ∃ first bytes, buf = first :: bytes ∧ first ≠ SOCKS_V5 ∧ first ≠ SOCKS_V4) := by
  cases buf with
  | nil => cases h
  | cons first bytes =>
    rw [run_switch] at h
    cases h
    refine ⟨rfl, fun hhttp => ⟨first, bytes, rfl, ?_⟩⟩
    by_cases h5 : first = SOCKS_V5
    · simp [h5] at hhttp
    · by_cases h4 : first = SOCKS_V4
      · simp [h4, SOCKS_V4, SOCKS_V5] at hhttp
      · exact ⟨h5, h4⟩

theorem leaves_auth : ReadFrame.Leaves Socks5AuthCommandContentCodec.decode := by
  intro codec codec' buf buf' h
  rcases Nat.lt_or_ge buf.length 2 with hlen | hlen
  · rw [Socks5AuthCommandContentCodec.decode_short hlen] at h
    cases h
    rfl
  rcases buf with _ | ⟨v, _ | ⟨n, buf⟩⟩
  iterate 2 · simp at hlen
  by_cases hv : v = SOCKS_V5
  · subst hv
    by_cases hn : n.toNat ≤ buf.length
    · rw [Socks5AuthCommandContentCodec.decode_methods hn] at h
      cases h
    · rw [Socks5AuthCommandContentCodec.decode_methods_short (Nat.not_le.1 hn)] at h
      cases h
  · rw [Socks5AuthCommandContentCodec.decode_badVersion hv] at h
    cases h

theorem leaves_init : ReadFrame.Leaves Socks5InitCommandContentCodec.decode := by
  intro codec codec' buf buf' h
  cases Socks5InitCommandContentCodec.decode_waits buf (codec', buf') h
  rfl

theorem leaves_http : ReadFrame.Leaves (HttpCodec.decode http) := by
  intro decoder decoder' buf buf' h
  rcases hdec : http.decodeExact decoder buf with ⟨request | _ | e, decoder''⟩
  · rw [run_decode hdec] at h
    cases h
  · rw [run_decode hdec] at h
    cases h
    rfl
  · rw [run_decode hdec] at h
    cases h

theorem http_some {decoder decoder' : http.RequestDecoder} {buf buf' : Bytes}
    {request : http.Request}
    (h : (HttpCodec.decode http).run (decoder, buf) = .ok (some request) (decoder', buf')) :
    http.decodeExact decoder buf = (.done request, decoder') := by
  rcases hdec : http.decodeExact decoder buf with ⟨request' | _ | e, decoder''⟩
  · rw [run_decode hdec] at h
    cases h
    rfl
  · rw [run_decode hdec] at h
    cases h
  · rw [run_decode hdec] at h
    cases h


/-! ## The handshakes -/

section
variable {α β : Type}

/-- What changes nothing of a view goes first. -/
theorem quiet_seq {x : AgentM α} {f : α → AgentM β} {K : β → ClientView → Prop}
    (hx : Only Quiet x.run) (hserved : Served http config srcAddress v) (ht : .of t = v)
    (hf : ∀ a t, .of t = v →
      wp (serves http config srcAddress) (f a).run (OrServed http config srcAddress K) t) :
    wp (serves http config srcAddress) (x >>= f).run (OrServed http config srcAddress K) t := by
  refine wp_run_bind.2 (wp_mono (wp_quiet hx hserved ht) fun r t ht => ?_)
  cases r with
  | ok a => exact hf a t ht
  | error e => exact hserved.at ht

theorem dispatch_served (ht : .of t = ClientView.start) :
    wp (serves http config srcAddress) dispatch.run
      (OrServed http config srcAddress fun r v => v = ⟨r.2, [], [], [], []⟩ ∧ (r.1 ≠ .socks5 →
        ∃ first bytes, r.2 = first :: bytes ∧ first ≠ SOCKS_V5 ∧ first ≠ SOCKS_V4)) t := by
  refine wp_run_bind.2 (wp_lift.2 (wp_mono (ReadFrame.framedNext_served (v := .start)
    (fun bytes => .unanswered bytes) leaves_switch ht) ?_))
  intro ⟨item, frame⟩ t ⟨bytes, ⟨_, hview⟩, hcomes⟩
  have hserved : Served http config srcAddress (.of t) := (Served.unanswered bytes).at hview
  rcases item with _ | (e | what) | protocol
  · exact hserved
  · exact hserved
  · exact hserved
  obtain ⟨_, _, hrun⟩ := hcomes protocol rfl
  obtain ⟨hbuffer, hhttp⟩ := switch_some hrun
  have hview' : ClientView.of t = ⟨frame.buffer, [], [], [], []⟩ := by
    rw [hview, show frame.buffer = bytes from hbuffer]
    rfl
  cases protocol with
  | socks4 => exact hserved
  | socks5 => exact ⟨hview', fun hne => absurd rfl hne⟩
  | http =>
    refine ⟨hview', fun _ => ?_⟩
    obtain ⟨first, rest, rfl, hfirst⟩ := hhttp rfl
    exact ⟨first, rest, hbuffer, hfirst⟩

/-- A reply is sent whole, or not at all. -/
theorem clientReply_served {σ ε : Type} {encode : CodecM σ ε Unit} {codec : σ} {io : StdIoError → ε}
    {fail : ε → AgentError} (hserved : Served http config srcAddress v)
    (hreply : ∀ {codec' bytes}, encode.run (codec, []) = .ok () (codec', bytes) →
      Served http config srcAddress { v with sent := v.sent ++ [bytes] }) (ht : .of t = v) :
    wp (serves http config srcAddress) (clientReply encode codec io fail).run
      (OrServed http config srcAddress fun _ v' => ∃ codec' bytes,
        encode.run (codec, []) = .ok () (codec', bytes) ∧
        v' = { v with sent := v.sent ++ [bytes] }) t := by
  unfold clientReply
  split
  · next codec' bytes hrun =>
    refine wp_run_bind.2 ((wp_awaitM (.clientSend bytes)).2 ⟨serves_of hserved ht, fun r => ?_⟩)
    have hview : ClientView.of (t ++ [⟨.clientSend bytes, r⟩]) =
        { v with sent := v.sent ++ [bytes] } := by
      simp [ClientView.next, ht]
    cases r with
    | ok u => exact ⟨codec', bytes, hrun, hview⟩
    | error e => exact (hreply hrun).at hview
  · exact hserved.at ht
  · exact hserved.at ht

theorem quiet_createConnection (config : AgentConfig) : Only Quiet (createConnection config).run :=
  only_createConnection (fun _ _ => rfl) (fun _ _ => rfl) config

theorem quiet_randomEncryption (config : AgentConfig) : Only Quiet (randomEncryption config).run :=
  only_run_bind ((only_awaitM _).2 fun _ _ => rfl) fun _ => only_pure _

theorem granted_of_tunnelIdOf {client tunnelId : String}
    {r : Option (Except CommonError PpaassProxyMessage)}
    (h : tunnelIdOf client srcAddress r = .ok tunnelId) : Granted r := by
  unfold tunnelIdOf at h
  split at h
  · cases h
  · cases h
  · next message =>
    split at h
    · next src dst id hpayload => exact ⟨message, src, dst, id, rfl, hpayload⟩
    · cases h
    · cases h

variable {read : Bytes} {sent : List Bytes} {d : Demand}

/-- The proxy is asked, whether or not the message gets there. -/
theorem proxySend_served {message : PpaassAgentMessage} (hserved : Served http config srcAddress v)
    (hasked : Served http config srcAddress
      { v with asked := v.asked ++ [(message.userToken, message.payload)] }) (ht : .of t = v) :
    wp (serves http config srcAddress) (proxySend message) (fun _ t =>
      .of t = { v with asked := v.asked ++ [(message.userToken, message.payload)] }) t := by
  refine wp_bind.2 ((wp_await _).2 ⟨serves_of hserved ht, fun r => ?_⟩)
  have hview : ClientView.of (t ++ [⟨.proxyFeed message, r⟩]) =
      { v with asked := v.asked ++ [(message.userToken, message.payload)] } := by
    simp [ClientView.next, ht]
  cases r with
  | error e => exact hview
  | ok u =>
    refine (wp_await .proxyFlush).2 ⟨serves_of hasked hview, fun r => ?_⟩
    rw [ClientView.of_snoc, hview]
    rfl

theorem initTunnel_served (hd : Demands http read sent d) (client : String)
    (ht : ClientView.of t = ⟨read, sent, [], [], []⟩) :
    wp (serves http config srcAddress) (initTunnel config client srcAddress d.dstAddress).run
      (OrServed http config srcAddress fun _ v =>
        ∃ r, Granted r ∧ v = ⟨read, sent, [d.init config srcAddress], [r], []⟩) t := by
  have hbefore : Served http config srcAddress ⟨read, sent, [], [], []⟩ := hd.before
  have hasked : ∀ heard, heard.length ≤ 1 →
      Served http config srcAddress ⟨read, sent, [d.init config srcAddress], heard, []⟩ :=
    fun heard honce => .asked hd honce
  refine quiet_seq (quiet_randomEncryption config) hbefore ht fun encryption t ht => ?_
  refine quiet_seq ((only_awaitM _).2 fun _ _ => rfl) hbefore ht fun messageId t ht => ?_
  refine quiet_seq (quiet_createConnection config) hbefore ht fun _ t ht => ?_
  refine wp_run_bind.2 (wp_lift.2 (wp_mono (proxySend_served hbefore
    (hasked [] (Nat.zero_le 1)) ht) fun r t ht => ?_))
  cases r with
  | error e => exact (hasked [] (Nat.zero_le 1)).at ht
  | ok u =>
    refine wp_run_bind.2 ((wp_orFail _ _).2 (wp_run_bind.2
      ((wp_awaitM .proxyNext).2 ⟨serves_of (hasked [] (Nat.zero_le 1)) ht, fun r => ?_⟩)))
    have hview : ClientView.of (t ++ [⟨.proxyNext, r⟩]) =
        ⟨read, sent, [d.init config srcAddress], [r], []⟩ := by
      rw [ClientView.of_snoc, ht]
      rfl
    refine (wp_orFail _ _).2 ?_
    cases hid : tunnelIdOf client srcAddress r with
    | ok tunnelId => exact ⟨r, granted_of_tunnelIdOf hid, hview⟩
    | error e => exact (hasked [r] (Nat.le_refl 1)).at hview

/-- What a handshake hands to the relay: the tunnel is granted, and the client was told so, or there
is data to be passed on. -/
inductive Handed (http : HttpLib) (config : AgentConfig) (srcAddress : PpaassUnifiedAddress) :
    Option Bytes → ClientView → Prop
  | told {read : Bytes} {sent : List Bytes} {d : Demand} {reply : Bytes}
      {r : Option (Except CommonError PpaassProxyMessage)} (hd : Demands http read sent d)
      (hr : Granted r) (hdata : d.initData = none) (hreply : d.reply = some reply) :
      Handed http config srcAddress none
        ⟨read, sent ++ [reply], [d.init config srcAddress], [r], []⟩
  | toPassOn {read : Bytes} {sent : List Bytes} {d : Demand} {data : Bytes}
      {r : Option (Except CommonError PpaassProxyMessage)} (hd : Demands http read sent d)
      (hr : Granted r) (hdata : d.initData = some data) :
      Handed http config srcAddress (some data)
        ⟨read, sent, [d.init config srcAddress], [r], []⟩

theorem Handed.served {initData : Option Bytes} (h : Handed http config srcAddress initData v) :
    Served http config srcAddress v := by
  cases h with
  | told hd hr hdata hreply => exact .told hd hr hdata hreply List.nil_prefix
  | toPassOn hd hr hdata => exact .asked hd (Nat.le_refl 1)

namespace Socks5ClientTransport

theorem authenticate_served {initialBuf : Bytes}
    (ht : ClientView.of t = ⟨initialBuf, [], [], [], []⟩) :
    wp (serves http config srcAddress) (authenticate initialBuf).run
      (OrServed http config srcAddress fun _ v =>
        ∃ selection, Selects selection ∧ v = ⟨selection, [methodReply], [], [], []⟩) t := by
  refine wp_run_bind.2 (wp_lift.2 (wp_mono (ReadFrame.framedNext_served (v := .start)
    (fun bytes => .unanswered bytes) leaves_auth ht) ?_))
  intro ⟨item, frame⟩ t ⟨bytes, ⟨_, hview⟩, hcomes⟩
  have hserved : Served http config srcAddress (.of t) := (Served.unanswered bytes).at hview
  rcases item with _ | (e | what) | command
  · exact hserved
  · exact hserved
  · exact hserved
  obtain ⟨_, _, hrun⟩ := hcomes command rfl
  have hselects : Selects bytes := selects_of_decode hrun
  have hgreeted : Served http config srcAddress ⟨bytes ++ [], [methodReply], [], [], []⟩ :=
    .greeted hselects []
  rw [List.append_nil] at hgreeted
  refine wp_run_bind.2 ((wp_orFail _ _).2 (wp_mono (clientReply_served (.unanswered bytes) ?_
    hview) ?_))
  · intro codec' reply hencode
    cases hencode
    exact hgreeted
  · intro r t h
    cases r with
    | error e => exact h
    | ok u =>
      obtain ⟨_, _, hencode, hview⟩ := h
      cases hencode
      exact ⟨bytes, hselects, hview⟩

theorem readCommand_served {selection : Bytes} (h : Selects selection)
    (ht : ClientView.of t = ⟨selection, [methodReply], [], [], []⟩) :
    wp (serves http config srcAddress) readCommand.run
      (OrServed http config srcAddress fun command v => ∃ request, Requests request command ∧
        v = ⟨selection ++ request, [methodReply], [], [], []⟩) t := by
  refine wp_run_bind.2 (wp_lift.2 (wp_mono (ReadFrame.framedNext_served
    (v := ⟨selection, [methodReply], [], [], []⟩) (fun bytes => .greeted h bytes) leaves_init
    (ht.trans (ClientView.reading_nil _).symm)) ?_))
  intro ⟨item, frame⟩ t ⟨bytes, ⟨_, hview⟩, hcomes⟩
  have hserved : Served http config srcAddress (.of t) := (Served.greeted h bytes).at hview
  rcases item with _ | (e | what) | command
  · exact hserved
  · exact hserved
  · exact hserved
  obtain ⟨_, _, hrun⟩ := hcomes command rfl
  exact ⟨bytes, requests_of_decode hrun, hview⟩

theorem replySucceeded_served {bindAddress : Socks5Address}
    (hserved : Served http config srcAddress v)
    (hreply : Served http config srcAddress
      { v with sent := v.sent ++ [successReply bindAddress] }) (ht : .of t = v) :
    wp (serves http config srcAddress) (replySucceeded bindAddress).run
      (OrServed http config srcAddress fun _ v' =>
        v' = { v with sent := v.sent ++ [successReply bindAddress] }) t := by
  refine wp_mono (clientReply_served hserved ?_ ht) ?_
  · intro codec' reply hencode
    cases hencode
    exact hreply
  · intro r t h
    cases r with
    | error e => exact h
    | ok u =>
      obtain ⟨_, _, hencode, hview⟩ := h
      cases hencode
      exact hview

variable {selection request : Bytes} {dst : Socks5Address}

theorem ofUnified_toUnified (a : Socks5Address) : Socks5Address.ofUnified a.toUnified = a := by
  cases a <;> rfl

/-- **A CONNECT request.** -/
theorem handleConnectCommand_served (hselection : Selects selection)
    (hrequest : Requests request ⟨.connect, dst⟩)
    (ht : ClientView.of t = ⟨selection ++ request, [methodReply], [], [], []⟩) :
    wp (serves http config srcAddress) (handleConnectCommand config srcAddress dst.toUnified).run
      (OrServed http config srcAddress fun info v =>
        Handed http config srcAddress info.initData v) t := by
  refine wp_run_bind.2 ((wp_orFail _ _).2 ?_)
  cases hallowed : checkDestination dst.toUnified with
  | error e => exact (Served.greeted hselection request).at ht
  | ok u =>
    have hd : Demands http (selection ++ request) [methodReply]
        ⟨dst.toUnified, none, some (successReply dst)⟩ := .socks5 hselection hrequest hallowed
    refine wp_run_seq (initTunnel_served hd "socks5" ht) (fun _ t h => ?_) fun _ _ h => h
    obtain ⟨r, hr, hview⟩ := h
    rw [ofUnified_toUnified]
    refine wp_run_seq (replySucceeded_served (.asked hd (Nat.le_refl [r].length))
      (.told hd hr rfl rfl List.nil_prefix) hview) (fun _ t hview => ?_) fun _ _ h => h
    show Handed http config srcAddress none (.of t)
    rw [hview]
    exact .told hd hr rfl rfl

/-- **A request for an association.** -/
theorem handleUdpAssociateCommand_served (hselection : Selects selection)
    (hrequest : Requests request ⟨.udpAssociate, dst⟩)
    (ht : ClientView.of t = ⟨selection ++ request, [methodReply], [], [], []⟩) :
    wp (serves http config srcAddress) (handleUdpAssociateCommand dst.toUnified).run
      (OrServed http config srcAddress fun info v => Associated info.clientUdpRestrictAddress v)
      t := by
  have hgreeted : Served http config srcAddress
      ⟨selection ++ request, [methodReply], [], [], []⟩ := .greeted hselection request
  refine quiet_seq ((only_awaitM _).2 fun _ _ => rfl) hgreeted ht fun r t ht => ?_
  refine quiet_seq (only_orFail _ r) hgreeted ht fun _ t ht => ?_
  refine quiet_seq ((only_awaitM _).2 fun _ _ => rfl) hgreeted ht fun r t ht => ?_
  refine quiet_seq (only_orFail _ r) hgreeted ht fun localAddr t ht => ?_
  have hassociated : Associated dst.toUnified
      ⟨selection ++ request, [methodReply, successReply (.ip localAddr)], [], [], []⟩ :=
    ⟨selection, request, dst, localAddr, hselection, hrequest, rfl, rfl⟩
  refine wp_run_seq (replySucceeded_served hgreeted (.associated hassociated) ht)
    (fun _ t hview => ?_) fun _ _ h => h
  show Associated dst.toUnified (.of t)
  rw [hview]
  exact hassociated

/-- What a handshake leads to. -/
def Leads (http : HttpLib) (config : AgentConfig) (srcAddress : PpaassUnifiedAddress) :
    ClientTransportDataRelayInfo → ClientView → Prop
  | .tcp info, v => Handed http config srcAddress info.initData v
  | .udp info, v => Associated info.clientUdpRestrictAddress v

theorem handshake_served {initialBuf : Bytes}
    (ht : ClientView.of t = ⟨initialBuf, [], [], [], []⟩) :
    wp (serves http config srcAddress) (handshake config srcAddress initialBuf).run
      (OrServed http config srcAddress (Leads http config srcAddress)) t := by
  refine wp_run_seq (authenticate_served ht) (fun _ t h => ?_) fun _ _ h => h
  obtain ⟨selection, hselection, ht⟩ := h
  refine wp_run_seq (readCommand_served hselection ht) (fun command t h => ?_) fun _ _ h => h
  obtain ⟨request, hrequest, ht⟩ := h
  obtain ⟨requestType, dst⟩ := command
  cases requestType with
  | bind => exact (Served.greeted hselection request).at ht
  | udpAssociate =>
    exact wp_run_seq (handleUdpAssociateCommand_served hselection hrequest ht)
      (fun _ t h => h) fun _ _ h => h
  | connect =>
    exact wp_run_seq (handleConnectCommand_served hselection hrequest ht)
      (fun _ t h => h) fun _ _ h => h

end Socks5ClientTransport

namespace HttpClientTransport

/-- **An HTTP request.** -/
theorem handleRequest_served {first : UInt8} {bytes : Bytes} {request : http.Request}
    {decoder decoder' : http.RequestDecoder} (hfirst : first ≠ SOCKS_V5 ∧ first ≠ SOCKS_V4)
    (hrequest : http.decodeExact decoder (first :: bytes) = (.done request, decoder'))
    (ht : ClientView.of t = ⟨first :: bytes, [], [], [], []⟩) :
    wp (serves http config srcAddress) (handleRequest http config srcAddress request).run
      (OrServed http config srcAddress fun info v =>
        Handed http config srcAddress info.initData v) t := by
  refine wp_run_bind.2 ((wp_orFail _ _).2 ?_)
  cases htarget : target http request with
  | error e => exact (Served.unanswered _).at ht
  | ok target =>
    obtain ⟨dstAddress, initData⟩ := target
    have hd := Demands.http hfirst hrequest htarget
    refine wp_run_seq (initTunnel_served hd "http" ht) (fun _ t h => ?_) fun _ _ h => h
    obtain ⟨r, hr, hview⟩ := h
    cases initData with
    | some data =>
      show Handed http config srcAddress (some data) (.of t)
      rw [hview]
      exact .toPassOn hd hr rfl
    | none =>
      have hreply : ∀ {decoder'' reply}, (HttpCodec.encode http httpConnectSuccessResponse).run
          (http.requestDecoder, []) = .ok () (decoder'', reply) →
            (http.encodeResponse httpConnectSuccessResponse).toOption = some reply := by
        intro decoder'' reply hencode
        cases hresponse : http.encodeResponse httpConnectSuccessResponse with
        | error e => simp [HttpCodec.encode, hresponse] at hencode
        | ok response =>
          simp [HttpCodec.encode, hresponse] at hencode
          simp [Except.toOption, hencode]
      refine wp_run_seq (clientReply_served (.asked hd (Nat.le_refl [r].length))
        (fun hencode => .told hd hr rfl (hreply hencode) List.nil_prefix) hview)
        (fun _ t h => ?_) fun _ _ h => h
      obtain ⟨_, reply, hencode, hview⟩ := h
      show Handed http config srcAddress none (.of t)
      rw [hview]
      exact .told hd hr rfl (hreply hencode)

theorem handshake_served {first : UInt8} {bytes : Bytes}
    (hfirst : first ≠ SOCKS_V5 ∧ first ≠ SOCKS_V4)
    (ht : ClientView.of t = ⟨first :: bytes, [], [], [], []⟩) :
    wp (serves http config srcAddress) (handshake http config srcAddress (first :: bytes)).run
      (OrServed http config srcAddress (Socks5ClientTransport.Leads http config srcAddress)) t := by
  refine wp_run_bind.2 (wp_lift.2 (wp_mono (ReadFrame.framedNext_served
    (v := .start) (fun bytes => .unanswered bytes) leaves_http ht) ?_))
  intro ⟨item, frame⟩ t ⟨read, ⟨⟨more, hmore⟩, hview⟩, hcomes⟩
  have hserved : Served http config srcAddress (.of t) := (Served.unanswered read).at hview
  rcases item with _ | (e | what) | request
  · exact hserved
  · exact hserved
  · exact hserved
  obtain ⟨_, _, hrun⟩ := hcomes request rfl
  obtain rfl : first :: (bytes ++ more) = read := hmore
  exact wp_run_bind.2 ((wp_orFail _ _).2 (wp_run_seq
    (handleRequest_served hfirst (http_some hrun) hview) (fun _ t h => h) fun _ _ h => h))

end HttpClientTransport

end

/-! ## The relay, and the connection as a whole -/

/-- The relay tasks may be spawned. -/
def MayRelay (http : HttpLib) (config : AgentConfig) (srcAddress : PpaassUnifiedAddress)
    (v : ClientView) : Prop :=
  v.spawned = [] ∧ ∀ spawned, spawned <+: [.up, .down] →
    Served http config srcAddress { v with spawned }

theorem sendInitData_served {initData : Option Bytes} (encryption : PpaassMessagePayloadEncryption)
    (h : Handed http config srcAddress initData v) (ht : .of t = v) :
    wp (serves http config srcAddress) (sendInitData config encryption initData).run
      (OrServed http config srcAddress fun _ => MayRelay http config srcAddress) t := by
  cases h with
  | told hd hr hnone hreply =>
    show MayRelay http config srcAddress (.of t)
    rw [ht]
    exact ⟨rfl, fun spawned hspawned => .told hd hr hnone hreply hspawned⟩
  | @toPassOn read sent d data r hd hr hsome =>
    have hserved : ∀ spawned, spawned <+: [.up, .down] → Served http config srcAddress
        ⟨read, sent, [d.init config srcAddress, (config.getUserToken, .tcp (.data data))], [r],
          spawned⟩ := fun spawned hspawned => .passedOn hd hr hsome hspawned
    have hbefore : Served http config srcAddress
        ⟨read, sent, [d.init config srcAddress], [r], []⟩ := .asked hd (Nat.le_refl [r].length)
    refine quiet_seq ((only_awaitM _).2 fun _ _ => rfl) hbefore ht fun messageId t ht => ?_
    refine wp_run_bind.2 (wp_lift.2 (wp_mono (proxySend_served hbefore
      (hserved [] List.nil_prefix) ht) fun r t ht => ?_))
    cases r with
    | error e => exact (hserved [] List.nil_prefix).at ht
    | ok u =>
      show MayRelay http config srcAddress (.of t)
      rw [ht]
      exact ⟨rfl, hserved⟩

/-- The relay tasks are spawned one after the other. -/
theorem spawns_served {encryption : PpaassMessagePayloadEncryption}
    (h : MayRelay http config srcAddress (.of t)) :
    wp (serves http config srcAddress) (do
      awaitM (.spawnClientToProxy encryption)
      awaitM .spawnProxyToClient : AgentM Unit).run
      (OrServed http config srcAddress fun _ => Served http config srcAddress) t := by
  obtain ⟨hnone, hserved⟩ := h
  have hstart : Served http config srcAddress (.of t) := by
    have hsame := hserved [] List.nil_prefix
    rwa [← hnone] at hsame
  refine wp_run_bind.2 ((wp_awaitM (.spawnClientToProxy encryption)).2 ⟨hstart, fun up => ?_⟩)
  have hup : ClientView.of (t ++ [⟨.spawnClientToProxy encryption, up⟩]) =
      { ClientView.of t with spawned := [.up] } := by
    simp [ClientView.next, hnone]
  refine (wp_awaitM .spawnProxyToClient).2
    ⟨serves_of (hserved [.up] ⟨[.down], rfl⟩) hup, fun down => ?_⟩
  apply (hserved [.up, .down] List.prefix_rfl).at
  rw [ClientView.of_snoc, hup]
  rfl

theorem tcpRelay_served {info : ClientTransportTcpDataRelay}
    (h : Handed http config srcAddress info.initData (.of t)) :
    wp (serves http config srcAddress) (tcpRelay config info).run
      (OrServed http config srcAddress fun _ => Served http config srcAddress) t := by
  refine quiet_seq (quiet_randomEncryption config) h.served rfl fun encryption t' ht => ?_
  exact wp_run_seq (sendInitData_served encryption h ht) (fun _ t h => spawns_served h)
    fun _ _ h => h

/-- What the task of a connection has come to when it returns. -/
def connectionPost (http : HttpLib) (config : AgentConfig) (srcAddress : PpaassUnifiedAddress)
    (r : Except (Fault AgentError) (Option ClientTransportUdpDataRelay)) (t : Trace agentSig) :
    Prop :=
  Served http config srcAddress (.of t) ∧
    ∀ info, r = .ok (some info) → Associated info.clientUdpRestrictAddress (.of t)

/-- **The task of a connection**, whatever its client and its proxy do. -/
theorem handleClientConnection_served (clientSocketAddress : SocketAddr) :
    wp (serves http config (.ip clientSocketAddress))
      (handleClientConnection http config clientSocketAddress).run
      (connectionPost http config (.ip clientSocketAddress)) [] := by
  have hfail : ∀ (e : Fault AgentError) (t : Trace agentSig),
      Served http config (.ip clientSocketAddress) (.of t) →
        connectionPost http config (.ip clientSocketAddress) (.error e) t :=
    fun e t h => ⟨h, nofun⟩
  refine wp_run_seq (dispatch_served rfl) (fun r t h => ?_) hfail
  obtain ⟨protocol, initialBuf⟩ := r
  obtain ⟨ht, hhttp⟩ := h
  have hhandshake : wp (serves http config (.ip clientSocketAddress))
      (handshake http config (.ip clientSocketAddress) initialBuf protocol).run
      (OrServed http config (.ip clientSocketAddress)
        (Socks5ClientTransport.Leads http config (.ip clientSocketAddress))) t := by
    cases protocol with
    | socks5 => exact Socks5ClientTransport.handshake_served ht
    | http | socks4 =>
      obtain ⟨first, bytes, hbuf, hfirst⟩ := hhttp (by simp)
      obtain rfl : initialBuf = first :: bytes := hbuf
      exact HttpClientTransport.handshake_served hfirst ht
  refine wp_run_seq hhandshake (fun info t h => ?_) hfail
  cases info with
  | tcp info =>
    exact wp_run_seq (tcpRelay_served h) (fun _ t h => ⟨h, nofun⟩) hfail
  | udp info =>
    refine ⟨.associated h, fun info' hinfo => ?_⟩
    cases hinfo
    exact h

/-! ## The server -/

/-- What has returned takes no step. -/
theorem not_step_of_ret {α : Type} {th th' : Thread agentSig α} {a : α}
    {e : Option (Event agentSig)} (h : th.prog = .ret a) : ¬ Thread.Step th e th' := by
  intro hstep
  cases hstep with
  | mk t hs =>
    subst h
    cases hs

/-- Only the client is read. -/
def readsClient : Assertion agentSig := fun o _ => ∀ op, o = some op → op = .clientRead

theorem checkUdpRelayTcpConnection_readsClient :
    wp readsClient checkUdpRelayTcpConnection.run (fun _ _ => True) [] := by
  have honly := only_checkUdpRelayTcpConnection (P := fun op => op = .clientRead) rfl
  apply wp_only (fun _ => True) honly trivial
  · exact fun _ _ => nofun
  · intro t op _ hop
    refine ⟨fun op' h => ?_, fun _ => trivial⟩
    cases h
    exact hop

/-- What holds of a connection: of its task, and of the association that it opens. -/
structure Connection.Serves (http : HttpLib) (config : AgentConfig)
    (srcAddress : PpaassUnifiedAddress) (c : Connection) : Prop where
  main : c.tasks.main.Holds (serves http config srcAddress) (connectionPost http config srcAddress)
  association : ∀ a, c.association = some a → ∃ info,
    c.tasks.main.prog = .ret (.ok (some info)) ∧
    a.Holds readsClient (relayAssertion info.clientUdpRestrictAddress) (fun _ _ => True)
      fun _ _ => True

variable {c c' : Connection}

theorem Connection.Serves.accepted (clientSocketAddress : SocketAddr) :
    (Connection.accepted http config clientSocketAddress).Serves http config
      (.ip clientSocketAddress) where
  main := .new (handleClientConnection_served clientSocketAddress)
  association a ha := by cases ha

/-- **Every step keeps it.** -/
theorem Connection.Serves.step {e : Option (Event agentSig)} (h : c.Serves http config srcAddress)
    (hstep : c.Step config e c') : c'.Serves http config srcAddress := by
  cases hstep with
  | @task side e tasks hs =>
    cases hs with
    | @main e th hth =>
      constructor
      · rw [Tasks.spawned_main]
        exact h.main.step hth
      · intro a ha
        obtain ⟨info, hprog, -⟩ := h.association a ha
        exact (not_step_of_ret hprog hth).elim
    | task hside hth => exact ⟨h.main, h.association⟩
  | @udpRelay info hmain hnone =>
    refine { h with association := fun a ha => ⟨info, hmain, ?_⟩ }
    cases ha
    exact .new checkUdpRelayTcpConnection_readsClient (relayUdpData_allowed config _)
  | associated ha hs =>
    refine { h with association := fun a' ha' => ?_ }
    cases ha'
    obtain ⟨info, hprog, hholds⟩ := h.association _ ha
    exact ⟨info, hprog, hholds.step hs⟩

/-- The connection was accepted from a client, has come to one of the six for it, and relays the
datagrams of the address that the client has declared, if it relays any. -/
def Connection.ServesClient (http : HttpLib) (config : AgentConfig) (c : Connection) : Prop :=
  ∃ clientSocketAddress : SocketAddr,
    Served http config (.ip clientSocketAddress) (.of c.tasks.main.trace) ∧
    ∀ a, c.association = some a → ∃ restrict, Associated restrict (.of c.tasks.main.trace) ∧
      (∀ e ∈ a.left.trace, e.op = .clientRead) ∧ Respects (relayAssertion restrict) a.right.trace

theorem Connection.Serves.servesClient {clientSocketAddress : SocketAddr}
    (h : c.Serves http config (.ip clientSocketAddress)) : c.ServesClient http config := by
  refine ⟨clientSocketAddress, ?_, fun a ha => ?_⟩
  · rcases wp_inv h.main.wp with ⟨_, hserved⟩ | ⟨_, -, hserved, -⟩ <;> exact hserved
  · obtain ⟨info, hprog, hholds⟩ := h.association a ha
    have hpost := h.main.wp
    rw [hprog] at hpost
    refine ⟨info.clientUdpRestrictAddress, hpost.2 info rfl, fun e he => ?_, hholds.right.respects⟩
    obtain ⟨_, -, hread⟩ := hholds.left.respects.mem he
    exact hread e.op rfl

end

/-- **Every client is served in one of these ways**, in every state of the agent, whatever its
clients and its proxy do. -/
theorem clients_served {http : HttpLib} {config : AgentConfig} {s : AgentServer}
    (h : s.Reachable http config) : ∀ c ∈ s.connections, c.ServesClient http config := by
  suffices hserves : ∀ c ∈ s.connections, ∃ clientSocketAddress : SocketAddr,
      c.Serves http config (.ip clientSocketAddress) by
    intro c hc
    obtain ⟨_, hc⟩ := hserves c hc
    exact hc.servesClient
  induction h with
  | refl => simp
  | tail _ hs ih =>
    cases hs with
    | accept cs addr => simpa [or_imp, forall_and] using ⟨ih, addr, .accepted addr⟩
    | @connection pre post c₀ c₁ e hstep =>
      obtain ⟨addr, h₀⟩ := ih c₀ (by simp)
      intro c hc
      simp only [List.mem_append, List.mem_cons] at hc ih
      rcases hc with hc | rfl | hc
      · exact ih c (.inl hc)
      · exact ⟨addr, h₀.step hstep⟩
      · exact ih c (.inr (.inr hc))

/-- The task of the one connection performs its next operation. -/
theorem reachable_operation {http : HttpLib} {config : AgentConfig} {g : Tasks agentSig _}
    (op : AgentOp) (a : op.Ans) {k : op.Ans → Prog agentSig _}
    (h : AgentServer.Reachable http config ⟨[⟨g, none⟩]⟩) (hprog : g.main.prog = .vis op k)
    (hspawn : spawn config op = none) :
    AgentServer.Reachable http config
      ⟨[⟨{ g with main := ⟨k a, g.main.trace ++ [⟨op, a⟩]⟩ }, none⟩]⟩ := by
  have hstep : Tasks.Step (spawn config) g none (some ⟨op, a⟩) _ :=
    .main (.performs (S := agentSig) op a hprog)
  rw [Tasks.spawned] at hstep
  simp only [Option.bind_some, hspawn] at hstep
  exact h.tail (.connection [] [] (.task hstep))

/-- The task of the one connection enters a loop, or goes on with it. -/
theorem reachable_round {http : HttpLib} {config : AgentConfig} {g : Tasks agentSig _}
    {σ β : Type} {body : σ → Prog agentSig (σ ⊕ β)} {i : σ} {k : β → Prog agentSig _}
    (h : AgentServer.Reachable http config ⟨[⟨g, none⟩]⟩) (hprog : g.main.prog = .loop body i k) :
    AgentServer.Reachable http config ⟨[⟨{ g with main := ⟨(body i).bind fun
      | .inl i' => .loop body i' k
      | .inr b => k b, g.main.trace⟩ }, none⟩]⟩ := by
  obtain ⟨⟨prog, trace⟩, task⟩ := g
  cases hprog
  have hstep : Tasks.Step (spawn config) ⟨⟨.loop body i k, trace⟩, task⟩ none none _ :=
    .main (.mk trace (Step.loop (S := agentSig) body i k))
  exact h.tail (.connection [] [] (.task hstep))

/-- A client is greeted. -/
theorem clients_served_greeted : ∃ s : AgentServer, s.Reachable HttpLib.none ⟨"user1", none⟩ ∧
    (∃ c ∈ s.connections, (ClientView.of c.tasks.main.trace).sent = [methodReply]) ∧
    ∀ c ∈ s.connections, c.ServesClient HttpLib.none ⟨"user1", none⟩ := by
  have h0 : AgentServer.Reachable HttpLib.none ⟨"user1", none⟩
      ⟨[.accepted HttpLib.none ⟨"user1", none⟩ (.v4 ⟨10, 0, 0, 1⟩ 5000)]⟩ := .single (.accept [] _)
  -- the dispatcher reads, and looks at what it has read
  have h1 := reachable_round h0 rfl
  have h2 := reachable_operation .clientRead (.ok [5, 1, 0]) h1 rfl rfl
  have h3 := reachable_round h2 rfl
  -- the method selection is in its buffer
  have h4 := reachable_round h3 rfl
  have h5 := reachable_operation (.clientSend methodReply) (.ok ()) h4 rfl rfl
  exact ⟨_, h5, ⟨_, List.mem_singleton.2 rfl, rfl⟩, clients_served h5⟩

end Ppaass.Agent
