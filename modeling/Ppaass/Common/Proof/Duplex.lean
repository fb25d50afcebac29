import Mathlib.Logic.Relation
import Ppaass.Common.Proof.Connection

/-!
# The two ends of a connection

`Duplex` is a TCP stream with a connection at each end, which whatever programs hold them may call
in any order. Where the keys of the users are pairs, both ends compress, and neither feeds a message
once a feed has failed or it has closed, each end hears what the other has said, in order
(`duplex_faithful`): it hears an error only where the stream has failed or a feed, and where neither
has, it hears the end only after the other has closed and everything is heard.
-/

namespace Ppaass

open Wire Framed
open ConnectionCodec (Encodes Travels encodes_referenceFrame referenceCodec travels_agentData)

/-! ## The ends -/

/-- A stream, the connections at its ends, and the calls that were made there. The left end hears
`A` and says `B`. -/
structure Duplex (libs : Libs) (A B : Type) where
  left : Reader (ConnectionCodec libs)
  right : Reader (ConnectionCodec libs)
  up : Channel UInt8
  down : Channel UInt8
  leftCalls : List (ConnectionEvent A B)
  rightCalls : List (ConnectionEvent B A)

namespace Duplex

variable {libs : Libs} {A B : Type}

def leftEnd (d : Duplex libs A B) : PpaassConnection libs := ⟨d.left, d.down, d.up⟩

def rightEnd (d : Duplex libs A B) : PpaassConnection libs := ⟨d.right, d.up, d.down⟩

/-- A new stream, both ends of which compress. -/
def new (leftFetcher rightFetcher : RsaCryptoFetcher libs) : Duplex libs A B :=
  ⟨.new (.new true leftFetcher), .new (.new true rightFetcher), .empty, .empty, [], []⟩

variable (inbound : Serde A) (outbound : Serde B)

/-- A call at an end, a round of its `poll_next` that goes on, or a failure of the stream. -/
inductive Step : Duplex libs A B → Duplex libs A B → Prop
  | left {d : Duplex libs A B} {e : ConnectionEvent A B} {c : PpaassConnection libs}
      (h : PpaassConnection.Step inbound outbound d.leftEnd e c) :
      Step d
        { d with left := c.inner, down := c.input, up := c.output, leftCalls := d.leftCalls ++ [e] }
  | leftPoll {d : Duplex libs A B} {c : PpaassConnection libs}
      (h : PpaassConnection.Poll inbound d.leftEnd c) :
      Step d { d with left := c.inner, down := c.input, up := c.output }
  | right {d : Duplex libs A B} {e : ConnectionEvent B A} {c : PpaassConnection libs}
      (h : PpaassConnection.Step outbound inbound d.rightEnd e c) :
      Step d
        { d with
          right := c.inner, up := c.input, down := c.output, rightCalls := d.rightCalls ++ [e] }
  | rightPoll {d : Duplex libs A B} {c : PpaassConnection libs}
      (h : PpaassConnection.Poll outbound d.rightEnd c) :
      Step d { d with right := c.inner, up := c.input, down := c.output }
  | breakUp {d : Duplex libs A B} {up : Channel UInt8} (h : d.up.Break up) : Step d { d with up }
  | breakDown {d : Duplex libs A B} {down : Channel UInt8} (h : d.down.Break down) :
      Step d { d with down }

/-- A state of the stream, after any calls. -/
def Reachable (leftFetcher rightFetcher : RsaCryptoFetcher libs) : Duplex libs A B → Prop :=
  Relation.ReflTransGen (Step inbound outbound) (new leftFetcher rightFetcher)

end Duplex

/-! ## One direction -/

section
variable {libs : Libs} {A B : Type}

/-- What was said over the bytes, and heard at their end, was said and heard over a link of
messages. -/
def Conveyed (payload : Serde A) (receiver : ConnectionCodec libs)
    (said : List (SendEvent (String × String × A))) (heard : List (RecvEvent (String × String × A)))
    (inner : Reader (ConnectionCodec libs)) (bytes : Channel UInt8) : Prop :=
  ∃ spoiled c, PpaassConnection.CarriesTo payload receiver spoiled inner bytes c ∧ c.SentBy said ∧
    c.ReadBy heard ∧ (spoiled = true → ∃ xs, .feed xs false ∈ said)

/-- What is heard of what is said. -/
structure Faithful (bytes : Channel UInt8) (said : List (SendEvent (String × String × A)))
    (heard : List (RecvEvent (String × String × A))) : Prop where
  le : heard.flatMap RecvEvent.taken <+: said.flatMap SendEvent.fed
  error : .error ∈ heard → bytes.broken = true ∨ ∃ xs, .feed xs false ∈ said
  eof : .eof ∈ heard → (bytes.broken = true ∨ ∃ xs, .feed xs false ∈ said) ∨
    .close true ∈ said ∧ heard.flatMap RecvEvent.taken = said.flatMap SendEvent.fed

namespace Conveyed

variable {payload : Serde A} {receiver : ConnectionCodec libs}
  {said : List (SendEvent (String × String × A))} {heard : List (RecvEvent (String × String × A))}
  {inner : Reader (ConnectionCodec libs)} {bytes bytes' : Channel UInt8}

theorem new (hs : receiver.status = .head) :
    Conveyed payload receiver [] [] (Reader.new receiver) .empty := by
  have hshort : ([] : Bytes).length < HEADER_LENGTH := by decide
  have hrest := ConnectionCodec.decode_head_short payload hs hshort
  exact ⟨false, .empty, carries_empty hrest, Channel.sentBy_empty, Channel.readBy_empty, nofun⟩

theorem faithful (h : Conveyed payload receiver said heard inner bytes)
    (htime : Channel.InTime said) : Faithful bytes said heard := by
  obtain ⟨spoiled, c, hcarries, hsent, hread, hspoiled⟩ := h
  have hbroken : c.broken = true → bytes.broken = true ∨ ∃ xs, .feed xs false ∈ said := by
    intro hb
    rw [hcarries.broken, Bool.or_eq_true] at hb
    exact hb.imp_right hspoiled
  constructor
  · rw [← hread.read, ← hsent.fed htime]
    exact c.read_fed
  · exact fun he => hbroken (hread.sound he)
  · intro he
    rcases hread.eof he with hb | ⟨hclosed, hall⟩
    · exact .inl (hbroken hb)
    · refine .inr ⟨hsent.closed.1 hclosed, ?_⟩
      rw [← hread.read, ← hsent.fed htime, hall]

theorem «break» (h : Conveyed payload receiver said heard inner bytes) (hb : bytes.Break bytes') :
    Conveyed payload receiver said heard inner bytes' := by
  obtain ⟨spoiled, c, hcarries, hsent, hread, hspoiled⟩ := h
  obtain ⟨c', hbreak, hcarries'⟩ := hcarries.break hb
  exact ⟨spoiled, c', hcarries', hsent.break hbreak, hread.break hbreak, hspoiled⟩

end Conveyed

section
variable {inbound : Serde A} {outbound : Serde B} {receiver receiver' : ConnectionCodec libs}
  {c c' : PpaassConnection libs} {peer : Reader (ConnectionCodec libs)}
  {said : List (SendEvent (String × String × A))} {heard : List (RecvEvent (String × String × A))}
  {said' : List (SendEvent (String × String × B))} {heard' : List (RecvEvent (String × String × B))}

open ConnectionCodec (Conveys)

/-- **A call at one end** goes over the links of messages in both directions. -/
theorem Conveyed.call {e : ConnectionEvent A B}
    (hstep : PpaassConnection.Step inbound outbound c e c')
    (hin : Conveyed inbound receiver said heard c.inner c.input)
    (hout : Conveyed outbound receiver' said' heard' peer c.output)
    (hhead : receiver'.status = .head)
    (hcalm : ∀ m r, e = .feed m r → (∀ xs, .feed xs false ∉ said') ∧ .close true ∉ said')
    (hconveys : ∀ m, e = .feed m (.ok ()) → Conveys outbound c.inner.codec receiver' m) :
    Conveyed inbound receiver said (heard ++ e.recv.toList) c'.inner c'.input ∧
      Conveyed outbound receiver' (said' ++ e.sent.toList) heard' peer c'.output := by
  obtain ⟨spoiled, cin, hcin, hsaid, hheard, hspoiled⟩ := hin
  obtain ⟨spoiled', cout, hcout, hsaid', hheard', hspoiled'⟩ := hout
  have hclean : ∀ m r, e = .feed m r → spoiled' = false ∧ c.output.closed = false := by
    intro m r he
    obtain ⟨hfailed, hclose⟩ := hcalm m r he
    constructor
    · by_contra hne
      obtain ⟨xs, hxs⟩ := hspoiled' (by simpa using hne)
      exact hfailed xs hxs
    · rw [← hcout.closed]
      exact Bool.eq_false_iff.2 fun hclosed => hclose (hsaid'.closed.1 hclosed)
  obtain ⟨cin', cout₀, cout', spoiled'', hrecv, hbreak, hsend, hcin', hcout', hafter⟩ :=
    hstep.carries hcin hcout hhead hclean hconveys
  refine ⟨⟨spoiled, cin', hcin', hsaid.recvs hrecv, hheard.recvs hrecv, hspoiled⟩, ?_⟩
  have hbroken : cout₀.SentBy said' ∧ cout₀.ReadBy heard' := by
    rcases hbreak with rfl | hbreak
    · exact ⟨hsaid', hheard'⟩
    · exact ⟨hsaid'.break hbreak, hheard'.break hbreak⟩
  refine ⟨spoiled'', cout', hcout', hbroken.1.sends hsend, hbroken.2.sends hsend, fun hs => ?_⟩
  rcases hafter hs with hs | ⟨xs, hxs⟩
  · obtain ⟨xs, hxs⟩ := hspoiled' hs
    exact ⟨xs, List.mem_append_left _ hxs⟩
  · exact ⟨xs, List.mem_append_right _ (Option.mem_toList.2 hxs)⟩

theorem Conveyed.poll (hpoll : PpaassConnection.Poll inbound c c')
    (hin : Conveyed inbound receiver said heard c.inner c.input) :
    Conveyed inbound receiver said heard c'.inner c'.input ∧ c'.output = c.output := by
  obtain ⟨spoiled, cin, hcin, hsaid, hheard, hspoiled⟩ := hin
  obtain ⟨hcin', houtput⟩ := hpoll.carries hcin
  exact ⟨⟨spoiled, cin, hcin', hsaid, hheard, hspoiled⟩, houtput⟩

end

end

/-! ## Both directions -/

section
variable {libs : Libs} {A B : Type} {inbound : Serde A} {outbound : Serde B}
  {leftFetcher rightFetcher : RsaCryptoFetcher libs} {d d' : Duplex libs A B}

namespace Duplex

/-- What an end has said, in order. -/
def said (calls : List (ConnectionEvent A B)) : List (SendEvent (String × String × B)) :=
  calls.filterMap ConnectionEvent.sent

def heard (calls : List (ConnectionEvent A B)) : List (RecvEvent (String × String × A)) :=
  calls.filterMap ConnectionEvent.recv

/-- An end that says only what travels, and feeds nothing once a feed has failed or it has
closed. -/
structure Orderly (outbound : Serde B) (sender receiver : RsaCryptoFetcher libs)
    (calls : List (ConnectionEvent A B)) : Prop where
  travels : ∀ m r, .feed m r ∈ calls → Travels outbound sender receiver m
  stops : calls.Pairwise fun x y =>
    (∃ m r, y = .feed m r) → (∀ m e, x ≠ .feed m (.error e)) ∧ x ≠ .close (.ok ())

theorem Orderly.of_append {sender receiver : RsaCryptoFetcher libs}
    {calls calls' : List (ConnectionEvent A B)}
    (h : Orderly outbound sender receiver (calls ++ calls')) :
    Orderly outbound sender receiver calls where
  travels m r hm := h.travels m r (List.mem_append_left _ hm)
  stops := (List.pairwise_append.1 h.stops).1

/-- Before its last call, if that is a feed, no feed has failed, and it has not closed. -/
theorem Orderly.calm {sender receiver : RsaCryptoFetcher libs} {calls : List (ConnectionEvent A B)}
    {e : ConnectionEvent A B} (h : Orderly outbound sender receiver (calls ++ [e]))
    {m : PpaassMessage B} {r : Except CommonError Unit} (he : e = .feed m r) :
    (∀ xs, .feed xs false ∉ said calls) ∧ .close true ∉ said calls := by
  have hbefore : ∀ x ∈ calls, (∀ m e, x ≠ .feed m (.error e)) ∧ x ≠ .close (.ok ()) := fun x hx =>
    (List.pairwise_append.1 h.stops).2.2 x hx e (List.mem_singleton.2 rfl) ⟨m, r, he⟩
  constructor
  · intro xs hmem
    obtain ⟨x, hx, hsent⟩ := List.mem_filterMap.1 hmem
    rcases x with r' | ⟨m', _ | e'⟩ | r' | r' <;> cases hsent
    exact (hbefore _ hx).1 m' _ rfl
  · intro hmem
    obtain ⟨x, hx, hsent⟩ := List.mem_filterMap.1 hmem
    rcases x with r' | ⟨m', r'⟩ | r' | (e' | ⟨⟩) <;> cases hsent
    exact (hbefore _ hx).2 rfl

/-- What an orderly end says is in time. -/
theorem Orderly.inTime {sender receiver : RsaCryptoFetcher libs}
    {calls : List (ConnectionEvent A B)} (h : Orderly outbound sender receiver calls) :
    Channel.InTime (said calls) := by
  refine List.pairwise_filterMap.2 (h.stops.imp ?_)
  rintro x y hafter _ hx _ hy ⟨xs, rfl⟩ rfl
  rcases y with r | ⟨m, e | ⟨⟩⟩ | r | r <;> cases hy
  rcases x with r' | ⟨m', r'⟩ | r' | (e' | ⟨⟩) <;> cases hx
  exact (hafter ⟨m, _, rfl⟩).2 rfl

theorem said_snoc (calls : List (ConnectionEvent A B)) (e : ConnectionEvent A B) :
    said (calls ++ [e]) = said calls ++ e.sent.toList := by
  unfold said
  cases he : e.sent <;> simp [he]

theorem heard_snoc (calls : List (ConnectionEvent A B)) (e : ConnectionEvent A B) :
    heard (calls ++ [e]) = heard calls ++ e.recv.toList := by
  unfold heard
  cases he : e.recv <;> simp [he]

/-- Each direction carries what was said there, and the codecs are still those of their ends. -/
structure Inv (inbound : Serde A) (outbound : Serde B)
    (leftFetcher rightFetcher : RsaCryptoFetcher libs) (d : Duplex libs A B) : Prop where
  up : Conveyed outbound (.new true rightFetcher) (said d.leftCalls) (heard d.rightCalls) d.right
    d.up
  down : Conveyed inbound (.new true leftFetcher) (said d.rightCalls) (heard d.leftCalls) d.left
    d.down
  left : d.left.codec.Configured leftFetcher true
  right : d.right.codec.Configured rightFetcher true

theorem new_inv : (Duplex.new leftFetcher rightFetcher).Inv inbound outbound leftFetcher
    rightFetcher where
  up := .new rfl
  down := .new rfl
  left := ⟨rfl, rfl⟩
  right := ⟨rfl, rfl⟩

/-- **A step keeps it.** -/
theorem Inv.step (hgzip : libs.GzipRoundTrips) (henv : libs.EnvelopeRoundTrips)
    (haes : libs.AesPermutes) (h : d.Inv inbound outbound leftFetcher rightFetcher)
    (hstep : Step inbound outbound d d')
    (hleft : Orderly outbound leftFetcher rightFetcher d'.leftCalls)
    (hright : Orderly inbound rightFetcher leftFetcher d'.rightCalls) :
    d'.Inv inbound outbound leftFetcher rightFetcher := by
  cases hstep with
  | @left e c hs =>
    obtain ⟨hdown, hup⟩ := Conveyed.call hs h.down h.up rfl (fun m r he => hleft.calm he) (by
      intro m he
      subst he
      have hm := hleft.travels m (.ok ()) List.mem_concat_self
      exact ConnectionCodec.conveys_of_travels hgzip henv haes h.left true hm)
    rw [← said_snoc] at hup
    rw [← heard_snoc] at hdown
    exact ⟨hup, hdown, hs.configured h.left, h.right⟩
  | @right e c hs =>
    obtain ⟨hup, hdown⟩ := Conveyed.call hs h.up h.down rfl (fun m r he => hright.calm he) (by
      intro m he
      subst he
      have hm := hright.travels m (.ok ()) List.mem_concat_self
      exact ConnectionCodec.conveys_of_travels hgzip henv haes h.right true hm)
    rw [← said_snoc] at hdown
    rw [← heard_snoc] at hup
    exact ⟨hup, hdown, h.left, hs.configured h.right⟩
  | leftPoll hpoll =>
    obtain ⟨hdown, hup⟩ := Conveyed.poll hpoll h.down
    refine ⟨?_, hdown, hpoll.configured h.left, h.right⟩
    dsimp only
    rw [hup]
    exact h.up
  | rightPoll hpoll =>
    obtain ⟨hup, hdown⟩ := Conveyed.poll hpoll h.up
    refine ⟨hup, ?_, h.left, hpoll.configured h.right⟩
    dsimp only
    rw [hdown]
    exact h.down
  | breakUp hb => exact { h with up := h.up.break hb }
  | breakDown hb => exact { h with down := h.down.break hb }

theorem step_calls (hstep : Step inbound outbound d d') :
    (∃ es, d'.leftCalls = d.leftCalls ++ es) ∧ ∃ es, d'.rightCalls = d.rightCalls ++ es := by
  cases hstep with
  | left hs => exact ⟨⟨_, rfl⟩, [], (List.append_nil _).symm⟩
  | right hs => exact ⟨⟨[], (List.append_nil _).symm⟩, _, rfl⟩
  | leftPoll | rightPoll | breakUp | breakDown =>
    exact ⟨⟨[], (List.append_nil _).symm⟩, [], (List.append_nil _).symm⟩

theorem reachable_inv (hgzip : libs.GzipRoundTrips) (henv : libs.EnvelopeRoundTrips)
    (haes : libs.AesPermutes) (h : Reachable inbound outbound leftFetcher rightFetcher d)
    (hleft : Orderly outbound leftFetcher rightFetcher d.leftCalls)
    (hright : Orderly inbound rightFetcher leftFetcher d.rightCalls) :
    d.Inv inbound outbound leftFetcher rightFetcher := by
  induction h with
  | refl => exact new_inv
  | tail _ hstep ih =>
    obtain ⟨⟨es, hes⟩, es', hes'⟩ := step_calls hstep
    have hbefore := ih (Orderly.of_append (hes ▸ hleft)) (Orderly.of_append (hes' ▸ hright))
    exact hbefore.step hgzip henv haes hstep hleft hright

/-- The user `user1` says `hello` and flushes it. -/
theorem exists_hello :
    ∃ d : Duplex Reference.libs PpaassProxyMessagePayload PpaassAgentMessagePayload,
      Reachable Reference.libs.proxyPayload Reference.libs.agentPayload (Reference.fetcher "user1")
        (Reference.fetcher "user1") d ∧
      d.leftCalls = [.feed Reference.hello (.ok ()), .flush (.ok ())] ∧ d.rightCalls = [] := by
  obtain ⟨frame, rng, hencode⟩ : ∃ frame, Encodes Reference.libs.agentPayload referenceCodec
      Reference.hello frame := ⟨_, encodes_referenceFrame (by decide +kernel)⟩
  obtain ⟨up, hsend⟩ := Channel.exists_feed Channel.empty frame
  let start : Duplex Reference.libs PpaassProxyMessagePayload PpaassAgentMessagePayload :=
    new (Reference.fetcher "user1") (Reference.fetcher "user1")
  have hfeed : PpaassConnection.Step Reference.libs.proxyPayload Reference.libs.agentPayload
      start.leftEnd (.feed Reference.hello (.ok ())) ⟨.new referenceCodec, .empty, up⟩ := by
    have hrun : (ConnectionCodec.encode Reference.libs.agentPayload rng Reference.hello).run
        (start.left.codec, start.up.pending) =
          .ok () (referenceCodec, start.up.pending ++ frame) := hencode
    exact @PpaassConnection.Step.encoded _ _ _ _ _ _ _ _ _ _ rng _ _ hrun hsend
  let fed : Duplex Reference.libs PpaassProxyMessagePayload PpaassAgentMessagePayload :=
    { start with up, leftCalls := [.feed Reference.hello (.ok ())] }
  obtain ⟨c, hflush⟩ : ∃ c, PpaassConnection.Step Reference.libs.proxyPayload
      Reference.libs.agentPayload fed.leftEnd (.flush (.ok ())) c := PpaassConnection.exists_flush
  have hfed : Reachable Reference.libs.proxyPayload Reference.libs.agentPayload
      (Reference.fetcher "user1") (Reference.fetcher "user1") fed := .single (.left hfeed)
  exact ⟨_, hfed.tail (.left hflush), rfl, rfl⟩

theorem orderly_hello : Orderly (A := PpaassProxyMessagePayload) Reference.libs.agentPayload
    (Reference.fetcher "user1") (Reference.fetcher "user1")
    [.feed Reference.hello (.ok ()), .flush (.ok ())] where
  travels m r h := by
    cases h with
    | head => exact travels_agentData "m1" .plain [104, 105]
    | tail _ h =>
      cases h with
      | tail _ h => cases h
  stops := by
    refine List.pairwise_pair.2 ?_
    rintro ⟨m, r, h⟩
    cases h

end Duplex

open Duplex

/-- **Each end hears what the other says**, whatever the calls and however the bytes are split. -/
theorem duplex_faithful (libs : Libs) (hgzip : libs.GzipRoundTrips) (henv : libs.EnvelopeRoundTrips)
    (haes : libs.AesPermutes) (inbound : Serde A) (outbound : Serde B)
    (leftFetcher rightFetcher : RsaCryptoFetcher libs) (d : Duplex libs A B)
    (h : d.Reachable inbound outbound leftFetcher rightFetcher)
    (hleft : Orderly outbound leftFetcher rightFetcher d.leftCalls)
    (hright : Orderly inbound rightFetcher leftFetcher d.rightCalls) :
    Faithful d.up (said d.leftCalls) (heard d.rightCalls) ∧
      Faithful d.down (said d.rightCalls) (heard d.leftCalls) := by
  have hinv := reachable_inv hgzip henv haes h hleft hright
  exact ⟨hinv.up.faithful hleft.inTime, hinv.down.faithful hright.inTime⟩

theorem duplex_faithful_hello :
    ∃ d : Duplex Reference.libs PpaassProxyMessagePayload PpaassAgentMessagePayload,
      said d.leftCalls = [.feed [("m1", "user1", .tcp (.data [104, 105]))] true, .flush true] ∧
      Faithful d.up (said d.leftCalls) (heard d.rightCalls) ∧
      Faithful d.down (said d.rightCalls) (heard d.leftCalls) := by
  obtain ⟨d, h, hleft, hright⟩ := exists_hello
  refine ⟨d, by rw [hleft]; rfl, ?_⟩
  apply duplex_faithful Reference.libs Reference.gzipRoundTrips Reference.envelopeRoundTrips
    Reference.aesPermutes Reference.libs.proxyPayload Reference.libs.agentPayload
    (Reference.fetcher "user1") (Reference.fetcher "user1") d h
  · rw [hleft]
    exact orderly_hello
  · rw [hright]
    exact ⟨by simp, .nil⟩

end

end Ppaass
