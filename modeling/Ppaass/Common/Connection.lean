import Ppaass.Common.Codec
import Ppaass.Lib.FramedLink

/-!
# Connections (`common/src/connection`)

`PpaassAgentConnection` and `PpaassProxyConnection` are each a `Framed` over a TCP stream: a stream
of the messages that the codec decodes from the bytes which come in, and a sink that writes the
frames of those it encodes. One codec does both. The two types of the source are one text with the
codecs swapped; `PpaassConnection.Step` is what one call at the sink or the stream does, with any
answer the network allows, and `PpaassConnection.Poll` one round of `poll_next` that answers nothing
yet.
-/

namespace Ppaass

open Wire Framed

/-- A call at a connection, and its answer. -/
inductive ConnectionEvent (A B : Type) where
  | next (r : Option (Except CommonError (PpaassMessage A)))
  | feed (message : PpaassMessage B) (r : Except CommonError Unit)
  | flush (r : Except CommonError Unit)
  | close (r : Except CommonError Unit)

/-- The `Framed` and the two directions of its TCP stream. The write buffer is what was given to
`output` and is not written yet. -/
structure PpaassConnection (libs : Libs) where
  inner : Reader (ConnectionCodec libs)
  input : Channel UInt8
  output : Channel UInt8

namespace PpaassConnection

variable {libs : Libs} {A B : Type}

/-- The error of `decode_eof`. -/
def bytesRemaining : CommonError := .io bytesRemainingOnStream

/-- What `poll_next` returns; where `decode` panics it does not. -/
def answered {ι : Type} : Polled CommonError ι → Option (Option (Except CommonError ι))
  | none => some none
  | some (.ok i) => some (some (.ok i))
  | some (.error (.err e)) => some (some (.error e))
  | some (.error (.panic _)) => none

variable (inbound : Serde A) (outbound : Serde B)

inductive Step : PpaassConnection libs → ConnectionEvent A B → PpaassConnection libs → Prop
  | next {inner inner' : Reader (ConnectionCodec libs)} {input input' output : Channel UInt8}
      {p : Polled CommonError (PpaassMessage A)} {r : Option (Except CommonError (PpaassMessage A))}
      (h : Reader.Round (ConnectionCodec.decode inbound) .io bytesRemaining inner input (some p)
        inner' input') (hr : answered p = some r) :
      Step ⟨inner, input, output⟩ (.next r) ⟨inner', input', output⟩
  /-- `poll_ready` makes room in the write buffer, and fails -/
  | ready {inner : Reader (ConnectionCodec libs)} {input output output' : Channel UInt8}
      (message : PpaassMessage B) (e : StdIoError) (h : output.Send (.feed [] false) output') :
      Step ⟨inner, input, output⟩ (.feed message (.error (.io e))) ⟨inner, input, output'⟩
  /-- `start_send` encodes to the write buffer -/
  | encoded {inner : Reader (ConnectionCodec libs)} {input output output' : Channel UInt8}
      {message : PpaassMessage B} {rng : libs.OsRng} {codec : ConnectionCodec libs} {bytes : Bytes}
      (hencode : (ConnectionCodec.encode outbound rng message).run (inner.codec, output.pending) =
        .ok () (codec, output.pending ++ bytes))
      (h : output.Send (.feed bytes true) output') :
      Step ⟨inner, input, output⟩ (.feed message (.ok ())) ⟨{ inner with codec }, input, output'⟩
  /-- what `encode` has written before it fails stays in the write buffer -/
  | refused {inner : Reader (ConnectionCodec libs)} {input output output' : Channel UInt8}
      {message : PpaassMessage B} {rng : libs.OsRng} {codec : ConnectionCodec libs} {bytes : Bytes}
      {e : CommonError}
      (hencode : (ConnectionCodec.encode outbound rng message).run (inner.codec, output.pending) =
        .error (.err e) (codec, output.pending ++ bytes))
      (h : output.Send (.feed bytes true) output') :
      Step ⟨inner, input, output⟩ (.feed message (.error e)) ⟨{ inner with codec }, input, output'⟩
  | flush {inner : Reader (ConnectionCodec libs)} {input output output' : Channel UInt8}
      {r : Except CommonError Unit} (h : output.Send (.flush (Except.isOk r)) output') :
      Step ⟨inner, input, output⟩ (.flush r) ⟨inner, input, output'⟩
  | close {inner : Reader (ConnectionCodec libs)} {input output output' : Channel UInt8}
      {r : Except CommonError Unit} (h : output.Send (.close (Except.isOk r)) output') :
      Step ⟨inner, input, output⟩ (.close r) ⟨inner, input, output'⟩

/-- A call, or none. -/
def Steps (c : PpaassConnection libs) :
    Option (ConnectionEvent A B) → PpaassConnection libs → Prop
  | none, c' => c' = c
  | some e, c' => Step inbound outbound c e c'

/-- A round of `poll_next` that goes on. -/
inductive Poll : PpaassConnection libs → PpaassConnection libs → Prop
  | mk {inner inner' : Reader (ConnectionCodec libs)} {input input' output : Channel UInt8}
      (h : Reader.Round (ConnectionCodec.decode inbound) .io bytesRemaining inner input none inner'
        input') : Poll ⟨inner, input, output⟩ ⟨inner', input', output⟩

end PpaassConnection

/-- `connection/agent.rs`: it is on the proxy. -/
abbrev PpaassAgentConnection := PpaassConnection

namespace PpaassAgentConnection

variable {libs : Libs}

def Steps : PpaassAgentConnection libs →
    Option (ConnectionEvent PpaassAgentMessagePayload PpaassProxyMessagePayload) →
    PpaassAgentConnection libs → Prop :=
  PpaassConnection.Steps libs.agentPayload libs.proxyPayload

def Poll : PpaassAgentConnection libs → PpaassAgentConnection libs → Prop :=
  PpaassConnection.Poll libs.agentPayload

end PpaassAgentConnection

/-- `connection/proxy.rs`: it is on the agent. -/
abbrev PpaassProxyConnection := PpaassConnection

namespace PpaassProxyConnection

variable {libs : Libs}

def Steps : PpaassProxyConnection libs →
    Option (ConnectionEvent PpaassProxyMessagePayload PpaassAgentMessagePayload) →
    PpaassProxyConnection libs → Prop :=
  PpaassConnection.Steps libs.proxyPayload libs.agentPayload

def Poll : PpaassProxyConnection libs → PpaassProxyConnection libs → Prop :=
  PpaassConnection.Poll libs.proxyPayload

end PpaassProxyConnection

end Ppaass
