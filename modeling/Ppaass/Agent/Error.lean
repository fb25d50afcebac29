import Ppaass.Common.Address

/-!
# The agent's errors (`agent/src/error.rs`)
-/

namespace Ppaass.Agent

/-- The debug text of an error of `bytecodec` or `url`. -/
abbrev BytecodecError := String
abbrev UrlParseError := String

inductive ParseError where
  | inputExhausted (message : String)
  | invalidFormat (message : String)
  deriving DecidableEq, Repr

inductive ConversionError where
  | io (e : StdIoError)
  | urlFormat (e : UrlParseError)
  | noHost (url : String)
  deriving DecidableEq, Repr

inductive Socks5DecodeError where
  | invalidVersion (version : UInt8)
  | invalidInitCommandType (type : UInt8)
  | noRemaining (message : String)
  | parse (e : ParseError)
  | io (e : StdIoError)
  deriving DecidableEq, Repr

inductive HttpDecodeError where
  | io (e : StdIoError)
  | lowLevel (e : BytecodecError)
  deriving DecidableEq, Repr

inductive DecoderError where
  | socks5 (e : Socks5DecodeError)
  | http (e : HttpDecodeError)
  | io (e : StdIoError)
  | unknownProtocol
  | unsupportProtocol
  deriving DecidableEq, Repr

inductive Socks5EncodeError where
  | io (e : StdIoError)
  deriving DecidableEq, Repr

inductive HttpEncodeError where
  | io (e : StdIoError)
  | lowLevel (e : BytecodecError)
  deriving DecidableEq, Repr

inductive EncoderError where
  | socks5 (e : Socks5EncodeError)
  | http (e : HttpEncodeError)
  deriving DecidableEq, Repr

inductive NetworkError where
  | propertyModification (e : StdIoError)
  | tcpConnect (e : StdIoError)
  | clientUdpRecv (e : StdIoError)
  | timeout (seconds : UInt64)
  | connectionExhausted
  deriving DecidableEq, Repr

inductive AgentError where
  | network (e : NetworkError)
  | encode (e : EncoderError)
  | decode (e : DecoderError)
  | common (e : CommonError)
  | conversion (e : ConversionError)
  | invalidProxyResponse (message : String)
  | io (e : StdIoError)
  | other (message : String)
  deriving DecidableEq, Repr

end Ppaass.Agent
