import Ppaass.Agent.Error
import Ppaass.Lib.Framed

/-!
# HTTP requests (`agent/src/transport/http`)

`HttpLib` is what the code takes from `bytecodec`, `httpcodec` and `url`. `decode` gives the request
decoder the whole read buffer and takes nothing off it. `target` is what the handshake makes of a
request before it asks the proxy: the destination, and the data the proxy is to send there first.
-/

namespace Ppaass.Agent

open Wire Framed

/-- `url::Url`, by what is read of it. -/
structure Url where
  scheme : String
  host : Option String
  port : Option UInt16
  text : String

structure HttpResponse where
  httpVersion : String
  statusCode : UInt16
  reasonPhrase : String
  body : Bytes
  deriving DecidableEq, Repr

/-- How `decode_exact` ends. -/
inductive DecodeExact (α : Type) where
  | done (item : α)
  | incompleteDecoding
  | error (e : BytecodecError)

structure HttpLib where
  Request : Type
  method : Request → String
  requestTarget : Request → String
  /-- the state of a request decoder, that of a new one, and what it makes of some bytes -/
  RequestDecoder : Type
  requestDecoder : RequestDecoder
  decodeExact : RequestDecoder → Bytes → DecodeExact Request × RequestDecoder
  encodeRequest : Request → Except BytecodecError Bytes
  encodeResponse : HttpResponse → Except BytecodecError Bytes
  parseUrl : String → Except UrlParseError Url

/-- The library where no request ever comes. -/
def HttpLib.none : HttpLib where
  Request := Empty
  method := nofun
  requestTarget := nofun
  RequestDecoder := Unit
  requestDecoder := ()
  decodeExact _ _ := (.incompleteDecoding, ())
  encodeRequest := nofun
  encodeResponse _ := .error ""
  parseUrl _ := .error ""

/-- The library where every request is a CONNECT to one target, whose URL is known. -/
def HttpLib.connect (requestTarget : String) (url : Url) : HttpLib where
  Request := Unit
  method _ := "CONNECT"
  requestTarget _ := requestTarget
  RequestDecoder := Unit
  requestDecoder := ()
  decodeExact _ bytes := (if bytes = [] then .incompleteDecoding else .done (), ())
  encodeRequest _ := .error ""
  encodeResponse _ := .ok []
  parseUrl text := if text = url.text then .ok url else .error ""

def HTTPS_SCHEMA : String := "https"

def SCHEMA_SEP : String := "://"

def CONNECT_METHOD : String := "connect"

def HTTPS_DEFAULT_PORT : UInt16 := 443

def HTTP_DEFAULT_PORT : UInt16 := 80

def OK_CODE : UInt16 := 200

def CONNECTION_ESTABLISHED : String := "Connection Established"

variable (http : HttpLib)

namespace HttpCodec

def decode : CodecM http.RequestDecoder HttpDecodeError (Option http.Request) := do
  let (requestDecoder, src) ← get
  let (result, requestDecoder) := http.decodeExact requestDecoder src
  setCodec requestDecoder
  match result with
  | .done request => return some request
  | .incompleteDecoding => return none
  | .error e => throw (.err (.lowLevel e))

def encode (item : HttpResponse) : CodecM http.RequestDecoder HttpEncodeError Unit := do
  put (← orThrow .lowLevel (http.encodeResponse item))

end HttpCodec

/-! ## The destination of a request -/

/-- The URL of the destination and the data for it: a CONNECT request names a host and a port and
is for the agent itself, any other request is passed on. -/
def requestUrl (request : http.Request) : Except AgentError (String × Option Bytes) :=
  if (http.method request).toLower == CONNECT_METHOD then
    .ok (HTTPS_SCHEMA ++ SCHEMA_SEP ++ http.requestTarget request, none)
  else
    match http.encodeRequest request with
    | .ok encodeResult => .ok (http.requestTarget request, some encodeResult)
    | .error e => .error (.encode (.http (.lowLevel e)))

def targetPort (url : Url) : UInt16 :=
  url.port.getD (if url.scheme == HTTPS_SCHEMA then HTTPS_DEFAULT_PORT else HTTP_DEFAULT_PORT)

/-- The destination a URL names, unless it is the agent's own host. -/
def urlDestination (url : Url) : Except AgentError PpaassUnifiedAddress :=
  match url.host with
  | none => .error (.conversion (.noHost url.text))
  | some targetHost =>
    if targetHost == "0.0.0.1" || targetHost == "127.0.0.1" then
      .error (.other "0.0.0.1 or 127.0.0.1 is not a valid destination address")
    else .ok (.domain targetHost (targetPort url))

/-- The destination of a request and the data to send there first. -/
def target (request : http.Request) : Except AgentError (PpaassUnifiedAddress × Option Bytes) := do
  let (requestUrl, initData) ← requestUrl http request
  let parsedRequestUrl ← (http.parseUrl requestUrl).mapError fun e => .conversion (.urlFormat e)
  return (← urlDestination parsedRequestUrl, initData)

def httpConnectSuccessResponse : HttpResponse := ⟨"HTTP/1.1", OK_CODE, CONNECTION_ESTABLISHED, []⟩

end Ppaass.Agent
