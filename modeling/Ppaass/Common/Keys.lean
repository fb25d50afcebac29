import Ppaass.Common.Codec
import Ppaass.Lib.FileSystem

/-!
# Key files (`common/src/crypto/rsa.rs`, `agent/src/crypto.rs`, `proxy/src/crypto.rs`)

`generateAgentKeyPairs` and `generateProxyKeyPairs` write the key pair of one side for one user
token; `AgentServerRsaCryptoFetcher.new` and `ProxyServerRsaCryptoFetcher.new` read the keys of
every user token of a directory. `RsaKeys` is the part of the `rsa` crate that makes keys, writes
them as PEM text (with `LineEnding::CRLF`) and reads them.

A path with a NUL byte fails where it is made, the first operation on it being the one that fails in
the source. What is printed and logged is left out.
-/

namespace Ppaass

open Wire Framed Fs

/-! ## `crypto/rsa.rs` -/

def DEFAULT_AGENT_PRIVATE_KEY_PATH : String := "AgentPrivateKey.pem"
def DEFAULT_AGENT_PUBLIC_KEY_PATH : String := "AgentPublicKey.pem"
def DEFAULT_PROXY_PRIVATE_KEY_PATH : String := "ProxyPrivateKey.pem"
def DEFAULT_PROXY_PUBLIC_KEY_PATH : String := "ProxyPublicKey.pem"

structure RsaKeys (libs : Libs) where
  /-- `RsaPublicKey::from` -/
  publicKey : libs.RsaPrivateKey → libs.RsaPublicKey
  toPkcs8Pem : libs.RsaPrivateKey → Except RsaPkcs8Error String
  toPublicKeyPem : libs.RsaPublicKey → Except RsaPkcs8SpkiError String
  fromPkcs8Pem : String → Except RsaPkcs8Error libs.RsaPrivateKey
  fromPublicKeyPem : String → Except RsaPkcs8SpkiError libs.RsaPublicKey

/-- `Read::read_to_string`, of what reading to the end gives. -/
def readToString (read : Except StdIoError Bytes) : Except StdIoError String := do
  match ofUtf8 (← read) with
  | some s => return s
  | none => throw "stream did not contain valid UTF-8"

section
variable {libs : Libs} (keys : RsaKeys libs)

def RsaCrypto.new (publicKeyRead privateKeyRead : Except StdIoError Bytes) :
    Except RsaError (RsaCrypto libs) := do
  let publicKeyString ← (readToString publicKeyRead).mapError .io
  let publicKey ← (keys.fromPublicKeyPem publicKeyString).mapError .pkcs8Spki
  let privateKeyString ← (readToString privateKeyRead).mapError .io
  let privateKey ← (keys.fromPkcs8Pem privateKeyString).mapError .pkcs8
  return ⟨privateKey, publicKey⟩

/-- `Result::expect`. -/
def expect {ε α : Type} (what : String) : Except ε α → FileSystem.M (Fault CommonError) α
  | .ok a => pure a
  | .error _ => throw (.panic what)

/-- The `?` operator on an operation of the file system. -/
def liftIo {α : Type} (x : FileSystem.M StdIoError α) : FileSystem.M (Fault CommonError) α :=
  EStateM.adaptExcept (fun e => .err (.io e)) x

/-- A key is written, into a directory that is created if it does not exist. -/
def writeKey (path pem : String) : FileSystem.M (Fault CommonError) Unit :=
  liftIo do
    match Path.ofString path with
    | .error e => throw e
    | .ok path =>
      match path.parent with
      | none => FileSystem.write path (utf8 pem)
      | some parent =>
        if ((← get).node parent).isNone then FileSystem.createDirAll parent
        FileSystem.write path (utf8 pem)

/-- `privateKey` is what `RsaPrivateKey::new` draws. -/
def generateRsaKeyPairs (privateKey : Except ConcreteRsaError libs.RsaPrivateKey)
    (privateKeyPath publicKeyPath : String) : FileSystem.M (Fault CommonError) Unit := do
  let privateKey ← expect "Fail to generate private key" privateKey
  let publicKey := keys.publicKey privateKey
  let privateKeyPem ← expect "Fail to generate pem for private key." (keys.toPkcs8Pem privateKey)
  let publicKeyPem ← expect "Fail to generate pem for public key." (keys.toPublicKeyPem publicKey)
  writeKey privateKeyPath privateKeyPem
  writeKey publicKeyPath publicKeyPem

def generateAgentKeyPairs (baseDir userToken : String)
    (privateKey : Except ConcreteRsaError libs.RsaPrivateKey) :
    FileSystem.M (Fault CommonError) Unit :=
  generateRsaKeyPairs keys privateKey s!"{baseDir}/{userToken}/{DEFAULT_AGENT_PRIVATE_KEY_PATH}"
    s!"{baseDir}/{userToken}/{DEFAULT_AGENT_PUBLIC_KEY_PATH}"

def generateProxyKeyPairs (baseDir userToken : String)
    (privateKey : Except ConcreteRsaError libs.RsaPrivateKey) :
    FileSystem.M (Fault CommonError) Unit :=
  generateRsaKeyPairs keys privateKey s!"{baseDir}/{userToken}/{DEFAULT_PROXY_PRIVATE_KEY_PATH}"
    s!"{baseDir}/{userToken}/{DEFAULT_PROXY_PUBLIC_KEY_PATH}"

/-! ## The fetchers -/

/-- `File::open`. -/
def fileOpen (fs : FileSystem) (path : String) : Except StdIoError (Except StdIoError Bytes) := do
  fs.openFile (← Path.ofString path)

/-- `HashMap<String, RsaCrypto>`. -/
abbrev KeyCache (libs : Libs) := AList fun _ : String => RsaCrypto libs

/-- The keys of one user token, if both files can be opened and hold keys. -/
def readKeys (fs : FileSystem) (rsaDirPath publicKeyName privateKeyName userToken : String) :
    Option (RsaCrypto libs) := do
  let publicKeyFile ← (fileOpen fs s!"{rsaDirPath}{userToken}/{publicKeyName}").toOption
  let privateKeyFile ← (fileOpen fs s!"{rsaDirPath}{userToken}/{privateKeyName}").toOption
  (RsaCrypto.new keys publicKeyFile privateKeyFile).toOption

/-- One round of `for_each`: an entry with anything wrong is left out. -/
def loadEntry (fs : FileSystem) (rsaDirPath publicKeyName privateKeyName : String)
    (cache : KeyCache libs) (entry : Except StdIoError Bytes) : KeyCache libs :=
  match entry with
  | .error _ => cache
  | .ok fileName =>
    match ofUtf8 fileName with
    | none => cache
    | some userToken =>
      match readKeys keys fs rsaDirPath publicKeyName privateKeyName userToken with
      | none => cache
      | some rsaCrypto => cache.insert userToken rsaCrypto

/-- An error of `anyhow` with the context it was given. -/
structure AnyhowError where
  context : String
  source : StdIoError

end

namespace Agent

structure AgentServerRsaCryptoFetcher (libs : Libs) where
  cache : KeyCache libs

namespace AgentServerRsaCryptoFetcher

variable {libs : Libs}

/-- `rsaDir` is what `read_dir` gives. -/
def new (keys : RsaKeys libs) (fs : FileSystem) (rsaDirPath : String)
    (rsaDir : Except StdIoError (List (Except StdIoError Bytes))) :
    Except AnyhowError (AgentServerRsaCryptoFetcher libs) := do
  let rsaDir ← rsaDir.mapError fun e => ⟨"fail to read rsa directory", e⟩
  return ⟨rsaDir.foldl (loadEntry keys fs rsaDirPath "ProxyPublicKey.pem" "AgentPrivateKey.pem") ∅⟩

def fetch (self : AgentServerRsaCryptoFetcher libs) : RsaCryptoFetcher libs := fun userToken =>
  .ok (self.cache.lookup userToken)

end AgentServerRsaCryptoFetcher

end Agent

namespace Proxy

structure ProxyServerRsaCryptoFetcher (libs : Libs) where
  cache : KeyCache libs

namespace ProxyServerRsaCryptoFetcher

variable {libs : Libs}

def new (keys : RsaKeys libs) (fs : FileSystem) (rsaDirPath : String)
    (rsaDir : Except StdIoError (List (Except StdIoError Bytes))) :
    Except RsaError (ProxyServerRsaCryptoFetcher libs) := do
  let rsaDir ← rsaDir.mapError .io
  return ⟨rsaDir.foldl (loadEntry keys fs rsaDirPath "AgentPublicKey.pem" "ProxyPrivateKey.pem") ∅⟩

def fetch (self : ProxyServerRsaCryptoFetcher libs) : RsaCryptoFetcher libs := fun userToken =>
  .ok (self.cache.lookup userToken)

end ProxyServerRsaCryptoFetcher

end Proxy

/-! ## Runs of the tool -/

inductive KeyOwner where
  | agent
  | proxy
  deriving DecidableEq

/-- One call of the generator, with the key it draws. -/
structure KeyCall (libs : Libs) where
  owner : KeyOwner
  userToken : String
  privateKey : Except ConcreteRsaError libs.RsaPrivateKey

def KeyCall.run {libs : Libs} (keys : RsaKeys libs) (baseDir : String) (call : KeyCall libs) :
    FileSystem.M (Fault CommonError) Unit :=
  match call.owner with
  | .agent => generateAgentKeyPairs keys baseDir call.userToken call.privateKey
  | .proxy => generateProxyKeyPairs keys baseDir call.userToken call.privateKey

/-- Calls with one base directory, in any order and number; `calls` are those that succeeded, and
one that does not may leave files behind. -/
inductive Provisions {libs : Libs} (keys : RsaKeys libs) (baseDir : String) (fs : FileSystem) :
    (calls : List (KeyCall libs)) → FileSystem → Prop
  | nil : Provisions keys baseDir fs [] fs
  | succeeded {calls : List (KeyCall libs)} {call : KeyCall libs} {fs' fs'' : FileSystem} :
      Provisions keys baseDir fs calls fs' → (call.run keys baseDir).run fs' = .ok () fs'' →
        Provisions keys baseDir fs (calls ++ [call]) fs''
  | failed {calls : List (KeyCall libs)} {call : KeyCall libs} {fs' fs'' : FileSystem}
      {e : Fault CommonError} :
      Provisions keys baseDir fs calls fs' → (call.run keys baseDir).run fs' = .error e fs'' →
        Provisions keys baseDir fs calls fs''

end Ppaass
