import WarpByokProxy.Auth
import WarpByokProxy.Server

/-
  The start of the proxy, translated from `run_server` in
  `main.rs`, with `validate_with_warnings` of `config.rs` and
  with `spawn` and `tls_config_from_pem` of `server.rs`, up
  to the loop that accepts connections.

  The file system, the sockets, the runtime and the parsers
  of TOML and PEM belong to the host and are parameters. An
  error is the chain of its messages, the outermost first.

  Key definitions include:
    * `ConfigFile`
    * `Config.validateWithWarnings`
    * `Host`
    * `tlsConfigFromPem`
    * `spawn`
    * `Started`
    * `runServer`
    * `Started.context`

  Key theorems include:
    * `withContext_eq_ok_iff`
    * `collectResults_eq_ok_iff`
-/

------------------------------------------------------------
-- The Configuration File
------------------------------------------------------------

namespace WarpByokProxy

variable {F : Type}

/- The knobs of the proxy itself. -/
structure Proxy where
  stubWarpApi : Bool
deriving DecidableEq, Repr

/-
  A parsed configuration file: what requests are translated
  with, and what is read at startup alone.
-/
structure ConfigFile where
  cfg : Config
  authMode : Config.AuthMode
  profile : Option String
  endpoint : Option String
  proxy : Proxy

/- The name of an effort, as it is shown. -/
def Effort.name : Effort → String
  | .low => "Low"
  | .medium => "Medium"
  | .high => "High"
  | .max => "Max"

/- Warn of settings that are ignored while thinking is off. -/
def Thinking.warnings
    (thinking : Thinking) : List String :=
  if thinking.mode = .off then
    (if thinking.effort ≠ .max then
      ["thinking.mode=\"off\" but effort=\"" ++
        thinking.effort.name ++
        "\" is set; effort will be ignored"]
    else
      []) ++
    (if thinking.budgetTokens.isSome then
      ["thinking.mode=\"off\" but budget_tokens is set; " ++
        "ignored"]
    else
      [])
  else
    []

/- The startup checks, and the warnings if they pass. -/
def Config.validateWithWarnings
    (serde : SerdeJson F)
    (jsonError : String → String)
    (self : Config) : Except String (List String) :=
  match self.validate serde jsonError with
  | .error e => .error e
  | .ok () => .ok self.bedrock.thinking.warnings

end WarpByokProxy

------------------------------------------------------------
-- The Host
------------------------------------------------------------

namespace WarpByokProxy

variable {F : Type}

/- A bound socket, with what asking for its address says. -/
structure TcpListener where
  localAddr : Except String String

/-
  What the proxy asks of the system that it is started on.
  Opening a file reads it. The PEM parser finds items of one
  kind in its bytes, each of them decoded or not, and the TLS
  library accepts a chain of certificates with a key or not.
-/
structure Host where
  configDir : Option String
  readToString : String → Except String String
  parseToml : String → Except String ConfigFile
  awsBearerTokenBedrock : Option String
  pathExists : String → Bool
  buildRuntime : Except String Unit
  openFile : String → Except String (List UInt8)
  pemCerts :
    List UInt8 → List (Except String (List UInt8))
  pkcs8PrivateKeys :
    List UInt8 → List (Except String (List UInt8))
  acceptsCert :
    (certs : List (List UInt8)) → (key : List UInt8) →
      Except String Unit
  bindTcp : String → Except String TcpListener

/- `Path::join`, for a relative path. -/
def joinPath
    (dir path : String) : String :=
  if dir.isEmpty || dir.toList.getLast? = some '/' then
    dir ++ path
  else
    dir ++ "/" ++ path

/- Put a message in front of an error. -/
def withContext
    {α : Type}
    (message : String)
    (result : Except String α) : Except (List String) α :=
  match result with
  | .error e => .error [message, e]
  | .ok a => .ok a

theorem withContext_eq_ok_iff
    {α : Type}
    (message : String)
    (result : Except String α)
    (a : α) :
    withContext message result = .ok a ↔ result = .ok a := by
  cases result with
  | error e => simp [withContext]
  | ok b => simp [withContext]

/- Pass an error on as it is. -/
def withoutContext
    {α : Type}
    (result : Except String α) : Except (List String) α :=
  match result with
  | .error e => .error [e]
  | .ok a => .ok a

theorem withoutContext_eq_ok_iff
    {α : Type}
    (result : Except String α)
    (a : α) :
    withoutContext result = .ok a ↔ result = .ok a := by
  cases result with
  | error e => simp [withoutContext]
  | ok b => simp [withoutContext]

/- `Context::context` of an option. -/
def orMessage
    {α : Type}
    (message : String)
    (value : Option α) : Except (List String) α :=
  match value with
  | none => .error [message]
  | some a => .ok a

theorem orMessage_eq_ok_iff
    {α : Type}
    (message : String)
    (value : Option α)
    (a : α) :
    orMessage message value = .ok a ↔ value = some a := by
  cases value with
  | none => simp [orMessage]
  | some b => simp [orMessage]

/- `anyhow::ensure!`. -/
def ensure
    (condition : Bool)
    (message : String) : Except (List String) Unit :=
  if condition then .ok () else .error [message]

theorem ensure_eq_ok_iff
    (condition : Bool)
    (message : String)
    (done : Unit) :
    ensure condition message = .ok done ↔
      condition = true := by
  cases condition with
  | false => simp [ensure]
  | true => simp [ensure]

/- A mapped error is no success. -/
theorem mapError_eq_ok_iff
    {E E' α : Type}
    (f : E → E')
    (result : Except E α)
    (a : α) :
    result.mapError f = .ok a ↔ result = .ok a := by
  cases result with
  | error e => simp [Except.mapError]
  | ok b => simp [Except.mapError]

/- A sequence succeeds when each of its parts does. -/
theorem bind_eq_ok_iff
    {E α β : Type}
    {first : Except E α}
    {next : α → Except E β}
    {b : β} :
    (first >>= next) = .ok b ↔
      ∃ a, first = .ok a ∧ next a = .ok b := by
  cases first with
  | error e => simp [bind, Except.bind]
  | ok a => simp [bind, Except.bind]

end WarpByokProxy

------------------------------------------------------------
-- The Listener
------------------------------------------------------------

namespace WarpByokProxy

/- `collect` into a result: the first error, or all values. -/
def collectResults
    {E α : Type} :
    List (Except E α) → Except E (List α)
  | [] => .ok []
  | .error e :: _ => .error e
  | .ok a :: results => do
      let rest ← collectResults results
      return a :: rest

theorem collectResults_eq_ok_iff
    {E α : Type}
    (results : List (Except E α))
    (values : List α) :
    collectResults results = .ok values ↔
      results = values.map .ok := by
  induction results generalizing values with
  | nil =>
      rw [collectResults, Except.ok.injEq, eq_comm,
        eq_comm (a := []), List.map_eq_nil_iff]
  | cons result results ih =>
      cases result with
      | error e =>
          cases values with
          | nil => simp [collectResults]
          | cons value values => simp [collectResults]
      | ok a =>
          rw [collectResults, bind_eq_ok_iff]
          constructor
          · rintro ⟨rest, hRest, hValues⟩
            obtain rfl := Except.ok.inj hValues
            rw [(ih rest).mp hRest, List.map_cons]
          · intro hResults
            cases values with
            | nil => contradiction
            | cons value values =>
                rw [List.map_cons, List.cons.injEq,
                  Except.ok.injEq] at hResults
                rcases hResults with ⟨rfl, hRest⟩
                exact ⟨values, (ih values).mpr hRest, rfl⟩

/- What TLS connections are accepted with. -/
structure ServerConfig where
  certs : List (List UInt8)
  key : List UInt8

/- A server that listens at an address. -/
structure Listening where
  addr : String
  tls : ServerConfig

/-
  The certificates of one file with the first key of the
  other. The crypto provider is installed before that, which
  is not looked at.
-/
def tlsConfigFromPem
    (host : Host)
    (certPem keyPem : String) :
    Except (List String) ServerConfig := do
  let certFile ← withoutContext (host.openFile certPem)
  let certs ←
    withoutContext (collectResults (host.pemCerts certFile))
  let keyFile ← withoutContext (host.openFile keyPem)
  let first ←
    orMessage "no pkcs8 key"
      (host.pkcs8PrivateKeys keyFile).head?
  let key ← withoutContext first
  withoutContext (host.acceptsCert certs key)
  .ok { certs := certs, key := key }

/-
  Bind the listener. Connections are accepted from then on,
  until the server is shut down.
-/
def spawn
    (host : Host)
    (bind certPem keyPem : String) :
    Except (List String) Listening := do
  let tlsCfg ← tlsConfigFromPem host certPem keyPem
  let listener ← withContext "bind" (host.bindTcp bind)
  let addr ← withoutContext listener.localAddr
  .ok { addr := addr, tls := tlsCfg }

end WarpByokProxy

------------------------------------------------------------
-- The Start
------------------------------------------------------------

namespace WarpByokProxy

variable {F Chunk : Type}

/- A proxy that is ready, with the warnings that it logged. -/
structure Started (F : Type) where
  warnings : List String
  auth : ResolvedAuth
  client : ClientSettings
  cfg : Config
  stubWarpApi : Bool
  bedrock : RealBedrock F
  listening : Listening

/- What the configuration and the environment say of auth. -/
def Host.authInputs
    (host : Host)
    (file : ConfigFile) : AuthInputs :=
  { AuthInputs.default with
    mode := .ofConfig file.authMode
    apiKey := host.awsBearerTokenBedrock
    profile := file.profile
    region := some file.cfg.bedrock.region }

/- Load, check and set up everything, up to the listener. -/
def runServer
    (serde : SerdeJson F)
    (jsonError : String → String)
    (builders : Sdk.ToolBuilders F)
    (host : Host)
    (bind : String) : Except (List String) (Started F) := do
  let configDir ← orMessage "no config_dir" host.configDir
  let cfgPath :=
    joinPath configDir "warp-byok-proxy/config.toml"
  let cfgText ←
    withContext ("read config at " ++ cfgPath)
      (host.readToString cfgPath)
  let file ←
    withContext "parse config.toml" (host.parseToml cfgText)
  withContext "config.validate()"
    (file.cfg.validate serde jsonError)
  let warnings :=
    (file.cfg.validateWithWarnings serde
      jsonError).toOption.getD []
  let resolved ←
    withContext "resolve auth"
      ((resolveAuth (host.authInputs file)).mapError
        AuthError.text)
  let certDir := joinPath configDir "warp-byok-proxy"
  let certPem := joinPath certDir "cert.pem"
  let keyPem := joinPath certDir "key.pem"
  ensure (host.pathExists certPem && host.pathExists keyPem)
    ("cert not found at " ++ certPem ++
      ". Run `warp-byok-proxy cert --install` first.")
  withContext "build tokio runtime" host.buildRuntime
  let client ←
    withoutContext
      (buildClient resolved file.cfg.bedrock.region
        file.endpoint)
  let toolConfig ←
    withContext
      "translate cfg.bedrock.tools to ToolConfiguration"
      (toolsToSdk serde jsonError builders
        file.cfg.bedrock.tools)
  let listening ← spawn host bind certPem keyPem
  .ok
    { warnings := warnings
      auth := resolved
      client := client
      cfg := file.cfg
      stubWarpApi := file.proxy.stubWarpApi
      bedrock := { toolConfig := toolConfig }
      listening := listening }

/- The libraries that a started proxy serves with. -/
structure Libraries (F Chunk : Type) where
  serde : SerdeJson F
  dynMsgToJson : DynMsgToJson F
  builders : Sdk.Builders F
  decodeRequest :
    List UInt8 → Except String Wmaa.DecodedRequest
  encodeSseEvent : Wmaa.ResponseEvent → Chunk
  uuids : Nat → String

/- What the server of a started proxy is started with. -/
def Started.context
    (libraries : Libraries F Chunk)
    (self : Started F) : ServerContext F Chunk where
  serde := libraries.serde
  dynMsgToJson := libraries.dynMsgToJson
  builders := libraries.builders
  decodeRequest := libraries.decodeRequest
  encodeSseEvent := libraries.encodeSseEvent
  uuids := libraries.uuids
  cfg := self.cfg
  stubWarpApi := self.stubWarpApi
  bedrock := self.bedrock

end WarpByokProxy
