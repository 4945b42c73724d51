import WarpByokProxy.Prompt.Tools
import WarpByokProxy.RunServer
import WarpByokProxy.Server.Exchanges

/-
  What it takes to start the proxy, and what follows from it
  for everything the proxy does later.

  The startup checks are enough: once the proxy has started,
  no request is refused on its own account, and each call of
  Bedrock is made as the configuration file says.

  Key definitions include:
    * `Host.Loads`
    * `Host.ResolvesAuth`
    * `Host.LoadsTls`
    * `Host.Listens`
    * `Host.IsReady`
    * `Started.Follows`
    * `FailsOutside`
    * `Server.ServesAsConfigured`

  Key theorems include:
    * `resolveAuth_authInputs_iff`
    * `tlsConfigFromPem_eq_ok_iff`
    * `runServer_eq_ok_iff`
    * `runServer_starts_iff`
    * `runServer_servesAsConfigured`
-/

------------------------------------------------------------
-- What Is Needed
------------------------------------------------------------

namespace WarpByokProxy

variable {F : Type}

/- The host has the configuration file in the directory. -/
def Host.Loads
    (host : Host)
    (dir : String)
    (file : ConfigFile) : Prop :=
  host.configDir = some dir ∧
    ∃ text,
      host.readToString
            (joinPath dir
              "warp-byok-proxy/config.toml") =
          .ok text ∧
        host.parseToml text = .ok file

/-
  What auth resolves to at startup. Explicit keys never come
  of it, since nothing reads them, and nothing is skipped.
-/
inductive Host.ResolvesAuth
    (host : Host)
    (file : ConfigFile) : ResolvedAuth → Prop where
  | apiKey
      {key : String}
      (hMode : file.authMode = .apiKey)
      (hKey : nonBlank host.awsBearerTokenBedrock = some key)
      (hWord :
        eqIgnoreAsciiCase (trim key) "bearer" = false) :
      ResolvesAuth host file (.bearerToken (trim key))
  | profile
      {name : String}
      (hMode : file.authMode = .profile)
      (hName : nonBlank file.profile = some name) :
      ResolvesAuth host file (.profile name)
  | defaultChain
      (hMode : file.authMode = .defaultChain) :
      ResolvesAuth host file .defaultChain

/-
  The host has the certificates in one file and a key, the
  first one, in the other, and they go together.
-/
structure Host.LoadsTls
    (host : Host)
    (certPem keyPem : String)
    (tls : ServerConfig) : Prop where
  certs :
    ∃ file,
      host.openFile certPem = .ok file ∧
        host.pemCerts file = tls.certs.map .ok
  key :
    ∃ file,
      host.openFile keyPem = .ok file ∧
        (host.pkcs8PrivateKeys file).head? =
          some (.ok tls.key)
  accepted : host.acceptsCert tls.certs tls.key = .ok ()

/- The host lets the server listen, at an address. -/
def Host.Listens
    (host : Host)
    (bind addr : String) : Prop :=
  ∃ listener,
    host.bindTcp bind = .ok listener ∧
      listener.localAddr = .ok addr

/- All that a start from the file takes. -/
structure Host.IsReady
    (serde : SerdeJson F)
    (jsonError : String → String)
    (host : Host)
    (dir : String)
    (file : ConfigFile)
    (bind : String) : Prop where
  context :
    file.cfg.bedrock.enable1mContext = true →
      supports1mContext file.cfg.bedrock.model = true
  schemas :
    ∀ t ∈ file.cfg.bedrock.tools,
      ∃ schema,
        t.parseInputSchema serde jsonError = .ok schema
  auth : ∃ resolved, host.ResolvesAuth file resolved
  cert :
    host.pathExists
      (joinPath (joinPath dir "warp-byok-proxy")
        "cert.pem") = true
  key :
    host.pathExists
      (joinPath (joinPath dir "warp-byok-proxy")
        "key.pem") = true
  runtime : host.buildRuntime = .ok ()
  tls :
    ∃ tls,
      host.LoadsTls
        (joinPath (joinPath dir "warp-byok-proxy")
          "cert.pem")
        (joinPath (joinPath dir "warp-byok-proxy")
          "key.pem")
        tls
  listener : ∃ addr, host.Listens bind addr

theorem AuthMode.ofConfig_injective :
    Function.Injective AuthMode.ofConfig := by
  intro left right hEq
  cases left <;> cases right <;> first | rfl | contradiction

/- Auth resolves to what it is meant to. -/
theorem resolveAuth_authInputs_iff
    (host : Host)
    (file : ConfigFile)
    (resolved : ResolvedAuth) :
    resolveAuth (host.authInputs file) = .ok resolved ↔
      host.ResolvesAuth file resolved := by
  have hSkip : (host.authInputs file).skipAuth = false := rfl
  have hMode :
      ∀ mode : Config.AuthMode,
        (host.authInputs file).mode = .ofConfig mode ↔
          file.authMode = mode :=
    fun mode => AuthMode.ofConfig_injective.eq_iff
  rw [resolveAuth_eq_ok_iff]
  constructor
  · intro hResolves
    cases resolved with
    | bearerToken token =>
        rcases hResolves with
          ⟨-, hApiKey, key, hKey, hWord, rfl⟩
        exact
          .apiKey ((hMode .apiKey).mp hApiKey) hKey hWord
    | profile name =>
        rcases hResolves with ⟨-, hProfile, hName⟩
        exact .profile ((hMode .profile).mp hProfile) hName
    | explicitKeys accessKey secretKey sessionToken =>
        rcases hResolves with ⟨-, -, hAccess, -⟩
        contradiction
    | defaultChain =>
        exact
          .defaultChain
            ((hMode .defaultChain).mp hResolves.2)
    | skipped =>
        exact absurd (hSkip.symm.trans hResolves)
          Bool.false_ne_true
  · intro hResolves
    cases hResolves with
    | apiKey hApiKey hKey hWord =>
        exact
          ⟨hSkip, (hMode .apiKey).mpr hApiKey, _, hKey,
            hWord, rfl⟩
    | profile hProfile hName =>
        exact
          ⟨hSkip, (hMode .profile).mpr hProfile, hName⟩
    | defaultChain hChain =>
        exact ⟨hSkip, (hMode .defaultChain).mpr hChain⟩

/- The TLS configuration is read as it is meant to be. -/
theorem tlsConfigFromPem_eq_ok_iff
    (host : Host)
    (certPem keyPem : String)
    (tls : ServerConfig) :
    tlsConfigFromPem host certPem keyPem = .ok tls ↔
      host.LoadsTls certPem keyPem tls := by
  unfold tlsConfigFromPem
  simp only [bind_eq_ok_iff, orMessage_eq_ok_iff,
    withoutContext_eq_ok_iff, collectResults_eq_ok_iff,
    Except.ok.injEq]
  constructor
  · rintro ⟨certFile, hCertFile, certs, hCerts, keyFile,
      hKeyFile, first, hFirst, key, rfl, ⟨⟩, hAccepted, rfl⟩
    exact
      { certs := ⟨certFile, hCertFile, hCerts⟩
        key := ⟨keyFile, hKeyFile, hFirst⟩
        accepted := hAccepted }
  · intro hLoads
    rcases hLoads.certs with ⟨certFile, hCertFile, hCerts⟩
    rcases hLoads.key with ⟨keyFile, hKeyFile, hKey⟩
    exact
      ⟨certFile, hCertFile, tls.certs, hCerts, keyFile,
        hKeyFile, .ok tls.key, hKey, tls.key, rfl, (),
        hLoads.accepted, rfl⟩

/- The server listens once TLS is set up and it is bound. -/
theorem spawn_eq_ok_iff
    (host : Host)
    (bind certPem keyPem : String)
    (listening : Listening) :
    spawn host bind certPem keyPem = .ok listening ↔
      host.LoadsTls certPem keyPem listening.tls ∧
        host.Listens bind listening.addr := by
  unfold spawn
  simp only [bind_eq_ok_iff, withContext_eq_ok_iff,
    withoutContext_eq_ok_iff, tlsConfigFromPem_eq_ok_iff,
    Except.ok.injEq]
  constructor
  · rintro ⟨tls, hTls, listener, hBound, addr, hAddr, rfl⟩
    exact ⟨hTls, listener, hBound, hAddr⟩
  · rintro ⟨hTls, listener, hBound, hAddr⟩
    exact
      ⟨listening.tls, hTls, listener, hBound, listening.addr,
        hAddr, rfl⟩

end WarpByokProxy

------------------------------------------------------------
-- What Is Started
------------------------------------------------------------

namespace WarpByokProxy

variable {F : Type}

/-
  The tools of the file, each with its name, description and
  parsed schema, or none if there are none.
-/
def HasTools
    (serde : SerdeJson F)
    (tools : List ToolDef)
    (toolConfig : Option (Sdk.ToolConfiguration F)) :
    Prop :=
  match toolConfig with
  | none => tools = []
  | some config =>
      tools ≠ [] ∧
        List.Forall₂ (SpecOf serde) tools config.tools

/- The proxy is set up as the file says. -/
structure Started.Follows
    (serde : SerdeJson F)
    (host : Host)
    (dir : String)
    (file : ConfigFile)
    (bind : String)
    (started : Started F) : Prop where
  cfg : started.cfg = file.cfg
  stub : started.stubWarpApi = file.proxy.stubWarpApi
  warnings :
    started.warnings = file.cfg.bedrock.thinking.warnings
  auth : host.ResolvesAuth file started.auth
  region : started.client.region = file.cfg.bedrock.region
  endpoint : started.client.endpointUrl = file.endpoint
  profile :
    started.client.profileName =
      if file.authMode = .profile then file.profile else none
  credentials : started.client.credentials = none
  tools :
    HasTools serde file.cfg.bedrock.tools
      started.bedrock.toolConfig
  tls :
    host.LoadsTls
      (joinPath (joinPath dir "warp-byok-proxy") "cert.pem")
      (joinPath (joinPath dir "warp-byok-proxy") "key.pem")
      started.listening.tls
  addr : host.Listens bind started.listening.addr

/- Accepted tools are set up. -/
theorem exists_toolConfig_of_validate
    {builders : Sdk.ToolBuilders F}
    (hBuilders : builders.RequireFields)
    {serde : SerdeJson F}
    {jsonError : String → String}
    {cfg : Config}
    (hValid : cfg.validate serde jsonError = .ok ()) :
    ∃ toolConfig,
      toolsToSdk serde jsonError builders
            cfg.bedrock.tools =
          .ok toolConfig ∧
        HasTools serde cfg.bedrock.tools toolConfig := by
  by_cases hNone : cfg.bedrock.tools = []
  · refine ⟨none, ?_, hNone⟩
    rw [hNone]
    rfl
  · rcases exists_toolsToSdk_of_validate hBuilders hValid
        hNone with ⟨config, hConfig, hSpecs⟩
    exact ⟨some config, hConfig, hNone, hSpecs⟩

/- A given text that is not blank is the text. -/
theorem eq_some_of_nonBlank
    {text : Option String}
    {s : String}
    (hText : nonBlank text = some s) :
    text = some s := by
  rw [nonBlank, Option.filter_eq_some_iff] at hText
  exact hText.1

/- What a client is set up with, whatever auth resolves to. -/
theorem buildClient_of_resolvesAuth
    {host : Host}
    {file : ConfigFile}
    {resolved : ResolvedAuth}
    (hAuth : host.ResolvesAuth file resolved)
    (region : String) :
    buildClient resolved region file.endpoint =
      .ok
        { region := region
          profileName :=
            if file.authMode = .profile then
              file.profile
            else
              none
          credentials := none
          endpointUrl := file.endpoint } := by
  cases hAuth with
  | apiKey hMode hKey hWord =>
      rw [hMode]
      rfl
  | profile hMode hName =>
      rw [hMode, if_pos rfl, eq_some_of_nonBlank hName]
      rfl
  | defaultChain hMode =>
      rw [hMode]
      rfl

/- A proxy that starts is ready, and set up by the file. -/
theorem isReady_of_runServer
    {builders : Sdk.ToolBuilders F}
    (hBuilders : builders.RequireFields)
    {serde : SerdeJson F}
    {jsonError : String → String}
    {host : Host}
    {bind : String}
    {started : Started F}
    (hStarted :
      runServer serde jsonError builders host bind =
        .ok started) :
    ∃ dir file,
      host.Loads dir file ∧
        host.IsReady serde jsonError dir file bind ∧
        started.Follows serde host dir file bind := by
  unfold runServer at hStarted
  simp only [bind_eq_ok_iff, orMessage_eq_ok_iff,
    withContext_eq_ok_iff, withoutContext_eq_ok_iff,
    ensure_eq_ok_iff, mapError_eq_ok_iff,
    resolveAuth_authInputs_iff, spawn_eq_ok_iff,
    Bool.and_eq_true, Except.ok.injEq, exists_const]
    at hStarted
  rcases hStarted with
    ⟨dir, hDir, text, hText, file, hFile, ⟨⟩, hValid,
      resolved, hAuth, ⟨hCert, hKey⟩, ⟨⟩, hRuntime, client,
      hClient, toolConfig, hTools, listening,
      ⟨hTls, hListens⟩, rfl⟩
  rw [buildClient_of_resolvesAuth hAuth] at hClient
  obtain rfl := Except.ok.inj hClient
  rcases exists_toolConfig_of_validate hBuilders hValid with
    ⟨found, hFound, hHasTools⟩
  obtain rfl := Except.ok.inj (hTools.symm.trans hFound)
  have hChecks :=
    (Config.validate_ok_iff serde jsonError file.cfg).mp
      hValid
  refine
    ⟨dir, file, ⟨hDir, text, hText, hFile⟩,
      { context := hChecks.1
        schemas := hChecks.2
        auth := ⟨resolved, hAuth⟩
        cert := hCert
        key := hKey
        runtime := hRuntime
        tls := ⟨_, hTls⟩
        listener := ⟨_, hListens⟩ },
      { cfg := rfl
        stub := rfl
        warnings := ?_
        auth := hAuth
        region := rfl
        endpoint := rfl
        profile := rfl
        credentials := rfl
        tools := hHasTools
        tls := hTls
        addr := hListens }⟩
  rw [Config.validateWithWarnings, hValid]
  rfl

/- A proxy that is ready starts. -/
theorem exists_started_of_isReady
    {builders : Sdk.ToolBuilders F}
    (hBuilders : builders.RequireFields)
    {serde : SerdeJson F}
    {jsonError : String → String}
    {host : Host}
    {bind dir : String}
    {file : ConfigFile}
    (hLoads : host.Loads dir file)
    (hReady :
      host.IsReady serde jsonError dir file bind) :
    ∃ started,
      runServer serde jsonError builders host bind =
        .ok started := by
  rcases hLoads with ⟨hDir, text, hText, hFile⟩
  rcases hReady.auth with ⟨resolved, hAuth⟩
  rcases hReady.tls with ⟨tls, hTls⟩
  rcases hReady.listener with ⟨addr, hListens⟩
  have hValid :
      file.cfg.validate serde jsonError = .ok () :=
    (Config.validate_ok_iff serde jsonError file.cfg).mpr
      ⟨hReady.context, hReady.schemas⟩
  rcases exists_toolConfig_of_validate hBuilders hValid with
    ⟨toolConfig, hTools, -⟩
  unfold runServer
  simp only [bind_eq_ok_iff, orMessage_eq_ok_iff,
    withContext_eq_ok_iff, withoutContext_eq_ok_iff,
    ensure_eq_ok_iff, mapError_eq_ok_iff,
    resolveAuth_authInputs_iff, spawn_eq_ok_iff,
    Bool.and_eq_true, Except.ok.injEq, exists_const]
  exact
    ⟨_, dir, hDir, text, hText, file, hFile, (), hValid,
      resolved, hAuth, ⟨hReady.cert, hReady.key⟩, (),
      hReady.runtime, _,
      buildClient_of_resolvesAuth hAuth _, toolConfig,
      hTools, { addr := addr, tls := tls },
      ⟨hTls, hListens⟩, rfl⟩

/- The proxy starts just when it has all that a start takes. -/
theorem runServer_starts_iff
    {builders : Sdk.ToolBuilders F}
    (hBuilders : builders.RequireFields)
    (serde : SerdeJson F)
    (jsonError : String → String)
    (host : Host)
    (bind : String) :
    (∃ started,
        runServer serde jsonError builders host bind =
          .ok started) ↔
      ∃ dir file,
        host.Loads dir file ∧
          host.IsReady serde jsonError dir file bind := by
  constructor
  · rintro ⟨started, hStarted⟩
    rcases isReady_of_runServer hBuilders hStarted with
      ⟨dir, file, hLoads, hReady, -⟩
    exact ⟨dir, file, hLoads, hReady⟩
  · rintro ⟨dir, file, hLoads, hReady⟩
    exact exists_started_of_isReady hBuilders hLoads hReady

/- A host on which everything is in its place. -/
def readyHost : Host where
  configDir := some "/etc"
  readToString := fun _ => .ok ""
  parseToml := fun _ =>
    .ok
      { cfg := configWithTools [getWeather]
        authMode := .apiKey
        profile := none
        endpoint := none
        proxy := { stubWarpApi := false } }
  awsBearerTokenBedrock := some " key "
  pathExists := fun _ => true
  buildRuntime := .ok ()
  openFile := fun path => .ok (utf8Bytes path)
  pemCerts := fun file => [.ok file]
  pkcs8PrivateKeys := fun file => [.ok file, .ok []]
  acceptsCert := fun _ _ => .ok ()
  bindTcp := fun bind => .ok { localAddr := .ok bind }

theorem runServer_starts_iff_readyHost :
    (∃ started,
        runServer SerdeJson.integral id .strict readyHost
            "127.0.0.1:8443" =
          .ok started) ↔
      ∃ dir file,
        readyHost.Loads dir file ∧
          readyHost.IsReady SerdeJson.integral id dir file
            "127.0.0.1:8443" :=
  runServer_starts_iff
    Sdk.ToolBuilders.strict_requireToolFields
    SerdeJson.integral id readyHost "127.0.0.1:8443"

end WarpByokProxy

------------------------------------------------------------
-- What A Started Proxy Does
------------------------------------------------------------

namespace WarpByokProxy

variable {F Chunk : Type}

/- The configuration with other settings for thinking. -/
def Config.withThinking
    (self : Config)
    (thinking : Thinking) : Config where
  bedrock := { self.bedrock with thinking := thinking }

/- The call is made as the configuration file says. -/
structure Sdk.ConverseStreamInput.Follows
    (serde : SerdeJson F)
    (file : ConfigFile)
    (call : Sdk.ConverseStreamInput F) : Prop where
  modelId :
    call.modelId =
      wireModelId
        ((splitOff1m file.cfg.bedrock.model).getD
          file.cfg.bedrock.model)
        file.cfg.prepareOpts
  system : call.system = none
  fields :
    call.additionalModelRequestFields =
      .object (dispatchedFields file.cfg)
  tools :
    HasTools serde file.cfg.bedrock.tools call.toolConfig
  uncached :
    file.cfg.bedrock.usePromptCache = false →
      ∀ message ∈ call.messages,
        ∀ block ∈ message.content,
          isCachePointContent block = false
  warned :
    file.cfg.bedrock.thinking.warnings ≠ [] →
      ∀ effort budgetTokens,
        call.additionalModelRequestFields =
          .object
            (dispatchedFields
              (file.cfg.withThinking
                { mode := .off
                  effort := effort
                  budgetTokens := budgetTokens }))

/-
  The response tells of a failure of the client, of what it
  asked for, or of Bedrock, and there was one.
-/
inductive FailsOutside
    (ctx : ServerContext F Chunk)
    (req : Http.Request)
    (replies :
      List
        (Except String
          (List
            (Except String
              (Option Sdk.ConverseStreamOutput))))) :
    Http.Response → Prop where
  | unread
      {e : String}
      (hBody : req.body = .error e) :
      FailsOutside ctx req replies
        (errorResponse ("read body: " ++ e))
  | undecoded
      {bytes : List UInt8}
      {e : String}
      (hBody : req.body = .ok bytes)
      (hDecode : ctx.decodeRequest bytes = .error e) :
      FailsOutside ctx req replies
        (errorResponse ("decode protobuf Request: " ++ e))
  | refused
      {e : String}
      (hReplies : replies = [.error e]) :
      FailsOutside ctx req replies
        (errorResponse
          ("Bedrock ConverseStream dispatch failed: " ++ e))

/-
  Every call is made as the file says, and what fails does
  not fail in the proxy itself.
-/
structure Server.ServesAsConfigured
    (serde : SerdeJson F)
    (file : ConfigFile)
    (ctx : ServerContext F Chunk)
    (events : List ServerEvent)
    (server : Server F Chunk) : Prop where
  calls : ∀ call ∈ server.sent, call.Follows serde file
  failures :
    ∀ (i : Nat) (response : Http.Response),
      server.exchanges[i]? = some (.answered response) →
        response.status = 500 →
          ∃ req,
            (arrivals events)[i]? = some req ∧
              FailsOutside ctx req (repliesTo i events)
                response

/- No warning is given unless thinking is off. -/
theorem mode_eq_off_of_warnings
    {thinking : Thinking}
    (hWarnings : thinking.warnings ≠ []) :
    thinking.mode = .off := by
  by_contra hMode
  rw [Thinking.warnings, if_neg hMode] at hWarnings
  exact hWarnings rfl

/- The call that stands for a request follows the file. -/
theorem follows_dispatchedCall
    {serde : SerdeJson F}
    {file : ConfigFile}
    {bedrock : RealBedrock F}
    (hTools :
      HasTools serde file.cfg.bedrock.tools
        bedrock.toolConfig)
    (dynMsgToJson : DynMsgToJson F)
    (req : Wmaa.Request) :
    (bedrock.dispatchedCall dynMsgToJson file.cfg
      req).Follows serde file where
  modelId := rfl
  system := rfl
  fields := rfl
  tools := hTools
  uncached := by
    intro hOff message hMessage block hBlock
    rcases List.mem_mapIdx.mp hMessage with
      ⟨i, hLength, rfl⟩
    rw [hOff, Bool.false_and] at hBlock
    obtain rfl := List.mem_singleton.mp hBlock
    exact isCachePointContent_content dynMsgToJson _
  warned := by
    intro hWarnings effort budgetTokens
    have hMode := mode_eq_off_of_warnings hWarnings
    simp only [RealBedrock.dispatchedCall, dispatchedFields,
      Config.withThinking, hMode]
    rfl

/- An answer with status 500 comes from outside the proxy. -/
theorem Exchange.Answers.failure
    {ctx : ServerContext F Chunk}
    {req : Http.Request}
    {replies :
      List
        (Except String
          (List
            (Except String
              (Option Sdk.ConverseStreamOutput))))}
    {response : Http.Response}
    (hAnswers :
      (Exchange.answered response : Exchange F Chunk).Answers
        ctx req replies)
    (hStatus : response.status = 500) :
    FailsOutside ctx req replies response := by
  cases hAnswers with
  | health => contradiction
  | stub => contradiction
  | notFound => contradiction
  | unread _ hBody => exact .unread hBody
  | undecoded _ hBody hDecode => exact .undecoded hBody hDecode
  | refused _ hReplies => exact .refused hReplies

/-
  Once started, the proxy does in every run what its file
  says, and never fails on its own account.
-/
theorem runServer_servesAsConfigured
    {toolBuilders : Sdk.ToolBuilders F}
    (hToolBuilders : toolBuilders.RequireFields)
    {serde : SerdeJson F}
    {jsonError : String → String}
    {host : Host}
    {bind : String}
    {started : Started F}
    (hStarted :
      runServer serde jsonError toolBuilders host bind =
        .ok started)
    (libraries : Libraries F Chunk)
    (hBuilders : libraries.builders.RequireFields)
    {events : List ServerEvent}
    {server : Server F Chunk}
    (hRun :
      (proxyServer (started.context libraries)).run events
        Server.new = some server) :
    ∃ dir file,
      host.Loads dir file ∧
        started.Follows serde host dir file bind ∧
        server.ServesAsConfigured serde file
          (started.context libraries) events := by
  rcases isReady_of_runServer hToolBuilders hStarted with
    ⟨dir, file, hLoads, -, hFollows⟩
  have hServes := Server.serves_run hBuilders hRun
  refine
    ⟨dir, file, hLoads, hFollows,
      { calls := ?_, failures := ?_ }⟩
  · intro call hCall
    rw [hServes.sent] at hCall
    rcases List.mem_map.mp hCall with ⟨warpReq, -, rfl⟩
    have hCfg :
        (started.context libraries).cfg = file.cfg :=
      hFollows.cfg
    rw [ServerContext.callOf, hCfg]
    exact follows_dispatchedCall hFollows.tools _ _
  · intro i response hExchange hStatus
    have hLength := (List.getElem?_eq_some_iff.mp hExchange).1
    rw [hServes.exchanges] at hLength
    have hArrival := List.getElem?_eq_getElem hLength
    exact
      ⟨_, hArrival,
        (hServes.answers i _ _ hArrival hExchange).failure
          hStatus⟩

/- The libraries of a server whose clients say the same. -/
def greetedLibraries :
    Libraries Empty Wmaa.ResponseEvent where
  serde := greetedServer.serde
  dynMsgToJson := greetedServer.dynMsgToJson
  builders := greetedServer.builders
  decodeRequest := greetedServer.decodeRequest
  encodeSseEvent := greetedServer.encodeSseEvent
  uuids := greetedServer.uuids

/- The first of two turns, on a host that is ready. -/
theorem runServer_servesAsConfigured_one_turn :
    ∃ started server,
      runServer SerdeJson.integral id .strict readyHost
            "127.0.0.1:8443" =
          .ok started ∧
        (proxyServer
              (started.context greetedLibraries)).run
            [.arrive turnRequest] Server.new =
          some server ∧
        ∃ dir file,
          readyHost.Loads dir file ∧
            started.Follows SerdeJson.integral readyHost
              dir file "127.0.0.1:8443" ∧
            server.ServesAsConfigured SerdeJson.integral
              file (started.context greetedLibraries)
              [.arrive turnRequest] := by
  have hStarts :
      ∃ started server,
        runServer SerdeJson.integral id .strict readyHost
              "127.0.0.1:8443" =
            .ok started ∧
          (proxyServer
                (started.context greetedLibraries)).run
              [.arrive turnRequest] Server.new =
            some server :=
    ⟨_, _, rfl, rfl⟩
  rcases hStarts with ⟨started, server, hStarted, hRun⟩
  exact
    ⟨started, server, hStarted, hRun,
      runServer_servesAsConfigured
        Sdk.ToolBuilders.strict_requireToolFields hStarted
        greetedLibraries Sdk.Builders.strict_requireFields
        hRun⟩

end WarpByokProxy
