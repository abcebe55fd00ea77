import Karpacz.Pipeline.Chain

/-!
# `request_handler_wrapped`

The whole per-request pipeline: normalize the `Host` header, resolve the
configuration, sanitize the path and rebuild the URI, answer an asterisk-form target,
dispatch a CONNECT request, or walk the handler chain.

The first three stages are `prepareRequest`; each of its failures is one early return.
The two `Host` failures of the source (`to_str` fails, or the lowercase text is not a
header value) return the same response and differ only in the error's text, and so do
the three failures of the sanitizing stage. After preparation, `dispatch` is the rest of
the function.
-/

namespace Karpacz

/-- The `Host` header, lowercased in place. The header passed `to_str`, so it is ASCII,
and `str::to_lowercase` lowercases only its ASCII letters. The error is the text of
`ToStrError` or `InvalidHeaderValue`. -/
def normalizeHost (request : Request) : Except String Request :=
  match request.headers.get .host with
  | none => .ok request
  | some headerData =>
    match headerData.toStr with
    | none => .error "failed to convert header to a str"
    | some hostHeader =>
      let hostHeaderLowerCase : String := ⟨hostHeader.data.map Char.toLower⟩
      if hostHeaderLowerCase ≠ hostHeader then
        match HeaderValue.fromStr hostHeaderLowerCase with
        | some hostHeaderValue => .ok { request with headers := request.headers.insert .host hostHeaderValue }
        | none => .error "failed to parse header value"
      else .ok request

/-- The host name `combine_config` receives: none for a proxy or CONNECT request. -/
def hostnameFor (ctx : Ctx) (request : Request) : Option String :=
  if ctx.isProxyRequest || ctx.isConnectProxyRequest then none else headerText request .host

/-- `sanitize_url`, and the URI rebuilt around the new path when it changed. -/
def sanitizeRequest (env : Env) (config : ServerConfigRoot) (request : Request) :
    Except String Request :=
  let urlPathname := request.uri.path
  match env.sanitizeUrl urlPathname ((config.get "allowDoubleSlashes").asBool.getD false) with
  | .error err => .error err
  | .ok sanitizedUrlPathname =>
    if sanitizedUrlPathname ≠ urlPathname then
      let query := match request.uri.partsPathAndQuery with
        | some pathAndQuery =>
          match pathAndQuery.query with
          | some query => "?" ++ query
          | none => ""
        | none => ""
      match PathAndQuery.fromStr (sanitizedUrlPathname ++ query) with
      | .error err => .error err
      | .ok pathAndQuery =>
        match Uri.fromParts request.uri.scheme request.uri.authority (some pathAndQuery) with
        | .error err => .error err
        | .ok uri => .ok { request with uri := uri }
    else .ok request

/-- The three preparation stages, in order: the prepared request and its
configuration, or the run of the early return that ends the pipeline. -/
def prepareRequest (ctx : Ctx) (request : Request) (socketData : SocketData)
    (globalConfigRoot : ServerConfigRoot) (hostConfig : Yaml) :
    Except Run (ServerConfigRoot × Request) :=
  match normalizeHost request with
  | .error err =>
    let response : Response := ⟨.badRequest, ⟨[(.contentType, .textHtml)]⟩,
      .full (ctx.env.generateDefaultErrorPage .badRequest none)⟩
    .error ⟨insertServer ctx.env response, response,
      ctx.errorLog ("Host header sanitation error: " ++ err) ++
        ctx.accessLog socketData.remoteAddr.ip none response, [], []⟩
  | .ok request =>
    match ctx.env.combineConfig globalConfigRoot hostConfig (hostnameFor ctx request)
        socketData.localAddr.ip request.uri.path with
    | none =>
      let response : Response := ⟨.internalServerError, ⟨[(.contentType, .textHtml)]⟩,
        .full (ctx.env.generateDefaultErrorPage .internalServerError none)⟩
      .error ⟨insertServer ctx.env response, response,
        ctx.errorLog "Cannot determine server configuration" ++
          ctx.accessLog socketData.remoteAddr.ip none response, [], []⟩
    | some config =>
      match sanitizeRequest ctx.env config request with
      | .error err =>
        let response := generateErrorResponse ctx.env .badRequest config none
        .error ⟨finishHeaders ctx.env config response, response,
          ctx.errorLog ("URL sanitation error: " ++ err) ++
            ctx.accessLog socketData.remoteAddr.ip none response, [], []⟩
      | .ok request => .ok (config, request)

/-- The answer to an asterisk-form target. -/
def asteriskResponse (env : Env) (config : ServerConfigRoot) (request : Request) : Response :=
  if request.method = .options then ⟨.noContent, ⟨[(.allow, .allowedMethods)]⟩, .empty⟩
  else generateErrorResponse env .badRequest config (some ⟨[(.allow, .allowedMethods)]⟩)

/-- The first handler that takes CONNECT requests, with its position. -/
def firstConnectProxyHandler :
    Nat → List ServerModuleHandlers → Option (Nat × ServerModuleHandlers)
  | _, [] => none
  | index, handlers :: rest =>
    if handlers.doesConnectProxyRequests then some (index, handlers)
    else firstConnectProxyHandler (index + 1) rest

/-- A CONNECT request: a 200 and a tunnel task, a 400 without an authority, a 501
without a handler. -/
def connectRun (ctx : Ctx) (config : ServerConfigRoot) (request : Request)
    (socketData : SocketData) (handlersVec : List ServerModuleHandlers) : Run :=
  match firstConnectProxyHandler 0 handlersVec with
  | some (index, _) =>
    match request.uri.authority with
    | some connectAddress =>
      let response : Response := ⟨.ok, .empty, .empty⟩
      ⟨finishHeaders ctx.env config response, response,
        ctx.accessLog socketData.remoteAddr.ip none response, [],
        [.connectProxy index connectAddress]⟩
    | none =>
      let response : Response := ⟨.badRequest, .empty, .empty⟩
      ⟨finishHeaders ctx.env config response, response,
        ctx.accessLog socketData.remoteAddr.ip none response, [], []⟩
  | none =>
    let response : Response := ⟨.notImplemented, .empty, .empty⟩
    ⟨finishHeaders ctx.env config response, response,
      ctx.accessLog socketData.remoteAddr.ip none response, [], []⟩

/-- The state the walk starts from: the prepared request, no user, nothing executed. -/
def ChainState.initial (request : Request) (socketData : SocketData) : ChainState :=
  ⟨⟨request, none⟩, none, [], socketData, [], []⟩

/-- Everything after preparation. -/
def dispatch (ctx : Ctx) (config : ServerConfigRoot) (request : Request)
    (socketData : SocketData) (handlersVec : List ServerModuleHandlers) : Run :=
  if request.uri.path = "*" then
    let response := asteriskResponse ctx.env config request
    ⟨finishHeaders ctx.env config response, response,
      ctx.accessLog socketData.remoteAddr.ip none response, [], []⟩
  else if ctx.isConnectProxyRequest then
    connectRun ctx config request socketData handlersVec
  else
    let walk := walkHandlers config ctx.isProxyRequest (ctx.env.isUpgradeRequest request) 0
      handlersVec (ChainState.initial request socketData)
    finishChain ctx config walk.1 walk.2

/-- `request_handler_wrapped`. -/
def requestHandlerWrapped (env : Env) (request : Request) (remoteAddress localAddress : SocketAddr)
    (encrypted : Bool) (globalConfigRoot : ServerConfigRoot) (hostConfig : Yaml)
    (handlersVec : List ServerModuleHandlers) : Run :=
  let ctx := Ctx.ofRequest env request globalConfigRoot
  let socketData : SocketData := ⟨remoteAddress, localAddress, encrypted⟩
  match prepareRequest ctx request socketData globalConfigRoot hostConfig with
  | .error run => run
  | .ok (config, request) => dispatch ctx config request socketData handlersVec

/-! ## The deadline -/

/-- `timeout_yaml.as_i64().unwrap_or(300000) as u64`: the cast keeps the bits, so a
negative `timeout` becomes `timeout + 2^64` milliseconds. -/
def timeoutMillis (timeoutYaml : Yaml) : Nat :=
  ((timeoutYaml.asI64.getD 300000) % 2 ^ 64).toNat

/-- `request_handler`: the wrapped run, under `tokio::time::timeout` unless `timeout` is
null. How long the wrapped run takes is not part of the model: it is `elapsed`, in
milliseconds, and a run done by the deadline wins, since `Timeout` polls it before the
timer. -/
def requestHandler (env : Env) (request : Request) (remoteAddress localAddress : SocketAddr)
    (encrypted : Bool) (globalConfigRoot : ServerConfigRoot) (hostConfig : Yaml)
    (handlersVec : List ServerModuleHandlers) (elapsed : Nat) : Except String Response :=
  let timeoutYaml := globalConfigRoot.get "timeout"
  let response := (requestHandlerWrapped env request remoteAddress localAddress encrypted
    globalConfigRoot hostConfig handlersVec).response
  if timeoutYaml.isNull then .ok response
  else if elapsed ≤ timeoutMillis timeoutYaml then .ok response
  else .error "The client or server has timed out"

end Karpacz
