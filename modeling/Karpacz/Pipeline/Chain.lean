import Karpacz.Pipeline.Finish

/-!
# The handler chain

The `for mut handlers in handlers_vec` loop of `request_handler_wrapped`, and what
happens when it stops.

The loop carries four things from one handler to the next: the `RequestData` the next
handler receives, the latest `auth_user`, the stack of handlers whose forward entry ran
(`executed_handlers`), and the `SocketData` whose remote address a handler may rewrite.
`visitHandler` is one turn of the loop. It ends the walk on a WebSocket takeover, an
`Err`, a `response` or a `status`, goes on with the next handler when the outcome
carries a `request`, and breaks out otherwise. `walkHandlers` is the loop.

The source copies the post-processing loop four times: after a `response`, after a
`status`, after an `Err`, and after the loop (the 404). The copies differ in the
headers passed to the 500 that a failing post-processor collapses to, and in the user
they log. `respondThroughStack` is that loop, with those two as parameters, plus the
error record the `Err` copy writes only after a loop that did not fail.
-/

namespace Karpacz

/-- What the forward walk carries from one handler to the next. -/
structure ChainState where
  requestData : RequestData
  latestAuthData : Option String
  /-- `executed_handlers`, top of the stack first. -/
  executedHandlers : List (Nat × ServerModuleHandlers)
  socketData : SocketData
  calls : List HandlerCall
  spawned : List SpawnedTask

/-- Why the forward walk stopped. -/
inductive ChainExit
  /-- The handler at `index` takes the WebSocket request over. -/
  | websocket (index : Nat)
  /-- A handler returned a `response`. -/
  | response (response : Response) (headers : Option HeaderMap) (authData : Option String)
  /-- A handler returned a `status` and no `response`. -/
  | status (status : StatusCode) (headers : Option HeaderMap) (authData : Option String)
  /-- A handler's forward entry returned `Err`. -/
  | failed (err : String)
  /-- The loop broke out, or ran out of handlers. -/
  | finished

/-- One turn of the forward walk: stop with an exit, or go on in a new state. -/
inductive Visit
  | next (st : ChainState)
  | exit (e : ChainExit) (st : ChainState)

/-- The socket data after an outcome's `new_remote_address`. -/
def SocketData.rewrite (socketData : SocketData) : Option SocketAddr → SocketData
  | some newRemoteAddress => { socketData with remoteAddr := newRemoteAddress }
  | none => socketData

/-- One turn of the loop, for the handler at position `index`. -/
def visitHandler (config : ServerConfigRoot) (isProxy isWebsocket : Bool) (index : Nat)
    (handlers : ServerModuleHandlers) (st : ChainState) : Visit :=
  if isWebsocket && handlers.doesWebsocketRequests config st.socketData then
    .exit (.websocket index) st
  else
    let responseResult :=
      (if isProxy then handlers.proxyRequestHandler else handlers.requestHandler)
        st.requestData config st.socketData
    let st' := { st with
      calls := st.calls ++ [.forward index isProxy st.requestData st.socketData]
      executedHandlers := (index, handlers) :: st.executedHandlers }
    match responseResult with
    | .error err => .exit (.failed err) st'
    | .ok out =>
      let st'' := { st' with
        latestAuthData := out.authUser
        socketData := st'.socketData.rewrite out.newRemoteAddress
        spawned := st'.spawned ++ (out.parallelFn.map (SpawnedTask.parallel index)).toList }
      match out.response with
      | some response => .exit (.response response out.headers out.authUser) st''
      | none =>
        match out.status with
        | some status => .exit (.status status out.headers out.authUser) st''
        | none =>
          match out.request with
          | some request => .next { st'' with requestData := ⟨request, out.authUser⟩ }
          | none => .exit .finished st''

/-- The forward walk over the handlers from position `index` on. -/
def walkHandlers (config : ServerConfigRoot) (isProxy isWebsocket : Bool) :
    Nat → List ServerModuleHandlers → ChainState → ChainExit × ChainState
  | _, [], st => (.finished, st)
  | index, handlers :: rest, st =>
    match visitHandler config isProxy isWebsocket index handlers st with
    | .next st' => walkHandlers config isProxy isWebsocket (index + 1) rest st'
    | .exit e st' => (e, st')

/-- The post-processing loop: pop the executed handlers, feeding each the previous
one's output, and stop at the first `Err`. Returns the calls made. -/
def postProcess (isProxy : Bool) :
    List (Nat × ServerModuleHandlers) → Response → List HandlerCall × Except String Response
  | [], response => ([], .ok response)
  | (index, handlers) :: rest, response =>
    let call := HandlerCall.modify index isProxy response
    match (if isProxy then handlers.proxyResponseModifyingHandler
        else handlers.responseModifyingHandler) response with
    | .ok response' => (call :: (postProcess isProxy rest response').1, (postProcess isProxy rest response').2)
    | .error err => ([call], .error err)

/-- A copy of the post-processing loop and the return after it: `base` gets
`customHeaders` and `Server`, goes through the stack, and is logged and returned; a
failing post-processor turns it into a 500 built with `errorHeaders`. -/
def respondThroughStack (ctx : Ctx) (config : ServerConfigRoot) (st : ChainState)
    (base : Response) (errorHeaders : Option HeaderMap) (authData : Option String)
    (afterLoop : List LogMessage) : Run :=
  match postProcess ctx.isProxyRequest st.executedHandlers (finishHeaders ctx.env config base) with
  | (postCalls, .ok response) =>
    ⟨response, base, afterLoop ++ ctx.accessLog st.socketData.remoteAddr.ip authData response,
      st.calls ++ postCalls, st.spawned⟩
  | (postCalls, .error err) =>
    let response := generateErrorResponse ctx.env .internalServerError config errorHeaders
    ⟨finishHeaders ctx.env config response, response,
      ctx.errorLog ("Unexpected error while serving a request: " ++ err) ++
        ctx.accessLog st.socketData.remoteAddr.ip authData response,
      st.calls ++ postCalls, st.spawned⟩

/-- The WebSocket takeover by the handler at `index`. -/
def websocketRun (ctx : Ctx) (config : ServerConfigRoot) (index : Nat) (st : ChainState) : Run :=
  match ctx.env.upgradeWebsocket st.requestData.request with
  | .error err =>
    let response : Response := ⟨.internalServerError, .empty,
      .full (ctx.env.generateDefaultErrorPage .internalServerError none)⟩
    ⟨finishHeaders ctx.env config response, response,
      ctx.errorLog ("Error while upgrading WebSocket request: " ++ err) ++
        ctx.accessLog st.socketData.remoteAddr.ip none response,
      st.calls, st.spawned⟩
  | .ok originalResponse =>
    ⟨finishHeaders ctx.env config originalResponse, originalResponse,
      ctx.accessLog st.socketData.remoteAddr.ip none originalResponse,
      st.calls, st.spawned ++ [.websocket index st.requestData.request.uri]⟩

/-- What the pipeline does once the forward walk has stopped. -/
def finishChain (ctx : Ctx) (config : ServerConfigRoot) : ChainExit → ChainState → Run
  | .websocket index, st => websocketRun ctx config index st
  | .response response headers authData, st =>
    respondThroughStack ctx config st response headers authData []
  | .status status headers authData, st =>
    respondThroughStack ctx config st (generateErrorResponse ctx.env status config headers)
      headers authData []
  | .failed err, st =>
    respondThroughStack ctx config st
      (generateErrorResponse ctx.env .internalServerError config none) none st.latestAuthData
      (ctx.errorLog ("Unexpected error while serving a request: " ++ err))
  | .finished, st =>
    respondThroughStack ctx config st (generateErrorResponse ctx.env .notFound config none) none
      st.latestAuthData []

end Karpacz
