import Karpacz.Pipeline.ErrorResponse
import Karpacz.Pipeline.AccessLog

/-!
# Handlers, and what one run of the pipeline does

A handler module is a value of `ServerModuleHandlers`. The pipeline asks it two
questions (does it take CONNECT requests, does it take this WebSocket request) and
calls at most two of its entry points: one on the way forward (`request_handler`, or
`proxy_request_handler` for a proxy request) and one on the way back
(`response_modifying_handler`, or its proxy twin). Each entry point is an arbitrary
function here, so every result below holds for every behaviour a module can have.

One run of `request_handler_wrapped` is a `Run`: the response it returns, the log
records it sends, in order, the entry points it calls, in order and with their
arguments, and the tasks it hands to the runtime (a CONNECT tunnel, a WebSocket
session, a handler's `parallel_fn`). A ghost field keeps the response each return site
built before the pipeline's own finishing touches, so that those touches can be stated.
-/

namespace Karpacz

/-- Modelled from the spec: `ferron_common::RequestData` is not under `src/`. A request,
with the user the previous handler authenticated. -/
structure RequestData where
  request : Request
  authUser : Option String
  deriving DecidableEq

/-- Modelled from the spec: `ferron_common::ResponseData` is not under `src/`. What a
handler's forward entry returns (the spec's `HandlerOutcome`). A `parallel_fn` is named
by a tag. -/
structure ResponseData where
  request : Option Request
  authUser : Option String
  response : Option Response
  status : Option StatusCode
  headers : Option HeaderMap
  newRemoteAddress : Option SocketAddr
  parallelFn : Option Nat

/-- Modelled from the spec: `ResponseData::builder(request)` keeps the request and its
user, and sets nothing else. -/
def ResponseData.builder (requestData : RequestData) : ResponseData :=
  ⟨some requestData.request, requestData.authUser, none, none, none, none, none⟩

/-- Modelled from the spec: the `ServerModuleHandlers` trait of `ferron_common`. An entry
point's error is kept as the text `Display` prints for it. -/
structure ServerModuleHandlers where
  doesConnectProxyRequests : Bool
  doesWebsocketRequests : ServerConfigRoot → SocketData → Bool
  requestHandler : RequestData → ServerConfigRoot → SocketData → Except String ResponseData
  proxyRequestHandler : RequestData → ServerConfigRoot → SocketData → Except String ResponseData
  responseModifyingHandler : Response → Except String Response
  proxyResponseModifyingHandler : Response → Except String Response

/-- An entry point the pipeline calls, with the handler's position and its arguments. -/
inductive HandlerCall
  /-- `request_handler` (`proxy = false`) or `proxy_request_handler` (`proxy = true`). -/
  | forward (index : Nat) (proxy : Bool) (requestData : RequestData) (socketData : SocketData)
  /-- `response_modifying_handler` or `proxy_response_modifying_handler`. -/
  | modify (index : Nat) (proxy : Bool) (response : Response)
  deriving DecidableEq

/-- A task handed to the runtime, which outlives the run. -/
inductive SpawnedTask
  /-- The CONNECT tunnel of the handler at `index`, to `address`. -/
  | connectProxy (index : Nat) (address : String)
  /-- The WebSocket session of the handler at `index`. -/
  | websocket (index : Nat) (uri : Uri)
  /-- The `parallel_fn` the handler at `index` returned. -/
  | parallel (index : Nat) (task : Nat)
  deriving DecidableEq

/-- What one run of `request_handler_wrapped` does. -/
structure Run where
  response : Response
  /-- Ghost: the response as its return site built it, before the `customHeaders` loop,
  `Server` and post-processing. -/
  built : Response
  logs : List LogMessage
  calls : List HandlerCall
  spawned : List SpawnedTask

end Karpacz
