import Karpacz.Pipeline.Handler

/-!
# How a return site finishes a response

`request_handler_wrapped` has more than twenty return sites, and each repeats the same
few blocks inline: the `customHeaders` loop, the `Server` insertion, the access record
and, on failure, an error record. Each block is one definition here, and each return
site of `RequestHandler.lean` is written from them in the order the source has them.

The `customHeaders` loop adds an entry only when the response has no value under its
name yet, and only when both the name and the value are strings that `HeaderName` and
`HeaderValue` admit. `Server` is then set with `insert`, which replaces every earlier
value, as long as `SERVER_SOFTWARE` is a valid header value.
-/

namespace Karpacz

/-- What `request_handler_wrapped` fixes from the request as it arrives, before anything
else runs: whether it is a proxy request, and the access record's fields. -/
structure Ctx where
  env : Env
  isProxyRequest : Bool
  isConnectProxyRequest : Bool
  logMethod : String
  logRequestPath : String
  logProtocol : String
  logReferrer : Option String
  logUserAgent : Option String
  logEnabled : Bool
  errorLogEnabled : Bool

/-- `is_proxy_request`: on HTTP/2 and HTTP/3 a CONNECT with a host, else any target with a host. -/
def isProxyRequest (request : Request) : Bool :=
  match request.version with
  | .http2 | .http3 => request.method == .connect && request.uri.hasHost
  | _ => request.uri.hasHost

/-- `log_request_path`: the whole URI for a proxy request, else path and query. -/
def logRequestPathOf (request : Request) (isProxy : Bool) : String :=
  if isProxy then request.uri.toString
  else request.uri.path ++ (match request.uri.query with
    | some query => "?" ++ query
    | none => "")

/-- A request header read through `to_str`, `None` when absent or not visible ASCII. -/
def headerText (request : Request) (n : HeaderName) : Option String :=
  (request.headers.get n).bind HeaderValue.toStr

/-- The start of `request_handler_wrapped`. -/
def Ctx.ofRequest (env : Env) (request : Request) (globalConfigRoot : ServerConfigRoot) : Ctx where
  env := env
  isProxyRequest := Karpacz.isProxyRequest request
  isConnectProxyRequest := request.method == .connect
  logMethod := request.method.name
  logRequestPath := logRequestPathOf request (Karpacz.isProxyRequest request)
  logProtocol := protocolLabel request.version
  logReferrer := headerText request .referer
  logUserAgent := headerText request .userAgent
  logEnabled := (globalConfigRoot.get "logFilePath").asStr.isSome
  errorLogEnabled := (globalConfigRoot.get "errorLogFilePath").asStr.isSome

/-- The access record of `response`, when `logFilePath` is set. -/
def Ctx.accessLog (ctx : Ctx) (clientIp : IpAddr) (authUser : Option String)
    (response : Response) : List LogMessage :=
  if ctx.logEnabled then
    [logCombined ctx.env.clock clientIp authUser ctx.logMethod ctx.logRequestPath
      ctx.logProtocol response.status.code (logContentLength response) ctx.logReferrer
      ctx.logUserAgent]
  else []

/-- An error record, when `errorLogFilePath` is set (and `ErrorLogger::log`). -/
def Ctx.errorLog (ctx : Ctx) (message : String) : List LogMessage :=
  if ctx.errorLogEnabled then [⟨message, true⟩] else []

/-- One turn of the `customHeaders` loop. -/
def mergeCustomHeader (headers : HeaderMap) (entry : Yaml × Yaml) : HeaderMap :=
  match entry.1.asStr, entry.2.asStr with
  | some headerName, some headerValue =>
    if headers.containsKey headerName then headers
    else
      match HeaderValue.fromStr headerValue, HeaderName.fromStr headerName with
      | some headerValue, some headerName => headers.insert headerName headerValue
      | _, _ => headers
  | _, _ => headers

/-- The `customHeaders` loop. -/
def mergeCustomHeaders (customHeaders : Yaml) (headers : HeaderMap) : HeaderMap :=
  match customHeaders.asHash with
  | some entries => entries.foldl mergeCustomHeader headers
  | none => headers

/-- `response_parts.headers.insert(SERVER, SERVER_SOFTWARE)`. -/
def insertServer (env : Env) (response : Response) : Response :=
  match HeaderValue.fromStr env.serverSoftware with
  | some serverString => { response with headers := response.headers.insert .server serverString }
  | none => response

/-- The `customHeaders` loop, then `Server`: the tail of most return sites. -/
def finishHeaders (env : Env) (config : ServerConfigRoot) (response : Response) : Response :=
  insertServer env
    { response with headers := mergeCustomHeaders (config.get "customHeaders") response.headers }

/-! ## Spec lemmas -/

/-- The value one `customHeaders` entry gives the header `n`: its value, when its key and
value are strings, its key names `n` and its value is a valid header value. -/
def customHeaderEntryValue (n : HeaderName) (entry : Yaml × Yaml) : Option HeaderValue :=
  match entry.1.asStr, entry.2.asStr with
  | some headerName, some headerValue =>
    if HeaderName.fromStr headerName = some n then HeaderValue.fromStr headerValue else none
  | _, _ => none

private theorem ite_nil_self (l : List HeaderValue) : (if l = [] then [] else l) = l := by
  split <;> simp_all

/-- One turn of the loop fills `n` from the entry, and only when `n` is still empty. -/
theorem getAll_mergeCustomHeader (headers : HeaderMap) (entry : Yaml × Yaml) (n : HeaderName) :
    (mergeCustomHeader headers entry).getAll n =
      if headers.getAll n = [] then (customHeaderEntryValue n entry).toList else headers.getAll n := by
  unfold mergeCustomHeader customHeaderEntryValue
  rcases entry.1.asStr with _ | k <;> rcases entry.2.asStr with _ | v <;> dsimp only
  any_goals exact (ite_nil_self _).symm
  rcases hk : HeaderName.fromStr k with _ | m
  · -- a key that names no header adds nothing
    simp [HeaderMap.containsKey, hk, ite_nil_self]
  · rw [HeaderMap.containsKey_of_fromStr headers hk]
    by_cases hmn : m = n
    · subst hmn
      by_cases he : headers.getAll m = [] <;> cases HeaderValue.fromStr v <;> simp [he]
    · by_cases he : headers.getAll m = [] <;> cases HeaderValue.fromStr v <;>
        simp [he, hmn, HeaderMap.getAll_insert_of_ne _ _ (Ne.symm hmn), ite_nil_self]

/-- The value the `customHeaders` entries give `n`: the first valid entry that names it. -/
def customHeaderValue (entries : List (Yaml × Yaml)) (n : HeaderName) : Option HeaderValue :=
  entries.findSome? (customHeaderEntryValue n)

/-- **The loop never overwrites.** A header that has values keeps exactly them; an empty
one gets the first valid entry that names it. -/
theorem getAll_foldl_mergeCustomHeader (entries : List (Yaml × Yaml)) (headers : HeaderMap)
    (n : HeaderName) :
    (entries.foldl mergeCustomHeader headers).getAll n =
      if headers.getAll n = [] then (customHeaderValue entries n).toList else headers.getAll n := by
  induction entries generalizing headers with
  | nil => exact (ite_nil_self _).symm
  | cons entry entries ih =>
    rw [List.foldl_cons, ih, getAll_mergeCustomHeader]
    simp only [customHeaderValue, List.findSome?_cons]
    by_cases he : headers.getAll n = [] <;> simp only [he, if_true, if_false]
    · cases customHeaderEntryValue n entry <;> simp

theorem getAll_mergeCustomHeaders (customHeaders : Yaml) (headers : HeaderMap) (n : HeaderName) :
    (mergeCustomHeaders customHeaders headers).getAll n =
      if headers.getAll n = [] then (customHeaderValue (customHeaders.asHash.getD []) n).toList
      else headers.getAll n := by
  unfold mergeCustomHeaders
  cases customHeaders.asHash with
  | none => exact (ite_nil_self _).symm
  | some entries => exact getAll_foldl_mergeCustomHeader entries headers n

section
variable (env : Env) (config : ServerConfigRoot) (response : Response)

@[simp] theorem insertServer_status : (insertServer env response).status = response.status := by
  unfold insertServer; split <;> rfl

@[simp] theorem insertServer_body : (insertServer env response).body = response.body := by
  unfold insertServer; split <;> rfl

@[simp] theorem finishHeaders_status : (finishHeaders env config response).status = response.status := by
  simp [finishHeaders]

@[simp] theorem finishHeaders_body : (finishHeaders env config response).body = response.body := by
  simp [finishHeaders]

/-- **`Server` is the product token, once.** -/
theorem insertServer_server {v : HeaderValue} (hv : HeaderValue.fromStr env.serverSoftware = some v) :
    (insertServer env response).headers.getAll .server = [v] := by
  simp [insertServer, hv]

theorem getAll_insertServer {n : HeaderName} (hn : n ≠ .server) :
    (insertServer env response).headers.getAll n = response.headers.getAll n := by
  unfold insertServer; split <;> simp [hn]

/-- **What `customHeaders` do to a header other than `Server`.** -/
theorem getAll_finishHeaders {n : HeaderName} (hn : n ≠ .server) :
    (finishHeaders env config response).headers.getAll n =
      if response.headers.getAll n = [] then
        (customHeaderValue ((config.get "customHeaders").asHash.getD []) n).toList
      else response.headers.getAll n := by
  rw [finishHeaders, getAll_insertServer env _ hn, getAll_mergeCustomHeaders]

theorem finishHeaders_server {v : HeaderValue} (hv : HeaderValue.fromStr env.serverSoftware = some v) :
    (finishHeaders env config response).headers.getAll .server = [v] :=
  insertServer_server env _ hv

end

end Karpacz
