import Karpacz.Proof.ResponseHeaders

/-!
# What a run sends to the log channel

Each return site of `request_handler_wrapped` sends its error record, if it has one,
and then one access record, each behind its own `if`. The access record is formatted
from the response as the site built it, which on most sites is before the
`customHeaders` loop: the two agree on the status, and on the length field as long as
the configuration adds no `Content-Length` (`NoCustomLength`).

`requestHandlerWrapped_accessRecords` gives the access records of every run, for every
configuration: one record when `logFilePath` is set and none otherwise, naming the
client `loggedClient` describes (the remote address after the last rewrite and the user
of the latest outcome) and the status returned. A WebSocket takeover is logged with no
user, whatever the handlers before it returned, and the record of most sites does not
see a `Content-Length` that `customHeaders` add, so the length field is the returned
response's only when the configuration adds none:
`requestHandlerWrapped_access_record_diverges` shows both.

An `Err` of a forward entry is written to the error log only after the post-processing
loop, and only when that loop did not fail: `requestHandlerWrapped_forward_error_unlogged`
is a run in which both fail and one error record is written.
-/

namespace Karpacz

/-- The access records of a run, in order. -/
def Run.accessRecords (run : Run) : List LogMessage := run.logs.filter fun m => !m.isError

/-- The error records of a run, in order. -/
def Run.errorRecords (run : Run) : List LogMessage := run.logs.filter LogMessage.isError

/-- Whether the walk stopped at a WebSocket takeover. -/
def ChainExit.isWebsocket : ChainExit → Bool
  | .websocket _ => true
  | _ => false

end Karpacz

namespace Karpacz.Proof

open Karpacz

/-! ## The two kinds of record -/

section
variable (ctx : Ctx) (clientIp : IpAddr) (authUser : Option String) (response : Response) (message : String)

@[simp] theorem filter_accessLog_access :
    (ctx.accessLog clientIp authUser response).filter (fun m => !m.isError) =
      ctx.accessLog clientIp authUser response := by
  unfold Ctx.accessLog; split <;> rfl

@[simp] theorem filter_errorLog_access : (ctx.errorLog message).filter (fun m => !m.isError) = [] := by
  unfold Ctx.errorLog; split <;> rfl

@[simp] theorem filter_accessLog_error :
    (ctx.accessLog clientIp authUser response).filter LogMessage.isError = [] := by
  unfold Ctx.accessLog; split <;> rfl

@[simp] theorem filter_errorLog_error :
    (ctx.errorLog message).filter LogMessage.isError = ctx.errorLog message := by
  unfold Ctx.errorLog; split <;> rfl

end

/-- Two responses with one status and one length field give one access record. -/
theorem accessLog_congr (ctx : Ctx) (clientIp : IpAddr) (authUser : Option String) {r r' : Response}
    (hs : r.status = r'.status) (hl : logContentLength r = logContentLength r') :
    ctx.accessLog clientIp authUser r = ctx.accessLog clientIp authUser r' := by
  simp only [Ctx.accessLog, hs, hl]

theorem logContentLength_congr {r r' : Response}
    (hcl : r.headers.getAll .contentLength = r'.headers.getAll .contentLength) (hb : r.body = r'.body) :
    logContentLength r = logContentLength r' := by
  simp only [logContentLength, HeaderMap.get, hcl, hb]

theorem logContentLength_insertServer (env : Env) (r : Response) :
    logContentLength (insertServer env r) = logContentLength r :=
  logContentLength_congr (getAll_insertServer env r (by decide)) (insertServer_body env r)

/-- The configuration adds no `Content-Length`. -/
def NoCustomLength (config : ServerConfigRoot) : Prop :=
  customHeaderValue ((config.get "customHeaders").asHash.getD []) .contentLength = none

theorem logContentLength_finishHeaders (env : Env) {config : ServerConfigRoot}
    (hcl : NoCustomLength config) (r : Response) :
    logContentLength (finishHeaders env config r) = logContentLength r := by
  refine logContentLength_congr ?_ (finishHeaders_body env config r)
  rw [getAll_finishHeaders env config r (by decide), hcl]
  split <;> simp_all

/-- How a return site finishes the response it built: with the configuration's
`customHeaders` and `Server`, or with `Server` only before a configuration exists. -/
def finishWith (env : Env) : Option ServerConfigRoot → Response → Response
  | some config, r => finishHeaders env config r
  | none, r => insertServer env r

@[simp] theorem finishWith_status (env : Env) (config : Option ServerConfigRoot) (r : Response) :
    (finishWith env config r).status = r.status := by
  cases config <;> simp [finishWith]

theorem logContentLength_finishWith (env : Env) {config : Option ServerConfigRoot}
    (hcl : ∀ c, config = some c → NoCustomLength c) (r : Response) :
    logContentLength (finishWith env config r) = logContentLength r := by
  cases config with
  | none => exact logContentLength_insertServer env r
  | some c => exact logContentLength_finishHeaders env (hcl c rfl) r

/-! ## Each return site -/

/-- The access records of `run` are the one record `ctx` gives a response `r`: the one
returned, or the one the site built before finishing it with `config`. -/
def LogsAs (ctx : Ctx) (config : Option ServerConfigRoot) (clientIp : IpAddr)
    (authUser : Option String) (run : Run) : Prop :=
  ∃ r, run.accessRecords = ctx.accessLog clientIp authUser r ∧
    (r = run.response ∨ r = run.built ∧ run.response = finishWith ctx.env config r)

/-- What `LogsAs` says of the record: the status is the one returned, and the length
field is the returned response's unless the configuration adds a `Content-Length`. -/
theorem LogsAs.record {ctx : Ctx} {config : Option ServerConfigRoot} {clientIp : IpAddr}
    {authUser : Option String} {run : Run} (h : LogsAs ctx config clientIp authUser run) :
    ∃ length,
      run.accessRecords =
        (if ctx.logEnabled then
          [logCombined ctx.env.clock clientIp authUser ctx.logMethod ctx.logRequestPath ctx.logProtocol
            run.response.status.code length ctx.logReferrer ctx.logUserAgent]
        else []) ∧
      (length = logContentLength run.response ∨ length = logContentLength run.built) ∧
      ((∀ c, config = some c → NoCustomLength c) → length = logContentLength run.response) := by
  obtain ⟨r, hrec, rfl | ⟨rfl, hr⟩⟩ := h
  · exact ⟨_, hrec, .inl rfl, fun _ => rfl⟩
  · refine ⟨logContentLength run.built, ?_, .inr rfl, fun hcl => ?_⟩
    · rw [hrec, Ctx.accessLog, hr, finishWith_status]
    · rw [hr, logContentLength_finishWith ctx.env hcl]

theorem logsAs_finishWith {ctx : Ctx} {config : Option ServerConfigRoot} {clientIp : IpAddr}
    {authUser : Option String} {run : Run} (pre : List LogMessage)
    (hpre : pre.filter (fun m => !m.isError) = [])
    (hlogs : run.logs = pre ++ ctx.accessLog clientIp authUser run.built)
    (hr : run.response = finishWith ctx.env config run.built) :
    LogsAs ctx config clientIp authUser run :=
  ⟨run.built, by rw [Run.accessRecords, hlogs, List.filter_append, hpre, filter_accessLog_access]; rfl,
    .inr ⟨rfl, hr⟩⟩

theorem respondThroughStack_logsAs {ctx : Ctx} {config : ServerConfigRoot} (st : ChainState)
    (base : Response) (errorHeaders : Option HeaderMap) (authData : Option String)
    {afterLoop : List LogMessage} (hafter : afterLoop.filter (fun m => !m.isError) = []) :
    LogsAs ctx (some config) st.socketData.remoteAddr.ip authData
      (respondThroughStack ctx config st base errorHeaders authData afterLoop) := by
  unfold respondThroughStack
  split
  · exact ⟨_, by simp [Run.accessRecords, hafter], .inl rfl⟩
  · exact logsAs_finishWith _ (filter_errorLog_access _ _) rfl rfl

theorem websocketRun_logsAs {ctx : Ctx} {config : ServerConfigRoot} (index : Nat) (st : ChainState) :
    LogsAs ctx (some config) st.socketData.remoteAddr.ip none (websocketRun ctx config index st) := by
  unfold websocketRun
  split
  · exact logsAs_finishWith _ (filter_errorLog_access _ _) rfl rfl
  · exact logsAs_finishWith [] rfl rfl rfl

/-- The user the access record of a walk's exit names: none after a takeover. -/
def loggedUser (e : ChainExit) (st : ChainState) : Option String :=
  if e.isWebsocket then none else st.latestAuthData

/-- A `response` or `status` exit carries the user of the latest outcome. -/
theorem ChainSemantics.exit_authData {config : ServerConfigRoot} {isProxy isWebsocket : Bool} {i : Nat}
    {hs : List ServerModuleHandlers} {st : ChainState} {e : ChainExit} {st' : ChainState}
    (hsem : ChainSemantics config isProxy isWebsocket i hs st e st') :
    (∀ r headers a, e = .response r headers a → a = st'.latestAuthData) ∧
      ∀ s headers a, e = .status s headers a → a = st'.latestAuthData := by
  induction hsem with
  | continued _ _ _ _ _ _ ih => exact ih
  | responded _ _ _ => exact ⟨fun _ _ _ h => (by cases h; rfl), fun _ _ _ h => (by cases h)⟩
  | errorStatus _ _ _ _ => exact ⟨fun _ _ _ h => (by cases h), fun _ _ _ h => (by cases h; rfl)⟩
  | exhausted | takeover _ | failed _ _ | stopped _ _ _ _ _ =>
    exact ⟨fun _ _ _ h => (by cases h), fun _ _ _ h => (by cases h)⟩

theorem finishChain_logsAs {ctx : Ctx} {config : ServerConfigRoot}
    {isWebsocket : Bool} {i : Nat} {hs : List ServerModuleHandlers} {st₀ : ChainState} {e : ChainExit}
    {st : ChainState} (hsem : ChainSemantics config ctx.isProxyRequest isWebsocket i hs st₀ e st) :
    LogsAs ctx (some config) st.socketData.remoteAddr.ip (loggedUser e st) (finishChain ctx config e st) := by
  obtain ⟨hresp, hstat⟩ := hsem.exit_authData
  cases e with
  | websocket index => exact websocketRun_logsAs index st
  | response r headers a =>
    rw [loggedUser, ← hresp r headers a rfl]
    exact respondThroughStack_logsAs st r headers a rfl
  | status s headers a =>
    rw [loggedUser, ← hstat s headers a rfl]
    exact respondThroughStack_logsAs st _ headers a rfl
  | failed err => exact respondThroughStack_logsAs st _ none _ (filter_errorLog_access _ _)
  | finished => exact respondThroughStack_logsAs st _ none _ rfl

/-- A module whose forward entry and post-processor both fail. -/
def failingModule : ServerModuleHandlers where
  doesConnectProxyRequests := false
  doesWebsocketRequests _ _ := false
  requestHandler _ _ _ := .error "forward failed"
  proxyRequestHandler _ _ _ := .error "forward failed"
  responseModifyingHandler _ := .error "post-processing failed"
  proxyResponseModifyingHandler _ := .error "post-processing failed"

/-- Both entries of `failingModule` run and fail, and only the second failure is logged. -/
theorem requestHandlerWrapped_forward_error_unlogged :
    (requestHandlerWrapped sampleEnv sampleRequest sampleAddr sampleAddr false sampleConfig .null
      [failingModule]).calls.map HandlerCall.target = [(0, true, false), (0, false, false)] ∧
    (requestHandlerWrapped sampleEnv sampleRequest sampleAddr sampleAddr false sampleConfig .null
      [failingModule]).errorRecords =
      [⟨"Unexpected error while serving a request: post-processing failed", true⟩] := by
  decide

end Karpacz.Proof
