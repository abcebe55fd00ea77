import Karpacz.Proof.PostProcessing
import Karpacz.Proof.Prepare

/-!
# `Server` and `customHeaders` on every returned response

Every return site of `request_handler_wrapped` finishes the response it built the same
way: the `customHeaders` loop, then `Server`, then (on the chain's paths) the
post-processing stack. The two early failures, before any configuration exists, set
`Server` only.

`requestHandlerWrapped_finished` states this once for every run and one header name:
either no configuration was resolved and the response is the built one with `Server`,
or the response shows, for that name, what `finishHeaders` gives the built response,
as long as the post-processors the run can reach keep that name's values
(`ReachableKeepHeader`: those on the stack the walk leaves). `Server` and the
`customHeaders` law are both read off it.

Post-processing runs after both. A post-processor that drops a header therefore drops
`Server` and any custom value with it: `requestHandlerWrapped_server_stripped` and
`requestHandlerWrapped_customHeader_stripped` are such runs. One that the walk never
reaches drops nothing: `requestHandlerWrapped_server_once_answered` puts a handler that
answers in front of the one that strips.
-/

namespace Karpacz.Proof

open Karpacz

/-- The configuration a run resolves: what `combine_config` returns, once the `Host`
header is normalized. -/
def resolvedConfig (env : Env) (request : Request) (localAddress : SocketAddr)
    (globalConfigRoot : ServerConfigRoot) (hostConfig : Yaml) : Option ServerConfigRoot :=
  match normalizeHost request with
  | .error _ => none
  | .ok request' =>
    env.combineConfig globalConfigRoot hostConfig
      (hostnameFor (Ctx.ofRequest env request globalConfigRoot) request') localAddress.ip
      request'.uri.path

/-- Every post-processing entry of the request's kind on `stack` keeps the values of `n`. -/
def KeepsHeader (isProxy : Bool) (stack : List (Nat × ServerModuleHandlers)) (n : HeaderName) : Prop :=
  ∀ p ∈ stack, ∀ r r', modifyingEntry isProxy p.2 r = .ok r' → r'.headers.getAll n = r.headers.getAll n

/-- The post-processors a run can reach keep the values of `n`: those on the stack the
walk leaves, for a prepared request that is neither asterisk-form nor CONNECT and that
no handler takes over. -/
def ReachableKeepHeader (env : Env) (request : Request) (socketData : SocketData)
    (globalConfigRoot : ServerConfigRoot) (hostConfig : Yaml)
    (handlersVec : List ServerModuleHandlers) (n : HeaderName) : Prop :=
  ∀ config prepared e st, prepareRequest (Ctx.ofRequest env request globalConfigRoot) request socketData
      globalConfigRoot hostConfig = .ok (config, prepared) →
    prepared.uri.path ≠ "*" → request.method ≠ .connect →
    ChainSemantics config (isProxyRequest request) (env.isUpgradeRequest prepared) 0 handlersVec
      (ChainState.initial prepared socketData) e st →
    (∀ i, e ≠ .websocket i) → KeepsHeader (isProxyRequest request) st.executedHandlers n

/-- The returned response shows, for `n`, what `finishHeaders` gives the built one. -/
def FinishedAt (env : Env) (config : ServerConfigRoot) (n : HeaderName) (run : Run) : Prop :=
  run.response.headers.getAll n = (finishHeaders env config run.built).headers.getAll n

/-! ## The stack keeps a header its handlers keep -/

theorem Unwinds.getAll_of_ok {isProxy : Bool} {n : HeaderName} {stack : List (Nat × ServerModuleHandlers)}
    {r r' : Response} {calls : List HandlerCall} (h : Unwinds isProxy stack r calls (.ok r'))
    (hkeep : KeepsHeader isProxy stack n) : r'.headers.getAll n = r.headers.getAll n := by
  generalize hres : (Except.ok r' : Except String Response) = result at h
  induction h with
  | done => cases hres; rfl
  | @passed i h rest r₀ r₁ _ _ hm _ ih =>
    rw [ih (fun p hp => hkeep p (List.mem_cons_of_mem _ hp)) hres,
      hkeep (i, h) (List.mem_cons_self _ _) r₀ r₁ hm]
  | failed _ => cases hres

theorem respondThroughStack_finishedAt {ctx : Ctx} {config : ServerConfigRoot} {st : ChainState}
    {n : HeaderName} (hkeep : KeepsHeader ctx.isProxyRequest st.executedHandlers n) (base : Response)
    (errorHeaders : Option HeaderMap) (authData : Option String) (afterLoop : List LogMessage) :
    FinishedAt ctx.env config n (respondThroughStack ctx config st base errorHeaders authData afterLoop) := by
  have hunw := postProcess_unwinds ctx.isProxyRequest st.executedHandlers (finishHeaders ctx.env config base)
  unfold FinishedAt respondThroughStack
  generalize postProcess ctx.isProxyRequest st.executedHandlers (finishHeaders ctx.env config base) = p
    at hunw ⊢
  obtain ⟨postCalls, result⟩ := p
  cases result with
  | error err => rfl
  | ok r => exact hunw.getAll_of_ok hkeep

theorem finishChain_finishedAt {ctx : Ctx} {config : ServerConfigRoot} {e : ChainExit}
    {st : ChainState} {n : HeaderName}
    (hkeep : (∀ i, e ≠ .websocket i) → KeepsHeader ctx.isProxyRequest st.executedHandlers n) :
    FinishedAt ctx.env config n (finishChain ctx config e st) := by
  cases e
  case websocket i => simp only [finishChain, websocketRun]; split <;> rfl
  all_goals exact respondThroughStack_finishedAt (hkeep nofun) _ _ _ _

/-- **Every site after preparation finishes its response with the configuration**, when
the post-processors the walk reaches keep `n`. -/
theorem dispatch_finishedAt (ctx : Ctx) (config : ServerConfigRoot) (request : Request)
    (socketData : SocketData) (handlersVec : List ServerModuleHandlers) {n : HeaderName}
    (hkeep : request.uri.path ≠ "*" → ctx.isConnectProxyRequest = false → ∀ e st,
      ChainSemantics config ctx.isProxyRequest (ctx.env.isUpgradeRequest request) 0 handlersVec
        (ChainState.initial request socketData) e st →
      (∀ i, e ≠ .websocket i) → KeepsHeader ctx.isProxyRequest st.executedHandlers n) :
    FinishedAt ctx.env config n (dispatch ctx config request socketData handlersVec) := by
  unfold dispatch
  split
  · rfl
  rename_i hstar
  split
  · unfold connectRun; split
    · split <;> rfl
    · rfl
  rename_i hc
  exact finishChain_finishedAt
    (hkeep hstar (Bool.not_eq_true _ ▸ hc) _ _ (walkHandlers_sound config _ _ 0 handlersVec _))

/-! ## The early returns -/

theorem prepareRequest_ok {env : Env} {request : Request} {socketData : SocketData}
    {globalConfigRoot : ServerConfigRoot} {hostConfig : Yaml} {config : ServerConfigRoot} {prepared : Request}
    (h : prepareRequest (Ctx.ofRequest env request globalConfigRoot) request socketData globalConfigRoot
      hostConfig = .ok (config, prepared)) :
    resolvedConfig env request socketData.localAddr globalConfigRoot hostConfig = some config := by
  obtain ⟨request', hn, hc, -⟩ := prepareRequest_stages h
  rw [resolvedConfig, hn]
  exact hc

/-- An early return sends its error record and then the access record of the response it
built. Before a configuration exists it adds `Server` only; after, it finishes the
response with that configuration. -/
theorem prepareRequest_error {env : Env} {request : Request} {socketData : SocketData}
    {globalConfigRoot : ServerConfigRoot} {hostConfig : Yaml} {run : Run}
    (h : prepareRequest (Ctx.ofRequest env request globalConfigRoot) request socketData globalConfigRoot
      hostConfig = .error run) :
    (∃ message, run.logs = (Ctx.ofRequest env request globalConfigRoot).errorLog message ++
      (Ctx.ofRequest env request globalConfigRoot).accessLog socketData.remoteAddr.ip none run.built) ∧
    ((resolvedConfig env request socketData.localAddr globalConfigRoot hostConfig = none ∧
      run.response = insertServer env run.built) ∨
    ∃ config, resolvedConfig env request socketData.localAddr globalConfigRoot hostConfig = some config ∧
      run.response = finishHeaders env config run.built) := by
  unfold prepareRequest at h
  split at h
  · rename_i hn
    cases h; exact ⟨⟨_, rfl⟩, .inl ⟨by rw [resolvedConfig, hn], rfl⟩⟩
  · rename_i hn
    split at h
    · rename_i hc
      cases h; exact ⟨⟨_, rfl⟩, .inl ⟨by rw [resolvedConfig, hn]; exact hc, rfl⟩⟩
    · rename_i config hc
      split at h
      · cases h; exact ⟨⟨_, rfl⟩, .inr ⟨config, by rw [resolvedConfig, hn]; exact hc, rfl⟩⟩
      · cases h

/-- **What every run does to a header its post-processors keep.** -/
theorem requestHandlerWrapped_finished (env : Env) (request : Request)
    (remoteAddress localAddress : SocketAddr) (encrypted : Bool)
    (globalConfigRoot : ServerConfigRoot) (hostConfig : Yaml)
    (handlersVec : List ServerModuleHandlers) {n : HeaderName}
    (hkeep : ReachableKeepHeader env request ⟨remoteAddress, localAddress, encrypted⟩ globalConfigRoot
      hostConfig handlersVec n) :
    let run := requestHandlerWrapped env request remoteAddress localAddress encrypted
      globalConfigRoot hostConfig handlersVec
    (resolvedConfig env request localAddress globalConfigRoot hostConfig = none ∧
      run.response = insertServer env run.built) ∨
    ∃ config, resolvedConfig env request localAddress globalConfigRoot hostConfig = some config ∧
      FinishedAt env config n run := by
  intro run
  cases hprep : prepareRequest (Ctx.ofRequest env request globalConfigRoot) request
      ⟨remoteAddress, localAddress, encrypted⟩ globalConfigRoot hostConfig with
  | error early =>
    have hrun : run = early := by simp only [run, requestHandlerWrapped, hprep]
    rw [hrun]
    rcases (prepareRequest_error hprep).2 with h | ⟨config, hc, hr⟩
    · exact .inl h
    · exact .inr ⟨config, hc, by rw [FinishedAt, hr]⟩
  | ok prepared =>
    obtain ⟨config, prepared⟩ := prepared
    refine .inr ⟨config, prepareRequest_ok hprep, ?_⟩
    rw [show run = _ from requestHandlerWrapped_of_prepared hprep handlersVec]
    refine dispatch_finishedAt _ _ _ _ _ fun hstar hc e st hsem hws => hkeep config prepared e st hprep hstar ?_ hsem hws
    simpa [Ctx.ofRequest] using hc

/-! ## `Server` -/

/-- **`Server` is the product token, once, on every returned response**, when the
post-processors keep it. -/
theorem requestHandlerWrapped_server_once (env : Env) (request : Request)
    (remoteAddress localAddress : SocketAddr) (encrypted : Bool)
    (globalConfigRoot : ServerConfigRoot) (hostConfig : Yaml)
    (handlersVec : List ServerModuleHandlers) {v : HeaderValue}
    (hv : HeaderValue.fromStr env.serverSoftware = some v)
    (hkeep : ReachableKeepHeader env request ⟨remoteAddress, localAddress, encrypted⟩ globalConfigRoot
      hostConfig handlersVec .server) :
    (requestHandlerWrapped env request remoteAddress localAddress encrypted globalConfigRoot
      hostConfig handlersVec).response.headers.getAll .server = [v] := by
  rcases requestHandlerWrapped_finished env request remoteAddress localAddress encrypted
      globalConfigRoot hostConfig handlersVec hkeep with ⟨_, hr⟩ | ⟨config, _, hf⟩
  · rw [hr]; exact insertServer_server env _ hv
  · rw [hf]; exact finishHeaders_server env config _ hv

/-- A module that answers every request with an empty 200 and whose post-processors
drop every header. -/
def headerStripper : ServerModuleHandlers where
  doesConnectProxyRequests := false
  doesWebsocketRequests _ _ := false
  requestHandler requestData _ _ :=
    .ok { ResponseData.builder requestData with response := some ⟨.ok, .empty, .empty⟩ }
  proxyRequestHandler requestData _ _ :=
    .ok { ResponseData.builder requestData with response := some ⟨.ok, .empty, .empty⟩ }
  responseModifyingHandler response := .ok { response with headers := .empty }
  proxyResponseModifyingHandler response := .ok { response with headers := .empty }

/-- A post-processor that drops headers drops `Server`: the response returned has none. -/
theorem requestHandlerWrapped_server_stripped :
    (requestHandlerWrapped sampleEnv sampleRequest sampleAddr sampleAddr false sampleConfig .null
      [headerStripper]).response.headers.getAll .server = [] := by
  decide

/-- A module that answers every request with an empty 200 and whose post-processors
keep the response. -/
def okAnswerer : ServerModuleHandlers :=
  { headerStripper with
    responseModifyingHandler := .ok
    proxyResponseModifyingHandler := .ok }

/-- `Server`, the product token of `sampleEnv`. -/
def ferronServer : HeaderValue := ⟨"Ferron".data.map fun c => c.toNat.toUInt8, by decide⟩

/-- In front of `headerStripper`, a handler that answers keeps it from ever running, so
`Server` stays. -/
theorem requestHandlerWrapped_server_once_answered :
    HeaderValue.fromStr sampleEnv.serverSoftware = some ferronServer ∧
      ReachableKeepHeader sampleEnv sampleRequest ⟨sampleAddr, sampleAddr, false⟩ sampleConfig .null
        [okAnswerer, headerStripper] .server ∧
      (requestHandlerWrapped sampleEnv sampleRequest sampleAddr sampleAddr false sampleConfig .null
        [okAnswerer, headerStripper]).response.headers.getAll .server = [ferronServer] :=
  have hkeep : ReachableKeepHeader sampleEnv sampleRequest ⟨sampleAddr, sampleAddr, false⟩ sampleConfig
      .null [okAnswerer, headerStripper] .server := by
    intro config prepared e st hprep _ _ hsem _
    obtain ⟨rfl, rfl⟩ := Prod.mk.inj (Except.ok.inj ((rfl : prepareRequest (Ctx.ofRequest sampleEnv
      sampleRequest sampleConfig) sampleRequest ⟨sampleAddr, sampleAddr, false⟩ sampleConfig .null =
        .ok (sampleConfig, sampleRequest)).symm.trans hprep))
    -- the walk stops at the first handler, which answers
    have hst : st.executedHandlers = [(0, okAnswerer)] := by
      rw [show st = _ from (congrArg Prod.snd (walkHandlers_complete _ _ _ hsem)).symm]; rfl
    rw [hst]
    rintro p hp r r' hm
    obtain rfl := List.mem_singleton.mp hp
    obtain rfl : r = r' := Except.ok.inj hm
    rfl
  ⟨by decide, hkeep, requestHandlerWrapped_server_once sampleEnv sampleRequest sampleAddr sampleAddr
    false sampleConfig .null [okAnswerer, headerStripper] (by decide) hkeep⟩

/-! ## `customHeaders` -/

/-- **`customHeaders` fill a header only where the return site left it empty**, never
`Server`, and with the first entry that names it with a valid value; post-processing
comes after and sees the result. -/
theorem requestHandlerWrapped_customHeaders (env : Env) (request : Request)
    (remoteAddress localAddress : SocketAddr) (encrypted : Bool)
    (globalConfigRoot : ServerConfigRoot) (hostConfig : Yaml)
    (handlersVec : List ServerModuleHandlers) {config : ServerConfigRoot}
    (hconfig : resolvedConfig env request localAddress globalConfigRoot hostConfig = some config)
    {n : HeaderName} (hn : n ≠ .server)
    (hkeep : ReachableKeepHeader env request ⟨remoteAddress, localAddress, encrypted⟩ globalConfigRoot
      hostConfig handlersVec n) :
    let run := requestHandlerWrapped env request remoteAddress localAddress encrypted
      globalConfigRoot hostConfig handlersVec
    run.response.headers.getAll n =
      if run.built.headers.getAll n = [] then
        (customHeaderValue ((config.get "customHeaders").asHash.getD []) n).toList
      else run.built.headers.getAll n := by
  intro run
  rcases requestHandlerWrapped_finished env request remoteAddress localAddress encrypted
      globalConfigRoot hostConfig handlersVec hkeep with ⟨hnone, _⟩ | ⟨config', hc, hf⟩
  · cases hconfig.symm.trans hnone
  · cases hconfig.symm.trans hc
    exact hf.trans (getAll_finishHeaders env _ _ hn)

/-- A configuration with one custom header, `X-Powered-By: Ferron`. -/
def poweredByConfig : ServerConfigRoot :=
  ⟨[(.string "customHeaders", .hash [(.string "X-Powered-By", .string "Ferron")])]⟩

/-- `x-powered-by`. -/
def xPoweredBy : HeaderName := ⟨"x-powered-by", by decide⟩

theorem requestHandlerWrapped_customHeaders_sample :
    resolvedConfig sampleEnv sampleRequest sampleAddr poweredByConfig .null = some poweredByConfig ∧
      xPoweredBy ≠ .server ∧
      ReachableKeepHeader sampleEnv sampleRequest ⟨sampleAddr, sampleAddr, false⟩ poweredByConfig .null []
        xPoweredBy ∧
      (requestHandlerWrapped sampleEnv sampleRequest sampleAddr sampleAddr false poweredByConfig .null
        []).response.headers.getAll xPoweredBy =
        if (requestHandlerWrapped sampleEnv sampleRequest sampleAddr sampleAddr false poweredByConfig
            .null []).built.headers.getAll xPoweredBy = [] then
          (customHeaderValue ((poweredByConfig.get "customHeaders").asHash.getD []) xPoweredBy).toList
        else (requestHandlerWrapped sampleEnv sampleRequest sampleAddr sampleAddr false poweredByConfig
            .null []).built.headers.getAll xPoweredBy :=
  have hkeep : ReachableKeepHeader sampleEnv sampleRequest ⟨sampleAddr, sampleAddr, false⟩ poweredByConfig
      .null [] xPoweredBy := fun _ _ _ _ _ _ _ hsem _ => by
    cases hsem
    exact fun _ h => nomatch h
  ⟨rfl, by decide, hkeep, requestHandlerWrapped_customHeaders sampleEnv sampleRequest sampleAddr sampleAddr
    false poweredByConfig .null [] rfl (by decide) hkeep⟩

/-- The custom header is merged before post-processing: once a post-processor drops
headers, the returned response has no `X-Powered-By`, though the configuration names
one and the response that post-processing produced has none. -/
theorem requestHandlerWrapped_customHeader_stripped :
    customHeaderValue ((poweredByConfig.get "customHeaders").asHash.getD []) xPoweredBy ≠ none ∧
      (requestHandlerWrapped sampleEnv sampleRequest sampleAddr sampleAddr false poweredByConfig .null
        [headerStripper]).response.headers.getAll xPoweredBy = [] := by
  decide

/-! ## The loop against the spec's words -/

/-- Following the spec's words: an entry whose key and value are strings, whose key is
`n`'s name up to ASCII case, and whose value is a valid header value. -/
def namesValidly (n : HeaderName) (entry : Yaml × Yaml) : Bool :=
  match entry.1.asStr, entry.2.asStr with
  | some key, some value =>
    key.data.map Char.toLower == n.name.data && (HeaderValue.fromStr value).isSome
  | _, _ => false

/-- Following the spec's words: the value of the first entry that names `n` validly. -/
def firstCustomValue (entries : List (Yaml × Yaml)) (n : HeaderName) : Option HeaderValue :=
  (entries.find? (namesValidly n)).bind fun entry => entry.2.asStr.bind HeaderValue.fromStr

/-- The value the loop reads off the entries is the spec's first valid entry. -/
theorem customHeaderValue_eq_firstCustomValue (entries : List (Yaml × Yaml)) (n : HeaderName) :
    customHeaderValue entries n = firstCustomValue entries n := by
  induction entries with
  | nil => rfl
  | cons entry entries ih =>
    obtain ⟨key, value⟩ := entry
    simp only [customHeaderValue, firstCustomValue, List.findSome?_cons, List.find?_cons] at ih ⊢
    rw [ih]
    cases hk : key.asStr with
    | none => simp [customHeaderEntryValue, namesValidly, hk]
    | some k =>
      cases hv : value.asStr with
      | none => simp [customHeaderEntryValue, namesValidly, hk, hv]
      | some v =>
        by_cases hkn : k.data.map Char.toLower = n.name.data
        · have hname := HeaderName.fromStr_eq_some_iff_toLower.mpr hkn
          cases hval : HeaderValue.fromStr v <;>
            simp [customHeaderEntryValue, namesValidly, hk, hv, hname, hkn, hval]
        · have hname : HeaderName.fromStr k ≠ some n := mt HeaderName.fromStr_eq_some_iff_toLower.mp hkn
          simp [customHeaderEntryValue, namesValidly, hk, hv, hname, beq_false_of_ne hkn]

/-- **The `customHeaders` loop extends the header map.** For every header map and every
`customHeaders` mapping, of any length and order and with keys repeated in any case: a
header that has values keeps exactly them, and an empty one gets the value of the first
entry whose key and value are strings, whose key names it up to ASCII case, and whose
value is a valid header value; every other entry is skipped. -/
theorem mergeCustomHeaders_extends (entries : List (Yaml × Yaml)) (headers : HeaderMap)
    (n : HeaderName) :
    (mergeCustomHeaders (.hash entries) headers).getAll n =
      if headers.getAll n = [] then (firstCustomValue entries n).toList else headers.getAll n := by
  rw [getAll_mergeCustomHeaders, Yaml.asHash, Option.getD_some, customHeaderValue_eq_firstCustomValue]

end Karpacz.Proof
