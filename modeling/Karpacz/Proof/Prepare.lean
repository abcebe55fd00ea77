import Karpacz.Proof.Dispatch

/-!
# The preparation stages

Before any handler runs, `request_handler_wrapped` lowercases the `Host` header,
resolves the configuration and sanitizes the path, rebuilding the URI around the new
path when it changed. This file is about the first and the last of those.

`requestHandlerWrapped_host` covers every `Host` value a client can send. A value that
`to_str` refuses ends the run with a 400 before `combine_config` or any handler is
reached. Any other value is lowercased, and lowercase visible ASCII is always a valid
header value, so the `from_str` failure inside the `Ok` arm cannot happen; the lowercase
text is what `combine_config` is asked about and what the prepared request carries.
`ForwardCalls` says what each forward call of a run receives: the first the prepared
request, each later one what the forward entry before it passed on. A handler may
therefore pass a different `Host` on to the next one:
`requestHandlerWrapped_host_rewritten` is such a chain.

`sanitizeRequest_rebuilds` is the round trip of the rebuild: the sanitized path and the
old query are printed and parsed again by `http`'s path-and-query parser, and come back
as they were, in the old scheme and authority.
-/

namespace Karpacz.Proof

open Karpacz

/-! ## Stage by stage -/

/-- A prepared request went through `Host` normalization and then the sanitizer. -/
theorem prepareRequest_stages {ctx : Ctx} {request : Request} {socketData : SocketData}
    {globalConfigRoot : ServerConfigRoot} {hostConfig : Yaml} {config : ServerConfigRoot}
    {prepared : Request}
    (h : prepareRequest ctx request socketData globalConfigRoot hostConfig = .ok (config, prepared)) :
    ∃ request', normalizeHost request = .ok request' ∧
      ctx.env.combineConfig globalConfigRoot hostConfig (hostnameFor ctx request') socketData.localAddr.ip
        request'.uri.path = some config ∧
      sanitizeRequest ctx.env config request' = .ok prepared := by
  cases hn : normalizeHost request with
  | error err => simp only [prepareRequest, hn] at h; cases h
  | ok request' =>
    cases hc : ctx.env.combineConfig globalConfigRoot hostConfig (hostnameFor ctx request')
        socketData.localAddr.ip request'.uri.path with
    | none => simp only [prepareRequest, hn, hc] at h; cases h
    | some config' =>
      cases hs : sanitizeRequest ctx.env config' request' with
      | error err => simp only [prepareRequest, hn, hc, hs] at h; cases h
      | ok r =>
        simp only [prepareRequest, hn, hc, hs, Except.ok.injEq, Prod.mk.injEq] at h
        obtain ⟨rfl, rfl⟩ := h
        exact ⟨request', rfl, hc, hs⟩

/-- **What the sanitizer can do.** It keeps the request, or puts a rebuilt URI in place
of the old one; nothing else of the request changes. -/
theorem sanitizeRequest_uri_only {env : Env} {config : ServerConfigRoot} {request prepared : Request}
    (h : sanitizeRequest env config request = .ok prepared) : ∃ uri, prepared = { request with uri := uri } := by
  unfold sanitizeRequest at h
  cases hs : env.sanitizeUrl request.uri.path ((config.get "allowDoubleSlashes").asBool.getD false) with
  | error err => simp only [hs] at h; cases h
  | ok p =>
    simp only [hs] at h
    split_ifs at h
    · split at h
      · cases h
      · split at h
        · cases h
        · cases h; exact ⟨_, rfl⟩
    · cases h; exact ⟨request.uri, rfl⟩

/-- **The rebuild is a round trip.** Take a request target in origin form (no scheme,
no authority) or absolute form (both), whose path and query `http` parsed, and a new
path that `sanitize_url` returns: different from the old one, starting with `/`, and
made of path bytes only (so with no `?` or `#`). Printing the new path and the old
query and parsing them again takes neither error arm, and gives back the new path, the
old query (absent exactly when it was absent) and the old scheme and authority. -/
theorem sanitizeRequest_rebuilds {env : Env} {config : ServerConfigRoot} {request : Request}
    {target p : String}
    (hform : (request.uri.scheme = none ∧ request.uri.authority = none) ∨
      (request.uri.scheme.isSome ∧ request.uri.authority.isSome))
    (hparsed : PathAndQuery.fromStr target = .ok request.uri.pathAndQuery)
    (hs : env.sanitizeUrl request.uri.path ((config.get "allowDoubleSlashes").asBool.getD false) = .ok p)
    (hne : p ≠ request.uri.path) (hslash : p.data.head? = some '/')
    (hp : ∀ c ∈ p.data, PathAndQuery.pathChar c = true) :
    ∃ uri, sanitizeRequest env config request = .ok { request with uri := uri } ∧
      uri.path = p ∧ uri.query = request.uri.query ∧ uri.scheme = request.uri.scheme ∧
      uri.authority = request.uri.authority := by
  have hpath : p ≠ "" := by rintro rfl; cases hslash
  refine ⟨⟨request.uri.scheme, request.uri.authority, ⟨p, request.uri.query⟩⟩, ?_,
    Uri.path_of_ne_empty hpath, rfl, rfl, rfl⟩
  simp only [sanitizeRequest, hs]
  rw [if_pos hne]
  cases hparts : request.uri.partsPathAndQuery with
  | none =>
    simp only [String.append_empty, PathAndQuery.fromStr_path hp, Uri.fromParts_of_form _ hform,
      Uri.query_of_partsPathAndQuery hparts]
  | some pq =>
    -- `into_parts` hands back the parsed path-and-query
    obtain rfl := Uri.eq_of_partsPathAndQuery hparts
    cases hquery : request.uri.pathAndQuery.query with
    | none =>
      simp only [String.append_empty, PathAndQuery.fromStr_path hp, Uri.fromParts_of_form _ hform,
        Uri.query, hquery]
    | some q =>
      simp only [PathAndQuery.fromStr_path_query hp (PathAndQuery.queryChar_of_fromStr hparsed _ hquery),
        Uri.fromParts_of_form _ hform, Uri.query, hquery]

/-- `GET /a/../b?x=1`. -/
def dotSegmentRequest : Request := ⟨.get, .http11, ⟨none, none, ⟨"/a/../b", some "x=1"⟩⟩, .empty⟩

/-- A sanitizer that resolves the dot segments of `/a/../b`. -/
def dotSegmentEnv : Env := { sampleEnv with sanitizeUrl := fun _ _ => .ok "/b" }

theorem sanitizeRequest_rebuilds_sample :
    ∃ uri, sanitizeRequest dotSegmentEnv sampleConfig dotSegmentRequest =
        .ok { dotSegmentRequest with uri := uri } ∧
      uri.path = "/b" ∧ uri.query = some "x=1" ∧ uri.scheme = none ∧ uri.authority = none :=
  sanitizeRequest_rebuilds (Or.inl ⟨rfl, rfl⟩)
    (show PathAndQuery.fromStr "/a/../b?x=1" = .ok dotSegmentRequest.uri.pathAndQuery from rfl) rfl
    (by decide) (by decide) (by decide)

/-! ## `Host` -/

/-- The ASCII lowercase of a text `to_str` returned is a header value again, which
`to_str` reads back. -/
theorem fromStr_toLower {b : HeaderValue} {text : String} (ht : b.toStr = some text) :
    ∃ v, HeaderValue.fromStr ⟨text.data.map Char.toLower⟩ = some v ∧
      v.toStr = some ⟨text.data.map Char.toLower⟩ := by
  have hvis := HeaderValue.visibleChar_of_toStr ht
  exact HeaderValue.toStr_fromStr fun c hc => by
    obtain ⟨d, hd, rfl⟩ := List.mem_map.mp hc
    exact (hvis d hd).toLower

/-- A `Host` that `to_str` reads becomes its ASCII lowercase. -/
theorem normalizeHost_of_toStr {request : Request} {b : HeaderValue} {text : String}
    (hb : request.headers.get .host = some b) (ht : b.toStr = some text) :
    ∃ request', normalizeHost request = .ok request' ∧
      headerText request' .host = some ⟨text.data.map Char.toLower⟩ := by
  obtain ⟨v, hv, hvt⟩ := fromStr_toLower ht
  by_cases heq : (⟨text.data.map Char.toLower⟩ : String) = text
  · refine ⟨request, ?_, ?_⟩
    · simp only [normalizeHost, hb, ht, heq, ne_eq, not_true_eq_false, if_false]
    · simp only [headerText, hb, Option.some_bind, ht, heq]
  · refine ⟨{ request with headers := request.headers.insert .host v }, ?_, ?_⟩
    · simp only [normalizeHost, hb, ht, ne_eq, heq, not_false_eq_true, if_true, hv]
    · simp only [headerText, HeaderMap.get, HeaderMap.getAll_insert_self, List.head?_cons,
        Option.some_bind, hvt]

/-- A `Host` that `to_str` refuses ends the run at once, with the response and records
of that early return. -/
theorem requestHandlerWrapped_of_toStr_none (env : Env) (request : Request)
    (remoteAddress localAddress : SocketAddr) (encrypted : Bool) (globalConfigRoot : ServerConfigRoot)
    (hostConfig : Yaml) (handlersVec : List ServerModuleHandlers) {b : HeaderValue}
    (hb : request.headers.get .host = some b) (ht : b.toStr = none) :
    requestHandlerWrapped env request remoteAddress localAddress encrypted globalConfigRoot hostConfig
        handlersVec =
      ⟨insertServer env ⟨.badRequest, ⟨[(.contentType, .textHtml)]⟩,
          .full (env.generateDefaultErrorPage .badRequest none)⟩,
        ⟨.badRequest, ⟨[(.contentType, .textHtml)]⟩, .full (env.generateDefaultErrorPage .badRequest none)⟩,
        (Ctx.ofRequest env request globalConfigRoot).errorLog
            "Host header sanitation error: failed to convert header to a str" ++
          (Ctx.ofRequest env request globalConfigRoot).accessLog remoteAddress.ip none
            ⟨.badRequest, ⟨[(.contentType, .textHtml)]⟩, .full (env.generateDefaultErrorPage .badRequest none)⟩,
        [], []⟩ := by
  have hn : normalizeHost request = .error "failed to convert header to a str" := by
    simp only [normalizeHost, hb, ht]
  simp only [requestHandlerWrapped, prepareRequest, hn]
  rfl

/-! ## What the handlers see -/

/-- A handler whose forward entry passes a request on only with the `Host` text it got. -/
def KeepsHost (isProxy : Bool) (h : ServerModuleHandlers) : Prop :=
  ∀ requestData config socketData out r, forwardEntry isProxy h requestData config socketData = .ok out →
    out.request = some r → headerText r .host = headerText requestData.request .host

/-- What the forward calls of a walk from position `i` over `hs`, started on
`requestData`, say: they go to positions from `i` on, through the entry of the walk's
kind; the one at `i` receives `requestData`; and each later one receives the request
the forward entry of the handler before it passed on, with that outcome's user. -/
structure ForwardCalls (config : ServerConfigRoot) (isProxy : Bool) (i : Nat)
    (hs : List ServerModuleHandlers) (requestData : RequestData) (calls : List HandlerCall) : Prop where
  position : ∀ j p rd sd, HandlerCall.forward j p rd sd ∈ calls → i ≤ j ∧ p = isProxy
  first : ∀ p rd sd, HandlerCall.forward i p rd sd ∈ calls → rd = requestData
  passed : ∀ j p rd sd, HandlerCall.forward (j + 1) p rd sd ∈ calls → i ≤ j →
    ∃ rd' sd' h out, HandlerCall.forward j p rd' sd' ∈ calls ∧ hs[j - i]? = some h ∧
      forwardEntry p h rd' config sd' = .ok out ∧ out.request = some rd.request ∧
      rd.authUser = out.authUser

namespace ForwardCalls

variable {config : ServerConfigRoot} {isProxy : Bool} {i : Nat} {hs : List ServerModuleHandlers}
  {requestData : RequestData}

theorem nil : ForwardCalls config isProxy i hs requestData [] :=
  ⟨fun _ _ _ _ h => (nomatch h), fun _ _ _ h => (nomatch h), fun _ _ _ _ h => (nomatch h)⟩

theorem single (socketData : SocketData) :
    ForwardCalls config isProxy i hs requestData [.forward i isProxy requestData socketData] := by
  refine ⟨fun j p rd sd hc => ?_, fun p rd sd hc => ?_, fun j p rd sd hc hj => ?_⟩ <;>
    simp only [List.mem_singleton, HandlerCall.forward.injEq] at hc
  · exact ⟨hc.1.ge, hc.2.1⟩
  · exact hc.2.2.1
  · omega

/-- A handler that passes the request on puts its call before those of the rest of the walk. -/
theorem cons {h : ServerModuleHandlers} {socketData : SocketData} {out : ResponseData} {r : Request}
    {calls : List HandlerCall} (hf : forwardEntry isProxy h requestData config socketData = .ok out)
    (hr : out.request = some r) (hrest : ForwardCalls config isProxy (i + 1) hs ⟨r, out.authUser⟩ calls) :
    ForwardCalls config isProxy i (h :: hs) requestData
      (.forward i isProxy requestData socketData :: calls) := by
  refine ⟨fun j p rd sd hc => ?_, fun p rd sd hc => ?_, fun j p rd sd hc hj => ?_⟩ <;>
    rcases List.mem_cons.mp hc with hhead | htail
  · simp only [HandlerCall.forward.injEq] at hhead; exact ⟨hhead.1.ge, hhead.2.1⟩
  · have := hrest.position j p rd sd htail; exact ⟨by omega, this.2⟩
  · simp only [HandlerCall.forward.injEq] at hhead; exact hhead.2.2.1
  · have := hrest.position i p rd sd htail; omega
  · simp only [HandlerCall.forward.injEq] at hhead; omega
  rcases Nat.eq_or_lt_of_le hj with rfl | hlt
  · -- the call right after this handler's gets what it passed on
    obtain rfl := (hrest.position _ p rd sd htail).2
    obtain rfl := hrest.first p rd sd htail
    exact ⟨requestData, socketData, h, out, List.mem_cons_self _ _, by simp, hf, hr, rfl⟩
  · obtain ⟨rd', sd', h', out', hmem, hat, hf', hr', hu⟩ := hrest.passed j p rd sd htail hlt
    refine ⟨rd', sd', h', out', List.mem_cons_of_mem _ hmem, ?_, hf', hr', hu⟩
    rwa [show j - i = j - (i + 1) + 1 by omega, List.getElem?_cons_succ]

/-- Post-processing calls add no forward call. -/
theorem append {calls post : List HandlerCall} (hfc : ForwardCalls config isProxy i hs requestData calls)
    (hpost : ∀ j p rd sd, HandlerCall.forward j p rd sd ∉ post) :
    ForwardCalls config isProxy i hs requestData (calls ++ post) := by
  have hmem : ∀ {j p rd sd}, HandlerCall.forward j p rd sd ∈ calls ++ post →
      HandlerCall.forward j p rd sd ∈ calls := fun hc =>
    (List.mem_append.mp hc).resolve_right (hpost _ _ _ _)
  refine ⟨fun j p rd sd hc => hfc.position j p rd sd (hmem hc),
    fun p rd sd hc => hfc.first p rd sd (hmem hc), fun j p rd sd hc hj => ?_⟩
  obtain ⟨rd', sd', h, out, hc', hrest⟩ := hfc.passed j p rd sd (hmem hc) hj
  exact ⟨rd', sd', h, out, List.mem_append_left _ hc', hrest⟩

/-- Over handlers that keep `Host`, every call gets the `Host` text the walk started
from: by induction on the position, from the first call. -/
theorem host {calls : List HandlerCall} (hfc : ForwardCalls config isProxy i hs requestData calls)
    (hkeep : ∀ h ∈ hs, KeepsHost isProxy h) :
    ∀ j p rd sd, HandlerCall.forward j p rd sd ∈ calls →
      headerText rd.request .host = headerText requestData.request .host := by
  suffices ∀ k p rd sd, HandlerCall.forward (i + k) p rd sd ∈ calls →
      headerText rd.request .host = headerText requestData.request .host by
    intro j p rd sd hc
    obtain ⟨k, rfl⟩ := Nat.exists_eq_add_of_le (hfc.position j p rd sd hc).1
    exact this k p rd sd hc
  intro k
  induction k with
  | zero => intro p rd sd hc; rw [hfc.first p rd sd hc]
  | succ k ih =>
    intro p rd sd hc
    obtain ⟨rd', sd', h, out, hc', hat, hf, hr, -⟩ := hfc.passed (i + k) p rd sd hc (by omega)
    obtain rfl := (hfc.position _ p rd sd hc).2
    rw [Nat.add_sub_cancel_left] at hat
    rw [hkeep h (List.getElem?_mem hat) rd' config sd' out rd.request hf hr, ih p rd' sd' hc']

end ForwardCalls

/-- A walk from position `i` adds the forward calls `ForwardCalls` describes. -/
theorem ChainSemantics.forwardCalls {config : ServerConfigRoot} {isProxy isWebsocket : Bool}
    {i : Nat} {hs : List ServerModuleHandlers} {st : ChainState} {e : ChainExit} {st' : ChainState}
    (hsem : ChainSemantics config isProxy isWebsocket i hs st e st') :
    ∃ calls, st'.calls = st.calls ++ calls ∧ ForwardCalls config isProxy i hs st.requestData calls := by
  induction hsem with
  | exhausted | takeover _ => exact ⟨[], by simp, .nil⟩
  | failed _ _ | responded _ _ _ | errorStatus _ _ _ _ | stopped _ _ _ _ _ =>
    exact ⟨_, rfl, .single _⟩
  | continued _ hf _ _ hr _ ih =>
    obtain ⟨calls, hcalls, hfc⟩ := ih
    simp only [ChainState.absorbed_calls, ChainState.invoked_calls] at hcalls
    exact ⟨_, hcalls.trans (List.append_assoc _ _ _), .cons hf hr hfc⟩

/-- After the walk, a run only unwinds a prefix of the stack, top first. -/
theorem finishChain_calls (ctx : Ctx) (config : ServerConfigRoot) (e : ChainExit) (st : ChainState) :
    ∃ post, (finishChain ctx config e st).calls = st.calls ++ post ∧
      post.map HandlerCall.target =
        (st.executedHandlers.take post.length).map fun p => (p.1, false, ctx.isProxyRequest) := by
  obtain ⟨hbase, hws⟩ := finishChain_exitReturns ctx config e st
  cases hb : exitBase ctx.env config e with
  | none => exact ⟨[], by rw [(hws hb).1, List.append_nil], rfl⟩
  | some p =>
    obtain ⟨post, result, hcalls, hu, -⟩ := hbase p.1 p.2 hb
    exact ⟨post, hcalls, hu.targets.1⟩

/-- Calls that go to post-processing entries hold no forward call. -/
theorem forward_not_mem_of_targets {post : List HandlerCall} {l : List (Nat × ServerModuleHandlers)}
    {isProxy : Bool} (h : post.map HandlerCall.target = l.map fun p => (p.1, false, isProxy)) :
    ∀ j p requestData socketData, HandlerCall.forward j p requestData socketData ∉ post :=
  fun j p requestData socketData hmem => by
    have hmap := List.mem_map_of_mem HandlerCall.target hmem
    rw [h] at hmap
    obtain ⟨_, _, hq⟩ := List.mem_map.mp hmap
    simp [HandlerCall.target] at hq

theorem dispatch_forwardCalls (ctx : Ctx) (config : ServerConfigRoot) (request : Request)
    (socketData : SocketData) (handlersVec : List ServerModuleHandlers) :
    ForwardCalls config ctx.isProxyRequest 0 handlersVec ⟨request, none⟩
      (dispatch ctx config request socketData handlersVec).calls := by
  obtain ⟨hstar, hconnect, -⟩ := dispatch_dispatches ctx config request socketData handlersVec
  by_cases h1 : request.uri.path = "*"
  · rw [(hstar h1).1]; exact .nil
  cases h2 : ctx.isConnectProxyRequest
  · rw [dispatch_of_walk handlersVec h1 h2]
    have hsem := walkHandlers_sound config ctx.isProxyRequest (ctx.env.isUpgradeRequest request) 0
      handlersVec (ChainState.initial request socketData)
    generalize walkHandlers config ctx.isProxyRequest (ctx.env.isUpgradeRequest request) 0 handlersVec
      (ChainState.initial request socketData) = w at hsem
    obtain ⟨calls, hcalls, hfc⟩ := hsem.forwardCalls
    obtain ⟨post, hpost, htargets⟩ := finishChain_calls ctx config w.1 w.2
    rw [hpost, hcalls]
    exact hfc.append (forward_not_mem_of_targets htargets)
  · rw [(hconnect h1 h2).1]; exact .nil

/-- **The forward calls of every run past preparation** are those of the walk from
position 0 on the prepared request, with no user. -/
theorem requestHandlerWrapped_forwardCalls {env : Env} {request : Request}
    {remoteAddress localAddress : SocketAddr} {encrypted : Bool} {globalConfigRoot : ServerConfigRoot}
    {hostConfig : Yaml} {config : ServerConfigRoot} {prepared : Request}
    (hprep : prepareRequest (Ctx.ofRequest env request globalConfigRoot) request
      ⟨remoteAddress, localAddress, encrypted⟩ globalConfigRoot hostConfig = .ok (config, prepared))
    (handlersVec : List ServerModuleHandlers) :
    ForwardCalls config (isProxyRequest request) 0 handlersVec ⟨prepared, none⟩
      (requestHandlerWrapped env request remoteAddress localAddress encrypted globalConfigRoot
        hostConfig handlersVec).calls := by
  rw [requestHandlerWrapped_of_prepared hprep handlersVec]
  exact dispatch_forwardCalls (Ctx.ofRequest env request globalConfigRoot) config prepared _ handlersVec

/-! ## The `Host` law -/

/-- Normalization changes only the `Host` header. -/
theorem normalizeHost_uri {request request' : Request} (h : normalizeHost request = .ok request') :
    request'.uri = request.uri := by
  unfold normalizeHost at h
  split at h
  · cases h; rfl
  · split at h
    · cases h
    · dsimp only at h
      split_ifs at h
      · split at h
        · cases h; rfl
        · cases h
      · cases h; rfl

/-- **What becomes of the `Host` header.** Let `b` be the value of a request's `Host`.
When `to_str` refuses `b`, the run is a 400 that calls no handler, spawns nothing, and
is the same whatever `combine_config` would answer. Otherwise the ASCII lowercase of
the text is a valid header value, so normalization succeeds and the normalized request
carries it. For a request that is neither a proxy nor a CONNECT request it is the host
name `combine_config` is called with: the configuration of every prepared run is its
answer, and its `None` is the 500 that calls no handler. The prepared request still
carries it; the forward entry at position 0 receives that request, and each later one
the request the handler before it passed on (`ForwardCalls`), so the lowercase text
reaches every handler as long as no handler changes `Host`. -/
theorem requestHandlerWrapped_host (env : Env) (request : Request)
    (remoteAddress localAddress : SocketAddr) (encrypted : Bool)
    (globalConfigRoot : ServerConfigRoot) (hostConfig : Yaml)
    (handlersVec : List ServerModuleHandlers) (b : HeaderValue)
    (hb : request.headers.get .host = some b) :
    let run := requestHandlerWrapped env request remoteAddress localAddress encrypted globalConfigRoot
      hostConfig handlersVec
    (b.toStr = none →
      run.response.status = .badRequest ∧ run.calls = [] ∧ run.spawned = [] ∧
      ∀ combineConfig, requestHandlerWrapped { env with combineConfig := combineConfig } request
        remoteAddress localAddress encrypted globalConfigRoot hostConfig handlersVec = run) ∧
    ∀ text, b.toStr = some text →
      let lower : String := ⟨text.data.map Char.toLower⟩
      (HeaderValue.fromStr lower).isSome ∧
      (∃ request', normalizeHost request = .ok request' ∧ headerText request' .host = some lower) ∧
      (isProxyRequest request = false → request.method ≠ .connect →
        (∀ config prepared, prepareRequest (Ctx.ofRequest env request globalConfigRoot) request
            ⟨remoteAddress, localAddress, encrypted⟩ globalConfigRoot hostConfig = .ok (config, prepared) →
          env.combineConfig globalConfigRoot hostConfig (some lower) localAddress.ip request.uri.path =
            some config) ∧
        (env.combineConfig globalConfigRoot hostConfig (some lower) localAddress.ip request.uri.path =
            none → run.response.status = .internalServerError ∧ run.calls = [])) ∧
      ∀ config prepared, prepareRequest (Ctx.ofRequest env request globalConfigRoot) request
          ⟨remoteAddress, localAddress, encrypted⟩ globalConfigRoot hostConfig = .ok (config, prepared) →
        headerText prepared .host = some lower ∧
        ForwardCalls config (isProxyRequest request) 0 handlersVec ⟨prepared, none⟩ run.calls ∧
        ((∀ h ∈ handlersVec, KeepsHost (isProxyRequest request) h) →
          ∀ j p requestData socketData, HandlerCall.forward j p requestData socketData ∈ run.calls →
            headerText requestData.request .host = some lower) := by
  dsimp only
  refine ⟨fun ht => ?_, fun text ht => ?_⟩
  · -- the early return, which reads nothing of `combine_config`
    rw [requestHandlerWrapped_of_toStr_none env request remoteAddress localAddress encrypted
      globalConfigRoot hostConfig handlersVec hb ht]
    exact ⟨insertServer_status _ _, rfl, rfl, fun combineConfig => requestHandlerWrapped_of_toStr_none _
      request remoteAddress localAddress encrypted globalConfigRoot hostConfig handlersVec hb ht⟩
  obtain ⟨v, hv, -⟩ := fromStr_toLower ht
  obtain ⟨request', hn, hhost⟩ := normalizeHost_of_toStr hb ht
  refine ⟨by rw [hv]; rfl, ⟨request', hn, hhost⟩, fun hproxy hconnect => ?_,
    fun config prepared hprep => ?_⟩
  · -- the host name `combine_config` is called with
    have hname : hostnameFor (Ctx.ofRequest env request globalConfigRoot) request' =
        some ⟨text.data.map Char.toLower⟩ := by
      simp [hostnameFor, Ctx.ofRequest, hproxy, hconnect, hhost]
    have huri := normalizeHost_uri hn
    refine ⟨fun config prepared hprep => ?_, fun hnone => ?_⟩
    · obtain ⟨request'', hn', hc, -⟩ := prepareRequest_stages hprep
      cases hn.symm.trans hn'
      rwa [hname, huri] at hc
    · have hnone' : (Ctx.ofRequest env request globalConfigRoot).env.combineConfig globalConfigRoot
          hostConfig (some ⟨text.data.map Char.toLower⟩) localAddress.ip request.uri.path = none := hnone
      simp only [requestHandlerWrapped, prepareRequest, hn, hname, huri, hnone']
      exact ⟨insertServer_status _ _, trivial⟩
  obtain ⟨request'', hn', -, hs⟩ := prepareRequest_stages hprep
  cases hn.symm.trans hn'
  obtain ⟨uri, rfl⟩ := sanitizeRequest_uri_only hs
  have hfc := requestHandlerWrapped_forwardCalls hprep handlersVec
  exact ⟨hhost, hfc, fun hkeeps j p requestData socketData hc => (hfc.host hkeeps j p requestData socketData hc).trans hhost⟩

/-- `Example.ORG`. -/
def exampleOrgHost : HeaderValue := ⟨"Example.ORG".data.map fun c => c.toNat.toUInt8, by decide⟩

/-- `GET / HTTP/1.1` with `Host: Example.ORG`. -/
def hostRequest : Request := ⟨.get, .http11, ⟨none, none, ⟨"/", none⟩⟩, ⟨[(.host, exampleOrgHost)]⟩⟩

theorem requestHandlerWrapped_host_sample :
    hostRequest.headers.get .host = some exampleOrgHost ∧
      ∀ config prepared, prepareRequest (Ctx.ofRequest sampleEnv hostRequest sampleConfig) hostRequest
          ⟨sampleAddr, sampleAddr, false⟩ sampleConfig .null = .ok (config, prepared) →
        sampleEnv.combineConfig sampleConfig .null (some "example.org") sampleAddr.ip "/" = some config :=
  ⟨rfl, ((requestHandlerWrapped_host sampleEnv hostRequest sampleAddr sampleAddr false sampleConfig .null []
    exampleOrgHost rfl).2 "Example.ORG" rfl).2.2.1 rfl (by decide) |>.1⟩

/-- The `Host` text each forward call received, in call order. -/
def forwardHosts (calls : List HandlerCall) : List (Option String) :=
  calls.filterMap fun
    | .forward _ _ requestData _ => some (headerText requestData.request .host)
    | .modify _ _ _ => none

/-- A module whose `request_handler` passes the request on with `Host: other.example`. -/
def hostRewriter : ServerModuleHandlers where
  doesConnectProxyRequests := false
  doesWebsocketRequests _ _ := false
  requestHandler requestData _ _ :=
    .ok (ResponseData.builder ⟨{ requestData.request with
      headers := requestData.request.headers.insert .host
        ⟨"other.example".data.map fun c => c.toNat.toUInt8, by decide⟩ }, requestData.authUser⟩)
  proxyRequestHandler requestData _ _ := .ok (ResponseData.builder requestData)
  responseModifyingHandler response := .ok response
  proxyResponseModifyingHandler response := .ok response

/-- The first handler sees the lowercase `Host`; the second sees the one the first
passed on. -/
theorem requestHandlerWrapped_host_rewritten :
    forwardHosts (requestHandlerWrapped sampleEnv hostRequest sampleAddr sampleAddr false sampleConfig .null
      [hostRewriter, hostRewriter]).calls = [some "example.org", some "other.example"] := by
  decide

end Karpacz.Proof
