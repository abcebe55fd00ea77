import Karpacz.Proof.Logging

/-!
# The X-Forwarded-For module

`XForwardedForModuleHandlers::request_handler` rewrites the remote address to the first
hop of `X-Forwarded-For` when `enableIPSpoofing` is on. The hop is the header's first
value, read with `to_str`, cut at the first comma and stripped of spaces; a hop that
does not parse as an IP address gives a 400 status outcome.

`to_str` is applied with `?`: a header value that `HeaderValue` admits but that is not
visible ASCII (an obs-text byte, `0x80` and up) makes the handler return `Err`, which
ends the chain at its `failed` exit. `xForwardedForRequestHandler_spec` says what the
handler returns on every input, and `xForwardedForRequestHandler_obsText` is such a
header.

`xForwardedForRequestHandler_rewrites` follows the rewrite through the run: when the
walk reaches the handler (`ChainSemantics.Passes`), the rest of the walk runs from the
rewritten address, which every later forward call and the access record of the run
see, unless a later handler rewrites it again.

`str::parse::<IpAddr>` is a parameter: every result holds for every address parser.
-/

namespace Karpacz

/-- `s.split(",").nth(0)`. -/
def firstPiece (s : String) : Option String := (s.data.splitOn ',').head?.map String.mk

/-- `XForwardedForModuleHandlers::request_handler`. -/
def xForwardedForRequestHandler (parseIpAddr : String → Option IpAddr) (request : RequestData)
    (config : ServerConfigRoot) (socketData : SocketData) : Except String ResponseData :=
  if (config.get "enableIPSpoofing").asBool = some true then
    match request.request.headers.get .xForwardedFor with
    | some xForwardedForValue =>
      match xForwardedForValue.toStr with
      | none => .error "failed to convert header to a str"
      | some xForwardedFor =>
        match firstPiece xForwardedFor with
        | some ipAddressStr =>
          let preparedRemoteIpStr : String := ⟨replaceChar ' ' [] ipAddressStr.data⟩
          match parseIpAddr preparedRemoteIpStr with
          | some preparedRemoteIp =>
            .ok { ResponseData.builder request with
              newRemoteAddress := some ⟨preparedRemoteIp, socketData.remoteAddr.port⟩ }
          | none => .ok { ResponseData.builder request with status := some .badRequest }
        | none => .ok { ResponseData.builder request with status := some .badRequest }
    | none => .ok (ResponseData.builder request)
  else .ok (ResponseData.builder request)

/-- The first hop, as the handler hands it to the address parser. -/
def firstHop (xForwardedFor : String) : String :=
  ⟨replaceChar ' ' [] (xForwardedFor.data.takeWhile (· ≠ ','))⟩

end Karpacz

namespace Karpacz.Proof

open Karpacz

/-! ## The first hop -/

/-- `split` always yields a first piece: the elements before the first separator. -/
theorem head?_splitOnP {α : Type} (p : α → Bool) : ∀ l : List α,
    (l.splitOnP p).head? = some (l.takeWhile fun a => !p a)
  | [] => rfl
  | x :: xs => by
    rw [List.splitOnP_cons, List.takeWhile_cons]
    by_cases hx : p x
    · simp [hx]
    · obtain ⟨first, rest, hsplit⟩ := List.exists_cons_of_ne_nil (List.splitOnP_ne_nil p xs)
      have ih := head?_splitOnP p xs
      rw [hsplit] at ih ⊢
      simp_all

/-- The first piece is the text before the first comma; the `None` arm is dead. -/
theorem firstPiece_eq (s : String) : firstPiece s = some ⟨s.data.takeWhile (· ≠ ',')⟩ := by
  simp only [firstPiece, List.splitOn, head?_splitOnP, Option.map_some']
  congr
  funext c
  by_cases h : c = ',' <;> simp [h]

/-- With spoofing on and the header's first value read as `text`, the first hop alone
decides the outcome. -/
theorem xForwardedForRequestHandler_of_toStr {parseIpAddr : String → Option IpAddr}
    {request : RequestData} {config : ServerConfigRoot} {socketData : SocketData} {v : HeaderValue}
    {text : String} (hon : (config.get "enableIPSpoofing").asBool = some true)
    (hv : request.request.headers.get .xForwardedFor = some v) (ht : v.toStr = some text) :
    xForwardedForRequestHandler parseIpAddr request config socketData =
      match parseIpAddr (firstHop text) with
      | some ip => .ok { ResponseData.builder request with
          newRemoteAddress := some ⟨ip, socketData.remoteAddr.port⟩ }
      | none => .ok { ResponseData.builder request with status := some .badRequest } := by
  simp only [xForwardedForRequestHandler, hon, if_true, hv, ht, firstPiece_eq]
  rfl

/-- With spoofing off, or no header, the request passes on unchanged. -/
theorem xForwardedForRequestHandler_of_off {parseIpAddr : String → Option IpAddr}
    {request : RequestData} {config : ServerConfigRoot} {socketData : SocketData}
    (hoff : (config.get "enableIPSpoofing").asBool ≠ some true ∨
      request.request.headers.get .xForwardedFor = none) :
    xForwardedForRequestHandler parseIpAddr request config socketData = .ok (ResponseData.builder request) := by
  rcases hoff with hoff | hnone
  · simp only [xForwardedForRequestHandler, hoff, if_false]
  · simp only [xForwardedForRequestHandler, hnone]
    split <;> rfl

/-- **What the X-Forwarded-For handler returns.** With spoofing on and the header
present: `Err` when its first value is not visible ASCII; else a 400 status outcome when
the first hop does not parse, and the request with its remote address rewritten to the
hop and the connection's port when it does. Otherwise the request passes unchanged. -/
theorem xForwardedForRequestHandler_spec (parseIpAddr : String → Option IpAddr) (request : RequestData)
    (config : ServerConfigRoot) (socketData : SocketData) :
    let result := xForwardedForRequestHandler parseIpAddr request config socketData
    let builder := ResponseData.builder request
    ((config.get "enableIPSpoofing").asBool = some true →
      ∀ v, request.request.headers.get .xForwardedFor = some v →
        (v.toStr = none → result = .error "failed to convert header to a str") ∧
        ∀ text, v.toStr = some text →
          result = match parseIpAddr (firstHop text) with
            | some ip => .ok { builder with newRemoteAddress := some ⟨ip, socketData.remoteAddr.port⟩ }
            | none => .ok { builder with status := some .badRequest }) ∧
    ((config.get "enableIPSpoofing").asBool ≠ some true ∨ request.request.headers.get .xForwardedFor = none →
      result = .ok builder) := by
  intro result builder
  refine ⟨fun hon v hv => ⟨fun hs => ?_, fun text ht => ?_⟩, fun hoff => ?_⟩
  · simp only [result, xForwardedForRequestHandler, hon, if_true, hv, hs]
  · exact xForwardedForRequestHandler_of_toStr hon hv ht
  · exact xForwardedForRequestHandler_of_off hoff

/-! ## The rest of the chain -/

/-- When the walk reaches a handler whose `request_handler` is this one and the first hop
parses, the rest of the chain runs on the same request from the rewritten address. -/
theorem walkHandlers_xForwardedFor {parseIpAddr : String → Option IpAddr} {config : ServerConfigRoot}
    {isWebsocket : Bool} {i : Nat} {h : ServerModuleHandlers} {hs : List ServerModuleHandlers}
    {st : ChainState} {v : HeaderValue} {text : String} {ip : IpAddr}
    (hreq : h.requestHandler = xForwardedForRequestHandler parseIpAddr)
    (ht : ¬TakesOver config isWebsocket h st) (hon : (config.get "enableIPSpoofing").asBool = some true)
    (hv : st.requestData.request.headers.get .xForwardedFor = some v) (htext : v.toStr = some text)
    (hip : parseIpAddr (firstHop text) = some ip) :
    ∃ st₁, walkHandlers config false isWebsocket i (h :: hs) st =
        walkHandlers config false isWebsocket (i + 1) hs st₁ ∧
      st₁.requestData = st.requestData ∧
      st₁.socketData = { st.socketData with remoteAddr := ⟨ip, st.socketData.remoteAddr.port⟩ } ∧
      st₁.calls = st.calls ++ [.forward i false st.requestData st.socketData] := by
  let out : ResponseData :=
    { ResponseData.builder st.requestData with newRemoteAddress := some ⟨ip, st.socketData.remoteAddr.port⟩ }
  have hout : forwardEntry false h st.requestData config st.socketData = .ok out := by
    show h.requestHandler st.requestData config st.socketData = _
    rw [hreq, xForwardedForRequestHandler_of_toStr hon hv htext, hip]
  refine ⟨{ (st.invoked false i h).absorbed i out with requestData := st.requestData }, ?_, rfl, rfl, rfl⟩
  rw [walkHandlers, visitHandler_of_not_takesOver config false isWebsocket ht, hout]
  rfl

/-- No forward entry of `h` of the request's kind returns a `new_remote_address`. -/
def KeepsRemoteAddress (isProxy : Bool) (h : ServerModuleHandlers) : Prop :=
  ∀ requestData config socketData out,
    forwardEntry isProxy h requestData config socketData = .ok out → out.newRemoteAddress = none

/-- Over handlers that keep the remote address, a walk hands every forward call it makes
the socket data it started with, and stops with it. -/
theorem ChainSemantics.socketData_of_keeps {config : ServerConfigRoot} {isProxy isWebsocket : Bool}
    {i : Nat} {hs : List ServerModuleHandlers} {st : ChainState} {e : ChainExit} {st' : ChainState}
    (hsem : ChainSemantics config isProxy isWebsocket i hs st e st')
    (hkeep : ∀ h ∈ hs, KeepsRemoteAddress isProxy h) :
    st'.socketData = st.socketData ∧ ∃ calls, st'.calls = st.calls ++ calls ∧
      ∀ j p requestData socketData, HandlerCall.forward j p requestData socketData ∈ calls →
        socketData = st.socketData := by
  revert hkeep
  induction hsem with
  | exhausted | takeover _ => exact fun _ => ⟨rfl, [], by simp, by simp⟩
  | failed _ _ => exact fun _ => ⟨rfl, _, rfl, by simp⟩
  | responded _ hf _ | errorStatus _ hf _ _ | stopped _ hf _ _ _ =>
    intro hkeep
    have hnone := hkeep _ (List.mem_cons_self _ _) _ _ _ _ hf
    exact ⟨by simp [hnone, SocketData.rewrite], _, rfl, by simp⟩
  | continued _ hf _ _ _ _ ih =>
    intro hkeep
    have hnone := hkeep _ (List.mem_cons_self _ _) _ _ _ _ hf
    obtain ⟨hsd, calls, hcalls, hfwd⟩ := ih fun h' hh' => hkeep h' (List.mem_cons_of_mem _ hh')
    simp only [ChainState.absorbed_socketData, ChainState.invoked_socketData, ChainState.absorbed_calls,
      ChainState.invoked_calls, hnone, SocketData.rewrite] at hsd hcalls hfwd
    refine ⟨hsd, _, hcalls.trans (List.append_assoc _ _ _), fun j p rd sd hc => ?_⟩
    rcases List.mem_append.mp hc with hc | hc
    · rw [List.mem_singleton] at hc; cases hc; rfl
    · exact hfwd j p rd sd hc

/-- **The rewritten address in a dispatched run.** When the walk reaches a handler at
position `i` whose `request_handler` is this one, every handler before it passing the
request on, and the first hop parses to `ip`: as long as the later handlers rewrite
nothing, every later forward call gets `ip` with the port the handler saw, and the
access record names `ip`. -/
theorem dispatch_forwardedFor {parseIpAddr : String → Option IpAddr} {ctx : Ctx}
    {config : ServerConfigRoot} {request : Request} {socketData : SocketData}
    {handlersVec : List ServerModuleHandlers} {i : Nat} {h : ServerModuleHandlers}
    {hs : List ServerModuleHandlers} {st : ChainState} {v : HeaderValue} {text : String} {ip : IpAddr}
    (hstar : request.uri.path ≠ "*") (hc : ctx.isConnectProxyRequest = false)
    (hproxy : ctx.isProxyRequest = false)
    (hpasses : ChainSemantics.Passes config false (ctx.env.isUpgradeRequest request) 0 handlersVec
      (ChainState.initial request socketData) i (h :: hs) st)
    (hreq : h.requestHandler = xForwardedForRequestHandler parseIpAddr)
    (ht : ¬TakesOver config (ctx.env.isUpgradeRequest request) h st)
    (hon : (config.get "enableIPSpoofing").asBool = some true)
    (hv : st.requestData.request.headers.get .xForwardedFor = some v) (htext : v.toStr = some text)
    (hip : parseIpAddr (firstHop text) = some ip) (hkeep : ∀ h' ∈ hs, KeepsRemoteAddress false h') :
    let run := dispatch ctx config request socketData handlersVec
    (∀ j p requestData socketData, HandlerCall.forward j p requestData socketData ∈ run.calls → i < j →
      socketData.remoteAddr = ⟨ip, st.socketData.remoteAddr.port⟩) ∧
    ∃ authUser, LogsAs ctx (some config) ip authUser run := by
  intro run
  obtain ⟨st₁, hwalk, -, hsd, hst₁⟩ := @walkHandlers_xForwardedFor parseIpAddr config _ i h hs st v text ip hreq ht hon hv htext hip
  -- the walk from position 0 stops where the walk after the handler stops
  have hrest := walkHandlers_sound config false (ctx.env.isUpgradeRequest request) (i + 1) hs st₁
  have hw0 := (walkHandlers_complete _ _ _
    (hpasses.chain (walkHandlers_sound config false _ i (h :: hs) st))).trans hwalk
  generalize walkHandlers config false (ctx.env.isUpgradeRequest request) (i + 1) hs st₁ = w at hrest hw0
  obtain ⟨e, st'⟩ := w
  have hrun : run = finishChain ctx config e st' := by
    show dispatch ctx config request socketData handlersVec = _
    rw [dispatch_of_walk handlersVec hstar hc, hproxy, hw0]
  obtain ⟨hsd', calls, hcalls, hfwd⟩ := hrest.socketData_of_keeps hkeep
  obtain ⟨-, pre, hpre, hlt⟩ := hpasses.calls
  obtain ⟨post, hpost, htargets⟩ := finishChain_calls ctx config e st'
  refine ⟨fun j p rd sd hmem hij => ?_, ?_⟩
  · -- a later call is neither before the handler's nor its own, so the rest of the walk made it
    rw [hrun, hpost, hcalls, hst₁, hpre] at hmem
    simp only [ChainState.initial, List.nil_append, List.mem_append, List.mem_singleton,
      HandlerCall.forward.injEq] at hmem
    rcases hmem with ((hmem | ⟨rfl, -⟩) | hmem) | hmem
    · exact absurd (hlt j p rd sd hmem) (by omega)
    · omega
    · rw [hfwd j p rd sd hmem, hsd]
    · exact absurd hmem (forward_not_mem_of_targets htargets j p rd sd)
  · rw [← hproxy] at hrest
    have hlog := finishChain_logsAs hrest
    rw [hsd', hsd, ← hrun] at hlog
    exact ⟨_, hlog⟩

/-- **The first hop, and what the run does with it.** `split` always has a first piece,
so the `None` arm is dead. With spoofing on and a visible ASCII header, the handler
returns the request unchanged with the remote address rewritten to the first hop and the
connection's port, or a 400 outcome when the hop does not parse; otherwise it passes the
request on. When the walk reaches a handler whose `request_handler` this is and the hop
parses, the rest of the chain runs on the same request from the rewritten address. In
the run of a prepared request that is not a proxy request, as long as the later
handlers rewrite nothing, each later forward call gets the rewritten address, and so
does the access record. -/
theorem xForwardedForRequestHandler_rewrites (parseIpAddr : String → Option IpAddr) :
    (∀ s, firstPiece s ≠ none) ∧
    (∀ request config socketData v, (config.get "enableIPSpoofing").asBool = some true →
      request.request.headers.get .xForwardedFor = some v → (∀ b ∈ v.bytes, visibleAsciiByte b = true) →
      ∃ text, v.toStr = some text ∧
        xForwardedForRequestHandler parseIpAddr request config socketData =
          match parseIpAddr (firstHop text) with
          | some ip => .ok { ResponseData.builder request with
              newRemoteAddress := some ⟨ip, socketData.remoteAddr.port⟩ }
          | none => .ok { ResponseData.builder request with status := some .badRequest }) ∧
    (∀ request config socketData, (config.get "enableIPSpoofing").asBool ≠ some true ∨
      request.request.headers.get .xForwardedFor = none →
      xForwardedForRequestHandler parseIpAddr request config socketData = .ok (ResponseData.builder request)) ∧
    (∀ config isWebsocket i (h : ServerModuleHandlers) hs (st : ChainState) v text ip,
      h.requestHandler = xForwardedForRequestHandler parseIpAddr → ¬TakesOver config isWebsocket h st →
      (config.get "enableIPSpoofing").asBool = some true →
      st.requestData.request.headers.get .xForwardedFor = some v → v.toStr = some text →
      parseIpAddr (firstHop text) = some ip →
      ∃ st₁, walkHandlers config false isWebsocket i (h :: hs) st =
          walkHandlers config false isWebsocket (i + 1) hs st₁ ∧
        st₁.requestData = st.requestData ∧
        st₁.socketData = { st.socketData with remoteAddr := ⟨ip, st.socketData.remoteAddr.port⟩ }) ∧
    (∀ (env : Env) (request : Request) (remoteAddress localAddress : SocketAddr) (encrypted : Bool)
        (globalConfigRoot : ServerConfigRoot) (hostConfig : Yaml)
        (handlersVec : List ServerModuleHandlers) (config : ServerConfigRoot) (prepared : Request)
        (i : Nat) (h : ServerModuleHandlers) (hs : List ServerModuleHandlers) (st : ChainState)
        (v : HeaderValue) (text : String) (ip : IpAddr),
      prepareRequest (Ctx.ofRequest env request globalConfigRoot) request
        ⟨remoteAddress, localAddress, encrypted⟩ globalConfigRoot hostConfig = .ok (config, prepared) →
      prepared.uri.path ≠ "*" → request.method ≠ .connect → isProxyRequest request = false →
      ChainSemantics.Passes config false (env.isUpgradeRequest prepared) 0 handlersVec
        (ChainState.initial prepared ⟨remoteAddress, localAddress, encrypted⟩) i (h :: hs) st →
      h.requestHandler = xForwardedForRequestHandler parseIpAddr →
      ¬TakesOver config (env.isUpgradeRequest prepared) h st →
      (config.get "enableIPSpoofing").asBool = some true →
      st.requestData.request.headers.get .xForwardedFor = some v → v.toStr = some text →
      parseIpAddr (firstHop text) = some ip → (∀ h' ∈ hs, KeepsRemoteAddress false h') →
      let run := requestHandlerWrapped env request remoteAddress localAddress encrypted globalConfigRoot
        hostConfig handlersVec
      (∀ j p requestData socketData, HandlerCall.forward j p requestData socketData ∈ run.calls → i < j →
        socketData.remoteAddr = ⟨ip, st.socketData.remoteAddr.port⟩) ∧
      ∃ authUser length, run.accessRecords =
        if (globalConfigRoot.get "logFilePath").asStr.isSome then
          [logCombined env.clock ip authUser request.method.name (logRequestPathOf request false)
            (protocolLabel request.version) run.response.status.code length (headerText request .referer)
            (headerText request .userAgent)]
        else []) := by
  refine ⟨fun s => by simp [firstPiece_eq], fun request config socketData v hon hv hvis => ?_,
    fun _ _ _ hoff => xForwardedForRequestHandler_of_off hoff,
    fun config isWebsocket i h hs st v text ip hreq ht hon hv htext hip =>
      (walkHandlers_xForwardedFor hreq ht hon hv htext hip).imp fun _ h => ⟨h.1, h.2.1, h.2.2.1⟩,
    fun env request remoteAddress localAddress encrypted globalConfigRoot hostConfig handlersVec config
      prepared i h hs st v text ip hprep hstar hconn hproxy hpasses hreq ht hon hv htext hip hkeep => ?_⟩
  · obtain ⟨text, ht⟩ := Option.isSome_iff_exists.mp ((HeaderValue.toStr_isSome_iff v).mpr hvis)
    exact ⟨text, ht, xForwardedForRequestHandler_of_toStr hon hv ht⟩
  · have hc : (Ctx.ofRequest env request globalConfigRoot).isConnectProxyRequest = false := by
      simp [Ctx.ofRequest, hconn]
    obtain ⟨hcalls, authUser, hlog⟩ := dispatch_forwardedFor hstar hc hproxy hpasses hreq ht hon hv htext hip hkeep
    obtain ⟨length, hrec, -⟩ := hlog.record
    rw [requestHandlerWrapped_of_prepared hprep handlersVec]
    refine ⟨hcalls, authUser, length, ?_⟩
    rw [hrec]
    simp only [Ctx.ofRequest, hproxy]

/-- Spoofing on. -/
def spoofingConfig : ServerConfigRoot := ⟨[(.string "enableIPSpoofing", .boolean true)]⟩

/-- A request whose `X-Forwarded-For` is the one obs-text byte `0x80`, which `HeaderValue`
admits and `to_str` refuses. -/
def obsTextRequest : RequestData :=
  ⟨{ sampleRequest with headers := ⟨[(.xForwardedFor, ⟨[0x80], by decide⟩)]⟩ }, none⟩

/-- An obs-text byte in the header makes the handler fail; the address parser is never
reached. -/
theorem xForwardedForRequestHandler_obsText :
    xForwardedForRequestHandler (fun _ => none) obsTextRequest spoofingConfig
      ⟨sampleAddr, sampleAddr, false⟩ = .error "failed to convert header to a str" := by
  rfl

end Karpacz.Proof
