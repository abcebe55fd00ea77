import Karpacz.Proof.Logging

/-!
# The shape of every run

Three properties of every run of `request_handler_wrapped`, whatever the request, the
configuration, the environment and the handlers do, early returns, CONNECT and
WebSocket takeovers included.

`requestHandlerWrapped_callOrder`: the run calls the forward entries of the handlers at
positions `0, 1, …, k - 1`, each once and in that order, and then the post-processing
entries of the same handlers from position `k - 1` down, stopping early only when one
fails; every call goes through the entry of the request's kind.

`requestHandlerWrapped_logShape`: the run sends at most one error record, and it comes
before the run's access record, which is always the last message and records the
status the run returns. With `errorLogFilePath` unset there is no error record, with
`logFilePath` unset no access record.

`requestHandlerWrapped_spawned`: a parallel task is spawned only for a handler whose
forward entry ran, at most one per handler and in handler order, and a run spawns at
most one WebSocket session or CONNECT tunnel, after every parallel task.
-/

namespace Karpacz.Proof

open Karpacz

/-! ## Calls -/

/-- The targets of `k` forward calls in order, then `m` post-processing calls unwinding
them. -/
def callPattern (isProxy : Bool) (k m : Nat) : List (Nat × Bool × Bool) :=
  (List.range k).map (fun i => (i, true, isProxy)) ++
    ((List.range k).reverse.take m).map fun i => (i, false, isProxy)

/-- Forward calls to a stack of positions `0, 1, …`, then calls unwinding a prefix of
it, follow the pattern. -/
theorem callPattern_of_targets {isProxy : Bool} {E : List (Nat × ServerModuleHandlers)}
    {fwd post : List HandlerCall}
    (hfwd : fwd.map HandlerCall.target = E.map fun p => (p.1, true, isProxy))
    (hpos : E.map Prod.fst = List.range E.length)
    (hpost : post.map HandlerCall.target = (E.reverse.take post.length).map fun p => (p.1, false, isProxy)) :
    post.length ≤ E.length ∧
      (fwd ++ post).map HandlerCall.target = callPattern isProxy E.length post.length := by
  have hlen : post.length ≤ E.length := by
    have := congrArg List.length hpost
    simp only [List.length_map, List.length_take, List.length_reverse] at this
    omega
  refine ⟨hlen, ?_⟩
  rw [List.map_append, hfwd, hpost, callPattern, ← hpos, List.map_map, ← List.map_reverse,
    ← List.map_take, List.map_map]
  rfl

/-- The stack never reaches past the handler list. -/
theorem StackInv.length_le {handlersVec : List ServerModuleHandlers} {isProxy : Bool}
    {st : ChainState} (hinv : StackInv handlersVec isProxy st) :
    st.executedHandlers.length ≤ handlersVec.length := by
  rcases Nat.eq_zero_or_pos st.executedHandlers.length with h | h
  · omega
  · have hmem : st.executedHandlers.length - 1 ∈ st.executedHandlers.reverse.map Prod.fst := by
      rw [hinv.positions]; exact List.mem_range.mpr (by omega)
    obtain ⟨p, hp, hp1⟩ := List.mem_map.mp hmem
    have hat := hinv.at_position p (List.mem_reverse.mp hp)
    have := (List.getElem?_eq_some_iff.mp hat).1
    omega

/-- An early return calls no handler and spawns nothing. -/
theorem prepareRequest_error_calls {ctx : Ctx} {request : Request} {socketData : SocketData}
    {globalConfigRoot : ServerConfigRoot} {hostConfig : Yaml} {run : Run}
    (h : prepareRequest ctx request socketData globalConfigRoot hostConfig = .error run) :
    run.calls = [] ∧ run.spawned = [] := by
  unfold prepareRequest at h
  split at h
  · cases h; exact ⟨rfl, rfl⟩
  · split at h
    · cases h; exact ⟨rfl, rfl⟩
    · split at h
      · cases h; exact ⟨rfl, rfl⟩
      · cases h

/-- The calls of `k` forward entries and `m` post-processors unwinding them, with `m ≤ k`
and `k` at most the number of handlers. -/
def CallsInOrder (isProxy : Bool) (handlersVec : List ServerModuleHandlers) (run : Run) : Prop :=
  ∃ k m, m ≤ k ∧ k ≤ handlersVec.length ∧ run.calls.map HandlerCall.target = callPattern isProxy k m

theorem callsInOrder_nil {isProxy : Bool} {handlersVec : List ServerModuleHandlers} {run : Run}
    (h : run.calls = []) : CallsInOrder isProxy handlersVec run :=
  ⟨0, 0, le_refl _, Nat.zero_le _, by rw [h]; rfl⟩

/-- Once the walk has kept the stack invariant, the run finishing it calls in order. -/
theorem finishChain_callsInOrder {ctx : Ctx} {config : ServerConfigRoot}
    {handlersVec : List ServerModuleHandlers} {e : ChainExit} {st : ChainState}
    (hinv : StackInv handlersVec ctx.isProxyRequest st) :
    CallsInOrder ctx.isProxyRequest handlersVec (finishChain ctx config e st) := by
  obtain ⟨post, hcalls, hpost⟩ := finishChain_calls ctx config e st
  rw [← List.reverse_reverse st.executedHandlers] at hpost
  obtain ⟨hle, hpattern⟩ := callPattern_of_targets hinv.calls_eq
    (by rw [hinv.positions, List.length_reverse]) hpost
  rw [List.length_reverse] at hle hpattern
  exact ⟨_, _, hle, hinv.length_le, by rw [hcalls]; exact hpattern⟩

theorem dispatch_callsInOrder (ctx : Ctx) (config : ServerConfigRoot) (request : Request)
    (socketData : SocketData) (handlersVec : List ServerModuleHandlers) :
    CallsInOrder ctx.isProxyRequest handlersVec (dispatch ctx config request socketData handlersVec) := by
  unfold dispatch
  split
  · exact callsInOrder_nil rfl
  split
  · unfold connectRun
    split
    · split <;> exact callsInOrder_nil rfl
    · exact callsInOrder_nil rfl
  · exact finishChain_callsInOrder ((walkHandlers_sound config _ _ 0 handlersVec _).stackInv rfl rfl
      (stackInv_initial handlersVec _ _ _))

/-- **Every run calls the handlers in order, then unwinds them.** Whatever the request,
configuration, environment and handlers, the run calls the forward entries at positions
`0, …, k - 1` once each and in order, and then the post-processing entries from position
`k - 1` down, `m` of them; every call goes through the entry of the request's kind. -/
theorem requestHandlerWrapped_callOrder (env : Env) (request : Request)
    (remoteAddress localAddress : SocketAddr) (encrypted : Bool)
    (globalConfigRoot : ServerConfigRoot) (hostConfig : Yaml)
    (handlersVec : List ServerModuleHandlers) :
    ∃ k m, m ≤ k ∧ k ≤ handlersVec.length ∧
      (requestHandlerWrapped env request remoteAddress localAddress encrypted globalConfigRoot hostConfig
        handlersVec).calls.map HandlerCall.target = callPattern (isProxyRequest request) k m := by
  cases hprep : prepareRequest (Ctx.ofRequest env request globalConfigRoot) request
      ⟨remoteAddress, localAddress, encrypted⟩ globalConfigRoot hostConfig with
  | error run =>
    simp only [requestHandlerWrapped, hprep]
    exact callsInOrder_nil (prepareRequest_error_calls hprep).1
  | ok prepared =>
    rw [requestHandlerWrapped_of_prepared hprep]
    exact dispatch_callsInOrder _ _ _ _ _

/-! ## Records -/

/-- A run's messages are at most one error record and then the access record of a
response with the status the run returns; each is present only when its log is
enabled. -/
def LogShape (ctx : Ctx) (run : Run) : Prop :=
  ∃ (message : Option String) (clientIp : IpAddr) (authUser : Option String) (response : Response),
    run.logs = (message.map ctx.errorLog).getD [] ++ ctx.accessLog clientIp authUser response ∧
      response.status = run.response.status

theorem respondThroughStack_logShape {ctx : Ctx} {config : ServerConfigRoot} {st : ChainState}
    {base : Response} {errorHeaders : Option HeaderMap} {authData : Option String}
    (message : Option String) :
    LogShape ctx (respondThroughStack ctx config st base errorHeaders authData
      ((message.map ctx.errorLog).getD [])) := by
  unfold respondThroughStack
  split
  · exact ⟨message, _, _, _, rfl, rfl⟩
  · exact ⟨some _, _, _, _, rfl, (finishHeaders_status ..).symm⟩

theorem finishChain_logShape (ctx : Ctx) (config : ServerConfigRoot) (e : ChainExit) (st : ChainState) :
    LogShape ctx (finishChain ctx config e st) := by
  cases e with
  | websocket index =>
    simp only [finishChain, websocketRun]
    split
    · exact ⟨some _, _, _, _, rfl, (finishHeaders_status ..).symm⟩
    · exact ⟨none, _, _, _, rfl, (finishHeaders_status ..).symm⟩
  | response r headers authData => exact respondThroughStack_logShape none
  | status s headers authData => exact respondThroughStack_logShape none
  | failed err => exact respondThroughStack_logShape (some _)
  | finished => exact respondThroughStack_logShape none

theorem dispatch_logShape (ctx : Ctx) (config : ServerConfigRoot) (request : Request)
    (socketData : SocketData) (handlersVec : List ServerModuleHandlers) :
    LogShape ctx (dispatch ctx config request socketData handlersVec) := by
  have hfinished : ∀ (response : Response) (calls : List HandlerCall) (spawned : List SpawnedTask),
      LogShape ctx ⟨finishHeaders ctx.env config response, response,
        ctx.accessLog socketData.remoteAddr.ip none response, calls, spawned⟩ :=
    fun response _ _ => ⟨none, _, _, response, rfl, (finishHeaders_status ..).symm⟩
  unfold dispatch
  split
  · exact hfinished _ _ _
  split
  · unfold connectRun
    split
    · split <;> exact hfinished _ _ _
    · exact hfinished _ _ _
  · exact finishChain_logShape _ _ _ _

/-- **Every run sends at most one error record, then its access record.** Whatever the
request, configuration, environment and handlers, the messages a run sends are at most
one error record, present only when `errorLogFilePath` is set, followed by at most one
access record, present only when `logFilePath` is set; nothing comes after the access
record, and it records the status the run returns. -/
theorem requestHandlerWrapped_logShape (env : Env) (request : Request)
    (remoteAddress localAddress : SocketAddr) (encrypted : Bool)
    (globalConfigRoot : ServerConfigRoot) (hostConfig : Yaml)
    (handlersVec : List ServerModuleHandlers) :
    LogShape (Ctx.ofRequest env request globalConfigRoot)
      (requestHandlerWrapped env request remoteAddress localAddress encrypted globalConfigRoot hostConfig
        handlersVec) := by
  cases hprep : prepareRequest (Ctx.ofRequest env request globalConfigRoot) request
      ⟨remoteAddress, localAddress, encrypted⟩ globalConfigRoot hostConfig with
  | error run =>
    simp only [requestHandlerWrapped, hprep]
    obtain ⟨⟨message, hlogs⟩, hresponse⟩ := prepareRequest_error hprep
    have hstatus : run.built.status = run.response.status := by
      rcases hresponse with ⟨-, hr⟩ | ⟨config, -, hr⟩ <;> rw [hr] <;> simp
    exact ⟨some message, _, _, _, hlogs, hstatus⟩
  | ok prepared =>
    rw [requestHandlerWrapped_of_prepared hprep]
    exact dispatch_logShape _ _ _ _ _

/-! ## Spawned tasks -/

/-- The calls on record are the forward calls of the stack's positions, in order. -/
theorem StackInv.calls_callPattern {handlersVec : List ServerModuleHandlers} {isProxy : Bool}
    {st : ChainState} (hinv : StackInv handlersVec isProxy st) :
    st.calls.map HandlerCall.target = callPattern isProxy st.executedHandlers.length 0 := by
  rw [hinv.calls_eq, callPattern, List.take_zero, List.map_nil, List.append_nil, ← hinv.positions,
    List.map_map]
  rfl

/-- Every position on the stack had its forward entry called. -/
theorem StackInv.forward_mem {handlersVec : List ServerModuleHandlers} {isProxy : Bool}
    {st : ChainState} (hinv : StackInv handlersVec isProxy st) {j : Nat}
    (hj : j < st.executedHandlers.length) :
    ∃ requestData socketData, HandlerCall.forward j isProxy requestData socketData ∈ st.calls := by
  have hmem : (j, true, isProxy) ∈ st.calls.map HandlerCall.target := by
    rw [hinv.calls_callPattern, callPattern, List.take_zero, List.map_nil, List.append_nil]
    exact List.mem_map_of_mem _ (List.mem_range.mpr hj)
  obtain ⟨c, hc, htarget⟩ := List.mem_map.mp hmem
  cases c with
  | forward i p requestData socketData =>
    simp only [HandlerCall.target, Prod.mk.injEq, true_and] at htarget
    obtain ⟨rfl, rfl⟩ := htarget
    exact ⟨requestData, socketData, hc⟩
  | modify i p response => simp [HandlerCall.target] at htarget

/-- The parallel tasks spawned so far: at most one per handler on the stack, in the order
of their positions. -/
def ParallelTasks (st : ChainState) : Prop :=
  ∃ tasks : List (Nat × Nat), st.spawned = tasks.map (fun p => SpawnedTask.parallel p.1 p.2) ∧
    (tasks.map Prod.fst).Sorted (· < ·) ∧ ∀ p ∈ tasks, p.1 < st.executedHandlers.length

theorem ParallelTasks.invoked {st : ChainState} {isProxy : Bool} {i : Nat}
    {h : ServerModuleHandlers} (hp : ParallelTasks st) : ParallelTasks (st.invoked isProxy i h) := by
  obtain ⟨tasks, hspawned, hsorted, hlt⟩ := hp
  refine ⟨tasks, hspawned, hsorted, fun p hp => ?_⟩
  have := hlt p hp
  simp only [ChainState.invoked_executedHandlers, List.length_cons]
  omega

/-- Running the next handler and taking its outcome in spawns at most its own task. -/
theorem ParallelTasks.absorbed {st : ChainState} {isProxy : Bool} {h : ServerModuleHandlers}
    {out : ResponseData} (hp : ParallelTasks st) :
    ParallelTasks ((st.invoked isProxy st.executedHandlers.length h).absorbed
      st.executedHandlers.length out) := by
  obtain ⟨tasks, hspawned, hsorted, hlt⟩ := hp
  have hlen : ((st.invoked isProxy st.executedHandlers.length h).absorbed
      st.executedHandlers.length out).executedHandlers.length = st.executedHandlers.length + 1 := by
    simp
  cases hfn : out.parallelFn with
  | none =>
    refine ⟨tasks, by simp [ChainState.absorbed, ChainState.invoked, hspawned, hfn], hsorted,
      fun p hp => ?_⟩
    rw [hlen]; exact Nat.lt_succ_of_lt (hlt p hp)
  | some task =>
    refine ⟨tasks ++ [(st.executedHandlers.length, task)],
      by simp [ChainState.absorbed, ChainState.invoked, hspawned, hfn], ?_, fun p hp => ?_⟩
    · rw [List.map_append, List.Sorted, List.pairwise_append]
      refine ⟨hsorted, List.pairwise_singleton _ _, ?_⟩
      simp only [List.map_cons, List.map_nil, List.mem_singleton, List.mem_map]
      rintro _ ⟨p, hp, rfl⟩ _ rfl
      exact hlt p hp
    · rw [hlen]
      rcases List.mem_append.mp hp with hp | hp
      · exact Nat.lt_succ_of_lt (hlt p hp)
      · rw [List.mem_singleton.mp hp]; exact Nat.lt_succ_self _

/-- **The walk spawns only parallel tasks**, at most one per handler it runs and in order,
and a WebSocket takeover stops it at the position the stack has reached. -/
theorem ChainSemantics.parallelTasks {config : ServerConfigRoot} {isProxy isWebsocket : Bool}
    {i : Nat} {hs : List ServerModuleHandlers} {st : ChainState} {e : ChainExit} {st' : ChainState}
    (hsem : ChainSemantics config isProxy isWebsocket i hs st e st')
    (hi : st.executedHandlers.length = i) (hp : ParallelTasks st) :
    ParallelTasks st' ∧ ∀ j, e = .websocket j → j = st'.executedHandlers.length := by
  induction hsem with
  | exhausted => exact ⟨hp, fun _ h => nomatch h⟩
  | takeover _ => exact ⟨hp, fun _ h => by cases h; exact hi.symm⟩
  | failed _ _ => exact ⟨hp.invoked, fun _ h => nomatch h⟩
  | responded _ _ _ | errorStatus _ _ _ _ | stopped _ _ _ _ _ =>
    subst hi; exact ⟨hp.absorbed, fun _ h => nomatch h⟩
  | continued _ _ _ _ _ _ ih =>
    subst hi; exact ih (by simp [ChainState.absorbed]) hp.absorbed

/-- The tasks a run spawns: first the parallel tasks of handlers whose forward entry ran,
at most one per handler and in the order of their positions, then at most one session.
A WebSocket session comes after the forward calls of the handlers before it and no other
call; a CONNECT tunnel comes with no call at all. -/
def SpawnShape (isProxy : Bool) (run : Run) : Prop :=
  ∃ (tasks : List (Nat × Nat)) (session : Option SpawnedTask),
    run.spawned = tasks.map (fun p => SpawnedTask.parallel p.1 p.2) ++ session.toList ∧
    (tasks.map Prod.fst).Sorted (· < ·) ∧
    (∀ p ∈ tasks, ∃ requestData socketData,
      HandlerCall.forward p.1 isProxy requestData socketData ∈ run.calls) ∧
    ∀ t ∈ session,
      (∃ index uri, t = .websocket index uri ∧
        run.calls.map HandlerCall.target = callPattern isProxy index 0) ∨
      (∃ index address, t = .connectProxy index address ∧ run.calls = [])

theorem spawnShape_nil {isProxy : Bool} {run : Run} (h : run.spawned = []) : SpawnShape isProxy run :=
  ⟨[], none, h, List.sorted_nil, fun p hp => absurd hp (List.not_mem_nil p), fun _ h => nomatch h⟩

theorem respondThroughStack_spawned (ctx : Ctx) (config : ServerConfigRoot) (st : ChainState)
    (base : Response) (errorHeaders : Option HeaderMap) (authData : Option String)
    (afterLoop : List LogMessage) :
    (respondThroughStack ctx config st base errorHeaders authData afterLoop).spawned = st.spawned := by
  unfold respondThroughStack
  split <;> rfl

/-- A takeover calls nothing more, and spawns the session when the upgrade succeeds. -/
theorem websocketRun_spawned (ctx : Ctx) (config : ServerConfigRoot) (index : Nat) (st : ChainState) :
    (websocketRun ctx config index st).calls = st.calls ∧
      ((websocketRun ctx config index st).spawned = st.spawned ∨
        (websocketRun ctx config index st).spawned =
          st.spawned ++ [.websocket index st.requestData.request.uri]) := by
  unfold websocketRun
  split
  · exact ⟨rfl, .inl rfl⟩
  · exact ⟨rfl, .inr rfl⟩

theorem finishChain_spawnShape {ctx : Ctx} {config : ServerConfigRoot}
    {handlersVec : List ServerModuleHandlers} {e : ChainExit} {st : ChainState}
    (hinv : StackInv handlersVec ctx.isProxyRequest st) (hp : ParallelTasks st)
    (hws : ∀ j, e = .websocket j → j = st.executedHandlers.length) :
    SpawnShape ctx.isProxyRequest (finishChain ctx config e st) := by
  obtain ⟨tasks, hspawned, hsorted, hlt⟩ := hp
  obtain ⟨post, hcalls, -⟩ := finishChain_calls ctx config e st
  have hfwd : ∀ p ∈ tasks, ∃ requestData socketData,
      HandlerCall.forward p.1 ctx.isProxyRequest requestData socketData ∈
        (finishChain ctx config e st).calls := by
    intro p hp
    obtain ⟨requestData, socketData, hc⟩ := hinv.forward_mem (hlt p hp)
    exact ⟨requestData, socketData, hcalls ▸ List.mem_append_left _ hc⟩
  have hsame : (finishChain ctx config e st).spawned = st.spawned →
      SpawnShape ctx.isProxyRequest (finishChain ctx config e st) := fun h =>
    ⟨tasks, none, by rw [h, hspawned, Option.toList_none, List.append_nil], hsorted, hfwd,
      fun _ h => nomatch h⟩
  cases e with
  | websocket j =>
    obtain ⟨hc, hsp | hsp⟩ := websocketRun_spawned ctx config j st
    · exact hsame hsp
    · refine ⟨tasks, some (.websocket j st.requestData.request.uri), by rw [← hspawned]; exact hsp,
        hsorted, hfwd, fun t ht => .inl ⟨j, _, (Option.mem_some_iff.mp ht).symm, ?_⟩⟩
      change (websocketRun ctx config j st).calls.map HandlerCall.target = _
      rw [hc, hws j rfl]
      exact hinv.calls_callPattern
  | response r headers authData => exact hsame (respondThroughStack_spawned _ _ _ _ _ _ _)
  | status s headers authData => exact hsame (respondThroughStack_spawned _ _ _ _ _ _ _)
  | failed err => exact hsame (respondThroughStack_spawned _ _ _ _ _ _ _)
  | finished => exact hsame (respondThroughStack_spawned _ _ _ _ _ _ _)

theorem dispatch_spawnShape (ctx : Ctx) (config : ServerConfigRoot) (request : Request)
    (socketData : SocketData) (handlersVec : List ServerModuleHandlers) :
    SpawnShape ctx.isProxyRequest (dispatch ctx config request socketData handlersVec) := by
  unfold dispatch
  split
  · exact spawnShape_nil rfl
  split
  · unfold connectRun
    split
    · split
      · exact ⟨[], some (.connectProxy _ _), rfl, List.sorted_nil,
          fun p hp => absurd hp (List.not_mem_nil p),
          fun t ht => .inr ⟨_, _, (Option.mem_some_iff.mp ht).symm, rfl⟩⟩
      · exact spawnShape_nil rfl
    · exact spawnShape_nil rfl
  · have hsem := walkHandlers_sound config ctx.isProxyRequest (ctx.env.isUpgradeRequest request) 0
      handlersVec (ChainState.initial request socketData)
    obtain ⟨hp, hws⟩ := hsem.parallelTasks rfl
      ⟨[], rfl, List.sorted_nil, fun p hp => absurd hp (List.not_mem_nil p)⟩
    exact finishChain_spawnShape (hsem.stackInv rfl rfl (stackInv_initial handlersVec _ _ _)) hp hws

/-- **Every run spawns its tasks in order.** Whatever the request, configuration,
environment and handlers, a run spawns the parallel tasks of handlers whose forward entry
it called, at most one per handler and in the order of their positions, and then at most
one session: a WebSocket session, after the forward calls of the handlers before the one
taking the request over and no other call, or a CONNECT tunnel, with no call at all. -/
theorem requestHandlerWrapped_spawned (env : Env) (request : Request)
    (remoteAddress localAddress : SocketAddr) (encrypted : Bool)
    (globalConfigRoot : ServerConfigRoot) (hostConfig : Yaml)
    (handlersVec : List ServerModuleHandlers) :
    SpawnShape (isProxyRequest request)
      (requestHandlerWrapped env request remoteAddress localAddress encrypted globalConfigRoot hostConfig
        handlersVec) := by
  cases hprep : prepareRequest (Ctx.ofRequest env request globalConfigRoot) request
      ⟨remoteAddress, localAddress, encrypted⟩ globalConfigRoot hostConfig with
  | error run =>
    simp only [requestHandlerWrapped, hprep]
    exact spawnShape_nil (prepareRequest_error_calls hprep).2
  | ok prepared =>
    obtain ⟨config, prepared⟩ := prepared
    rw [requestHandlerWrapped_of_prepared hprep]
    exact dispatch_spawnShape _ _ _ _ _

end Karpacz.Proof
