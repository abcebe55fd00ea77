import Karpacz.Pipeline.RequestHandler

/-!
# Dispatch follows the reference chain semantics

The spec describes the handler chain in a few sentences: handlers are visited in list
order; a visited handler that advertises WebSocket capability on an upgrade request
takes the request over; otherwise its forward entry runs on the request and user the
previous handler passed on, and on the remote address as last rewritten; and the
outcome decides, an `Err` first, then `response` before `status` before `request`,
with nothing at all ending the chain. `ChainSemantics` writes these sentences down as
a big-step relation, apart from the loop in `Chain.lean`.

`walkHandlers_sound` shows the loop is related to what it returns, and
`chainSemantics_unique` that the relation allows one result only, so the loop computes
the reference result. `requestHandlerWrapped_dispatches` then covers a whole prepared
request: an asterisk-form target and a CONNECT request never reach a forward entry,
and every other request returns what the consumer side makes of the walk's exit
(`ExitReturns`): the handler's `response`, or the error page of its `status`, a 500 for
an `Err`, a 404 when the chain ends, each through `customHeaders`, `Server` and the
unwinding of the stack (`Unwinds`), and the upgrade response for a takeover.
-/

namespace Karpacz

/-- The state once the forward entry of handler `i` has run: the call is on record,
with the request, user and address it received, and the handler is on the stack. -/
def ChainState.invoked (st : ChainState) (isProxy : Bool) (i : Nat) (h : ServerModuleHandlers) :
    ChainState :=
  { st with
    calls := st.calls ++ [.forward i isProxy st.requestData st.socketData]
    executedHandlers := (i, h) :: st.executedHandlers }

/-- The state once an outcome is taken in: its user is the latest, its
`new_remote_address` (if any) is the remote address, its parallel task is spawned. -/
def ChainState.absorbed (st : ChainState) (i : Nat) (out : ResponseData) : ChainState :=
  { st with
    latestAuthData := out.authUser
    socketData := st.socketData.rewrite out.newRemoteAddress
    spawned := st.spawned ++ (out.parallelFn.map (SpawnedTask.parallel i)).toList }

@[simp] theorem ChainState.invoked_calls (st : ChainState) (isProxy : Bool) (i : Nat)
    (h : ServerModuleHandlers) :
    (st.invoked isProxy i h).calls = st.calls ++ [.forward i isProxy st.requestData st.socketData] :=
  rfl

@[simp] theorem ChainState.invoked_executedHandlers (st : ChainState) (isProxy : Bool) (i : Nat)
    (h : ServerModuleHandlers) :
    (st.invoked isProxy i h).executedHandlers = (i, h) :: st.executedHandlers := rfl

@[simp] theorem ChainState.absorbed_calls (st : ChainState) (i : Nat) (out : ResponseData) :
    (st.absorbed i out).calls = st.calls := rfl

@[simp] theorem ChainState.absorbed_executedHandlers (st : ChainState) (i : Nat) (out : ResponseData) :
    (st.absorbed i out).executedHandlers = st.executedHandlers := rfl

@[simp] theorem ChainState.invoked_socketData (st : ChainState) (isProxy : Bool) (i : Nat)
    (h : ServerModuleHandlers) : (st.invoked isProxy i h).socketData = st.socketData := rfl

@[simp] theorem ChainState.absorbed_socketData (st : ChainState) (i : Nat) (out : ResponseData) :
    (st.absorbed i out).socketData = st.socketData.rewrite out.newRemoteAddress := rfl

/-- The handler position a call goes to, whether it is a forward entry, and whether it
is the proxy twin. -/
def HandlerCall.target : HandlerCall → Nat × Bool × Bool
  | .forward index proxy _ _ => (index, true, proxy)
  | .modify index proxy _ => (index, false, proxy)


end Karpacz

namespace Karpacz.Proof

open Karpacz

/-- The forward entry the spec names: `proxy_request_handler` for a proxy request. -/
def forwardEntry (isProxy : Bool) (h : ServerModuleHandlers) :
    RequestData → ServerConfigRoot → SocketData → Except String ResponseData :=
  if isProxy then h.proxyRequestHandler else h.requestHandler

section
variable (config : ServerConfigRoot) (isProxy isWebsocket : Bool)

/-- Whether the handler takes the request over as a WebSocket. -/
def TakesOver (h : ServerModuleHandlers) (st : ChainState) : Prop :=
  isWebsocket = true ∧ h.doesWebsocketRequests config st.socketData = true

/-- **The reference chain semantics.** `ChainSemantics i hs st e st'`: walking the
handlers `hs`, the first of which sits at position `i`, from state `st`, stops with `e`
in state `st'`. -/
inductive ChainSemantics : Nat → List ServerModuleHandlers → ChainState → ChainExit → ChainState → Prop
  /-- Every handler passed the request on. -/
  | exhausted {i : Nat} {st : ChainState} : ChainSemantics i [] st .finished st
  /-- The visited handler takes the WebSocket request over; its forward entry never runs. -/
  | takeover {i : Nat} {h : ServerModuleHandlers} {hs : List ServerModuleHandlers} {st : ChainState} :
      TakesOver config isWebsocket h st → ChainSemantics i (h :: hs) st (.websocket i) st
  /-- The forward entry fails. -/
  | failed {i : Nat} {h : ServerModuleHandlers} {hs : List ServerModuleHandlers} {st : ChainState}
      {err : String} :
      ¬TakesOver config isWebsocket h st →
      forwardEntry isProxy h st.requestData config st.socketData = .error err →
      ChainSemantics i (h :: hs) st (.failed err) (st.invoked isProxy i h)
  /-- A `response` comes first. -/
  | responded {i : Nat} {h : ServerModuleHandlers} {hs : List ServerModuleHandlers} {st : ChainState}
      {out : ResponseData} {r : Response} :
      ¬TakesOver config isWebsocket h st →
      forwardEntry isProxy h st.requestData config st.socketData = .ok out →
      out.response = some r →
      ChainSemantics i (h :: hs) st (.response r out.headers out.authUser)
        ((st.invoked isProxy i h).absorbed i out)
  /-- Then a `status`. -/
  | errorStatus {i : Nat} {h : ServerModuleHandlers} {hs : List ServerModuleHandlers} {st : ChainState}
      {out : ResponseData} {s : StatusCode} :
      ¬TakesOver config isWebsocket h st →
      forwardEntry isProxy h st.requestData config st.socketData = .ok out →
      out.response = none → out.status = some s →
      ChainSemantics i (h :: hs) st (.status s out.headers out.authUser)
        ((st.invoked isProxy i h).absorbed i out)
  /-- Then a `request`: the next handler gets it, with this outcome's user. -/
  | continued {i : Nat} {h : ServerModuleHandlers} {hs : List ServerModuleHandlers} {st : ChainState}
      {out : ResponseData} {r : Request} {e : ChainExit} {st' : ChainState} :
      ¬TakesOver config isWebsocket h st →
      forwardEntry isProxy h st.requestData config st.socketData = .ok out →
      out.response = none → out.status = none → out.request = some r →
      ChainSemantics (i + 1) hs { (st.invoked isProxy i h).absorbed i out with
        requestData := ⟨r, out.authUser⟩ } e st' →
      ChainSemantics i (h :: hs) st e st'
  /-- An outcome with none of the three ends the chain. -/
  | stopped {i : Nat} {h : ServerModuleHandlers} {hs : List ServerModuleHandlers} {st : ChainState}
      {out : ResponseData} :
      ¬TakesOver config isWebsocket h st →
      forwardEntry isProxy h st.requestData config st.socketData = .ok out →
      out.response = none → out.status = none → out.request = none →
      ChainSemantics i (h :: hs) st .finished ((st.invoked isProxy i h).absorbed i out)

/-- One turn of the loop, when the handler does not take the request over. -/
theorem visitHandler_of_not_takesOver {i : Nat} {h : ServerModuleHandlers} {st : ChainState}
    (ht : ¬TakesOver config isWebsocket h st) :
    visitHandler config isProxy isWebsocket i h st =
      match forwardEntry isProxy h st.requestData config st.socketData with
      | .error err => .exit (.failed err) (st.invoked isProxy i h)
      | .ok out =>
        match out.response, out.status, out.request with
        | some r, _, _ => .exit (.response r out.headers out.authUser) ((st.invoked isProxy i h).absorbed i out)
        | none, some s, _ => .exit (.status s out.headers out.authUser) ((st.invoked isProxy i h).absorbed i out)
        | none, none, some r => .next { (st.invoked isProxy i h).absorbed i out with requestData := ⟨r, out.authUser⟩ }
        | none, none, none => .exit .finished ((st.invoked isProxy i h).absorbed i out) := by
  have ht' : (isWebsocket && h.doesWebsocketRequests config st.socketData) = false := by
    simpa [TakesOver] using ht
  simp only [visitHandler, ht', Bool.false_eq_true, if_false]
  unfold forwardEntry
  cases (if isProxy then h.proxyRequestHandler else h.requestHandler) st.requestData config st.socketData with
  | error err => rfl
  | ok out =>
    rcases out with ⟨q, a, r, s, hd, n, p⟩
    rcases r with _ | r <;> rcases s with _ | s <;> rcases q with _ | q <;> rfl

/-- **The loop computes a reference result.** -/
theorem walkHandlers_sound : ∀ (i : Nat) (hs : List ServerModuleHandlers) (st : ChainState),
    ChainSemantics config isProxy isWebsocket i hs st
      (walkHandlers config isProxy isWebsocket i hs st).1
      (walkHandlers config isProxy isWebsocket i hs st).2
  | i, [], st => .exhausted
  | i, h :: hs, st => by
    by_cases ht : TakesOver config isWebsocket h st
    · have ht' : (isWebsocket && h.doesWebsocketRequests config st.socketData) = true := by
        simpa [TakesOver] using ht
      simp only [walkHandlers, visitHandler, ht', if_true]
      exact .takeover ht
    · rw [walkHandlers, visitHandler_of_not_takesOver config isProxy isWebsocket ht]
      cases hf : forwardEntry isProxy h st.requestData config st.socketData with
      | error err => exact .failed ht hf
      | ok out =>
        dsimp only
        cases hr : out.response with
        | some r => exact .responded ht hf hr
        | none =>
          cases hs' : out.status with
          | some s => exact .errorStatus ht hf hr hs'
          | none =>
            cases hq : out.request with
            | some r => exact .continued ht hf hr hs' hq (walkHandlers_sound (i + 1) hs _)
            | none => exact .stopped ht hf hr hs' hq

/-- The reference result is the one the loop computes. -/
theorem walkHandlers_complete {i : Nat} {hs : List ServerModuleHandlers} {st : ChainState}
    {e : ChainExit} {st' : ChainState} (h : ChainSemantics config isProxy isWebsocket i hs st e st') :
    walkHandlers config isProxy isWebsocket i hs st = (e, st') := by
  induction h with
  | exhausted => rfl
  | takeover ht =>
    have ht' := ht
    simp only [TakesOver] at ht'
    simp [walkHandlers, visitHandler, ht'.1, ht'.2]
  | failed ht hf => simp [walkHandlers, visitHandler_of_not_takesOver config isProxy isWebsocket ht, hf]
  | responded ht hf hr =>
    simp [walkHandlers, visitHandler_of_not_takesOver config isProxy isWebsocket ht, hf, hr]
  | errorStatus ht hf hr hs =>
    simp [walkHandlers, visitHandler_of_not_takesOver config isProxy isWebsocket ht, hf, hr, hs]
  | continued ht hf hr hs hq _ ih =>
    simp only [walkHandlers, visitHandler_of_not_takesOver config isProxy isWebsocket ht, hf, hr, hs, hq]
    exact ih
  | stopped ht hf hr hs hq =>
    simp [walkHandlers, visitHandler_of_not_takesOver config isProxy isWebsocket ht, hf, hr, hs, hq]

/-- The reference semantics allows one result only. -/
theorem chainSemantics_unique {i : Nat} {hs : List ServerModuleHandlers} {st : ChainState}
    {e₁ e₂ : ChainExit} {st₁ st₂ : ChainState}
    (h₁ : ChainSemantics config isProxy isWebsocket i hs st e₁ st₁)
    (h₂ : ChainSemantics config isProxy isWebsocket i hs st e₂ st₂) : e₁ = e₂ ∧ st₁ = st₂ := by
  have := (walkHandlers_complete config isProxy isWebsocket h₁).symm.trans
    (walkHandlers_complete config isProxy isWebsocket h₂)
  exact ⟨congrArg Prod.fst this, congrArg Prod.snd this⟩

/-- `Passes i hs st j hs' st'`: walking `hs` from position `i` in state `st`, every
handler before position `j` runs its forward entry and passes the request on, and the
walk reaches position `j`, with `hs'` left, in state `st'`. -/
inductive ChainSemantics.Passes :
    Nat → List ServerModuleHandlers → ChainState → Nat → List ServerModuleHandlers → ChainState → Prop
  /-- The walk is at position `j`. -/
  | here {i : Nat} {hs : List ServerModuleHandlers} {st : ChainState} : Passes i hs st i hs st
  /-- The handler at `i` passes a `request` on. -/
  | step {i j : Nat} {h : ServerModuleHandlers} {hs hs' : List ServerModuleHandlers} {st st' : ChainState}
      {out : ResponseData} {r : Request} :
      ¬TakesOver config isWebsocket h st →
      forwardEntry isProxy h st.requestData config st.socketData = .ok out →
      out.response = none → out.status = none → out.request = some r →
      Passes (i + 1) hs { (st.invoked isProxy i h).absorbed i out with requestData := ⟨r, out.authUser⟩ }
        j hs' st' →
      Passes i (h :: hs) st j hs' st'

end

/-- A walk that reaches a position stops where the walk from that position stops. -/
theorem ChainSemantics.Passes.chain {config : ServerConfigRoot} {isProxy isWebsocket : Bool}
    {i j : Nat} {hs hs' : List ServerModuleHandlers} {st st' st'' : ChainState} {e : ChainExit}
    (hp : ChainSemantics.Passes config isProxy isWebsocket i hs st j hs' st')
    (hsem : ChainSemantics config isProxy isWebsocket j hs' st' e st'') :
    ChainSemantics config isProxy isWebsocket i hs st e st'' := by
  induction hp with
  | here => exact hsem
  | step ht hf hr hs hq _ ih => exact .continued ht hf hr hs hq (ih hsem)

/-- On its way to position `j`, a walk makes forward calls to positions before `j` only. -/
theorem ChainSemantics.Passes.calls {config : ServerConfigRoot} {isProxy isWebsocket : Bool}
    {i j : Nat} {hs hs' : List ServerModuleHandlers} {st st' : ChainState}
    (hp : ChainSemantics.Passes config isProxy isWebsocket i hs st j hs' st') :
    i ≤ j ∧ ∃ calls, st'.calls = st.calls ++ calls ∧
      ∀ k p requestData socketData, HandlerCall.forward k p requestData socketData ∈ calls → k < j := by
  induction hp with
  | here => exact ⟨le_refl _, [], by simp, by simp⟩
  | step _ _ _ _ _ _ ih =>
    obtain ⟨hle, calls, hcalls, hlt⟩ := ih
    simp only [ChainState.absorbed_calls, ChainState.invoked_calls] at hcalls
    refine ⟨by omega, _, hcalls.trans (List.append_assoc _ _ _), fun k p rd sd hc => ?_⟩
    rcases List.mem_append.mp hc with hc | hc
    · simp only [List.mem_singleton, HandlerCall.forward.injEq] at hc; omega
    · exact hlt k p rd sd hc

/-! ## CONNECT -/

/-- What the spec says of a CONNECT request: the first handler that takes CONNECT
requests gets it; a 501 when there is none, a 400 when the target has no authority, and
an empty 200 with the handler's tunnel otherwise. -/
def ConnectDispatch (handlers : List ServerModuleHandlers) (request : Request) (run : Run) : Prop :=
  ((∀ h ∈ handlers, h.doesConnectProxyRequests = false) →
    run.response.status = .notImplemented ∧ run.spawned = []) ∧
  ∀ (i : Nat) (h : ServerModuleHandlers), handlers[i]? = some h → h.doesConnectProxyRequests = true →
    (∀ j < i, ∀ h', handlers[j]? = some h' → h'.doesConnectProxyRequests = false) →
    (request.uri.authority = none → run.response.status = .badRequest ∧ run.spawned = []) ∧
    ∀ a, request.uri.authority = some a →
      run.response.status = .ok ∧ run.response.body = .empty ∧ run.spawned = [.connectProxy i a]

theorem firstConnectProxyHandler_none : ∀ (k : Nat) (hs : List ServerModuleHandlers),
    (∀ h ∈ hs, h.doesConnectProxyRequests = false) → firstConnectProxyHandler k hs = none
  | _, [], _ => rfl
  | k, h :: hs, hno => by
    simp only [firstConnectProxyHandler, hno h (List.mem_cons_self h hs), Bool.false_eq_true, if_false]
    exact firstConnectProxyHandler_none (k + 1) hs fun h' hh' => hno h' (List.mem_cons_of_mem h hh')

theorem firstConnectProxyHandler_some : ∀ (k i : Nat) (hs : List ServerModuleHandlers)
    (h : ServerModuleHandlers), hs[i]? = some h → h.doesConnectProxyRequests = true →
    (∀ j < i, ∀ h', hs[j]? = some h' → h'.doesConnectProxyRequests = false) →
    firstConnectProxyHandler k hs = some (k + i, h)
  | _, _, [], _, hi, _, _ => by simp at hi
  | k, 0, h₀ :: hs, h, hi, hc, _ => by
    simp only [List.getElem?_cons_zero, Option.some.injEq] at hi
    subst hi
    simp [firstConnectProxyHandler, hc]
  | k, i + 1, h₀ :: hs, h, hi, hc, hbefore => by
    have h0 : h₀.doesConnectProxyRequests = false :=
      hbefore 0 (Nat.succ_pos i) h₀ (List.getElem?_cons_zero ..)
    rw [List.getElem?_cons_succ] at hi
    simp only [firstConnectProxyHandler, h0, Bool.false_eq_true, if_false]
    rw [firstConnectProxyHandler_some (k + 1) i hs h hi hc fun j hj h' hh' =>
      hbefore (j + 1) (Nat.succ_lt_succ hj) h' ((List.getElem?_cons_succ ..).trans hh'),
      Nat.add_right_comm, Nat.add_assoc]

theorem connectRun_dispatch (ctx : Ctx) (config : ServerConfigRoot) (request : Request)
    (socketData : SocketData) (handlers : List ServerModuleHandlers) :
    ConnectDispatch handlers request (connectRun ctx config request socketData handlers) := by
  refine ⟨fun hno => ?_, fun i h hi hc hbefore => ?_⟩
  · simp [connectRun, firstConnectProxyHandler_none 0 handlers hno]
  · rw [connectRun, firstConnectProxyHandler_some 0 i handlers h hi hc hbefore]
    refine ⟨fun ha => ?_, fun a ha => ?_⟩ <;> simp [ha]

/-! ## Post-processing -/

/-- The post-processing entry the spec names: the proxy twin for a proxy request. -/
def modifyingEntry (isProxy : Bool) (h : ServerModuleHandlers) : Response → Except String Response :=
  if isProxy then h.proxyResponseModifyingHandler else h.responseModifyingHandler

/-- **The unwinding the spec describes.** `Unwinds isProxy stack r calls result`: popping
`stack`, top first, starting from `r`, makes the calls `calls` and ends in `result`. -/
inductive Unwinds (isProxy : Bool) :
    List (Nat × ServerModuleHandlers) → Response → List HandlerCall → Except String Response → Prop
  /-- The stack is empty: the response is final. -/
  | done {r : Response} : Unwinds isProxy [] r [] (.ok r)
  /-- The top handler returns a response, which the rest of the stack receives. -/
  | passed {i : Nat} {h : ServerModuleHandlers} {rest : List (Nat × ServerModuleHandlers)}
      {r r' : Response} {calls : List HandlerCall} {result : Except String Response} :
      modifyingEntry isProxy h r = .ok r' → Unwinds isProxy rest r' calls result →
      Unwinds isProxy ((i, h) :: rest) r (.modify i isProxy r :: calls) result
  /-- The top handler fails: nothing below it runs. -/
  | failed {i : Nat} {h : ServerModuleHandlers} {rest : List (Nat × ServerModuleHandlers)}
      {r : Response} {err : String} :
      modifyingEntry isProxy h r = .error err →
      Unwinds isProxy ((i, h) :: rest) r [.modify i isProxy r] (.error err)

/-- The calls of an unwinding go to a prefix of the stack, top first, each through the
entry of the right kind; all of it unless an entry failed, and then the last call is
the one that failed. -/
theorem Unwinds.targets {isProxy : Bool} {stack : List (Nat × ServerModuleHandlers)} {r : Response}
    {calls : List HandlerCall} {result : Except String Response}
    (h : Unwinds isProxy stack r calls result) :
    calls.map HandlerCall.target = (stack.take calls.length).map (fun p => (p.1, false, isProxy)) ∧
      (result.isOk = true → calls.length = stack.length) := by
  induction h with
  | done => simp
  | passed _ _ ih => exact ⟨by simp [HandlerCall.target, ih.1], fun hok => by simp [ih.2 hok]⟩
  | failed _ => simp [HandlerCall.target, Except.isOk, Except.toBool]

/-- **The loop of the source unwinds as the spec says.** -/
theorem postProcess_unwinds (isProxy : Bool) :
    ∀ (stack : List (Nat × ServerModuleHandlers)) (r : Response),
      Unwinds isProxy stack r (postProcess isProxy stack r).1 (postProcess isProxy stack r).2
  | [], _ => .done
  | (i, h) :: rest, r => by
    unfold postProcess
    cases hm : (if isProxy then h.proxyResponseModifyingHandler else h.responseModifyingHandler) r with
    | ok r' => exact .passed hm (postProcess_unwinds isProxy rest r')
    | error err => exact .failed hm

/-! ## What an exit of the walk returns -/

/-- The response the spec builds from an exit, and the extra headers of the 500 that
replaces it when post-processing fails: a `response` as the handler gave it, a `status`
as its error page, an `Err` as a 500 page, and the end of the chain as a 404 page. A
WebSocket takeover has none. -/
def exitBase (env : Env) (config : ServerConfigRoot) :
    ChainExit → Option (Response × Option HeaderMap)
  | .response r headers _ => some (r, headers)
  | .status s headers _ => some (generateErrorResponse env s config headers, headers)
  | .failed _ => some (generateErrorResponse env .internalServerError config none, none)
  | .finished => some (generateErrorResponse env .notFound config none, none)
  | .websocket _ => none

/-- A run that answers with `base`: after the forward calls of `st`, the stack unwinds
from `base` with `customHeaders` and `Server`; a complete unwinding is the response,
a failed one a 500 built with `errorHeaders`. -/
def RespondsThroughStack (env : Env) (config : ServerConfigRoot) (isProxy : Bool)
    (st : ChainState) (base : Response) (errorHeaders : Option HeaderMap) (run : Run) : Prop :=
  ∃ post result, run.calls = st.calls ++ post ∧
    Unwinds isProxy st.executedHandlers (finishHeaders env config base) post result ∧
    (∀ r, result = .ok r → run.response = r) ∧
    (∀ err, result = .error err → run.response =
      finishHeaders env config (generateErrorResponse env .internalServerError config errorHeaders))

/-- **What the run makes of an exit**: it answers with the exit's base response, and a
takeover answers with the upgrade response, or a 500 when the upgrade fails, and calls
no post-processor. -/
def ExitReturns (env : Env) (config : ServerConfigRoot) (isProxy : Bool) (e : ChainExit)
    (st : ChainState) (run : Run) : Prop :=
  (∀ base errorHeaders, exitBase env config e = some (base, errorHeaders) →
    RespondsThroughStack env config isProxy st base errorHeaders run) ∧
  (exitBase env config e = none → run.calls = st.calls ∧
    (∀ r, env.upgradeWebsocket st.requestData.request = .ok r →
      run.response = finishHeaders env config r) ∧
    (∀ err, env.upgradeWebsocket st.requestData.request = .error err →
      run.response.status = .internalServerError))

theorem respondThroughStack_responds (ctx : Ctx) (config : ServerConfigRoot) (st : ChainState)
    (base : Response) (errorHeaders : Option HeaderMap) (authData : Option String)
    (afterLoop : List LogMessage) :
    RespondsThroughStack ctx.env config ctx.isProxyRequest st base errorHeaders
      (respondThroughStack ctx config st base errorHeaders authData afterLoop) := by
  have hunw := postProcess_unwinds ctx.isProxyRequest st.executedHandlers (finishHeaders ctx.env config base)
  unfold respondThroughStack
  generalize postProcess ctx.isProxyRequest st.executedHandlers (finishHeaders ctx.env config base) = p
    at hunw ⊢
  obtain ⟨post, result⟩ := p
  refine ⟨post, result, ?_, hunw, ?_, ?_⟩
  · cases result <;> rfl
  · rintro r rfl; rfl
  · rintro err rfl; rfl

theorem finishChain_exitReturns (ctx : Ctx) (config : ServerConfigRoot) (e : ChainExit)
    (st : ChainState) : ExitReturns ctx.env config ctx.isProxyRequest e st (finishChain ctx config e st) := by
  unfold ExitReturns
  cases e
  case websocket i =>
    refine ⟨fun _ _ h => (nomatch h), fun _ => ⟨?_, fun r hr => ?_, fun err herr => ?_⟩⟩
    · show (websocketRun ctx config i st).calls = st.calls
      unfold websocketRun; split <;> rfl
    · simp [finishChain, websocketRun, hr]
    · simp [finishChain, websocketRun, herr]
  all_goals
    refine ⟨fun base errorHeaders h => ?_, fun h => nomatch h⟩
    simp only [exitBase, Option.some.injEq, Prod.mk.injEq] at h
    obtain ⟨rfl, rfl⟩ := h
    exact respondThroughStack_responds _ _ _ _ _ _ _

/-! ## The whole prepared request -/

theorem getAll_allow_asteriskResponse (env : Env) (config : ServerConfigRoot) (request : Request) :
    (asteriskResponse env config request).headers.getAll .allow = [.allowedMethods] := by
  unfold asteriskResponse
  split
  · simp [HeaderMap.getAll, HeaderName.allow]
  · rw [getAll_generateErrorResponse] <;> simp [HeaderMap.getAll] <;> decide

/-- **What the spec says happens to a prepared request.** An asterisk-form target and a
CONNECT request reach no forward entry: the first is answered 204 (OPTIONS) or 400, with
`Allow`; the second as `ConnectDispatch` says. Any other request is walked by the
reference semantics, from the prepared request, no user and the connection's addresses,
and the run returns what `ExitReturns` says of the walk's exit. -/
def Dispatches (ctx : Ctx) (config : ServerConfigRoot) (request : Request) (socketData : SocketData)
    (handlersVec : List ServerModuleHandlers) (run : Run) : Prop :=
  (request.uri.path = "*" →
    run.calls = [] ∧ run.spawned = [] ∧
    run.response.status = (if request.method = .options then .noContent else .badRequest) ∧
    run.response.headers.getAll .allow = [.allowedMethods]) ∧
  (request.uri.path ≠ "*" → ctx.isConnectProxyRequest = true →
    run.calls = [] ∧ ConnectDispatch handlersVec request run) ∧
  (request.uri.path ≠ "*" → ctx.isConnectProxyRequest = false →
    ∃ e st, ChainSemantics config ctx.isProxyRequest (ctx.env.isUpgradeRequest request) 0
        handlersVec (ChainState.initial request socketData) e st ∧
      ExitReturns ctx.env config ctx.isProxyRequest e st run)

/-- A request that is neither asterisk-form nor CONNECT is finished from the walk. -/
theorem dispatch_of_walk {ctx : Ctx} {config : ServerConfigRoot} {request : Request}
    {socketData : SocketData} (handlersVec : List ServerModuleHandlers)
    (hstar : request.uri.path ≠ "*") (hc : ctx.isConnectProxyRequest = false) :
    dispatch ctx config request socketData handlersVec =
      finishChain ctx config
        (walkHandlers config ctx.isProxyRequest (ctx.env.isUpgradeRequest request) 0 handlersVec
          (ChainState.initial request socketData)).1
        (walkHandlers config ctx.isProxyRequest (ctx.env.isUpgradeRequest request) 0 handlersVec
          (ChainState.initial request socketData)).2 := by
  simp only [dispatch, hstar, if_false, hc, Bool.false_eq_true]

theorem dispatch_dispatches (ctx : Ctx) (config : ServerConfigRoot) (request : Request)
    (socketData : SocketData) (handlersVec : List ServerModuleHandlers) :
    Dispatches ctx config request socketData handlersVec
      (dispatch ctx config request socketData handlersVec) := by
  refine ⟨fun hstar => ?_, fun hstar hc => ?_, fun hstar hc => ?_⟩
  · rw [dispatch, if_pos hstar]
    refine ⟨rfl, rfl, ?_, ?_⟩
    · simp only [finishHeaders_status, asteriskResponse]
      split <;> simp
    · rw [getAll_finishHeaders _ _ _ (by decide), getAll_allow_asteriskResponse]
      simp
  · simp only [dispatch, hstar, if_false, hc, if_true]
    refine ⟨?_, connectRun_dispatch _ _ _ _ _⟩
    unfold connectRun
    split
    · split <;> rfl
    · rfl
  · rw [dispatch_of_walk handlersVec hstar hc]
    exact ⟨_, _, walkHandlers_sound config _ _ 0 handlersVec _, finishChain_exitReturns _ _ _ _⟩

theorem requestHandlerWrapped_of_prepared {env : Env} {request : Request}
    {remoteAddress localAddress : SocketAddr} {encrypted : Bool} {globalConfigRoot : ServerConfigRoot}
    {hostConfig : Yaml} {config : ServerConfigRoot} {prepared : Request}
    (hprep : prepareRequest (Ctx.ofRequest env request globalConfigRoot) request
      ⟨remoteAddress, localAddress, encrypted⟩ globalConfigRoot hostConfig = .ok (config, prepared))
    (handlersVec : List ServerModuleHandlers) :
    requestHandlerWrapped env request remoteAddress localAddress encrypted globalConfigRoot hostConfig
      handlersVec =
      dispatch (Ctx.ofRequest env request globalConfigRoot) config prepared
        ⟨remoteAddress, localAddress, encrypted⟩ handlersVec := by
  simp only [requestHandlerWrapped, hprep]

/-- An environment in which every collaborator succeeds: the configuration is the global
one, the sanitizer keeps the path, and every file opens with length 0. -/
def sampleEnv : Env where
  serverSoftware := "Ferron"
  generateDefaultErrorPage _ _ := "<html></html>"
  combineConfig globalConfigRoot _ _ _ _ := some globalConfigRoot
  sanitizeUrl path _ := .ok path
  isUpgradeRequest _ := false
  upgradeWebsocket _ := .error "not an upgrade request"
  canOpen _ := true
  statLength _ := some 0
  clock := ⟨2026, 10, 9, 12, 0, 0, 0, false⟩

/-- `127.0.0.1:8080`. -/
def sampleAddr : SocketAddr := ⟨⟨"127.0.0.1", by decide⟩, 8080⟩

/-- `GET / HTTP/1.1` with no headers. -/
def sampleRequest : Request := ⟨.get, .http11, ⟨none, none, ⟨"/", none⟩⟩, .empty⟩

/-- Both logs enabled, nothing else configured. -/
def sampleConfig : ServerConfigRoot :=
  ⟨[(.string "logFilePath", .string "/var/log/access.log"),
    (.string "errorLogFilePath", .string "/var/log/error.log")]⟩

end Karpacz.Proof
