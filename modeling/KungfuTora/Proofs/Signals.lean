import KungfuTora.Trader.Link

/-!
# What a call does to the link

Every call sets broker states and makes start-up requests that its own arguments determine
(`step_signals`); which requests are then in flight is a matter of what the API takes.
-/

namespace KungfuTora

open TraderTora

/-! ## What a call signals -/

def Output.setsState : Output → Option BrokerState
  | .brokerState state => some state
  | _ => none

/-- The broker states that a call sets, in order. -/
def Event.states : Event → List BrokerState
  | .onFrontConnected ret => if ret ≠ 0 then [.connected, .loginFailed] else [.connected]
  | .onFrontDisconnected _ => [.disConnected]
  | .onRspUserLogin field info _ =>
    if isError info then [.loginFailed] else if field.isSome then [.loggedIn] else []
  | .onRspQryShareholderAccount _ info bIsLast stored _ =>
    if isError info = false ∧ bIsLast ∧ stored then [.ready] else []
  | .onRspQrySecurity _ info bIsLast _ =>
    if isError info = false ∧ bIsLast then [.ready] else []
  | .reqPosition ret => if ret ≠ 0 then [.disConnected] else []
  | .reqAccount ret => if ret ≠ 0 then [.disConnected] else []
  | _ => []

/-- The start-up requests that a call makes. -/
def Event.requests : Event → List Request
  | .onFrontConnected _ => [.login]
  | .onRspUserLogin field info _ =>
    if isError info = false ∧ field.isSome then [.shareholders] else []
  | .onRspQryShareholderAccount _ info bIsLast stored _ =>
    if isError info = false ∧ bIsLast ∧ stored = false then [.security] else []
  | _ => []

/-- `r` is an effect on `s` that sets these broker states and makes these requests. -/
structure Signals (s : TraderTora) (r : Effect) (states : List BrokerState)
    (requests : List Request) : Prop where
  sets : r.2.filterMap Output.setsState = states
  asks : r.2.filterMap Output.startUp = requests
  leaves : r.1.brokerState = states.getLastD s.brokerState

section Signals

variable (core : Core) (s : TraderTora)

theorem Signals.nothing : Signals s (s, []) [] [] := ⟨rfl, rfl, rfl⟩

theorem onFrontConnected_signals (ret : Int32) :
    Signals s (onFrontConnected core ret s) (Event.onFrontConnected ret).states [.login] := by
  by_cases hret : ret = 0
  · subst hret
    exact ⟨rfl, rfl, rfl⟩
  · have hif : (Event.onFrontConnected ret).states = [.connected, .loginFailed] := if_pos hret
    rw [hif]
    unfold onFrontConnected login
    dsimp only [Effect.andThen]
    rw [if_pos hret]
    exact ⟨rfl, rfl, rfl⟩

theorem onRspUserLogin_signals (field : Option RspUserLoginField) (info : Option RspInfoField)
    (ret : Int32) :
    Signals s (onRspUserLogin core field info s) (Event.onRspUserLogin field info ret).states
      (Event.onRspUserLogin field info ret).requests := by
  unfold onRspUserLogin
  dsimp only [Event.states, Event.requests]
  cases isError info with
  | true => exact ⟨rfl, rfl, rfl⟩
  | false => cases field <;> exact ⟨rfl, rfl, rfl⟩

theorem onRspQryShareholderAccount_signals (account : Option ShareholderAccountField)
    (info : Option RspInfoField) (bIsLast stored : Bool) (ret : Int32) :
    Signals s (onRspQryShareholderAccount account info bIsLast stored s)
      (Event.onRspQryShareholderAccount account info bIsLast stored ret).states
      (Event.onRspQryShareholderAccount account info bIsLast stored ret).requests := by
  unfold onRspQryShareholderAccount
  dsimp only [Event.states, Event.requests]
  cases isError info with
  | true => exact ⟨rfl, rfl, rfl⟩
  | false =>
    cases bIsLast with
    | false => cases account <;> exact ⟨rfl, rfl, rfl⟩
    | true => cases stored <;> cases account <;> exact ⟨rfl, rfl, rfl⟩

theorem onRspQrySecurity_signals (security : Option SecurityField) (info : Option RspInfoField)
    (bIsLast : Bool) (frame : Instrument) :
    Signals s (onRspQrySecurity core security info bIsLast frame s)
      (Event.onRspQrySecurity security info bIsLast frame).states [] := by
  have hrecord : Signals s (s.recordSecurity core security frame) [] [] := by
    rcases recordSecurity_eq core s security frame with h | ⟨_, h⟩ <;> rw [h] <;>
      exact ⟨rfl, rfl, rfl⟩
  unfold onRspQrySecurity
  dsimp only [Event.states]
  cases isError info with
  | true => exact .nothing s
  | false =>
    obtain ⟨hstates, hrequests, hstate⟩ := hrecord
    cases bIsLast with
    | false => exact ⟨by simp [hstates], by simp [hrequests], hstate⟩
    | true =>
      refine ⟨?_, ?_, rfl⟩
      · show List.filterMap Output.setsState (_ ++ _) = _
        rw [List.filterMap_append, hstates]
        rfl
      · show List.filterMap Output.startUp (_ ++ _) = _
        rw [List.filterMap_append, hrequests]
        rfl

theorem reqPosition_signals (ret : Int32) :
    Signals s (reqPosition core ret s) (Event.reqPosition ret).states [] := by
  unfold reqPosition
  dsimp only [Event.states, Effect.andThen]
  split <;> exact ⟨rfl, rfl, rfl⟩

theorem reqAccount_signals (ret : Int32) :
    Signals s (reqAccount core ret s) (Event.reqAccount ret).states [] := by
  unfold reqAccount
  dsimp only [Event.states, Effect.andThen]
  split <;> exact ⟨rfl, rfl, rfl⟩

/-- What a call signals is determined by its arguments. -/
theorem step_signals (e : Event) : Signals s (step core s e) e.states e.requests := by
  cases e with
  | onFrontConnected ret => exact onFrontConnected_signals core s ret
  | onFrontDisconnected _ => exact ⟨rfl, rfl, rfl⟩
  | onRspUserLogin field info ret => exact onRspUserLogin_signals core s field info ret
  | onRspQryShareholderAccount account info bIsLast stored ret =>
    exact onRspQryShareholderAccount_signals s account info bIsLast stored ret
  | onRspQrySecurity security info bIsLast frame =>
    exact onRspQrySecurity_signals core s security info bIsLast frame
  | reqPosition ret => exact reqPosition_signals core s ret
  | reqAccount ret => exact reqAccount_signals core s ret
  | onStart config => exact ⟨rfl, rfl, rfl⟩
  | onRspError info => exact .nothing s
  | onRspOrderAction field info => exact .nothing s
  | onErrRtnOrderAction field info => exact .nothing s
  | insertOrder call => exact ⟨rfl, rfl, rfl⟩
  | onRspQryTradingAccount account info now =>
    dsimp only [step]
    rcases onRspQryTradingAccount_eq core s account info now with h | ⟨_, _, h⟩ <;> rw [h] <;>
      exact ⟨rfl, rfl, rfl⟩
  | onRspQryPosition position info bIsLast now =>
    dsimp only [step]
    unfold onRspQryPosition
    split
    · exact .nothing s
    · rcases positionRecords_eq core s position now with h | ⟨_, h⟩ <;> rw [h] <;>
        cases bIsLast <;> exact ⟨rfl, rfl, rfl⟩
  | onRspOrderInsert field info =>
    dsimp only [step]
    rcases onRspOrderInsert_eq core s field info with ⟨-, h⟩ | ⟨_, -, h⟩ <;> rw [h] <;>
      exact ⟨rfl, rfl, rfl⟩
  | onRtnOrder field now =>
    dsimp only [step]
    rcases onRtnOrder_eq core s field now with ⟨-, h⟩ | ⟨_, _, -, -, h⟩ <;> rw [h] <;>
      exact ⟨rfl, rfl, rfl⟩
  | onErrRtnOrderInsert field info now =>
    dsimp only [step]
    rcases onErrRtnOrderInsert_eq core s field info now with
      h | ⟨_, -, ⟨-, h⟩ | ⟨_, _, -, h⟩⟩ <;> rw [h] <;> exact ⟨rfl, rfl, rfl⟩
  | onRtnTrade field frameUid now =>
    dsimp only [step]
    rcases onRtnTrade_eq core s field frameUid now with h | ⟨_, _, -, -, h⟩ <;> rw [h] <;>
      exact ⟨rfl, rfl, rfl⟩
  | cancelOrder call =>
    dsimp only [step]
    rcases cancelOrder_eq core s call with ⟨-, h⟩ | ⟨_, _, -, h⟩ <;> rw [h]
    · exact ⟨rfl, rfl, rfl⟩
    · split <;> exact ⟨rfl, rfl, rfl⟩

end Signals

/-! ## The link and the adapter -/

/-- The calls that come to the adapter. -/
def callsOf (link : Link) : LinkTick → List Event
  | .call e connection => if link.delivers e connection then [e] else []
  | .lose _ => []

section Link

variable {core : Core} {link : Link}

theorem linkStep_call {e : Event} {connection : Nat} (h : link.delivers e connection = true) :
    linkStep core link (.call e connection) =
      (link.after core e connection, (step core link.trader e).2) := by
  simp [linkStep, h]

theorem linkStep_undelivered {e : Event} {connection : Nat}
    (h : link.delivers e connection = false) :
    linkStep core link (.call e connection) = (link, []) := by
  simp [linkStep, h]

/-- The adapter on its link is the adapter on the calls that come to it. -/
theorem link_exec_trader (core : Core) (ts : List LinkTick) :
    ((linkMachine core).exec ts).trader =
      (adapter core).exec ((linkMachine core).log callsOf ts) := by
  induction ts using List.reverseRecOn with
  | nil => rfl
  | append_singleton ts t ih =>
    rw [Machine.exec_concat, Machine.log_concat]
    show (linkStep core _ t).1.trader = _
    cases t with
    | call e connection =>
      cases h : ((linkMachine core).exec ts).delivers e connection with
      | true =>
        rw [linkStep_call h]
        simp only [callsOf, h, if_true, Machine.exec_concat, ← ih]
        rfl
      | false =>
        rw [linkStep_undelivered h]
        simp only [callsOf, h, Bool.false_eq_true, if_false, List.append_nil]
        exact ih
    | lose sent =>
      simp only [callsOf, List.append_nil, linkStep]
      split <;> exact ih

/-- An answer that comes is one to a request in flight. -/
theorem sent_of_delivers {e : Event} {connection : Nat} {request : Request} {bIsLast : Bool}
    (h : link.delivers e connection = true) (hanswers : e.answers = some (request, bIsLast)) :
    ⟨request, connection⟩ ∈ link.inFlight := by
  simpa [Link.delivers, hanswers] using h

/-- An answer that is not the last one leaves its request in flight. -/
theorem remaining_ne_nil {e : Event} {connection : Nat} {request : Request}
    (h : link.delivers e connection = true) (hanswers : e.answers = some (request, false)) :
    link.remaining e connection ≠ [] := by
  have hsent := sent_of_delivers h hanswers
  simp only [Link.remaining, hanswers]
  exact List.ne_nil_of_mem hsent

theorem after_brokerState (e : Event) (connection : Nat) :
    (link.after core e connection).trader.brokerState =
      e.states.getLastD link.trader.brokerState :=
  (step_signals core link.trader e).leaves

/-- The requests that a call puts in flight, by its arguments. -/
theorem sends_eq (e : Event) (connection : Nat) :
    link.sends core e connection =
      if e.accepted then
        e.requests.map fun request =>
          ⟨request, if e.connects.isSome then link.connectionAfter e else connection⟩
      else [] := by
  unfold Link.sends
  rw [(step_signals core link.trader e).asks]

end Link

end KungfuTora
