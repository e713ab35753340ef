import KungfuTora.Trader.State

/-!
# Session and query callbacks

Start, connection, login, the start-up queries for shareholder accounts and
securities, and the periodic queries for positions and the account. None of these
but the login touches what orders go through; only `onStart` and
`onRspQryShareholderAccount` write the shareholder map.
-/

namespace KungfuTora

namespace TraderTora

def updateBrokerState (state : BrokerState) (s : TraderTora) : Effect :=
  ({ s with brokerState := state }, [.brokerState state])

/-- A request to the vendor: `get_req_id` is evaluated for its last argument. -/
def request (req : Int32 → Output) (s : TraderTora) : Effect :=
  ({ s with rid := s.rid + 1 }, [req (s.rid + 1)])

def login (core : Core) (ret : Int32) (s : TraderTora) : Effect :=
  let req : ReqUserLoginField :=
    { logInAccount := core.accountId
      password := s.password
      departmentId := s.departmentId
      dynamicPassword := s.dynamicPassword }
  (s.request (.reqUserLogin req)).andThen fun s =>
    if ret ≠ 0 then s.updateBrokerState .loginFailed else (s, [])

def reqShareholders (core : Core) (s : TraderTora) : Effect :=
  s.request (.reqQryShareholderAccount core.accountId)

def reqInstrument (s : TraderTora) : Effect :=
  s.request .reqQrySecurity

def reqPosition (core : Core) (ret : Int32) (s : TraderTora) : Effect :=
  (s.request (.reqQryPosition core.accountId)).andThen fun s =>
    if ret ≠ 0 then
      (s.updateBrokerState .disConnected).andThen fun s => (s, [.returned false])
    else (s, [.returned true])

def reqAccount (core : Core) (ret : Int32) (s : TraderTora) : Effect :=
  (s.request (.reqQryTradingAccount core.accountId s.departmentId)).andThen fun s =>
    if ret ≠ 0 then
      (s.updateBrokerState .disConnected).andThen fun s => (s, [.returned false])
    else (s, [.returned true])

/-- The two assignments of `on_start` to the shareholder map. -/
def configureShareholders (config : Config) (m : Store CStr CStr) : Store CStr CStr :=
  let m := if config.shShareholderId ≠ [] then m.set exchangeSSE config.shShareholderId else m
  if config.szShareholderId ≠ [] then m.set exchangeSZE config.szShareholderId else m

def onStart (config : Config) (s : TraderTora) : Effect :=
  ({ s with
      frontAddress := config.tdFront
      password := config.password
      dynamicPassword := config.dynamicPassword
      exchange2Shareholder := configureShareholders config s.exchange2Shareholder
      departmentId :=
        if config.accountId.length > 8 then config.accountId.take 4 else s.departmentId },
    [.apiInit config.tdFront])

def onFrontConnected (core : Core) (ret : Int32) (s : TraderTora) : Effect :=
  (s.updateBrokerState .connected).andThen (login core ret)

def onFrontDisconnected (s : TraderTora) : Effect :=
  s.updateBrokerState .disConnected

/-- The members that a successful login overwrites. -/
def adoptSession (login : RspUserLoginField) (s : TraderTora) : TraderTora :=
  { s with
    frontId := login.frontId
    sessionId := login.sessionId
    orderRef := login.maxOrderRef + 1
    tradingDay := login.tradingDay }

def onRspUserLogin (core : Core) (pRspUserLoginField : Option RspUserLoginField)
    (pRspInfo : Option RspInfoField) (s : TraderTora) : Effect :=
  if isError pRspInfo then s.updateBrokerState .loginFailed
  else
    match pRspUserLoginField with
    | none => (s, [])
    | some login =>
      ((s.adoptSession login).updateBrokerState .loggedIn).andThen (reqShareholders core)

def onRspQryShareholderAccount (pShareholderAccount : Option ShareholderAccountField)
    (pRspInfo : Option RspInfoField) (bIsLast stored : Bool) (s : TraderTora) : Effect :=
  if isError pRspInfo then (s, [])
  else
    let s :=
      match pShareholderAccount with
      | none => s
      | some account =>
        { s with
          exchange2Shareholder :=
            s.exchange2Shareholder.emplace (fromToraExchange account.exchangeId)
              account.shareholderId }
    if bIsLast then
      if stored then s.updateBrokerState .ready else s.reqInstrument
    else (s, [])

/-- The record that `OnRspQrySecurity` writes for a security of a known exchange. -/
def recordSecurity (s : TraderTora) (core : Core) (pSecurity : Option SecurityField)
    (frame : Instrument) : Effect :=
  match pSecurity with
  | none => (s, [])
  | some security =>
    if getExchange security.exchangeId ≠ [] then
      ({ s with instrumentCount := s.instrumentCount + 1 },
        [.instrument 0 (fromToraSecurity core security frame)])
    else (s, [])

def onRspQrySecurity (core : Core) (pSecurity : Option SecurityField)
    (pRspInfo : Option RspInfoField) (bIsLast : Bool) (frame : Instrument) (s : TraderTora) :
    Effect :=
  if isError pRspInfo then (s, [])
  else
    (s.recordSecurity core pSecurity frame).andThen fun s =>
      if bIsLast then
        let ready := s.updateBrokerState .ready
        (ready.1, .storedInstruments s.tradingDay :: ready.2)
      else (s, [])

def onRspQryTradingAccount (core : Core) (pTradingAccount : Option TradingAccountField)
    (pRspInfo : Option RspInfoField) (nowInNano : Int64) (s : TraderTora) : Effect :=
  if isError pRspInfo then (s, [])
  else
    match pTradingAccount with
    | none => (s, [])
    | some account =>
      if account.accountId ≠ [] ∧ account.accountType = .normal then
        ({ s with fundId := account.accountId },
          [.asset 0
            { fromToraTradingAccount account nowInNano with
              tradingDay := s.tradingDay
              holderUid := core.homeUid
              ledgerCategory := .account }])
      else (s, [])

/-- The records that `OnRspQryPosition` writes for a position that is held. -/
def positionRecords (s : TraderTora) (core : Core) (pPosition : Option PositionField)
    (nowInNano : Int64) : List Output :=
  match pPosition with
  | none => []
  | some position =>
    if position.securityId ≠ [] ∧ 0 < position.currentPosition then
      [.position 0
        { fromToraPosition core position nowInNano with
          tradingDay := s.tradingDay
          holderUid := core.homeUid
          ledgerCategory := .account }]
    else []

def onRspQryPosition (core : Core) (pPosition : Option PositionField)
    (pRspInfo : Option RspInfoField) (bIsLast : Bool) (nowInNano : Int64) (s : TraderTora) :
    Effect :=
  if isError pRspInfo then (s, [])
  else
    (s, s.positionRecords core pPosition nowInNano ++
      if bIsLast then [.positionEnd 0 nowInNano core.homeUid] else [])

/-! ## What these calls leave alone -/

/-- `r` is an effect on `s` that leaves orders, returns and shareholders alone. -/
structure SessionOnly (s : TraderTora) (r : Effect) : Prop where
  routing : r.1.toRouting = s.toRouting
  shareholder : r.1.exchange2Shareholder = s.exchange2Shareholder
  outputs : ∀ o ∈ r.2, o.isSession = true

theorem SessionOnly.nothing (s : TraderTora) : SessionOnly s (s, []) :=
  ⟨rfl, rfl, by simp⟩

theorem SessionOnly.andThen {s : TraderTora} {r : Effect} {f : TraderTora → Effect}
    (hr : SessionOnly s r) (hf : SessionOnly r.1 (f r.1)) : SessionOnly s (r.andThen f) where
  routing := hf.routing.trans hr.routing
  shareholder := hf.shareholder.trans hr.shareholder
  outputs := by
    intro o ho
    rcases List.mem_append.mp ho with ho | ho
    · exact hr.outputs o ho
    · exact hf.outputs o ho

section Frames

variable (core : Core) (s : TraderTora)

theorem updateBrokerState_sessionOnly (state : BrokerState) :
    SessionOnly s (s.updateBrokerState state) :=
  ⟨rfl, rfl, by simp [updateBrokerState, Output.isSession]⟩

theorem request_sessionOnly (req : Int32 → Output) (h : ∀ n, (req n).isSession = true) :
    SessionOnly s (s.request req) :=
  ⟨rfl, rfl, by simp [request, h]⟩

theorem returned_sessionOnly (ok : Bool) : SessionOnly s (s, [.returned ok]) :=
  ⟨rfl, rfl, by simp [Output.isSession]⟩

theorem login_sessionOnly (ret : Int32) : SessionOnly s (login core ret s) := by
  unfold login
  refine (request_sessionOnly s _ (by intro; rfl)).andThen ?_
  split
  · exact updateBrokerState_sessionOnly _ _
  · exact .nothing _

theorem reqShareholders_sessionOnly : SessionOnly s (reqShareholders core s) :=
  request_sessionOnly s _ fun _ => rfl

theorem reqInstrument_sessionOnly : SessionOnly s s.reqInstrument :=
  request_sessionOnly s _ fun _ => rfl

theorem reqPosition_sessionOnly (ret : Int32) : SessionOnly s (reqPosition core ret s) := by
  refine (request_sessionOnly s _ fun _ => rfl).andThen ?_
  split
  · exact (updateBrokerState_sessionOnly _ _).andThen (returned_sessionOnly _ _)
  · exact returned_sessionOnly _ _

theorem reqAccount_sessionOnly (ret : Int32) : SessionOnly s (reqAccount core ret s) := by
  refine (request_sessionOnly s _ fun _ => rfl).andThen ?_
  split
  · exact (updateBrokerState_sessionOnly _ _).andThen (returned_sessionOnly _ _)
  · exact returned_sessionOnly _ _

theorem onFrontConnected_sessionOnly (ret : Int32) :
    SessionOnly s (onFrontConnected core ret s) :=
  (updateBrokerState_sessionOnly s _).andThen (login_sessionOnly core _ ret)

theorem onFrontDisconnected_sessionOnly : SessionOnly s s.onFrontDisconnected :=
  updateBrokerState_sessionOnly s _

/-- `on_start` writes settings only, among them the shareholder map. -/
theorem onStart_spec (config : Config) :
    (s.onStart config).1.toRouting = s.toRouting ∧
      (s.onStart config).1.exchange2Shareholder =
        configureShareholders config s.exchange2Shareholder ∧
      ∀ o ∈ (s.onStart config).2, o.isSession = true :=
  ⟨rfl, rfl, by simp [onStart, Output.isSession]⟩

/-- A login installs the session it names, or changes nothing of the routing. -/
theorem onRspUserLogin_spec (field : Option RspUserLoginField) (info : Option RspInfoField) :
    (onRspUserLogin core field info s).1.toRouting =
        (match isError info, field with
          | false, some login => (s.adoptSession login).toRouting
          | _, _ => s.toRouting) ∧
      (onRspUserLogin core field info s).1.exchange2Shareholder = s.exchange2Shareholder ∧
      ∀ o ∈ (onRspUserLogin core field info s).2, o.isSession = true := by
  unfold onRspUserLogin
  cases isError info with
  | true =>
    have h := updateBrokerState_sessionOnly s .loginFailed
    exact ⟨h.routing, h.shareholder, h.outputs⟩
  | false =>
    cases field with
    | none => exact ⟨rfl, rfl, by simp⟩
    | some login =>
      have h := (updateBrokerState_sessionOnly (s.adoptSession login) .loggedIn).andThen
        (reqShareholders_sessionOnly core _)
      exact ⟨h.routing, h.shareholder, h.outputs⟩

/-- An error-free answer adds the shareholder it names, unless the exchange has one. -/
theorem onRspQryShareholderAccount_spec (account : Option ShareholderAccountField)
    (info : Option RspInfoField) (bIsLast stored : Bool) :
    (onRspQryShareholderAccount account info bIsLast stored s).1.toRouting = s.toRouting ∧
      (onRspQryShareholderAccount account info bIsLast stored s).1.exchange2Shareholder =
        (match isError info, account with
          | false, some account =>
            s.exchange2Shareholder.emplace (fromToraExchange account.exchangeId)
              account.shareholderId
          | _, _ => s.exchange2Shareholder) ∧
      ∀ o ∈ (onRspQryShareholderAccount account info bIsLast stored s).2,
        o.isSession = true := by
  have hlast : ∀ s : TraderTora, SessionOnly s
      (if bIsLast then if stored then s.updateBrokerState .ready else s.reqInstrument
        else (s, [])) := by
    intro s
    split
    · split
      · exact updateBrokerState_sessionOnly _ _
      · exact reqInstrument_sessionOnly _
    · exact .nothing _
  unfold onRspQryShareholderAccount
  cases isError info with
  | true => exact ⟨rfl, by cases account <;> rfl, by simp⟩
  | false =>
    cases account with
    | none => exact ⟨(hlast _).routing, (hlast _).shareholder, (hlast _).outputs⟩
    | some account => exact ⟨(hlast _).routing, (hlast _).shareholder, (hlast _).outputs⟩

theorem recordSecurity_eq (security : Option SecurityField) (frame : Instrument) :
    s.recordSecurity core security frame = (s, []) ∨
      ∃ instrument, s.recordSecurity core security frame =
        ({ s with instrumentCount := s.instrumentCount + 1 }, [.instrument 0 instrument]) := by
  unfold recordSecurity
  cases security with
  | none => exact Or.inl rfl
  | some security =>
    dsimp only
    split
    · exact Or.inr ⟨_, rfl⟩
    · exact Or.inl rfl

theorem recordSecurity_sessionOnly (security : Option SecurityField) (frame : Instrument) :
    SessionOnly s (s.recordSecurity core security frame) := by
  rcases recordSecurity_eq core s security frame with h | ⟨_, h⟩ <;> rw [h]
  · exact .nothing s
  · exact ⟨rfl, rfl, by simp [Output.isSession]⟩

theorem onRspQrySecurity_sessionOnly (security : Option SecurityField)
    (info : Option RspInfoField) (bIsLast : Bool) (frame : Instrument) :
    SessionOnly s (onRspQrySecurity core security info bIsLast frame s) := by
  unfold onRspQrySecurity
  split
  · exact .nothing s
  · refine (recordSecurity_sessionOnly core s security frame).andThen ?_
    dsimp only
    split
    · exact ⟨rfl, rfl, by simp [updateBrokerState, Output.isSession]⟩
    · exact .nothing _

theorem onRspQryTradingAccount_eq (account : Option TradingAccountField)
    (info : Option RspInfoField) (nowInNano : Int64) :
    onRspQryTradingAccount core account info nowInNano s = (s, []) ∨
      ∃ fundId asset, onRspQryTradingAccount core account info nowInNano s =
        ({ s with fundId := fundId }, [.asset 0 asset]) := by
  unfold onRspQryTradingAccount
  split
  · exact Or.inl rfl
  · cases account with
    | none => exact Or.inl rfl
    | some account =>
      dsimp only
      split
      · exact Or.inr ⟨_, _, rfl⟩
      · exact Or.inl rfl

theorem onRspQryTradingAccount_sessionOnly (account : Option TradingAccountField)
    (info : Option RspInfoField) (nowInNano : Int64) :
    SessionOnly s (onRspQryTradingAccount core account info nowInNano s) := by
  rcases onRspQryTradingAccount_eq core s account info nowInNano with h | ⟨_, _, h⟩ <;> rw [h]
  · exact .nothing s
  · exact ⟨rfl, rfl, by simp [Output.isSession]⟩

theorem positionRecords_eq (position : Option PositionField) (nowInNano : Int64) :
    s.positionRecords core position nowInNano = [] ∨
      ∃ data, s.positionRecords core position nowInNano = [.position 0 data] := by
  unfold positionRecords
  cases position with
  | none => exact Or.inl rfl
  | some position =>
    dsimp only
    split
    · exact Or.inr ⟨_, rfl⟩
    · exact Or.inl rfl

theorem onRspQryPosition_sessionOnly (position : Option PositionField)
    (info : Option RspInfoField) (bIsLast : Bool) (nowInNano : Int64) :
    SessionOnly s (onRspQryPosition core position info bIsLast nowInNano s) := by
  have hrecords : ∀ o ∈ s.positionRecords core position nowInNano, o.isSession = true := by
    rcases positionRecords_eq core s position nowInNano with h | ⟨_, h⟩ <;> rw [h]
    · simp
    · simp [Output.isSession]
  unfold onRspQryPosition
  split
  · exact .nothing s
  · refine ⟨rfl, rfl, ?_⟩
    intro o ho
    rcases List.mem_append.mp ho with ho | ho
    · exact hrecords o ho
    · split at ho
      · rw [List.mem_singleton.mp ho]
        rfl
      · simp at ho

end Frames

end TraderTora

end KungfuTora
