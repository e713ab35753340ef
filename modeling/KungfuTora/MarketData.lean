import KungfuTora.MarketTypeConvert
import KungfuTora.Misc.Chain
import KungfuTora.Misc.Machine

/-!
# The market data gateway (`marketdata_tora.cpp`)

`MarketDataTora` connects and logs in as the trader does, passes subscriptions on to the
vendor's API, one call for each exchange, and turns the vendor's market data into quotes. As
for the trader, an `Event` is a call on the gateway together with what the calls made in its
course return.
-/

namespace KungfuTora

namespace Market

structure MarketDataTora where
  frontAddress : CStr
  accountId : CStr
  password : CStr
  protocol : CStr
  /-- `nullptr != api_`. -/
  api : Bool
  brokerState : BrokerState
  /-- The counter inside `get_req_id`. -/
  reqId : Int32
  deriving DecidableEq, Repr

/-- The state that the constructor leaves. -/
def MarketDataTora.initial : MarketDataTora where
  frontAddress := []
  accountId := []
  password := []
  protocol := []
  api := false
  brokerState := .pending
  reqId := 0

/-- The values that `on_start` takes from the configuration: strings that are empty where it
has none, and the protocol if it has one. -/
structure Config where
  protocol : Option CStr
  mdFront : CStr
  accountId : CStr
  password : CStr
  deriving DecidableEq, Repr

/-- What the vendor's subscription calls return, by the exchange they are made for. -/
abbrev ReturnCodes := TTORATstpExchangeIDType → Int32

inductive Event where
  | onStart (config : Config)
  /-- `ret` is what `ReqUserLogin` returns. -/
  | onFrontConnected (ret : Int32)
  | onFrontDisconnected (nReason : Int32)
  | onRspUserLogin (pRspInfo : RspInfoField)
  | onRtnMarketData (pMarketDataField : MarketDataField)
  | onRspSubMarketData (pRspInfoField : RspInfoField)
  | subscribe (instruments : List InstrumentKey) (ret : ReturnCodes)
  | subscribeAll (ret : ReturnCodes)
  | unsubscribe (instruments : List InstrumentKey) (ret : ReturnCodes)

/-- The login request of the market data API. -/
structure ReqUserLoginField where
  logInAccount : CStr
  password : CStr
  deriving DecidableEq, Repr

inductive Output where
  /-- The API created for TCP, registered with the front and started. -/
  | registerFront (frontAddress : CStr)
  /-- The API created for multicast, registered with the group and started. -/
  | registerMulticast (multicastAddress interfaceAddress : CStr)
  | brokerState (state : BrokerState)
  | reqUserLogin (req : ReqUserLoginField) (nRequestID : Int32)
  | subscribeMarketData (tickers : List CStr) (exchangeId : TTORATstpExchangeIDType)
  | unSubscribeMarketData (tickers : List CStr) (exchangeId : TTORATstpExchangeIDType)
  /-- A `Quote` in the journal of the writer for 0. -/
  | quote (data : Quote)
  /-- The value `subscribe`, `subscribe_all` or `unsubscribe` returns. -/
  | returned (ok : Bool)
  deriving DecidableEq, Repr

abbrev Effect := MarketDataTora × List Output

namespace MarketDataTora

/-! ## Connection and login -/

def updateBrokerState (state : BrokerState) (s : MarketDataTora) : Effect :=
  ({ s with brokerState := state }, [.brokerState state])

/-- `get_req_id()`, which starts again at 1 once the counter has become negative. -/
def getReqId (reqId : Int32) : Int32 :=
  (if reqId < 0 then 0 else reqId) + 1

def login (ret : Int32) (s : MarketDataTora) : Effect :=
  if s.api then
    let reqId := getReqId s.reqId
    let sent := { s with reqId := reqId }
    let request := .reqUserLogin ⟨s.accountId, s.password⟩ reqId
    if ret ≠ 0 then
      let failed := sent.updateBrokerState .loginFailed
      (failed.1, request :: failed.2)
    else (sent, [request])
  else (s, [])

def onStart (config : Config) (s : MarketDataTora) : Effect :=
  let protocol := config.protocol.getD (cstr "tcp")
  ({ s with
      protocol := protocol
      frontAddress := config.mdFront
      accountId := config.accountId
      password := config.password
      api := true },
    if s.api then []
    else if protocol = cstr "tcp" then [.registerFront config.mdFront]
    else [.registerMulticast config.mdFront (cstr "10.166.33.1")])

def onFrontConnected (ret : Int32) (s : MarketDataTora) : Effect :=
  let connected := s.updateBrokerState .connected
  let done := login ret connected.1
  (done.1, connected.2 ++ done.2)

def onFrontDisconnected (s : MarketDataTora) : Effect :=
  s.updateBrokerState .disConnected

def onRspUserLogin (pRspInfo : RspInfoField) (s : MarketDataTora) : Effect :=
  if pRspInfo.errorId = 0 then
    let loggedIn := s.updateBrokerState .loggedIn
    let ready := loggedIn.1.updateBrokerState .ready
    (ready.1, loggedIn.2 ++ ready.2)
  else s.updateBrokerState .loginFailed

/-! ## Subscriptions -/

/-- The three lists that `subscribe` and `unsubscribe` sort the instruments into. -/
structure Tickers where
  sh : List CStr
  sz : List CStr
  bse : List CStr
  deriving DecidableEq, Repr

/-- The body of the loop over the instruments. -/
def Tickers.push (tickers : Tickers) (ins : InstrumentKey) : Tickers :=
  if ins.exchangeId = exchangeSSE then { tickers with sh := tickers.sh ++ [ins.instrumentId] }
  else if ins.exchangeId = exchangeSZE then
    { tickers with sz := tickers.sz ++ [ins.instrumentId] }
  else if ins.exchangeId = exchangeBSE then
    { tickers with bse := tickers.bse ++ [ins.instrumentId] }
  else tickers

def sortTickers (instruments : List InstrumentKey) : Tickers :=
  instruments.foldl Tickers.push ⟨[], [], []⟩

/-- The lambda `func`: one call of the vendor's function `request`, and whether it succeeds.
The variable `ex` is not initialised, but each of the three exchanges sets it. -/
def func (request : List CStr → TTORATstpExchangeIDType → Output) (ret : ReturnCodes)
    (tickers : List CStr) (exchange : CStr) : Bool × List Output :=
  let ex := toToraExchange exchange 0
  (ret ex = 0, [request tickers ex])

/-- The end of `subscribe`, `subscribe_all` and `unsubscribe`. -/
def forward (request : List CStr → TTORATstpExchangeIDType → Output) (ret : ReturnCodes)
    (tickers : Tickers) : List Output :=
  let done := func request ret tickers.sh exchangeSSE
  let done := andAlso done (func request ret tickers.sz exchangeSZE)
  let done := andAlso done (func request ret tickers.bse exchangeBSE)
  done.2 ++ [.returned done.1]

def subscribe (instruments : List InstrumentKey) (ret : ReturnCodes) (s : MarketDataTora) :
    Effect :=
  (s, forward .subscribeMarketData ret (sortTickers instruments))

def subscribeAll (ret : ReturnCodes) (s : MarketDataTora) : Effect :=
  let every := [cstr "00000000"]
  (s, forward .subscribeMarketData ret ⟨every, every, every⟩)

def unsubscribe (instruments : List InstrumentKey) (ret : ReturnCodes) (s : MarketDataTora) :
    Effect :=
  (s, forward .unSubscribeMarketData ret (sortTickers instruments))

/-! ## Quotes -/

def onRtnMarketData (core : MarketCore) (pMarketDataField : MarketDataField)
    (s : MarketDataTora) : Effect :=
  (s, [.quote (fromToraMarketData core pMarketDataField)])

end MarketDataTora

open MarketDataTora

/-- One call on the gateway, from its first statement to its return. -/
def step (core : MarketCore) (s : MarketDataTora) : Event → Effect
  | .onStart config => s.onStart config
  | .onFrontConnected ret => onFrontConnected ret s
  | .onFrontDisconnected _ => s.onFrontDisconnected
  | .onRspUserLogin info => onRspUserLogin info s
  | .onRtnMarketData field => onRtnMarketData core field s
  | .onRspSubMarketData _ => (s, [])
  | .subscribe instruments ret => subscribe instruments ret s
  | .subscribeAll ret => subscribeAll ret s
  | .unsubscribe instruments ret => unsubscribe instruments ret s

/-- The market data gateway, from its construction on. -/
def gateway (core : MarketCore) : Machine MarketDataTora Event Output where
  init := .initial
  step := step core

end Market

end KungfuTora
