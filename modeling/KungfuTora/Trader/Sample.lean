import KungfuTora.Trader.Run

/-!
# A sample core and sample messages

Concrete values for the parameters, on which runs of the adapter can be computed.
-/

namespace KungfuTora

/-- A core with a polynomial hash and with the repo codes of the two old exchanges. -/
def Core.sample : Core where
  hash32 bytes := bytes.foldl (fun h b => h * 257 + b.toUInt32 + 1) 0
  isRepo instrumentId exchangeId :=
    (exchangeId = exchangeSSE && instrumentId.take 3 = cstr "204") ||
      (exchangeId = exchangeSZE && instrumentId.take 4 = cstr "1318")
  getInstrumentType _ _ := 1
  gbk2utf8 text := text
  strptime _ := 0
  orderFromInput input order :=
    { order with
      orderId := input.orderId
      instrumentId := input.instrumentId
      exchangeId := input.exchangeId
      limitPrice := input.limitPrice
      volume := input.volume
      volumeLeft := input.volume
      status := .submitted
      side := input.side
      priceType := input.priceType }
  orderUid order := order.orderId
  tradeUid trade := trade.tradeId
  actionUid action := action.orderActionId
  divide x _ := x
  accountId := cstr "00010001"
  homeUid := 9
  orderSysIdSize := 8
  productIdLen := 32

theorem Core.sample_keepsOrderId : Core.sample.KeepsOrderId :=
  ⟨fun _ _ => rfl, fun _ => rfl⟩

/-- A journal frame whose memory is zero. -/
def Order.zero : Order where
  orderId := 0
  insertTime := 0
  updateTime := 0
  tradingDay := []
  instrumentId := []
  exchangeId := []
  instrumentType := 0
  limitPrice := 0
  volume := 0
  volumeLeft := 0
  status := .unknown
  errorId := 0
  errorMsg := []
  side := .buy
  priceType := .limit

/-- A limit order for 100 shares on SSE. -/
def OrderInput.sample (orderId : UInt64) : OrderInput where
  orderId := orderId
  instrumentId := cstr "600000"
  exchangeId := exchangeSSE
  limitPrice := 10
  volume := 100
  side := .buy
  priceType := .limit

/-- An insert that the vendor's API takes, at time `orderId`. -/
def InsertCall.sample (source : UInt32) (orderId : UInt64) : InsertCall where
  source := source
  dest := 9
  genTime := 0
  input := .sample orderId
  ret := 0
  nano := orderId.toInt64
  frame := .zero

def CancelCall.sample (orderId : UInt64) : CancelCall where
  source := 1
  dest := 9
  genTime := 0
  action := ⟨orderId, orderId + 1000⟩
  ret := 0

def sampleLogin (frontId sessionId maxOrderRef : Int32) : Event :=
  .onRspUserLogin (some ⟨frontId, sessionId, maxOrderRef, cstr "20240102"⟩) none 0

/-- An exchange number in a buffer of the vendor's length. -/
def sampleNumber (c : UInt8) : CharBuf := c :: List.replicate 7 0

/-- The counter answers the order of a reference and names its exchange number. -/
def InputOrderField.sample (orderRef : Int32) (c : UInt8) : InputOrderField :=
  { toToraOrderInput .sample (.sample 100) with orderRef := orderRef, orderSysId := sampleNumber c }

/-- The counter accepts the order of a triple and names its exchange number. -/
def OrderField.sample (frontId sessionId orderRef : Int32) (c : UInt8) : OrderField where
  frontId := frontId
  sessionId := sessionId
  orderRef := orderRef
  orderSysId := sampleNumber c
  exchangeId := toraTstpExdSSE
  securityId := cstr "600000"
  tradingDay := cstr "20240102"
  direction := .buy
  orderPriceType := .limitPrice
  limitPrice := 10
  volumeTotalOriginal := 100
  volumeTraded := 0
  orderStatus := .accepted
  statusMsg := []

def TradeField.sample (orderRef : Int32) (c : UInt8) : TradeField where
  exchangeId := toraTstpExdSSE
  orderSysId := sampleNumber c
  orderRef := orderRef
  securityId := cstr "600000"
  direction := .buy
  price := 10
  volume := 100
  tradeDate := cstr "20240102"
  tradeTime := cstr "09:30:00"
  tradingDay := cstr "20240102"

/-- Ten lots, five of them held since yesterday, some frozen. -/
def PositionField.sample : PositionField where
  securityId := cstr "600000"
  exchangeId := toraTstpExdSSE
  tradingDay := cstr "20240102"
  currentPosition := 10
  historyPos := 5
  historyPosFrozen := 2
  todayBSPosFrozen := 1
  openPosCost := 100
  totalPosCost := 100

/-- The core of the market data gateway; a price of more than 10^15 is too large. -/
def MarketCore.sample : MarketCore :=
  { Core.sample with
    isTooLarge := fun x => 0x430c6bf526340000 < x && x ≤ 0x7ff0000000000000 }

/-- The largest `double`, which the vendor puts where it has no price. -/
def Double.max : Double := 0x7fefffffffffffff

/-- A quiet market in a share. -/
def MarketDataField.sample : MarketDataField where
  tradingDay := cstr "20240102"
  securityId := cstr "600000"
  exchangeId := toraTstpExdSSE
  preClosePrice := 10
  openPrice := 10
  volume := 1000
  turnover := 10000
  lastPrice := 11
  highestPrice := 12
  lowestPrice := 9
  upperLimitPrice := 13
  lowerLimitPrice := 8
  closePrice := 11
  bidPrice1 := 11
  askPrice1 := 12
  bidVolume1 := 100
  askVolume1 := 100
  bidPrice2 := 10
  askPrice2 := 13
  bidVolume2 := 100
  askVolume2 := 100
  bidPrice3 := 9
  askPrice3 := 0
  bidVolume3 := 100
  askVolume3 := 0
  bidPrice4 := 8
  askPrice4 := 0
  bidVolume4 := 100
  askVolume4 := 0
  bidPrice5 := 0
  askPrice5 := 0
  bidVolume5 := 0
  askVolume5 := 0
  updateTime := cstr "09:30:00"
  updateMillisec := 0

end KungfuTora
