import KungfuTora.ToraApi

/-!
# Converters between Kungfu's and the vendor's records (`type_convert_tora.h`)

The overloads `to_tora` and `from_tora`, told apart here by the type they convert.
A converter that fills an output parameter takes its prior content and returns what
it becomes. Products of two `int`s are formed in 32 bits and widened afterwards, as
the source's operand types have it.
-/

namespace KungfuTora

/-- `nsec_from_tora_time(date, update_time, millisec)`. -/
def nsecFromToraTime (core : Core) (date updateTime : CharBuf) (millisec : Int32) : Int64 :=
  let datetime : CharBuf :=
    date.take 4 ++ cstr "-" ++ (date.drop 4).take 2 ++ cstr "-" ++ (date.drop 6).take 2 ++
      cstr " " ++ updateTime.take 8
  core.strptime datetime.text + millisec.toInt64 * 1000000

/-- `from_tora_timestamp(trading_day, tora_time, tora_exchange, is_quote)`; `todayStart` is
what `time::today_start()` returns. The trading day is not read. -/
def fromToraTimestamp (todayStart : Int64) (_tradingDay : CStr) (toraTime : Int64)
    (toraExchange : TTORATstpExchangeIDType) (isQuote : Bool) : Int64 :=
  if toraExchange = toraTstpExdSSE then
    if isQuote then
      todayStart +
        (toraTime / 10000 * 60 * 60 + toraTime / 100 % 100 * 60 + toraTime % 100) * 1000000000
    else
      todayStart +
        (toraTime / 1000000 * 60 * 60 + toraTime / 10000 % 100 * 60 + toraTime / 100 % 100) *
          1000000000 +
        toraTime % 100 * 10 * 1000000
  else
    todayStart +
      (toraTime / 10000000 * 60 * 60 + toraTime / 100000 % 100 * 60 + toraTime / 1000 % 100) *
        1000000000 +
      toraTime % 1000 * 1000000

/-- `strcpy(dst, src)`: what `dst` holds after the terminator stays. -/
def strcpy (dst : CharBuf) (src : CStr) : CharBuf :=
  src ++ 0 :: dst.drop (src.length + 1)

/-- `get_exchange(ExchangeID)`. -/
def getExchange (exchangeId : TTORATstpExchangeIDType) : CStr :=
  if exchangeId = toraTstpExdSSE then exchangeSSE
  else if exchangeId = toraTstpExdSZSE then exchangeSZE
  else if exchangeId = toraTstpExdBSE then exchangeBSE
  else []

/-- `from_tora(TTORATstpExchangeIDType, char *)`, which writes its output on every path. -/
def fromToraExchange (toraExchange : TTORATstpExchangeIDType) : CStr :=
  if toraExchange = toraTstpExdSSE then exchangeSSE
  else if toraExchange = toraTstpExdSZSE then exchangeSZE
  else if toraExchange = toraTstpExdBSE then exchangeBSE
  else []

/-- `to_tora(const char *, TTORATstpExchangeIDType &)`. -/
def toToraExchange (exchangeId : CStr) : TTORATstpExchangeIDType :=
  if exchangeId = exchangeSSE then toraTstpExdSSE
  else if exchangeId = exchangeSZE then toraTstpExdSZSE
  else if exchangeId = exchangeBSE then toraTstpExdBSE
  else toraTstpExdComm

/-- `from_tora(const TTORATstpOrderPriceTypeType &, PriceType &)`. -/
def fromToraPriceType : OrderPriceType → PriceType
  | .limitPrice => .limit
  | .bestPrice => .reverseBest
  | .fiveLevelPrice => .fakBest5
  | .homeBestPrice => .forwardBest
  -- the case assigns `PriceType::Any`, has no `break` and goes on into `default`
  | .anyPrice => .unKnown
  | .other _ => .unKnown

/-- `from_tora(const TTORATstpDirectionType &, Side &)`; other directions leave the
side as it was. -/
def fromToraDirection (ori : ToraDirection) (des : Side) : Side :=
  match ori with
  | .buy | .etfPur | .repurchase | .ipo | .oeFundPur => .buy
  | .sell | .etfRed | .reverseRepur | .oeFundRed => .sell
  | .other _ => des

/-- `to_tora(const Side &, instrument_id, exchange_id, TTORATstpDirectionType &)`. -/
def toToraSide (core : Core) (ori : Side) (instrumentId exchangeId : CStr) : ToraDirection :=
  if core.isRepo instrumentId exchangeId then
    if ori = .sell then .reverseRepur else .repurchase
  else
    if ori = .buy then .buy else .sell

/-- `from_tora(const TTORATstpOrderStatusType &, OrderStatus &)`. -/
def fromToraOrderStatus : ToraOrderStatus → OrderStatus
  | .allTraded => .filled
  | .partTraded => .partialFilledActive
  | .partTradeCanceled => .partialFilledNotActive
  | .accepted | .cached => .pending
  | .allCanceled => .cancelled
  | .sendTradeEngine => .submitted
  | .rejected => .error
  | .unknown | .other _ => .unknown

/-- `get_vol_multi(instrument_id, exchange_id)`. -/
def getVolMulti (core : Core) (instrumentId exchangeId : CStr) : Int32 :=
  if !core.isRepo instrumentId exchangeId then 1
  else if exchangeId = exchangeSSE then 1000 else 100

/-- `from_tora(const CTORATstpSecurityField *, Instrument &)`; an unknown exchange code
leaves the instrument's exchange as it was. -/
def fromToraSecurity (core : Core) (pSecurity : SecurityField) (instrument : Instrument) :
    Instrument :=
  let exchangeId :=
    if pSecurity.exchangeId = toraTstpExdSSE then exchangeSSE
    else if pSecurity.exchangeId = toraTstpExdSZSE then exchangeSZE
    else if pSecurity.exchangeId = toraTstpExdBSE then exchangeBSE
    else instrument.exchangeId
  { instrumentId := pSecurity.securityId
    exchangeId := exchangeId
    instrumentType := core.getInstrumentType exchangeId pSecurity.securityId
    productId := pSecurity.securityName.take core.productIdLen
    openDate := pSecurity.openDate }

/-- `from_tora(const CTORATstpTradingAccountField &, Asset &)`; the caller fills in the
fields that the `memset` left zero. -/
def fromToraTradingAccount (ori : TradingAccountField) (nowInNano : Int64) : Asset :=
  { updateTime := nowInNano
    tradingDay := []
    holderUid := 0
    ledgerCategory := .account
    avail := ori.usefulMoney
    accumulatedFee := ori.commission
    frozenCash := ori.frozenCash }

/-- `from_tora(const CTORATstpPositionField &, Position &)`. -/
def fromToraPosition (core : Core) (ori : PositionField) (nowInNano : Int64) : Position :=
  let instrumentId := ori.securityId
  let exchangeId := fromToraExchange ori.exchangeId
  let multi := getVolMulti core instrumentId exchangeId
  let volume := (ori.currentPosition * multi).toInt64
  { updateTime := nowInNano
    tradingDay := CharBuf.text (ori.tradingDay.take 8)
    holderUid := 0
    ledgerCategory := .account
    instrumentId := instrumentId
    exchangeId := exchangeId
    instrumentType := core.getInstrumentType exchangeId instrumentId
    direction := .long
    volume := volume
    yesterdayVolume := (ori.historyPos * multi).toInt64
    frozenTotal := ((ori.historyPosFrozen + ori.todayBSPosFrozen) * multi).toInt64
    frozenYesterday := (ori.historyPosFrozen * multi).toInt64
    avgOpenPrice := core.divide ori.openPosCost volume
    positionCostPrice := core.divide ori.totalPosCost volume }

/-- The switch on the price type in `to_tora(const OrderInput &, ...)`: price type, time
condition and volume condition of the request. -/
def toToraTerms (priceType : PriceType) (exchangeId instrumentId : CStr) :
    OrderPriceType × ToraTimeCondition × ToraVolumeCondition :=
  let star := instrumentId.take 3 = cstr "688"
  match priceType with
  | .limit => (.limitPrice, .gfd, .av)
  | .any =>
    if exchangeId = exchangeSSE then
      if star then (.bestPrice, .gfd, .av) else (.fiveLevelPrice, .ioc, .av)
    else if exchangeId = exchangeBSE then (.fiveLevelPrice, .ioc, .av)
    else (.anyPrice, .ioc, .av)
  | .fok => (.anyPrice, .ioc, .cv)
  | .fak => (.anyPrice, .ioc, .av)
  | .reverseBest =>
    if exchangeId = exchangeSSE then
      if star then (.bestPrice, .gfd, .av) else (.fiveLevelPrice, .gfd, .av)
    else (.bestPrice, .gfd, .av)
  | .forwardBest => (.homeBestPrice, .gfd, .av)
  | .fakBest5 => (.fiveLevelPrice, .ioc, .av)
  | .unKnown | .other _ => (.other 0, .other 0, .other 0)

/-- `to_tora(const OrderInput &, CTORATstpInputOrderField &)`. -/
def toToraOrderInput (core : Core) (ori : OrderInput) : InputOrderField :=
  let (orderPriceType, timeCondition, volumeCondition) :=
    toToraTerms ori.priceType ori.exchangeId ori.instrumentId
  let multi := getVolMulti core ori.instrumentId ori.exchangeId
  { securityId := ori.instrumentId
    exchangeId := toToraExchange ori.exchangeId
    investorId := []
    shareholderId := []
    direction := toToraSide core ori.side ori.instrumentId ori.exchangeId
    orderPriceType := orderPriceType
    timeCondition := timeCondition
    volumeCondition := volumeCondition
    limitPrice := ori.limitPrice
    volumeTotalOriginal := (ori.volume / multi.toInt64).toInt32
    orderRef := 0
    orderSysId := List.replicate core.orderSysIdSize 0
    forceCloseReason := .notForceClose
    operway := .pcClient }

/-- `from_tora(const CTORATstpInputOrderField &, Order &)`. -/
def fromToraInputOrder (core : Core) (ori : InputOrderField) (des : Order) : Order :=
  let instrumentId := ori.securityId
  let exchangeId := fromToraExchange ori.exchangeId
  let multi := getVolMulti core instrumentId exchangeId
  { des with
    instrumentId := instrumentId
    exchangeId := exchangeId
    instrumentType := core.getInstrumentType exchangeId instrumentId
    limitPrice := ori.limitPrice
    volume := (ori.volumeTotalOriginal * multi).toInt64
    volumeLeft := (ori.volumeTotalOriginal * multi).toInt64
    status := .error
    side := fromToraDirection ori.direction des.side
    priceType := fromToraPriceType ori.orderPriceType }

/-- `from_tora(const CTORATstpOrderField &, Order &)`. -/
def fromToraOrder (core : Core) (ori : OrderField) (des : Order) : Order :=
  let instrumentId := ori.securityId
  let exchangeId := fromToraExchange ori.exchangeId
  let multi := getVolMulti core instrumentId exchangeId
  { des with
    tradingDay := ori.tradingDay
    instrumentId := instrumentId
    exchangeId := exchangeId
    instrumentType := core.getInstrumentType exchangeId instrumentId
    limitPrice := ori.limitPrice
    volume := (ori.volumeTotalOriginal * multi).toInt64
    -- the difference is an `int`; it is widened before the multiplication
    volumeLeft := (ori.volumeTotalOriginal - ori.volumeTraded).toInt64 * multi.toInt64
    status := fromToraOrderStatus ori.orderStatus
    errorMsg := core.gbk2utf8 ori.statusMsg
    side := fromToraDirection ori.direction des.side
    priceType := fromToraPriceType ori.orderPriceType }

/-- `from_tora(const CTORATstpTradeField &, Trade &)`: the record is zeroed first, so
the side of an unsupported direction is the one coded 0, `Side::Buy`. -/
def fromToraTrade (core : Core) (ori : TradeField) : Trade :=
  let instrumentId := ori.securityId
  let exchangeId := fromToraExchange ori.exchangeId
  let multi := getVolMulti core instrumentId exchangeId
  { tradeId := 0
    orderId := 0
    tradeTime := nsecFromToraTime core ori.tradeDate ori.tradeTime 0
    tradingDay := ori.tradingDay
    instrumentId := instrumentId
    exchangeId := exchangeId
    instrumentType := core.getInstrumentType exchangeId instrumentId
    side := fromToraDirection ori.direction .buy
    price := ori.price
    volume := (ori.volume * multi).toInt64 }

end KungfuTora
