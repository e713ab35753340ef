import KungfuTora.TypeConvert

/-!
# The market data gateway's converters (`market_type_convert_tora.h`)

The header defines six of the functions of `type_convert_tora.h` once more, `inline` and
in the same namespace. They are translated here from their own text, under `Market`, as is
the converter of quotes that follows them.
-/

namespace KungfuTora

namespace Market

/-- `nsec_from_tora_time(date, update_time, millisec)`. -/
def nsecFromToraTime (core : Core) (date updateTime : CharBuf) (millisec : Int32) : Int64 :=
  let datetime : CharBuf :=
    date.take 4 ++ cstr "-" ++ (date.drop 4).take 2 ++ cstr "-" ++ (date.drop 6).take 2 ++
      cstr " " ++ updateTime.take 8
  core.strptime datetime.text + millisec.toInt64 * 1000000

/-- `from_tora_timestamp(trading_day, tora_time, tora_exchange, is_quote)`. -/
def fromToraTimestamp (todayStart : Int64) (_tradingDay : CStr) (toraTime : Int64)
    (toraExchange : TTORATstpExchangeIDType) (isQuote : Bool) : Int64 :=
  if toraExchange = toraTstpExdSSE then
    if isQuote then
      todayStart +
        (toraTime / 10000 * 60 * 60 + toraTime / 100 % 100 * 60 + toraTime % 100) * 1000000000
    else
      todayStart +
        (toraTime / 1000000 * 60 * 60 + toraTime / 10000 % 100 * 60 + toraTime / 100 % 100) *
          1000000000 +
        toraTime % 100 * 10 * 1000000
  else
    todayStart +
      (toraTime / 10000000 * 60 * 60 + toraTime / 100000 % 100 * 60 + toraTime / 1000 % 100) *
        1000000000 +
      toraTime % 1000 * 1000000

/-- `get_exchange(ExchangeID)`. -/
def getExchange (exchangeId : TTORATstpExchangeIDType) : CStr :=
  if exchangeId = toraTstpExdSSE then exchangeSSE
  else if exchangeId = toraTstpExdSZSE then exchangeSZE
  else if exchangeId = toraTstpExdBSE then exchangeBSE
  else []

/-- `from_tora(TTORATstpExchangeIDType, char *)`. -/
def fromToraExchange (toraExchange : TTORATstpExchangeIDType) : CStr :=
  if toraExchange = toraTstpExdSSE then exchangeSSE
  else if toraExchange = toraTstpExdSZSE then exchangeSZE
  else if toraExchange = toraTstpExdBSE then exchangeBSE
  else []

/-- `to_tora(const char *, TTORATstpExchangeIDType &)`; this copy has no last `else`, so an
unknown exchange leaves the output parameter as it was. -/
def toToraExchange (exchangeId : CStr) (toraExchange : TTORATstpExchangeIDType) :
    TTORATstpExchangeIDType :=
  if exchangeId = exchangeSSE then toraTstpExdSSE
  else if exchangeId = exchangeSZE then toraTstpExdSZSE
  else if exchangeId = exchangeBSE then toraTstpExdBSE
  else toraExchange

/-- `get_vol_multi(instrument_id, exchange_id)`. -/
def getVolMulti (core : Core) (instrumentId exchangeId : CStr) : Int32 :=
  if !core.isRepo instrumentId exchangeId then 1
  else if exchangeId = exchangeSSE then 1000 else 100

/-- `from_tora(const CTORATstpMarketDataField &, Quote &)`, which zeroes the quote first. The
vendor's volumes are of a 64-bit type. -/
def fromToraMarketData (core : MarketCore) (md : MarketDataField) : Quote :=
  let exchangeId := fromToraExchange md.exchangeId
  let multi := (getVolMulti core.toCore md.securityId exchangeId).toInt64
  { tradingDay := md.tradingDay.text
    dataTime := nsecFromToraTime core.toCore md.tradingDay md.updateTime md.updateMillisec
    instrumentId := md.securityId
    exchangeId := exchangeId
    instrumentType := core.getInstrumentType exchangeId md.securityId
    preClosePrice := if core.isTooLarge md.preClosePrice then 0 else md.preClosePrice
    lastPrice := if core.isTooLarge md.lastPrice then 0 else md.lastPrice
    volume := md.volume * multi
    turnover := md.turnover
    openPrice := md.openPrice
    highPrice := md.highestPrice
    lowPrice := md.lowestPrice
    upperLimitPrice := md.upperLimitPrice
    lowerLimitPrice := md.lowerLimitPrice
    closePrice := if core.isTooLarge md.closePrice then 0 else md.closePrice
    bidPrice := #v[md.bidPrice1, md.bidPrice2, md.bidPrice3, md.bidPrice4, md.bidPrice5]
    askPrice := #v[md.askPrice1, md.askPrice2, md.askPrice3, md.askPrice4, md.askPrice5]
    bidVolume := #v[md.bidVolume1 * multi, md.bidVolume2 * multi, md.bidVolume3 * multi,
      md.bidVolume4 * multi, md.bidVolume5 * multi]
    askVolume := #v[md.askVolume1 * multi, md.askVolume2 * multi, md.askVolume3 * multi,
      md.askVolume4 * multi, md.askVolume5 * multi] }

end Market

end KungfuTora
