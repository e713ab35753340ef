import KungfuTora.Longfist

/-!
# The vendor's records

The fields of the TORA API's records that the adapter reads or writes, and its
enumerations. A `char` code that the adapter compares with named constants is an
inductive type with one constructor for each name; the value 0 that a zeroed record
holds is one of the `other` codes. Exchange codes stay `char`: the adapter hashes them.
-/

namespace KungfuTora

abbrev TTORATstpExchangeIDType := UInt8

def toraTstpExdComm : TTORATstpExchangeIDType := 48
def toraTstpExdSSE : TTORATstpExchangeIDType := 49
def toraTstpExdSZSE : TTORATstpExchangeIDType := 50
def toraTstpExdBSE : TTORATstpExchangeIDType := 52

/-- `TTORATstpOrderPriceTypeType`, the constants `TORA_TSTP_OPT_*`. -/
inductive OrderPriceType where
  | anyPrice
  | limitPrice
  | bestPrice
  | fiveLevelPrice
  | homeBestPrice
  | other (code : UInt8)
  deriving DecidableEq, Repr

/-- `TTORATstpTimeConditionType`, the constants `TORA_TSTP_TC_*`. -/
inductive ToraTimeCondition where
  | ioc
  | gfd
  | other (code : UInt8)
  deriving DecidableEq, Repr

/-- `TTORATstpVolumeConditionType`, the constants `TORA_TSTP_VC_*`. -/
inductive ToraVolumeCondition where
  | av
  | cv
  | other (code : UInt8)
  deriving DecidableEq, Repr

/-- `TTORATstpDirectionType`, the constants `TORA_TSTP_D_*`. -/
inductive ToraDirection where
  | buy
  | sell
  | etfPur
  | etfRed
  | repurchase
  | reverseRepur
  | ipo
  | oeFundPur
  | oeFundRed
  | other (code : UInt8)
  deriving DecidableEq, Repr

/-- `TTORATstpOrderStatusType`, the constants `TORA_TSTP_OST_*`. -/
inductive ToraOrderStatus where
  | cached
  | unknown
  | accepted
  | partTraded
  | allTraded
  | partTradeCanceled
  | allCanceled
  | rejected
  | sendTradeEngine
  | other (code : UInt8)
  deriving DecidableEq, Repr

/-- `TTORATstpForceCloseReasonType`. -/
inductive ForceCloseReason where
  | notForceClose
  | other (code : UInt8)
  deriving DecidableEq, Repr

/-- `TTORATstpOperwayType`. -/
inductive Operway where
  | pcClient
  | other (code : UInt8)
  deriving DecidableEq, Repr

/-- `TTORATstpActionFlagType`. -/
inductive ActionFlag where
  | delete
  | other (code : UInt8)
  deriving DecidableEq, Repr

/-- `TTORATstpAccountTypeType`. -/
inductive AccountType where
  | normal
  | other (code : UInt8)
  deriving DecidableEq, Repr

/-- `CTORATstpRspInfoField`. -/
structure RspInfoField where
  errorId : Int32
  errorMsg : CStr
  deriving DecidableEq, Repr

/-- `nullptr != pRspInfo && pRspInfo->ErrorID != 0`. -/
def isError (pRspInfo : Option RspInfoField) : Bool :=
  match pRspInfo with
  | none => false
  | some info => info.errorId ≠ 0

/-- `CTORATstpRspUserLoginField`. -/
structure RspUserLoginField where
  frontId : Int32
  sessionId : Int32
  maxOrderRef : Int32
  tradingDay : CStr
  deriving DecidableEq, Repr

/-- `CTORATstpInputOrderField`. -/
structure InputOrderField where
  securityId : CStr
  exchangeId : TTORATstpExchangeIDType
  investorId : CStr
  shareholderId : CStr
  direction : ToraDirection
  orderPriceType : OrderPriceType
  timeCondition : ToraTimeCondition
  volumeCondition : ToraVolumeCondition
  limitPrice : Double
  volumeTotalOriginal : Int32
  orderRef : Int32
  orderSysId : CharBuf
  forceCloseReason : ForceCloseReason
  operway : Operway
  deriving DecidableEq, Repr

/-- `CTORATstpOrderField`. -/
structure OrderField where
  frontId : Int32
  sessionId : Int32
  orderRef : Int32
  orderSysId : CharBuf
  exchangeId : TTORATstpExchangeIDType
  securityId : CStr
  tradingDay : CStr
  direction : ToraDirection
  orderPriceType : OrderPriceType
  limitPrice : Double
  volumeTotalOriginal : Int32
  volumeTraded : Int32
  orderStatus : ToraOrderStatus
  statusMsg : CStr
  deriving DecidableEq, Repr

/-- `CTORATstpTradeField`. -/
structure TradeField where
  exchangeId : TTORATstpExchangeIDType
  orderSysId : CharBuf
  orderRef : Int32
  securityId : CStr
  direction : ToraDirection
  price : Double
  volume : Int32
  tradeDate : CharBuf
  tradeTime : CharBuf
  tradingDay : CStr
  deriving DecidableEq, Repr

/-- `CTORATstpInputOrderActionField`; of the array `OrderSysID`, the string in it. -/
structure InputOrderActionField where
  orderActionRef : Int32
  orderRef : Int32
  frontId : Int32
  sessionId : Int32
  exchangeId : TTORATstpExchangeIDType
  orderSysId : CStr
  actionFlag : ActionFlag
  operway : Operway
  deriving DecidableEq, Repr

/-- `CTORATstpShareholderAccountField`. -/
structure ShareholderAccountField where
  exchangeId : TTORATstpExchangeIDType
  shareholderId : CStr
  deriving DecidableEq, Repr

/-- `CTORATstpSecurityField`. -/
structure SecurityField where
  securityId : CStr
  exchangeId : TTORATstpExchangeIDType
  securityName : CharBuf
  openDate : CStr
  deriving DecidableEq, Repr

/-- `CTORATstpTradingAccountField`. -/
structure TradingAccountField where
  accountId : CStr
  accountType : AccountType
  usefulMoney : Double
  commission : Double
  frozenCash : Double
  deriving DecidableEq, Repr

/-- `CTORATstpPositionField`. -/
structure PositionField where
  securityId : CStr
  exchangeId : TTORATstpExchangeIDType
  tradingDay : CharBuf
  currentPosition : Int32
  historyPos : Int32
  historyPosFrozen : Int32
  todayBSPosFrozen : Int32
  openPosCost : Double
  totalPosCost : Double
  deriving DecidableEq, Repr

/-- `CTORATstpMarketDataField`. -/
structure MarketDataField where
  tradingDay : CharBuf
  securityId : CStr
  exchangeId : TTORATstpExchangeIDType
  preClosePrice : Double
  openPrice : Double
  volume : Int64
  turnover : Double
  lastPrice : Double
  highestPrice : Double
  lowestPrice : Double
  upperLimitPrice : Double
  lowerLimitPrice : Double
  closePrice : Double
  bidPrice1 : Double
  askPrice1 : Double
  bidVolume1 : Int64
  askVolume1 : Int64
  bidPrice2 : Double
  askPrice2 : Double
  bidVolume2 : Int64
  askVolume2 : Int64
  bidPrice3 : Double
  askPrice3 : Double
  bidVolume3 : Int64
  askVolume3 : Int64
  bidPrice4 : Double
  askPrice4 : Double
  bidVolume4 : Int64
  askVolume4 : Int64
  bidPrice5 : Double
  askPrice5 : Double
  bidVolume5 : Int64
  askVolume5 : Int64
  updateTime : CharBuf
  updateMillisec : Int32
  deriving DecidableEq, Repr

/-- `CTORATstpReqUserLoginField`, without the terminal trace. -/
structure ReqUserLoginField where
  logInAccount : CStr
  password : CStr
  departmentId : CStr
  dynamicPassword : CStr
  deriving DecidableEq, Repr

end KungfuTora
