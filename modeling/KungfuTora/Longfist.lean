import KungfuTora.Misc.Store

/-!
# Kungfu's data types

The part of Kungfu core that the adapter reads and writes: the enumerations and
records of `longfist`, the `state` wrapper of the broker, and the functions of the
core that the adapter calls (`Core`). Their source is not part of the repository,
so the functions are parameters; enumerations name the members the adapter
mentions and keep the others as `other`.
-/

namespace KungfuTora

/-- A `char` array, terminator and whatever follows it included. -/
abbrev CharBuf := List UInt8

/-- A C string: what stands before the first NUL. -/
abbrev CStr := List UInt8

def cstr (s : String) : CStr := s.toList.map fun c => c.toNat.toUInt8

/-- The C string that a `char` array holds. -/
def CharBuf.text (buf : CharBuf) : CStr := buf.takeWhile (· ≠ 0)

def CharBuf.strlen (buf : CharBuf) : Nat := buf.text.length

/-- A `double`, as its bit pattern. The adapter copies prices and amounts; the one
quotient it forms is `Core.divide`. -/
abbrev Double := UInt64

def exchangeSSE : CStr := cstr "SSE"
def exchangeSZE : CStr := cstr "SZE"
def exchangeBSE : CStr := cstr "BSE"

inductive Side where
  | buy
  | sell
  | other (code : Int8)
  deriving DecidableEq, Repr

inductive PriceType where
  | limit
  | any
  | fakBest5
  | forwardBest
  | reverseBest
  | fak
  | fok
  | unKnown
  | other (code : Int8)
  deriving DecidableEq, Repr

inductive OrderStatus where
  | unknown
  | submitted
  | pending
  | cancelled
  | error
  | filled
  | partialFilledNotActive
  | partialFilledActive
  | other (code : Int8)
  deriving DecidableEq, Repr

inductive BrokerState where
  | pending
  | disConnected
  | connected
  | loggedIn
  | loginFailed
  | ready
  deriving DecidableEq, Repr

inductive Direction where
  | long
  | short
  deriving DecidableEq, Repr

inductive LedgerCategory where
  | account
  | strategy
  deriving DecidableEq, Repr

/-- `InstrumentType`, which the adapter only passes on. -/
abbrev InstrumentType := Int8

structure OrderInput where
  orderId : UInt64
  instrumentId : CStr
  exchangeId : CStr
  limitPrice : Double
  volume : Int64
  side : Side
  priceType : PriceType
  deriving DecidableEq, Repr

structure Order where
  orderId : UInt64
  insertTime : Int64
  updateTime : Int64
  tradingDay : CStr
  instrumentId : CStr
  exchangeId : CStr
  instrumentType : InstrumentType
  limitPrice : Double
  volume : Int64
  volumeLeft : Int64
  status : OrderStatus
  errorId : Int32
  errorMsg : CStr
  side : Side
  priceType : PriceType
  deriving DecidableEq, Repr

structure Trade where
  tradeId : UInt64
  orderId : UInt64
  tradeTime : Int64
  tradingDay : CStr
  instrumentId : CStr
  exchangeId : CStr
  instrumentType : InstrumentType
  side : Side
  price : Double
  volume : Int64
  deriving DecidableEq, Repr

structure OrderAction where
  orderId : UInt64
  orderActionId : UInt64
  deriving DecidableEq, Repr

structure OrderActionError where
  orderId : UInt64
  orderActionId : UInt64
  errorId : Int32
  deriving DecidableEq, Repr

structure Instrument where
  instrumentId : CStr
  exchangeId : CStr
  instrumentType : InstrumentType
  productId : CharBuf
  openDate : CStr
  deriving DecidableEq, Repr

structure Asset where
  updateTime : Int64
  tradingDay : CStr
  holderUid : UInt32
  ledgerCategory : LedgerCategory
  avail : Double
  accumulatedFee : Double
  frozenCash : Double
  deriving DecidableEq, Repr

structure Position where
  updateTime : Int64
  tradingDay : CStr
  holderUid : UInt32
  ledgerCategory : LedgerCategory
  instrumentId : CStr
  exchangeId : CStr
  instrumentType : InstrumentType
  direction : Direction
  volume : Int64
  yesterdayVolume : Int64
  frozenTotal : Int64
  frozenYesterday : Int64
  avgOpenPrice : Double
  positionCostPrice : Double
  deriving DecidableEq, Repr

structure InstrumentKey where
  instrumentId : CStr
  exchangeId : CStr
  deriving DecidableEq, Repr

/-- `Quote`, of its price levels the five that the adapter fills. -/
structure Quote where
  tradingDay : CStr
  dataTime : Int64
  instrumentId : CStr
  exchangeId : CStr
  instrumentType : InstrumentType
  preClosePrice : Double
  lastPrice : Double
  volume : Int64
  turnover : Double
  openPrice : Double
  highPrice : Double
  lowPrice : Double
  upperLimitPrice : Double
  lowerLimitPrice : Double
  closePrice : Double
  bidPrice : Vector Double 5
  askPrice : Vector Double 5
  bidVolume : Vector Int64 5
  askVolume : Vector Int64 5
  deriving DecidableEq, Repr

/-- `state<DataType>(source, dest, update_time, data)`. -/
structure StateOf (α : Type) where
  source : UInt32
  dest : UInt32
  updateTime : Int64
  data : α
  deriving DecidableEq, Repr

/-- The functions and constants of Kungfu core and of the vendor's headers that the
adapter uses. -/
structure Core where
  /-- `kungfu::hash_32` over a range of bytes. -/
  hash32 : List UInt8 → UInt32
  /-- `is_repo(instrument_id, exchange_id)`. -/
  isRepo : CStr → CStr → Bool
  /-- `get_instrument_type(exchange_id, instrument_id)`. -/
  getInstrumentType : CStr → CStr → InstrumentType
  gbk2utf8 : CStr → CStr
  /-- `time::strptime` with the format `%Y-%m-%d %H:%M:%S`. -/
  strptime : CStr → Int64
  /-- `order_from_input(input, order)`: the order that `order` becomes. -/
  orderFromInput : OrderInput → Order → Order
  /-- `Order::uid()`. -/
  orderUid : Order → UInt64
  /-- `Trade::uid()`. -/
  tradeUid : Trade → UInt64
  /-- `OrderAction::uid()`. -/
  actionUid : OrderAction → UInt64
  /-- The quotient of a `double` and an `int64_t`. -/
  divide : Double → Int64 → Double
  /-- `get_account_id()`. -/
  accountId : CStr
  /-- `get_home_uid()`. -/
  homeUid : UInt32
  /-- `sizeof(TTORATstpOrderSysIDType)`. -/
  orderSysIdSize : Nat
  /-- `PRODUCT_ID_LEN`. -/
  productIdLen : Nat

/-- The core as the market data gateway uses it. -/
structure MarketCore extends Core where
  /-- `is_too_large(value)`. -/
  isTooLarge : Double → Bool

/-- What the order maps rely on: an order made from an input carries the input's
order id, and that id is its key. -/
structure Core.KeepsOrderId (core : Core) : Prop where
  fromInput : ∀ input order, (core.orderFromInput input order).orderId = input.orderId
  uid : ∀ order, core.orderUid order = order.orderId

end KungfuTora
