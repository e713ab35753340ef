import KungfuTora.TypeConvert
import KungfuTora.Common

/-!
# The trading adapter's state, its events and what it puts out

`TraderTora` holds the members of the class and those of its base class `Trader`
that it uses. An `Event` is a call that Kungfu or the vendor's API makes on the
adapter, together with what the calls made in its course return: return codes,
clock readings, frame uids, the prior content of a journal frame. An `Output` is a
request to the vendor, a record written to a journal, a broker state or a return
value, in the order in which they happen.
-/

namespace KungfuTora

/-- `struct ToraOrder`. -/
structure ToraOrder where
  orderId : UInt64
  orderRef : Int32
  source : UInt32
  instrumentId : CStr
  exchangeId : CStr
  orderSysId : CStr
  frontId : Int32
  sessionId : Int32
  deriving DecidableEq, Repr

/-- The members that orders and their returns go through: the session's ids, the
reference counter and the order maps. -/
structure Routing where
  frontId : Int32
  sessionId : Int32
  orderRef : Int32
  outboundOrders : Store UInt64 ToraOrder
  inboundOrderRefs : Store UInt64 UInt64
  inboundOrderSysids : Store UInt64 UInt64
  /-- `orders_` of the base class. -/
  orders : Store UInt64 (StateOf Order)

structure TraderTora extends Routing where
  frontAddress : CStr
  password : CStr
  dynamicPassword : CStr
  fundId : CStr
  departmentId : CStr
  tradingDay : CStr
  instrumentCount : Int32
  exchange2Shareholder : Store CStr CStr
  /-- `trades_` of the base class. -/
  trades : Store UInt64 (StateOf Trade)
  /-- `actions_` of the base class. -/
  actions : Store UInt64 (StateOf OrderAction)
  brokerState : BrokerState
  /-- The counter inside `get_req_id`. -/
  rid : Int32

/-- The state that the constructor leaves. -/
def TraderTora.initial : TraderTora where
  frontId := -1
  sessionId := -1
  orderRef := -1
  outboundOrders := .empty
  inboundOrderRefs := .empty
  inboundOrderSysids := .empty
  orders := .empty
  frontAddress := []
  password := []
  dynamicPassword := []
  fundId := []
  departmentId := []
  tradingDay := []
  instrumentCount := 0
  exchange2Shareholder := .empty
  trades := .empty
  actions := .empty
  brokerState := .pending
  rid := 0

/-- The values that `on_start` takes from the configuration, empty where it has none. -/
structure Config where
  tdFront : CStr
  password : CStr
  dynamicPassword : CStr
  shShareholderId : CStr
  szShareholderId : CStr
  accountId : CStr
  deriving DecidableEq, Repr

/-- An `OrderInput` event as `insert_order` meets it. -/
structure InsertCall where
  source : UInt32
  dest : UInt32
  genTime : Int64
  input : OrderInput
  /-- What `ReqOrderInsert` returns. -/
  ret : Int32
  /-- `time::now_in_nano()`. -/
  nano : Int64
  /-- The frame that `open_data<Order>` hands out. -/
  frame : Order
  deriving DecidableEq, Repr

/-- An `OrderAction` event as `cancel_order` meets it. -/
structure CancelCall where
  source : UInt32
  dest : UInt32
  genTime : Int64
  action : OrderAction
  /-- What `ReqOrderAction` returns. -/
  ret : Int32
  deriving DecidableEq, Repr

inductive Event where
  | onStart (config : Config)
  /-- `ret` is what `ReqUserLogin` returns. -/
  | onFrontConnected (ret : Int32)
  | onFrontDisconnected (nReason : Int32)
  | onRspError (pRspInfo : Option RspInfoField)
  /-- `ret` is what `ReqQryShareholderAccount` returns. -/
  | onRspUserLogin (pRspUserLoginField : Option RspUserLoginField)
      (pRspInfo : Option RspInfoField) (ret : Int32)
  /-- `stored` is what `check_if_stored_instruments` returns, `ret` what `ReqQrySecurity` does. -/
  | onRspQryShareholderAccount (pShareholderAccount : Option ShareholderAccountField)
      (pRspInfo : Option RspInfoField) (bIsLast stored : Bool) (ret : Int32)
  | onRspQrySecurity (pSecurity : Option SecurityField) (pRspInfo : Option RspInfoField)
      (bIsLast : Bool) (frame : Instrument)
  | onRspQryTradingAccount (pTradingAccount : Option TradingAccountField)
      (pRspInfo : Option RspInfoField) (nowInNano : Int64)
  | onRspQryPosition (pPosition : Option PositionField) (pRspInfo : Option RspInfoField)
      (bIsLast : Bool) (nowInNano : Int64)
  | onRspOrderInsert (pInputOrderField : InputOrderField) (pRspInfo : Option RspInfoField)
  | onRtnOrder (pOrder : OrderField) (nowInNano : Int64)
  | onErrRtnOrderInsert (pInputOrder : InputOrderField) (pRspInfo : Option RspInfoField)
      (nowInNano : Int64)
  | onRspOrderAction (pInputOrderActionField : InputOrderActionField)
      (pRspInfo : Option RspInfoField)
  | onErrRtnOrderAction (pInputOrderActionField : InputOrderActionField)
      (pRspInfo : Option RspInfoField)
  | onRtnTrade (pTrade : TradeField) (frameUid : UInt64) (nowInNano : Int64)
  | insertOrder (call : InsertCall)
  | cancelOrder (call : CancelCall)
  | reqPosition (ret : Int32)
  | reqAccount (ret : Int32)

inductive Output where
  | apiInit (frontAddress : CStr)
  | brokerState (state : BrokerState)
  | reqUserLogin (req : ReqUserLoginField) (nRequestID : Int32)
  | reqQryShareholderAccount (investorId : CStr) (nRequestID : Int32)
  | reqQrySecurity (nRequestID : Int32)
  | reqQryPosition (investorId : CStr) (nRequestID : Int32)
  | reqQryTradingAccount (investorId departmentId : CStr) (nRequestID : Int32)
  | reqOrderInsert (req : InputOrderField) (nRequestID : Int32)
  | reqOrderAction (req : InputOrderActionField) (nRequestID : Int32)
  /-- An `Order` record in the journal of the writer for `dest`. -/
  | order (dest : UInt32) (triggerTime : Int64) (data : Order)
  | trade (dest : UInt32) (triggerTime : Int64) (data : Trade)
  | orderActionError (dest : UInt32) (triggerTime : Int64) (data : OrderActionError)
  | instrument (dest : UInt32) (data : Instrument)
  | asset (dest : UInt32) (data : Asset)
  | position (dest : UInt32) (data : Position)
  | positionEnd (dest : UInt32) (triggerTime : Int64) (holderUid : UInt32)
  /-- `record_stored_instruments_trading_day`. -/
  | storedInstruments (tradingDay : CStr)
  /-- The value `insert_order`, `cancel_order` or a `req_` function returns. -/
  | returned (ok : Bool)
  /-- An exception that no handler catches. -/
  | uncaught
  deriving DecidableEq, Repr

/-- Whether an output concerns the session and its queries: no order request, no record
of an order or a trade, no exception. -/
def Output.isSession : Output → Bool
  | .reqOrderInsert .. | .reqOrderAction .. | .order .. | .trade .. | .orderActionError ..
  | .uncaught => false
  | _ => true

/-- What a piece of the adapter's code does: the state it leaves and what it puts out. -/
abbrev Effect := TraderTora × List Output

/-- `f` carried out after `r`. -/
def Effect.andThen (r : Effect) (f : TraderTora → Effect) : Effect :=
  ((f r.1).1, r.2 ++ (f r.1).2)

@[simp] theorem Effect.andThen_fst (r : Effect) (f : TraderTora → Effect) :
    (r.andThen f).1 = (f r.1).1 := rfl

@[simp] theorem Effect.andThen_snd (r : Effect) (f : TraderTora → Effect) :
    (r.andThen f).2 = r.2 ++ (f r.1).2 := rfl

end KungfuTora
