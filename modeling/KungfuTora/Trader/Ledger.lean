import KungfuTora.Trader.Run

/-!
# The ledger

What the order maps are for, without keys: a ledger of what was sent and what the counter has
said about it, the newest fact first. An order is found by the triple it was sent with, a
trade by its exchange and number, an order's state is that of the first insert of its id, its
record that of the last. Nothing is hashed and nothing is overwritten.

`ledger` is the machine that answers every event from such a ledger. It says nothing of
connections and queries; requests carry no id.
-/

namespace KungfuTora

open TraderTora

inductive Fact where
  /-- The order was sent. -/
  | sent (w : Entry)
  /-- The counter answered the order and named its number. -/
  | answered (orderId : UInt64) (orderSysId : CStr)
  /-- A number was reported for an order. -/
  | bound (b : Binding)

namespace Fact

/-- The last order that was sent with a triple. -/
def orderOf (triple : Int32 × Int32 × Int32) : List Fact → Option UInt64
  | [] => none
  | .sent w :: fs => if w.triple = triple then some w.orderId else orderOf triple fs
  | _ :: fs => orderOf triple fs

/-- The order that a number was last reported for. -/
def numbered (number : TTORATstpExchangeIDType × CharBuf) : List Fact → Option UInt64
  | [] => none
  | .bound b :: fs => if b.number = number then some b.orderId else numbered number fs
  | _ :: fs => numbered number fs

/-- The state with which an order id was first inserted. -/
def stateOf (core : Core) (orderId : UInt64) : List Fact → Option (StateOf Order)
  | [] => none
  | .sent w :: fs =>
    (stateOf core orderId fs).or (if w.orderId = orderId then some (w.state core) else none)
  | _ :: fs => stateOf core orderId fs

/-- The record of the last insert of an order id, with the number it was last answered with. -/
def recordOf (orderId : UInt64) : List Fact → Option ToraOrder
  | [] => none
  | .sent w :: fs => if w.orderId = orderId then some w.record else recordOf orderId fs
  | .answered k orderSysId :: fs =>
    if k = orderId then
      (recordOf orderId fs).map fun record => { record with orderSysId := orderSysId }
    else recordOf orderId fs
  | .bound _ :: fs => recordOf orderId fs

def entry? : Fact → Option Entry
  | .sent w => some w
  | _ => none

def binding? : Fact → Option Binding
  | .bound b => some b
  | _ => none

end Fact

structure Ledger where
  frontId : Int32
  sessionId : Int32
  orderRef : Int32
  tradingDay : CStr
  shareholders : Store CStr CStr
  facts : List Fact

namespace Ledger

def initial : Ledger where
  frontId := -1
  sessionId := -1
  orderRef := -1
  tradingDay := []
  shareholders := .empty
  facts := []

/-- The order that a reference means in the current session. -/
def find (l : Ledger) (orderRef : Int32) : Option UInt64 :=
  Fact.orderOf (l.frontId, l.sessionId, orderRef) l.facts

/-- The ledger with more facts. -/
def note (l : Ledger) (fs : List Fact) : Ledger := { l with facts := fs ++ l.facts }

def insert (core : Core) (call : InsertCall) (l : Ledger) : Ledger × List Output :=
  let request :=
    { toToraOrderInput core call.input with
      investorId := core.accountId
      orderRef := l.orderRef
      shareholderId := (l.shareholders call.input.exchangeId).getD [] }
  ({ l with
      orderRef := l.orderRef + 1
      shareholders := l.shareholders.emplace call.input.exchangeId []
      facts := .sent ⟨call, l.orderRef, l.frontId, l.sessionId⟩ :: l.facts },
    [.reqOrderInsert request 0, .order call.source call.genTime (initialOrder core call)])

def cancel (call : CancelCall) (l : Ledger) : Ledger × List Output :=
  match Fact.recordOf call.action.orderId l.facts with
  | none => (l, [])
  | some record =>
    ({ l with orderRef := l.orderRef + 1 },
      .reqOrderAction (cancelRequest record l.orderRef) 0 ::
        if call.ret = 0 then []
        else
          [.orderActionError call.source call.genTime
            { orderId := call.action.orderId
              orderActionId := call.action.orderActionId
              errorId := call.ret }])

/-- The counter answers an order. -/
def answer (field : InputOrderField) (info : Option RspInfoField) (l : Ledger) :
    Ledger × List Output :=
  if isError info then (l, [])
  else
    match l.find field.orderRef with
    | none => (l, [])
    | some orderId =>
      (l.note
          [.bound ⟨l.frontId, l.sessionId, field.orderRef, field.exchangeId, field.orderSysId,
              orderId⟩,
            .answered orderId field.orderSysId.text],
        [])

/-- The counter reports an order's state. -/
def report (core : Core) (field : OrderField) (now : Int64) (l : Ledger) :
    Ledger × List Output :=
  if l.sessionId ≠ field.sessionId ∧ l.frontId ≠ field.frontId then (l, [])
  else
    match l.find field.orderRef with
    | none => (l, [])
    | some orderId =>
      match Fact.stateOf core orderId l.facts with
      | none => (l, [])
      | some orderState =>
        if field.orderStatus = .unknown then (l, [])
        else
          (l.note
              (if field.orderSysId.strlen = 0 then []
              else
                [.bound ⟨field.frontId, field.sessionId, field.orderRef, field.exchangeId,
                  field.orderSysId, orderId⟩]),
            [.order orderState.dest 0 (returnedOrder core field now orderState.data)])

/-- The counter refuses an order. -/
def refuse (core : Core) (field : InputOrderField) (info : Option RspInfoField) (now : Int64)
    (l : Ledger) : List Output :=
  match info with
  | none => []
  | some rspInfo =>
    if rspInfo.errorId = 0 then []
    else
      match l.find field.orderRef with
      | none => []
      | some orderId =>
        match Fact.stateOf core orderId l.facts with
        | none => []
        | some orderState =>
          [.order orderState.dest 0
            (refusedOrder core field rspInfo l.tradingDay now orderState.data)]

/-- The counter reports a trade. -/
def trade (core : Core) (field : TradeField) (frameUid : UInt64) (l : Ledger) : List Output :=
  match Fact.numbered (field.exchangeId, field.orderSysId) l.facts with
  | none => []
  | some orderId =>
    match Fact.stateOf core orderId l.facts with
    | none => []
    | some orderState =>
      [.trade orderState.dest 0 (returnedTrade core field frameUid orderState.data.orderId)]

def step (core : Core) (l : Ledger) : Event → Ledger × List Output
  | .onStart config => ({ l with shareholders := configureShareholders config l.shareholders }, [])
  | .onRspUserLogin field info _ =>
    match isError info, field with
    | false, some login =>
      ({ l with
          frontId := login.frontId
          sessionId := login.sessionId
          orderRef := login.maxOrderRef + 1
          tradingDay := login.tradingDay }, [])
    | _, _ => (l, [])
  | .onRspQryShareholderAccount account info _ _ _ =>
    match isError info, account with
    | false, some account =>
      ({ l with
          shareholders :=
            l.shareholders.emplace (fromToraExchange account.exchangeId) account.shareholderId },
        [])
    | _, _ => (l, [])
  | .insertOrder call => l.insert core call
  | .cancelOrder call => l.cancel call
  | .onRspOrderInsert field info => l.answer field info
  | .onRtnOrder field now => l.report core field now
  | .onErrRtnOrderInsert field info now => (l, l.refuse core field info now)
  | .onRtnTrade field frameUid _ => (l, l.trade core field frameUid)
  | _ => (l, [])

end Ledger

def ledger (core : Core) : Machine Ledger Event Output where
  init := .initial
  step := Ledger.step core

end KungfuTora
