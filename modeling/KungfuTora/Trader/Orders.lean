import KungfuTora.Trader.State

/-!
# Inserting and cancelling orders

`insert_order` is cut at the points where the vendor's thread can come in between:
the request is sent, the initial order is journaled and put into `orders_`, the
outbound record is set, the reference key is set. `insertOrder` is these four
effects in a row. Session ids are read where the source reads them, in the last two.
-/

namespace KungfuTora

namespace TraderTora

/-- The request that `insert_order` builds. The shareholder is read through
`operator[]`, so an exchange without one counts as the empty string. -/
def insertRequest (core : Core) (input : OrderInput) (s : TraderTora) : InputOrderField :=
  { toToraOrderInput core input with
    investorId := core.accountId
    orderRef := s.orderRef
    shareholderId := (s.exchange2Shareholder.subscript input.exchangeId []).1 }

/-- First effect: the reference is taken and `ReqOrderInsert` is called. -/
def sendInsert (core : Core) (call : InsertCall) (s : TraderTora) : Effect :=
  let req := insertRequest core call.input s
  ({ s with
      orderRef := s.orderRef + 1
      exchange2Shareholder := (s.exchange2Shareholder.subscript call.input.exchangeId []).2
      rid := s.rid + 1 },
    [.reqOrderInsert req (s.rid + 1)])

/-- The `Order` that `insert_order` writes. -/
def initialOrder (core : Core) (call : InsertCall) : Order :=
  let order := core.orderFromInput call.input call.frame
  let order := { order with insertTime := call.nano, updateTime := call.nano }
  if call.ret ≠ 0 then { order with errorId := call.ret, status := .error } else order

/-- Second effect: the initial order is put into `orders_` and journaled. -/
def journalInsert (core : Core) (call : InsertCall) (s : TraderTora) : Effect :=
  let order := initialOrder core call
  ({ s with
      orders := s.orders.emplace (core.orderUid order) ⟨call.dest, call.source, call.nano, order⟩ },
    [.order call.source call.genTime order])

/-- The record that the third effect stores. -/
def outboundRecord (call : InsertCall) (orderRef frontId sessionId : Int32) : ToraOrder :=
  { orderId := call.input.orderId
    orderRef := orderRef
    source := call.source
    instrumentId := call.input.instrumentId
    exchangeId := call.input.exchangeId
    orderSysId := []
    frontId := frontId
    sessionId := sessionId }

/-- Third effect. -/
def recordOutbound (call : InsertCall) (orderRef : Int32) (s : TraderTora) : Effect :=
  ({ s with
      outboundOrders :=
        s.outboundOrders.set call.input.orderId
          (outboundRecord call orderRef s.frontId s.sessionId) },
    [])

/-- Fourth effect, and the return. -/
def recordInbound (core : Core) (call : InsertCall) (orderRef : Int32) (s : TraderTora) : Effect :=
  ({ s with
      inboundOrderRefs :=
        s.inboundOrderRefs.set (getOrderRefKey core s.frontId s.sessionId orderRef)
          call.input.orderId },
    [.returned (call.ret = 0)])

def insertOrder (core : Core) (call : InsertCall) (s : TraderTora) : Effect :=
  (sendInsert core call s)
    |>.andThen (journalInsert core call)
    |>.andThen (recordOutbound call s.orderRef)
    |>.andThen (recordInbound core call s.orderRef)

/-- The request that `cancel_order` builds from the record of the order. -/
def cancelRequest (record : ToraOrder) (orderActionRef : Int32) : InputOrderActionField :=
  { orderActionRef := orderActionRef
    orderRef := record.orderRef
    frontId := record.frontId
    sessionId := record.sessionId
    exchangeId := toToraExchange record.exchangeId
    orderSysId := record.orderSysId
    actionFlag := .delete
    operway := .pcClient }

def cancelOrder (core : Core) (call : CancelCall) (s : TraderTora) : Effect :=
  match s.outboundOrders call.action.orderId with
  | none => (s, [.returned false])
  | some record =>
    let sent : Effect :=
      ({ s with orderRef := s.orderRef + 1, rid := s.rid + 1 },
        [.reqOrderAction (cancelRequest record s.orderRef) (s.rid + 1)])
    sent.andThen fun s =>
      if call.ret = 0 then
        ({ s with
            actions :=
              s.actions.emplace (core.actionUid call.action)
                ⟨call.dest, call.source, call.genTime, call.action⟩ },
          [.returned true])
      else
        (s,
          [.orderActionError call.source call.genTime
              { orderId := call.action.orderId
                orderActionId := call.action.orderActionId
                errorId := call.ret },
            .returned false])

/-! ## What an insert and a cancel change -/

section Changes

variable (core : Core) (s : TraderTora)

/-- The routing members after an insert, all four effects taken together. -/
theorem insertOrder_routing (call : InsertCall) :
    (insertOrder core call s).1.toRouting =
      { frontId := s.frontId
        sessionId := s.sessionId
        orderRef := s.orderRef + 1
        outboundOrders :=
          s.outboundOrders.set call.input.orderId
            (outboundRecord call s.orderRef s.frontId s.sessionId)
        inboundOrderRefs :=
          s.inboundOrderRefs.set (getOrderRefKey core s.frontId s.sessionId s.orderRef)
            call.input.orderId
        inboundOrderSysids := s.inboundOrderSysids
        orders :=
          s.orders.emplace (core.orderUid (initialOrder core call))
            ⟨call.dest, call.source, call.nano, initialOrder core call⟩ } := rfl

theorem insertOrder_shareholder (call : InsertCall) :
    (insertOrder core call s).1.exchange2Shareholder =
      s.exchange2Shareholder.emplace call.input.exchangeId [] := rfl

/-- What an insert puts out: the request, the initial order, the return value. -/
theorem insertOrder_outputs (call : InsertCall) :
    (insertOrder core call s).2 =
      [.reqOrderInsert (insertRequest core call.input s) (s.rid + 1),
        .order call.source call.genTime (initialOrder core call),
        .returned (call.ret = 0)] := rfl

/-- The one request that an insert sends. -/
theorem insertOrder_request (call : InsertCall) (req : InputOrderField) (rid : Int32) :
    .reqOrderInsert req rid ∈ (insertOrder core call s).2 ↔
      req = insertRequest core call.input s ∧ rid = s.rid + 1 := by
  simp [insertOrder_outputs]

/-- A cancel of a known order takes a reference and sends the request that the record gives. -/
theorem cancelOrder_eq (call : CancelCall) :
    (s.outboundOrders call.action.orderId = none ∧
        cancelOrder core call s = (s, [.returned false])) ∨
      ∃ record actions, s.outboundOrders call.action.orderId = some record ∧
        cancelOrder core call s =
          ({ s with orderRef := s.orderRef + 1, rid := s.rid + 1, actions := actions },
            .reqOrderAction (cancelRequest record s.orderRef) (s.rid + 1) ::
              if call.ret = 0 then [.returned true]
              else
                [.orderActionError call.source call.genTime
                    { orderId := call.action.orderId
                      orderActionId := call.action.orderActionId
                      errorId := call.ret },
                  .returned false]) := by
  unfold cancelOrder
  cases s.outboundOrders call.action.orderId with
  | none => exact Or.inl ⟨rfl, rfl⟩
  | some record =>
    right
    by_cases hret : call.ret = 0
    · simp only [hret, if_true]
      exact ⟨record, _, rfl, rfl⟩
    · simp only [hret, if_false]
      exact ⟨record, s.actions, rfl, rfl⟩

/-- The state after a cancel. -/
theorem cancelOrder_state (call : CancelCall) :
    (cancelOrder core call s).1 =
      if (s.outboundOrders call.action.orderId).isSome then
        { s with
          orderRef := s.orderRef + 1
          rid := s.rid + 1
          actions :=
            if call.ret = 0 then
              s.actions.emplace (core.actionUid call.action)
                ⟨call.dest, call.source, call.genTime, call.action⟩
            else s.actions }
      else s := by
  unfold cancelOrder
  cases s.outboundOrders call.action.orderId with
  | none => rfl
  | some record => by_cases hret : call.ret = 0 <;> simp [hret]

/-- A cancel of a known order takes a reference; nothing else of the routing changes. -/
theorem cancelOrder_routing (call : CancelCall) :
    (cancelOrder core call s).1.toRouting =
      { s.toRouting with
        orderRef :=
          if (s.outboundOrders call.action.orderId).isSome then s.orderRef + 1 else s.orderRef } := by
  rcases cancelOrder_eq core s call with ⟨hnone, h⟩ | ⟨_, _, hsome, h⟩
  · rw [h, hnone]
    rfl
  · rw [h, hsome]
    rfl

theorem cancelOrder_shareholder (call : CancelCall) :
    (cancelOrder core call s).1.exchange2Shareholder = s.exchange2Shareholder := by
  rcases cancelOrder_eq core s call with ⟨-, h⟩ | ⟨_, _, -, h⟩ <;> rw [h]

/-- What a cancel puts out: the request that the record gives and its outcome, or, for an
order without a record, only the return value. -/
theorem cancelOrder_outputs (call : CancelCall) :
    (cancelOrder core call s).2 =
      match s.outboundOrders call.action.orderId with
      | none => [.returned false]
      | some record =>
        .reqOrderAction (cancelRequest record s.orderRef) (s.rid + 1) ::
          if call.ret = 0 then [.returned true]
          else
            [.orderActionError call.source call.genTime
                { orderId := call.action.orderId
                  orderActionId := call.action.orderActionId
                  errorId := call.ret },
              .returned false] := by
  rcases cancelOrder_eq core s call with ⟨hnone, h⟩ | ⟨_, _, hsome, h⟩
  · rw [h, hnone]
  · rw [h, hsome]

/-- A cancel sends a request exactly for an order with an outbound record, and the
request is the one that record gives. -/
theorem cancelOrder_request (call : CancelCall) (req : InputOrderActionField) (rid : Int32) :
    .reqOrderAction req rid ∈ (cancelOrder core call s).2 ↔
      ∃ record, s.outboundOrders call.action.orderId = some record ∧
        req = cancelRequest record s.orderRef ∧ rid = s.rid + 1 := by
  rw [cancelOrder_outputs]
  cases s.outboundOrders call.action.orderId with
  | none => simp
  | some record =>
    dsimp only
    split <;> simp

end Changes

/-- The initial order carries its input's order id and the time of the call. -/
theorem initialOrder_orderId {core : Core} (hcore : core.KeepsOrderId) (call : InsertCall) :
    (initialOrder core call).orderId = call.input.orderId := by
  unfold initialOrder
  dsimp only
  split <;> exact hcore.fromInput call.input call.frame

theorem initialOrder_insertTime (core : Core) (call : InsertCall) :
    (initialOrder core call).insertTime = call.nano := by
  unfold initialOrder
  dsimp only
  split <;> rfl

theorem initialOrder_uid {core : Core} (hcore : core.KeepsOrderId) (call : InsertCall) :
    core.orderUid (initialOrder core call) = call.input.orderId := by
  rw [hcore.uid, initialOrder_orderId hcore]

end TraderTora

end KungfuTora
