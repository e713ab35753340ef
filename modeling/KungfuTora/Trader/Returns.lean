import KungfuTora.Trader.State

/-!
# Returns from the counter

The callbacks that answer an order, report its state, its trades and the refusal of
a cancel. A return finds its order through the reference key made of the adapter's
current session ids, a trade through the exchange's order number, which the first
two callbacks register.
-/

namespace KungfuTora

/-- `std::out_of_range`, thrown by `orders_.at`. -/
inductive OutOfRange where
  | outOfRange

namespace TraderTora

/-- The order that a reference leads to under the current session. -/
def findOrderRef (core : Core) (s : TraderTora) (orderRef : Int32) : Option UInt64 :=
  s.inboundOrderRefs (getOrderRefKey core s.frontId s.sessionId orderRef)

def onRspOrderInsert (core : Core) (pInputOrderField : InputOrderField)
    (pRspInfo : Option RspInfoField) (s : TraderTora) : Effect :=
  if isError pRspInfo then (s, [])
  else
    match s.findOrderRef core pInputOrderField.orderRef with
    | none => (s, [])
    | some orderId =>
      if (s.outboundOrders orderId).isSome then
        ({ s with
            outboundOrders :=
              s.outboundOrders.modify orderId fun record =>
                { record with orderSysId := pInputOrderField.orderSysId.text }
            inboundOrderSysids :=
              s.inboundOrderSysids.set
                (getOrderSysIdKey core pInputOrderField.exchangeId pInputOrderField.orderSysId)
                orderId },
          [])
      else (s, [])

/-- The filter of `OnRtnOrder`: a return is turned away when both ids differ. -/
def turnsAway (s : TraderTora) (frontId sessionId : Int32) : Bool :=
  s.sessionId ≠ sessionId && s.frontId ≠ frontId

/-- The order that `OnRtnOrder` publishes: the stored one under the vendor's fields,
with id and insert time put back. -/
def returnedOrder (core : Core) (pOrder : OrderField) (nowInNano : Int64) (data : Order) : Order :=
  { fromToraOrder core pOrder data with
    orderId := data.orderId
    insertTime := data.insertTime
    updateTime := nowInNano }

def onRtnOrder (core : Core) (pOrder : OrderField) (nowInNano : Int64) (s : TraderTora) : Effect :=
  if s.turnsAway pOrder.frontId pOrder.sessionId then (s, [])
  else
    match s.findOrderRef core pOrder.orderRef with
    | none => (s, [])
    | some orderId =>
      if pOrder.orderStatus = .unknown then (s, [])
      else
        match s.orders orderId with
        | none => (s, [])
        | some orderState =>
          ({ s with
              inboundOrderSysids :=
                if pOrder.orderSysId.strlen ≠ 0 then
                  s.inboundOrderSysids.set
                    (getOrderSysIdKey core pOrder.exchangeId pOrder.orderSysId) orderId
                else s.inboundOrderSysids },
            [.order orderState.dest 0 (returnedOrder core pOrder nowInNano orderState.data)])

/-- The order that `OnErrRtnOrderInsert` publishes. -/
def refusedOrder (core : Core) (pInputOrder : InputOrderField) (info : RspInfoField)
    (tradingDay : CStr) (nowInNano : Int64) (data : Order) : Order :=
  { fromToraInputOrder core pInputOrder data with
    tradingDay := tradingDay
    errorId := info.errorId
    errorMsg := core.gbk2utf8 info.errorMsg
    status := .error
    orderId := data.orderId
    insertTime := data.insertTime
    updateTime := nowInNano }

/-- `orders_.at(order_id)` is not guarded, so the callback may throw. -/
def onErrRtnOrderInsert (core : Core) (pInputOrder : InputOrderField)
    (pRspInfo : Option RspInfoField) (nowInNano : Int64) (s : TraderTora) :
    Except OutOfRange Effect :=
  match pRspInfo with
  | none => .ok (s, [])
  | some info =>
    if info.errorId = 0 then .ok (s, [])
    else
      match s.findOrderRef core pInputOrder.orderRef with
      | none => .ok (s, [])
      | some orderId =>
        match s.orders orderId with
        | none => .error .outOfRange
        | some orderState =>
          .ok (s,
            [.order orderState.dest 0
              (refusedOrder core pInputOrder info s.tradingDay nowInNano orderState.data)])

/-- Both branches only log. -/
def onRspOrderAction (_pInputOrderActionField : InputOrderActionField)
    (_pRspInfo : Option RspInfoField) (s : TraderTora) : Effect :=
  (s, [])

/-- Both branches only log. -/
def onErrRtnOrderAction (_pInputOrderActionField : InputOrderActionField)
    (_pRspInfo : Option RspInfoField) (s : TraderTora) : Effect :=
  (s, [])

/-- The trade that `OnRtnTrade` publishes. -/
def returnedTrade (core : Core) (pTrade : TradeField) (frameUid orderId : UInt64) : Trade :=
  { fromToraTrade core pTrade with tradeId := frameUid, orderId := orderId }

def onRtnTrade (core : Core) (pTrade : TradeField) (frameUid : UInt64) (nowInNano : Int64)
    (s : TraderTora) : Effect :=
  match s.inboundOrderSysids (getOrderSysIdKey core pTrade.exchangeId pTrade.orderSysId) with
  | none => (s, [])
  | some orderId =>
    match s.orders orderId with
    | none => (s, [])
    | some orderState =>
      let trade := returnedTrade core pTrade frameUid orderState.data.orderId
      ({ s with
          trades :=
            s.trades.emplace (core.tradeUid trade)
              ⟨orderState.source, orderState.dest, nowInNano, trade⟩ },
        [.trade orderState.dest 0 trade])

/-! ## What a return changes and publishes -/

section Changes

variable (core : Core) (s : TraderTora)

/-- The order that `OnRspOrderInsert` numbers, if it gets that far. -/
def numberedOrder (pInputOrderField : InputOrderField) (pRspInfo : Option RspInfoField) :
    Option UInt64 :=
  if isError pRspInfo then none
  else
    match s.findOrderRef core pInputOrderField.orderRef with
    | none => none
    | some orderId => if (s.outboundOrders orderId).isSome then some orderId else none

/-- The order that `OnRtnOrder` publishes for, if it gets that far. -/
def reportedOrder (pOrder : OrderField) : Option UInt64 :=
  if s.turnsAway pOrder.frontId pOrder.sessionId then none
  else
    match s.findOrderRef core pOrder.orderRef with
    | none => none
    | some orderId =>
      if pOrder.orderStatus = .unknown then none else (s.orders orderId).map fun _ => orderId

theorem onRspOrderInsert_eq (field : InputOrderField) (info : Option RspInfoField) :
    (numberedOrder core s field info = none ∧ onRspOrderInsert core field info s = (s, [])) ∨
      ∃ orderId, numberedOrder core s field info = some orderId ∧
        onRspOrderInsert core field info s =
          ({ s with
              outboundOrders :=
                s.outboundOrders.modify orderId fun record =>
                  { record with orderSysId := field.orderSysId.text }
              inboundOrderSysids :=
                s.inboundOrderSysids.set
                  (getOrderSysIdKey core field.exchangeId field.orderSysId) orderId },
            []) := by
  unfold numberedOrder onRspOrderInsert
  cases isError info with
  | true => exact Or.inl ⟨rfl, rfl⟩
  | false =>
    cases s.findOrderRef core field.orderRef with
    | none => exact Or.inl ⟨rfl, rfl⟩
    | some orderId =>
      cases hrecord : (s.outboundOrders orderId).isSome with
      | false => exact Or.inl (by simp [hrecord])
      | true => exact Or.inr ⟨orderId, by simp [hrecord]⟩

/-- What `OnRspOrderInsert` needs to number an order. -/
theorem numberedOrder_eq_some (field : InputOrderField) (info : Option RspInfoField)
    (orderId : UInt64) :
    numberedOrder core s field info = some orderId ↔
      isError info = false ∧ s.findOrderRef core field.orderRef = some orderId ∧
        (s.outboundOrders orderId).isSome := by
  unfold numberedOrder
  cases isError info with
  | true => simp
  | false =>
    cases s.findOrderRef core field.orderRef with
    | none => simp
    | some k =>
      simp only [Bool.false_eq_true, if_false, Option.ite_none_right_eq_some, Option.some.injEq,
        true_and]
      constructor
      · rintro ⟨hk, rfl⟩
        exact ⟨rfl, hk⟩
      · rintro ⟨rfl, hk⟩
        exact ⟨hk, rfl⟩

theorem onRtnOrder_eq (field : OrderField) (now : Int64) :
    (reportedOrder core s field = none ∧ onRtnOrder core field now s = (s, [])) ∨
      ∃ orderId orderState, reportedOrder core s field = some orderId ∧
        s.orders orderId = some orderState ∧
        onRtnOrder core field now s =
          ({ s with
              inboundOrderSysids :=
                if field.orderSysId.strlen ≠ 0 then
                  s.inboundOrderSysids.set
                    (getOrderSysIdKey core field.exchangeId field.orderSysId) orderId
                else s.inboundOrderSysids },
            [.order orderState.dest 0 (returnedOrder core field now orderState.data)]) := by
  unfold reportedOrder onRtnOrder
  cases s.turnsAway field.frontId field.sessionId with
  | true => exact Or.inl ⟨rfl, rfl⟩
  | false =>
    cases s.findOrderRef core field.orderRef with
    | none => exact Or.inl ⟨rfl, rfl⟩
    | some orderId =>
      by_cases hstatus : field.orderStatus = .unknown
      · exact Or.inl (by simp [hstatus])
      · cases hstate : s.orders orderId with
        | none => exact Or.inl (by simp [hstate])
        | some orderState => exact Or.inr ⟨orderId, orderState, by simp [hstatus, hstate]⟩

/-- The filter lets a return through that has one of the current ids. -/
theorem turnsAway_eq_false (frontId sessionId : Int32) :
    s.turnsAway frontId sessionId = false ↔ sessionId = s.sessionId ∨ frontId = s.frontId := by
  simp only [turnsAway, Bool.and_eq_false_iff, decide_eq_false_iff_not, ne_eq, not_not]
  exact or_congr eq_comm eq_comm

/-- What `OnRtnOrder` needs to publish for an order: the return gets through the
filter, its reference leads there, its status says something, the order is stored. -/
theorem reportedOrder_eq_some (field : OrderField) (orderId : UInt64) :
    reportedOrder core s field = some orderId ↔
      (field.sessionId = s.sessionId ∨ field.frontId = s.frontId) ∧
        s.findOrderRef core field.orderRef = some orderId ∧
        field.orderStatus ≠ .unknown ∧ (s.orders orderId).isSome := by
  unfold reportedOrder
  rw [← turnsAway_eq_false]
  cases s.turnsAway field.frontId field.sessionId with
  | true => simp
  | false =>
    cases s.findOrderRef core field.orderRef with
    | none => simp
    | some k =>
      by_cases hstatus : field.orderStatus = .unknown
      · simp [hstatus]
      · cases hk : s.orders k with
        | none =>
          simp only [hk, hstatus, Bool.false_eq_true, if_false, Option.map_none, reduceCtorEq,
            false_iff, not_and]
          rintro - heq -
          simp [← Option.some.inj heq, hk]
        | some orderState =>
          simp only [hk, hstatus, Bool.false_eq_true, if_false, Option.map_some, true_and,
            Option.some.injEq, ne_eq, not_false_eq_true]
          constructor
          · rintro rfl
            simp [hk]
          · exact fun h => h.1

theorem onErrRtnOrderInsert_eq (field : InputOrderField) (info : Option RspInfoField)
    (now : Int64) :
    onErrRtnOrderInsert core field info now s = .ok (s, []) ∨
      ∃ orderId, s.findOrderRef core field.orderRef = some orderId ∧
        ((s.orders orderId = none ∧
            onErrRtnOrderInsert core field info now s = .error .outOfRange) ∨
          ∃ orderState rspInfo, s.orders orderId = some orderState ∧
            onErrRtnOrderInsert core field info now s =
              .ok (s, [.order orderState.dest 0
                (refusedOrder core field rspInfo s.tradingDay now orderState.data)])) := by
  unfold onErrRtnOrderInsert
  cases info with
  | none => exact Or.inl rfl
  | some rspInfo =>
    by_cases herror : rspInfo.errorId = 0
    · exact Or.inl (by simp [herror])
    · cases hfind : s.findOrderRef core field.orderRef with
      | none => exact Or.inl (by simp [herror])
      | some orderId =>
        refine Or.inr ⟨orderId, rfl, ?_⟩
        cases hstate : s.orders orderId with
        | none => exact Or.inl ⟨rfl, by simp [herror, hstate]⟩
        | some orderState =>
          exact Or.inr ⟨orderState, rspInfo, rfl, by simp [herror, hstate]⟩

theorem onErrRtnOrderInsert_of_noError (field : InputOrderField) {info : Option RspInfoField}
    (now : Int64) (h : isError info = false) :
    onErrRtnOrderInsert core field info now s = .ok (s, []) := by
  unfold onErrRtnOrderInsert
  cases info with
  | none => rfl
  | some rspInfo =>
    have hzero : rspInfo.errorId = 0 := by simpa [isError] using h
    exact if_pos hzero

theorem onRtnTrade_eq (field : TradeField) (frameUid : UInt64) (now : Int64) :
    onRtnTrade core field frameUid now s = (s, []) ∨
      ∃ orderId orderState,
        s.inboundOrderSysids (getOrderSysIdKey core field.exchangeId field.orderSysId) =
          some orderId ∧
        s.orders orderId = some orderState ∧
        onRtnTrade core field frameUid now s =
          ({ s with
              trades :=
                s.trades.emplace
                  (core.tradeUid (returnedTrade core field frameUid orderState.data.orderId))
                  ⟨orderState.source, orderState.dest, now,
                    returnedTrade core field frameUid orderState.data.orderId⟩ },
            [.trade orderState.dest 0
              (returnedTrade core field frameUid orderState.data.orderId)]) := by
  unfold onRtnTrade
  cases hfind : s.inboundOrderSysids (getOrderSysIdKey core field.exchangeId field.orderSysId) with
  | none => exact Or.inl rfl
  | some orderId =>
    cases hstate : s.orders orderId with
    | none => exact Or.inl (by simp [hstate])
    | some orderState => exact Or.inr ⟨orderId, orderState, rfl, hstate, by simp [hstate]⟩

end Changes

end TraderTora

end KungfuTora
