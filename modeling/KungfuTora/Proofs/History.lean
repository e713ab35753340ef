import KungfuTora.Trader.Run

/-!
# The order maps are indexes of the history

What each step does to the routing members, and from it, by induction over the run,
what the maps hold: `inbound_order_refs_` is the store that the run's inserts write,
`outbound_orders_` is one up to the exchange numbers, `inbound_order_sysids_` is the
store that the run's bindings write.
-/

namespace KungfuTora

open TraderTora

/-- The calls that have nothing to do with orders, returns and shareholders. -/
def Event.sessionOnly : Event → Bool
  | .onFrontConnected _ | .onFrontDisconnected _ | .onRspError _ | .onRspQrySecurity ..
  | .onRspQryTradingAccount .. | .onRspQryPosition .. | .onRspOrderAction ..
  | .onErrRtnOrderAction .. | .reqPosition _ | .reqAccount _ => true
  | _ => false

section Step

variable (core : Core) (s : TraderTora)

theorem step_sessionOnly {e : Event} (h : e.sessionOnly = true) :
    SessionOnly s (step core s e) := by
  cases e with
  | onFrontConnected ret => exact onFrontConnected_sessionOnly core s ret
  | onFrontDisconnected => exact onFrontDisconnected_sessionOnly s
  | onRspError => exact .nothing s
  | onRspQrySecurity security info bIsLast frame =>
    exact onRspQrySecurity_sessionOnly core s security info bIsLast frame
  | onRspQryTradingAccount account info now =>
    exact onRspQryTradingAccount_sessionOnly core s account info now
  | onRspQryPosition position info bIsLast now =>
    exact onRspQryPosition_sessionOnly core s position info bIsLast now
  | onRspOrderAction => exact .nothing s
  | onErrRtnOrderAction => exact .nothing s
  | reqPosition ret => exact reqPosition_sessionOnly core s ret
  | reqAccount ret => exact reqAccount_sessionOnly core s ret
  | _ => simp [Event.sessionOnly] at h

/-- The events that change no routing member. -/
def Event.quiet : Event → Bool
  | .onRspUserLogin .. | .onRspOrderInsert .. | .onRtnOrder .. | .insertOrder _
  | .cancelOrder _ => false
  | _ => true

theorem step_quiet {e : Event} (h : e.quiet = true) :
    (step core s e).1.toRouting = s.toRouting := by
  cases e with
  | onRspUserLogin | onRspOrderInsert | onRtnOrder | insertOrder | cancelOrder =>
    simp [Event.quiet] at h
  | onStart config => rfl
  | onRspQryShareholderAccount account info bIsLast stored _ =>
    exact (onRspQryShareholderAccount_spec s account info bIsLast stored).1
  | onErrRtnOrderInsert field info now =>
    dsimp only [step]
    rcases onErrRtnOrderInsert_eq core s field info now with h | ⟨_, _, ⟨_, h⟩ | ⟨_, _, _, h⟩⟩ <;>
      rw [h]
  | onRtnTrade field frameUid now =>
    dsimp only [step]
    rcases onRtnTrade_eq core s field frameUid now with h | ⟨_, _, -, -, h⟩ <;> rw [h]
  | _ => exact (step_sessionOnly core s rfl).routing

/-- The record that a step numbers, and the number it writes into it. -/
def numbering (e : Event) : Option (UInt64 × CStr) :=
  match e with
  | .onRspOrderInsert field info =>
    (numberedOrder core s field info).map fun orderId => (orderId, field.orderSysId.text)
  | _ => none

/-- `outbound_orders_` with a record numbered. -/
def applyNumbering (m : Store UInt64 ToraOrder) (numbering : Option (UInt64 × CStr)) :
    Store UInt64 ToraOrder :=
  match numbering with
  | none => m
  | some (orderId, orderSysId) => m.modify orderId fun record => { record with orderSysId }

/-- Whether a step sends a request that takes a reference. -/
def takesRef (e : Event) : Bool :=
  match e with
  | .insertOrder _ => true
  | .cancelOrder call => (s.outboundOrders call.action.orderId).isSome
  | _ => false

/-- Everything that a step does to the routing members. -/
theorem step_routing (e : Event) :
    (step core s e).1.toRouting =
      { frontId := (loginOf e).elim s.frontId RspUserLoginField.frontId
        sessionId := (loginOf e).elim s.sessionId RspUserLoginField.sessionId
        orderRef := (loginOf e).elim (if takesRef s e then s.orderRef + 1 else s.orderRef)
          fun login => login.maxOrderRef + 1
        outboundOrders :=
          applyNumbering
            ((entries s e).foldl (fun m w => m.set w.orderId w.record) s.outboundOrders)
            (numbering core s e)
        inboundOrderRefs :=
          (entries s e).foldl (fun m w => m.set (w.key core) w.orderId) s.inboundOrderRefs
        inboundOrderSysids :=
          (bindings core s e).foldl (fun m b => m.set (b.key core) b.orderId) s.inboundOrderSysids
        orders :=
          (entries s e).foldl (fun m w => m.emplace (w.uid core) (w.state core)) s.orders } := by
  cases e with
  | onRspUserLogin field info ret =>
    refine Eq.trans (onRspUserLogin_spec core s field info).1 ?_
    dsimp only [loginOf]
    cases isError info <;> cases field <;> rfl
  | insertOrder call => exact insertOrder_routing core s call
  | cancelOrder call => exact cancelOrder_routing core s call
  | onRspOrderInsert field info =>
    dsimp only [step, numbering, bindings]
    rcases onRspOrderInsert_eq core s field info with ⟨hnone, h⟩ | ⟨_, hsome, h⟩
    · rw [h, hnone]
      rfl
    · rw [h, hsome]
      rfl
  | onRtnOrder field now =>
    dsimp only [step, bindings]
    rcases onRtnOrder_eq core s field now with ⟨hnone, h⟩ | ⟨_, _, hsome, _, h⟩
    · rw [h, hnone]
      simp [loginOf, takesRef, entries, numbering, applyNumbering]
    · rw [h, hsome]
      by_cases hlen : field.orderSysId.strlen = 0
      · simp [hlen, loginOf, takesRef, entries, numbering, applyNumbering]
      · simp [hlen, loginOf, takesRef, entries, numbering, applyNumbering, Binding.key]
  | _ => exact step_quiet core s rfl

/-- A step that is no login keeps the session; it moves the counter if it takes a
reference. -/
theorem step_noLogin {e : Event} (h : loginOf e = none) :
    (step core s e).1.frontId = s.frontId ∧ (step core s e).1.sessionId = s.sessionId ∧
      (step core s e).1.orderRef = if takesRef s e then s.orderRef + 1 else s.orderRef := by
  have hstep := step_routing core s e
  simp only [h, Option.elim_none] at hstep
  have hfront := congrArg Routing.frontId hstep
  have hsession := congrArg Routing.sessionId hstep
  have href := congrArg Routing.orderRef hstep
  exact ⟨hfront, hsession, href⟩

/-- What a step puts out, apart from the outputs that concern the session. -/
inductive Emits : Event → Output → Prop where
  | session {e : Event} {o : Output} (h : o.isSession = true) : Emits e o
  | sent (call : InsertCall) :
    Emits (.insertOrder call) (.reqOrderInsert (insertRequest core call.input s) (s.rid + 1))
  | inserted (call : InsertCall) :
    Emits (.insertOrder call) (.order call.source call.genTime (initialOrder core call))
  | cancelled (call : CancelCall) (record : ToraOrder)
      (hrecord : s.outboundOrders call.action.orderId = some record) :
    Emits (.cancelOrder call) (.reqOrderAction (cancelRequest record s.orderRef) (s.rid + 1))
  | notCancelled (call : CancelCall) (error : OrderActionError) :
    Emits (.cancelOrder call) (.orderActionError call.source call.genTime error)
  | reported (field : OrderField) (now : Int64) (orderId : UInt64) (orderState : StateOf Order)
      (hreported : reportedOrder core s field = some orderId)
      (hstate : s.orders orderId = some orderState) :
    Emits (.onRtnOrder field now)
      (.order orderState.dest 0 (returnedOrder core field now orderState.data))
  | refused (field : InputOrderField) (info : Option RspInfoField) (now : Int64)
      (orderId : UInt64) (orderState : StateOf Order) (rspInfo : RspInfoField)
      (hfind : s.findOrderRef core field.orderRef = some orderId)
      (hstate : s.orders orderId = some orderState) :
    Emits (.onErrRtnOrderInsert field info now)
      (.order orderState.dest 0
        (refusedOrder core field rspInfo s.tradingDay now orderState.data))
  | thrown (field : InputOrderField) (info : Option RspInfoField) (now : Int64)
      (orderId : UInt64) (hfind : s.findOrderRef core field.orderRef = some orderId)
      (hstate : s.orders orderId = none) :
    Emits (.onErrRtnOrderInsert field info now) .uncaught
  | traded (field : TradeField) (frameUid : UInt64) (now : Int64) (orderId : UInt64)
      (orderState : StateOf Order)
      (hfind : s.inboundOrderSysids (getOrderSysIdKey core field.exchangeId field.orderSysId) =
        some orderId)
      (hstate : s.orders orderId = some orderState) :
    Emits (.onRtnTrade field frameUid now)
      (.trade orderState.dest 0 (returnedTrade core field frameUid orderState.data.orderId))

theorem step_emits {e : Event} {o : Output} (ho : o ∈ (step core s e).2) : Emits core s e o := by
  cases e with
  | insertOrder call =>
    dsimp only [step] at ho
    rw [insertOrder_outputs] at ho
    simp only [List.mem_cons, List.not_mem_nil, or_false] at ho
    rcases ho with rfl | rfl | rfl
    · exact .sent call
    · exact .inserted call
    · exact .session rfl
  | cancelOrder call =>
    dsimp only [step] at ho
    rw [cancelOrder_outputs] at ho
    cases hrecord : s.outboundOrders call.action.orderId with
    | none =>
      simp only [hrecord, List.mem_singleton] at ho
      rw [ho]
      exact .session rfl
    | some record =>
      simp only [hrecord, List.mem_cons] at ho
      rcases ho with rfl | ho
      · exact .cancelled call record hrecord
      · split at ho
        · rw [List.mem_singleton.mp ho]
          exact .session rfl
        · simp only [List.mem_cons, List.not_mem_nil, or_false] at ho
          rcases ho with rfl | rfl
          · exact .notCancelled call _
          · exact .session rfl
  | onRspOrderInsert field info =>
    dsimp only [step] at ho
    rcases onRspOrderInsert_eq core s field info with ⟨_, h⟩ | ⟨_, _, h⟩ <;> simp [h] at ho
  | onRtnOrder field now =>
    dsimp only [step] at ho
    rcases onRtnOrder_eq core s field now with ⟨_, h⟩ | ⟨orderId, orderState, hreported, hstate, h⟩
    · simp [h] at ho
    · rw [h] at ho
      rw [List.mem_singleton.mp ho]
      exact .reported field now orderId orderState hreported hstate
  | onErrRtnOrderInsert field info now =>
    dsimp only [step] at ho
    rcases onErrRtnOrderInsert_eq core s field info now with
      h | ⟨orderId, hfind, ⟨hstate, h⟩ | ⟨orderState, rspInfo, hstate, h⟩⟩
    · simp [h] at ho
    · rw [h] at ho
      rw [List.mem_singleton.mp ho]
      exact .thrown field info now orderId hfind hstate
    · rw [h] at ho
      rw [List.mem_singleton.mp ho]
      exact .refused field info now orderId orderState rspInfo hfind hstate
  | onRtnTrade field frameUid now =>
    dsimp only [step] at ho
    rcases onRtnTrade_eq core s field frameUid now with
      h | ⟨orderId, orderState, hfind, hstate, h⟩
    · simp [h] at ho
    · rw [h] at ho
      rw [List.mem_singleton.mp ho]
      exact .traded field frameUid now orderId orderState hfind hstate
  | onStart config => exact .session ((onStart_spec s config).2.2 o ho)
  | onRspUserLogin field info _ => exact .session ((onRspUserLogin_spec core s field info).2.2 o ho)
  | onRspQryShareholderAccount account info bIsLast stored _ =>
    exact .session ((onRspQryShareholderAccount_spec s account info bIsLast stored).2.2 o ho)
  | _ => exact .session ((step_sessionOnly core s rfl).outputs o ho)

end Step

/-! ## The run lemmas -/

/-- An outbound record without its exchange number. -/
def ToraOrder.unnumbered (record : ToraOrder) : ToraOrder := { record with orderSysId := [] }

theorem applyNumbering_unnumbered (m : Store UInt64 ToraOrder)
    (numbering : Option (UInt64 × CStr)) (k : UInt64) :
    (applyNumbering m numbering k).map ToraOrder.unnumbered =
      (m k).map ToraOrder.unnumbered := by
  cases numbering with
  | none => rfl
  | some numbering => exact Store.modify_map m _ k _ _ (fun _ => rfl)

section Run

variable (core : Core) (es : List Event)

theorem inboundOrderRefs_eq :
    ((adapter core).exec es).inboundOrderRefs =
      Store.ofWrites (((adapter core).log entries es).map fun w => (w.key core, w.orderId)) := by
  apply (adapter core).table_eq_ofWrites (fun s => s.inboundOrderRefs)
  · rfl
  · intro s e
    exact congrArg Routing.inboundOrderRefs (step_routing core s e)

theorem outboundOrders_eq (k : UInt64) :
    (((adapter core).exec es).outboundOrders k).map ToraOrder.unnumbered =
      Store.ofWrites (((adapter core).log entries es).map fun w => (w.orderId, w.record)) k := by
  induction es using List.reverseRecOn with
  | nil => rfl
  | append_singleton es e ih =>
    have h := congrArg Routing.outboundOrders (step_routing core ((adapter core).exec es) e)
    rw [Machine.exec_concat, Machine.log_concat]
    refine Eq.trans (congrArg (fun m : Store UInt64 ToraOrder =>
      (m k).map ToraOrder.unnumbered) h) ?_
    dsimp only
    rw [applyNumbering_unnumbered]
    cases e with
    | insertOrder call =>
      simp only [entries, List.foldl_cons, List.foldl_nil, List.map_append, List.map_cons,
        List.map_nil, Store.ofWrites_concat, Store.set_apply, ← ih]
      split <;> rfl
    | _ => simpa [entries] using ih

theorem inboundOrderSysids_eq :
    ((adapter core).exec es).inboundOrderSysids =
      Store.ofWrites (((adapter core).log (bindings core) es).map fun b =>
        (b.key core, b.orderId)) := by
  apply (adapter core).table_eq_ofWrites (fun s => s.inboundOrderSysids)
  · rfl
  · intro s e
    exact congrArg Routing.inboundOrderSysids (step_routing core s e)

end Run

/-- An entry of the number index was made by a binding. -/
theorem binding_of_sysid {core : Core} {es : List Event} {key orderId : UInt64}
    (h : ((adapter core).exec es).inboundOrderSysids key = some orderId) :
    ∃ b ∈ (adapter core).log (bindings core) es, b.key core = key ∧ b.orderId = orderId := by
  rw [inboundOrderSysids_eq] at h
  obtain ⟨b, hb, heq⟩ := List.mem_map.mp (Store.mem_of_ofWrites h)
  simp only [Prod.mk.injEq] at heq
  exact ⟨b, hb, heq⟩

end KungfuTora
