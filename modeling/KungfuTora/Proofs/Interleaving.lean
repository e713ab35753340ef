import KungfuTora.Proofs.History
import KungfuTora.Trader.Sample

/-!
# Referential integrity between interrupted inserts

Whatever comes in between the effects of an `insert_order`, a value of either index is
the id of an order that `orders_` and `outbound_orders_` both hold. The invariant says in
addition which maps already know the order whose insert is under way. Nothing is
assumed of the hash: colliding keys redirect a message, but to an order that is there.
-/

namespace KungfuTora

open TraderTora

/-- Both tables hold the order. -/
def Known (s : TraderTora) (orderId : UInt64) : Prop :=
  (s.orders orderId).isSome ∧ (s.outboundOrders orderId).isSome

/-- What the completed effects of an insert have put into the tables. -/
def Inserting.Recorded (ins : Inserting) (s : TraderTora) : Prop :=
  match ins.stage with
  | .journal => True
  | .outbound => (s.orders ins.call.input.orderId).isSome
  | .inbound => Known s ins.call.input.orderId

structure Integrity (g : Gateway) : Prop where
  refs : g.trader.inboundOrderRefs.All fun _ => Known g.trader
  sysids : g.trader.inboundOrderSysids.All fun _ => Known g.trader
  orders : g.trader.orders.All fun orderId st => st.data.orderId = orderId
  inserting : ∀ ins ∈ g.inserting, ins.Recorded g.trader

section Step

variable {core : Core} {s s' : TraderTora}

/-- A call other than an insert keeps both tables' keys. -/
theorem step_tables (core : Core) (s : TraderTora) {e : Event} (he : insertedId e = none)
    (k : UInt64) :
    (step core s e).1.orders k = s.orders k ∧
      ((step core s e).1.outboundOrders k).isSome = (s.outboundOrders k).isSome := by
  have hnone : entries s e = [] := by
    cases e <;> first | rfl | simp [insertedId] at he
  have horders := congrArg Routing.orders (step_routing core s e)
  have houtbound := congrArg Routing.outboundOrders (step_routing core s e)
  dsimp only at horders houtbound
  rw [hnone] at horders houtbound
  refine ⟨congrFun horders k, ?_⟩
  rw [houtbound]
  dsimp only [applyNumbering, List.foldl_nil]
  cases numbering core s e with
  | none => rfl
  | some numbering => exact Store.modify_isSome _ _ _ _

theorem Known.step {e : Event} (he : insertedId e = none) {k : UInt64} (h : Known s k) :
    Known (step core s e).1 k := by
  obtain ⟨horders, houtbound⟩ := step_tables core s he k
  exact ⟨by rw [horders]; exact h.1, by rw [houtbound]; exact h.2⟩

/-- An order that has a record keeps one. -/
theorem outbound_isSome_step (core : Core) (s : TraderTora) (e : Event) {k : UInt64}
    (h : (s.outboundOrders k).isSome) : ((step core s e).1.outboundOrders k).isSome := by
  cases e with
  | insertOrder call => exact (Store.set_isSome _ _ _ _).mpr (Or.inr h)
  | _ =>
    rw [(step_tables core s rfl k).2]
    exact h

/-- A known order stays known, also when its id is inserted again. -/
theorem known_stays (core : Core) (s : TraderTora) (e : Event) {k : UInt64} (h : Known s k) :
    Known (step core s e).1 k := by
  refine ⟨?_, outbound_isSome_step core s e h.2⟩
  cases e with
  | insertOrder call => exact (Store.emplace_isSome _ _ _ _).mpr (Or.inr h.1)
  | _ =>
    rw [(step_tables core s rfl k).1]
    exact h.1

theorem Inserting.Recorded.mono {ins : Inserting} (h : ins.Recorded s)
    (horders : ∀ k, (s.orders k).isSome → (s'.orders k).isSome)
    (houtbound : ∀ k, (s.outboundOrders k).isSome → (s'.outboundOrders k).isSome) :
    ins.Recorded s' := by
  unfold Inserting.Recorded at h ⊢
  cases hstage : ins.stage with
  | journal => trivial
  | outbound =>
    rw [hstage] at h
    exact horders _ h
  | inbound =>
    rw [hstage] at h
    exact ⟨horders _ h.1, houtbound _ h.2⟩

/-- A binding carries what the message carries, and its order is the one that the
message's reference leads to. -/
theorem bindings_spec {e : Event} {b : Binding} (hb : b ∈ bindings core s e) :
    numberReport e = some (b.orderRef, b.number) ∧
      s.findOrderRef core b.orderRef = some b.orderId := by
  cases e with
  | onRspOrderInsert field info =>
    simp only [bindings, Option.mem_toList, Option.map_eq_some_iff] at hb
    obtain ⟨orderId, hnumbered, rfl⟩ := hb
    exact ⟨rfl, ((numberedOrder_eq_some core s field info orderId).mp hnumbered).2.1⟩
  | onRtnOrder field now =>
    simp only [bindings] at hb
    split at hb
    · simp at hb
    · simp only [Option.mem_toList, Option.map_eq_some_iff] at hb
      obtain ⟨orderId, hreported, rfl⟩ := hb
      exact ⟨rfl, ((reportedOrder_eq_some core s field orderId).mp hreported).2.1⟩
  | _ => simp [bindings] at hb

end Step

section Gateway

variable {core : Core} {g : Gateway}

/-- What a tick does. -/
inductive Ticks (core : Core) (g : Gateway) : Tick → Gateway × List Output → Prop where
  | event {e : Event} (he : insertedId e = none) :
    Ticks core g (.event e) (⟨(step core g.trader e).1, g.inserting⟩, (step core g.trader e).2)
  | begins (call : InsertCall) (hidle : g.inserting = none) :
    Ticks core g (.event (.insertOrder call))
      (⟨(sendInsert core call g.trader).1, some ⟨call, g.trader.orderRef, .journal⟩⟩,
        (sendInsert core call g.trader).2)
  | busy (call : InsertCall) (ins : Inserting) (hins : g.inserting = some ins) :
    Ticks core g (.event (.insertOrder call)) (g, [])
  | idle (hidle : g.inserting = none) : Ticks core g .resume (g, [])
  | journals (call : InsertCall) (orderRef : Int32)
      (hins : g.inserting = some ⟨call, orderRef, .journal⟩) :
    Ticks core g .resume
      (⟨(journalInsert core call g.trader).1, some ⟨call, orderRef, .outbound⟩⟩,
        (journalInsert core call g.trader).2)
  | recordsOutbound (call : InsertCall) (orderRef : Int32)
      (hins : g.inserting = some ⟨call, orderRef, .outbound⟩) :
    Ticks core g .resume
      (⟨(recordOutbound call orderRef g.trader).1, some ⟨call, orderRef, .inbound⟩⟩,
        (recordOutbound call orderRef g.trader).2)
  | recordsInbound (call : InsertCall) (orderRef : Int32)
      (hins : g.inserting = some ⟨call, orderRef, .inbound⟩) :
    Ticks core g .resume
      (⟨(recordInbound core call orderRef g.trader).1, none⟩,
        (recordInbound core call orderRef g.trader).2)

theorem gatewayStep_ticks (core : Core) (g : Gateway) (t : Tick) :
    Ticks core g t (gatewayStep core g t) := by
  cases t with
  | event e =>
    cases e with
    | insertOrder call =>
      cases hins : g.inserting with
      | none =>
        simp only [gatewayStep, hins]
        exact .begins call hins
      | some ins =>
        simp only [gatewayStep, hins]
        exact .busy call ins hins
    | _ => exact .event rfl
  | resume =>
    cases hins : g.inserting with
    | none =>
      simp only [gatewayStep, hins]
      exact .idle hins
    | some ins =>
      obtain ⟨call, orderRef, stage⟩ := ins
      cases stage with
      | journal =>
        simp only [gatewayStep, hins]
        exact .journals call orderRef hins
      | outbound =>
        simp only [gatewayStep, hins]
        exact .recordsOutbound call orderRef hins
      | inbound =>
        simp only [gatewayStep, hins]
        exact .recordsInbound call orderRef hins

/-- A call that comes in between two effects, or outside any insert. -/
theorem Integrity.event (h : Integrity g) {e : Event} (he : insertedId e = none) :
    Integrity ⟨(step core g.trader e).1, g.inserting⟩ := by
  have hnone : entries g.trader e = [] := by
    cases e <;> first | rfl | simp [insertedId] at he
  have hrefs := congrArg Routing.inboundOrderRefs (step_routing core g.trader e)
  have hsysids := congrArg Routing.inboundOrderSysids (step_routing core g.trader e)
  dsimp only at hrefs hsysids
  rw [hnone] at hrefs
  have hknown : ∀ k, Known g.trader k → Known (step core g.trader e).1 k :=
    fun k hk => hk.step he
  have horders : (step core g.trader e).1.orders = g.trader.orders :=
    funext fun k => (step_tables core g.trader he k).1
  refine ⟨?refs, ?sysids, ?orders, ?inserting⟩
  case refs =>
    dsimp only
    rw [hrefs]
    exact h.refs.mono fun _ => hknown
  case orders =>
    dsimp only
    rw [horders]
    exact h.orders
  case sysids =>
    dsimp only
    rw [hsysids]
    refine (h.sysids.mono fun _ => hknown).foldl_set ?_
    intro b hb
    exact hknown _ (h.refs _ _ (bindings_spec hb).2)
  case inserting =>
    intro ins hins
    refine (h.inserting ins hins).mono ?_ ?_
    · intro k hk
      rw [horders]
      exact hk
    · intro k hk
      rw [(step_tables core g.trader he k).2]
      exact hk

/-- The first effect of an insert writes no map. -/
theorem Integrity.send (h : Integrity g) (call : InsertCall) :
    Integrity ⟨(sendInsert core call g.trader).1, some ⟨call, g.trader.orderRef, .journal⟩⟩ where
  refs := h.refs
  sysids := h.sysids
  orders := h.orders
  inserting := by
    intro ins hins
    rw [← Option.some.inj hins]
    trivial

/-- The second effect makes the order a key of `orders_`. -/
theorem Integrity.journal (hcore : core.KeepsOrderId) (h : Integrity g) (call : InsertCall)
    (orderRef : Int32) :
    Integrity ⟨(journalInsert core call g.trader).1, some ⟨call, orderRef, .outbound⟩⟩ := by
  have hgrow : ∀ k, Known g.trader k → Known (journalInsert core call g.trader).1 k := by
    intro k hk
    exact ⟨(Store.emplace_isSome _ _ _ _).mpr (Or.inr hk.1), hk.2⟩
  have hid := initialOrder_orderId hcore call
  have horders : (journalInsert core call g.trader).1.orders.All
      fun orderId st => st.data.orderId = orderId :=
    h.orders.emplace (hid.trans (initialOrder_uid hcore call).symm)
  refine ⟨h.refs.mono fun _ => hgrow, h.sysids.mono fun _ => hgrow, horders, ?_⟩
  intro ins hins
  rw [← Option.some.inj hins]
  exact (Store.emplace_isSome _ _ _ _).mpr (Or.inl (initialOrder_uid hcore call).symm)

/-- The third effect makes it a key of `outbound_orders_`. -/
theorem Integrity.outbound (h : Integrity g) {call : InsertCall} {orderRef : Int32}
    (hins : g.inserting = some ⟨call, orderRef, .outbound⟩) :
    Integrity ⟨(recordOutbound call orderRef g.trader).1, some ⟨call, orderRef, .inbound⟩⟩ := by
  have hgrow : ∀ k, Known g.trader k → Known (recordOutbound call orderRef g.trader).1 k := by
    intro k hk
    exact ⟨hk.1, (Store.set_isSome _ _ _ _).mpr (Or.inr hk.2)⟩
  have hjournaled : (g.trader.orders call.input.orderId).isSome := h.inserting _ hins
  refine ⟨h.refs.mono fun _ => hgrow, h.sysids.mono fun _ => hgrow, h.orders, ?_⟩
  intro ins' hins'
  rw [← Option.some.inj hins']
  exact ⟨hjournaled, (Store.set_isSome _ _ _ _).mpr (Or.inl rfl)⟩

/-- The fourth effect points the reference at an order that both tables hold. -/
theorem Integrity.inbound (h : Integrity g) {call : InsertCall} {orderRef : Int32}
    (hins : g.inserting = some ⟨call, orderRef, .inbound⟩) :
    Integrity ⟨(recordInbound core call orderRef g.trader).1, none⟩ := by
  have hrecorded : Known g.trader call.input.orderId := h.inserting _ hins
  exact ⟨h.refs.set hrecorded, h.sysids, h.orders, by simp⟩

theorem Integrity.tick (hcore : core.KeepsOrderId) (h : Integrity g) (t : Tick) :
    Integrity (gatewayStep core g t).1 := by
  have hstep := gatewayStep_ticks core g t
  generalize gatewayStep core g t = r at hstep ⊢
  cases hstep with
  | event he => exact h.event he
  | begins call hidle => exact h.send call
  | busy call ins hins => exact h
  | idle hidle => exact h
  | journals call orderRef hins => exact h.journal hcore call orderRef
  | recordsOutbound call orderRef hins => exact h.outbound hins
  | recordsInbound call orderRef hins => exact h.inbound hins

/-- Under the invariant `orders_.at` finds every order it is asked for. -/
theorem gatewayStep_no_uncaught (h : Integrity g) (t : Tick) :
    .uncaught ∉ (gatewayStep core g t).2 := by
  have hstep := gatewayStep_ticks core g t
  generalize gatewayStep core g t = r at hstep ⊢
  intro ht
  cases hstep with
  | event he =>
    cases step_emits core g.trader ht with
    | session hsession => simp [Output.isSession] at hsession
    | thrown field info now orderId hfind hstate =>
      have hknown : Known g.trader orderId := h.refs _ _ hfind
      have hsome := hknown.1
      simp [hstate] at hsome
  | begins call hidle => simp [sendInsert] at ht
  | journals call orderRef hins => simp [journalInsert] at ht
  | recordsInbound call orderRef hins => simp [recordInbound] at ht
  | _ => simp [recordOutbound] at ht

end Gateway

theorem gateway_integrity {core : Core} (hcore : core.KeepsOrderId) (ts : List Tick) :
    Integrity ((gateway core).exec ts) := by
  have hinit : Integrity (gateway core).init :=
    ⟨Store.All.empty, Store.All.empty, Store.All.empty, by simp [gateway]⟩
  apply (gateway core).always (I := fun _ g => Integrity g) hinit
  intro ts t h
  exact h.tick hcore t

/-- Between two atomic calls. -/
theorem adapter_integrity {core : Core} (hcore : core.KeepsOrderId) (es : List Event) :
    Integrity ⟨(adapter core).exec es, none⟩ := by
  rw [← gateway_exec_uninterrupted]
  exact gateway_integrity hcore _

/-! ## What is published in a state that meets the invariant -/

/-- `OnRtnOrder` publishes exactly one record, under the order id. -/
def PublishesUnder (core : Core) (s : TraderTora) (field : OrderField) (now : Int64)
    (orderId : UInt64) : Prop :=
  ∃ dest order, (step core s (.onRtnOrder field now)).2 = [.order dest 0 order] ∧
    order.orderId = orderId

/-- `OnRtnTrade` publishes exactly one record, under the order id. -/
def TradesUnder (core : Core) (s : TraderTora) (field : TradeField) (frameUid : UInt64)
    (now : Int64) (orderId : UInt64) : Prop :=
  ∃ dest trade, (step core s (.onRtnTrade field frameUid now)).2 = [.trade dest 0 trade] ∧
    trade.orderId = orderId

section Published

variable {core : Core} {g : Gateway}

theorem publishesUnder_of_record {s : TraderTora} {field : OrderField} {now trigger : Int64}
    {dest : UInt32} {order : Order}
    (ho : .order dest trigger order ∈ (step core s (.onRtnOrder field now)).2) :
    PublishesUnder core s field now order.orderId := by
  unfold PublishesUnder
  dsimp only [step] at ho ⊢
  rcases onRtnOrder_eq core s field now with ⟨-, heq⟩ | ⟨k, orderState, -, -, heq⟩
  · simp [heq] at ho
  · rw [heq] at ho ⊢
    simp only [List.mem_singleton, Output.order.injEq] at ho
    exact ⟨_, _, rfl, by rw [ho.2.2]⟩

theorem tradesUnder_of_record {s : TraderTora} {field : TradeField} {frameUid : UInt64}
    {now trigger : Int64} {dest : UInt32} {trade : Trade}
    (ho : .trade dest trigger trade ∈ (step core s (.onRtnTrade field frameUid now)).2) :
    TradesUnder core s field frameUid now trade.orderId := by
  unfold TradesUnder
  dsimp only [step] at ho ⊢
  rcases onRtnTrade_eq core s field frameUid now with heq | ⟨k, orderState, -, -, heq⟩
  · simp [heq] at ho
  · rw [heq] at ho ⊢
    simp only [List.mem_singleton, Output.trade.injEq] at ho
    exact ⟨_, _, rfl, by rw [ho.2.2]⟩

/-- A return is published under the order its reference leads to, if it gets through the
filter and says something. -/
theorem Integrity.publishesUnder_iff (h : Integrity g) (field : OrderField) (now : Int64)
    (orderId : UInt64) :
    PublishesUnder core g.trader field now orderId ↔
      (field.sessionId = g.trader.sessionId ∨ field.frontId = g.trader.frontId) ∧
        g.trader.findOrderRef core field.orderRef = some orderId ∧
        field.orderStatus ≠ .unknown := by
  have hreported : reportedOrder core g.trader field = some orderId ↔
      (field.sessionId = g.trader.sessionId ∨ field.frontId = g.trader.frontId) ∧
        g.trader.findOrderRef core field.orderRef = some orderId ∧
        field.orderStatus ≠ .unknown := by
    rw [reportedOrder_eq_some]
    constructor
    · rintro ⟨hpass, hfind, hstatus, -⟩
      exact ⟨hpass, hfind, hstatus⟩
    · rintro ⟨hpass, hfind, hstatus⟩
      exact ⟨hpass, hfind, hstatus, (h.refs _ _ hfind).1⟩
  rw [← hreported]
  unfold PublishesUnder
  dsimp only [step]
  rcases onRtnOrder_eq core g.trader field now with
    ⟨hnone, heq⟩ | ⟨k, orderState, hsome, hstate, heq⟩
  · simp [hnone, heq]
  · have hid : orderState.data.orderId = k := h.orders k orderState hstate
    simp [hsome, heq, returnedOrder, hid]

/-- A trade is published exactly when its number is bound, for the order it is bound to. -/
theorem Integrity.tradesUnder_iff (h : Integrity g) (field : TradeField) (frameUid : UInt64)
    (now : Int64) (orderId : UInt64) :
    TradesUnder core g.trader field frameUid now orderId ↔
      g.trader.inboundOrderSysids (getOrderSysIdKey core field.exchangeId field.orderSysId) =
        some orderId := by
  unfold TradesUnder
  dsimp only [step, onRtnTrade]
  cases hfind : g.trader.inboundOrderSysids
      (getOrderSysIdKey core field.exchangeId field.orderSysId) with
  | none => simp
  | some k =>
    have hknown : Known g.trader k := h.sysids _ _ hfind
    obtain ⟨orderState, hstate⟩ := Option.isSome_iff_exists.mp hknown.1
    have hid : orderState.data.orderId = k := h.orders k orderState hstate
    simp [hstate, returnedTrade, hid]

end Published

/-- At every instant of every interleaving the values of both indexes are keys of both
tables. So no callback throws, and a return or a trade whose key is found is published. -/
theorem referential_integrity (core : Core) (hcore : core.KeepsOrderId) (ts : List Tick) :
    let s := ((gateway core).exec ts).trader
    (∀ key k, s.inboundOrderRefs key = some k ∨ s.inboundOrderSysids key = some k →
      (s.orders k).isSome ∧ (s.outboundOrders k).isSome) ∧
    (∀ t, .uncaught ∉ (gateway core).outputs ts t) ∧
    (∀ field now k, s.turnsAway field.frontId field.sessionId = false →
      s.findOrderRef core field.orderRef = some k → field.orderStatus ≠ .unknown →
      ∃ dest order, (gateway core).outputs ts (.event (.onRtnOrder field now)) =
        [.order dest 0 order]) ∧
    (∀ field frameUid now k,
      s.inboundOrderSysids (getOrderSysIdKey core field.exchangeId field.orderSysId) = some k →
      ∃ dest trade, (gateway core).outputs ts (.event (.onRtnTrade field frameUid now)) =
        [.trade dest 0 trade]) := by
  intro s
  have h := gateway_integrity hcore ts
  have hknown : ∀ key k, s.inboundOrderRefs key = some k ∨ s.inboundOrderSysids key = some k →
      Known s k := by
    rintro key k (hk | hk)
    · exact h.refs key k hk
    · exact h.sysids key k hk
  refine ⟨hknown, fun t ht => gatewayStep_no_uncaught h t ht, ?order, ?trade⟩
  case order =>
    intro field now k hfilter href hstatus
    have hpass := (turnsAway_eq_false s field.frontId field.sessionId).mp hfilter
    obtain ⟨dest, order, houtputs, -⟩ :=
      (h.publishesUnder_iff field now k).mpr ⟨hpass, href, hstatus⟩
    exact ⟨dest, order, houtputs⟩
  case trade =>
    intro field frameUid now k hfind
    obtain ⟨dest, trade, houtputs, -⟩ := (h.tradesUnder_iff field frameUid now k).mpr hfind
    exact ⟨dest, trade, houtputs⟩

/-- A return that comes in before its order is stored, and a trade after it is. -/
theorem referential_integrity_interrupted :
    let ts := [.event (sampleLogin 3 7 10), .event (.insertOrder (.sample 1 100)),
      .event (.onRtnOrder (.sample 3 7 11 65) 5), .resume, .resume, .resume,
      .event (.onRtnOrder (.sample 3 7 11 65) 6)]
    let s := ((gateway .sample).exec ts).trader
    (∀ key k, s.inboundOrderRefs key = some k ∨ s.inboundOrderSysids key = some k →
      (s.orders k).isSome ∧ (s.outboundOrders k).isSome) ∧
    ∃ dest trade, (gateway .sample).outputs ts (.event (.onRtnTrade (.sample 11 65) 1 7)) =
      [.trade dest 0 trade] := by
  intro ts s
  have h := referential_integrity .sample Core.sample_keepsOrderId ts
  exact ⟨h.1, h.2.2.2 _ _ _ 100 (by decide)⟩

end KungfuTora
