import KungfuTora.Proofs.Atomicity

/-!
# What does not interfere with what

The queries, the connection and the answers that only log have no influence on orders: a run
without them has the same orders, shareholders and books, and every other call puts out the
same. The counter's returns have no influence on what is sent: a run without them sends the
same requests and answers Kungfu the same, up to the exchange numbers in cancels.
-/

namespace KungfuTora

open TraderTora

/-! ## Queries and the connection -/

/-- The members that orders, returns and shareholder accounts go through are the same. -/
structure SameBooks (s s' : TraderTora) : Prop where
  routing : s'.toRouting = s.toRouting
  shareholder : s'.exchange2Shareholder = s.exchange2Shareholder
  tradingDay : s'.tradingDay = s.tradingDay
  trades : s'.trades = s.trades
  actions : s'.actions = s.actions

/-- `s` with the other members as they are in `p`. -/
def TraderTora.withSession (s p : TraderTora) : TraderTora :=
  { p with
    toRouting := s.toRouting
    exchange2Shareholder := s.exchange2Shareholder
    tradingDay := s.tradingDay
    trades := s.trades
    actions := s.actions }

theorem SameBooks.eq {s s' : TraderTora} (h : SameBooks s s') : s' = s.withSession s' := by
  unfold TraderTora.withSession
  rw [← h.routing, ← h.shareholder, ← h.tradingDay, ← h.trades, ← h.actions]

theorem SameBooks.refl (s : TraderTora) : SameBooks s s := ⟨rfl, rfl, rfl, rfl, rfl⟩

theorem SameBooks.trans {s s' s'' : TraderTora} (h : SameBooks s s') (h' : SameBooks s' s'') :
    SameBooks s s'' where
  routing := h'.routing.trans h.routing
  shareholder := h'.shareholder.trans h.shareholder
  tradingDay := h'.tradingDay.trans h.tradingDay
  trades := h'.trades.trans h.trades
  actions := h'.actions.trans h.actions

theorem SameBooks.symm {s s' : TraderTora} (h : SameBooks s s') : SameBooks s' s where
  routing := h.routing.symm
  shareholder := h.shareholder.symm
  tradingDay := h.tradingDay.symm
  trades := h.trades.symm
  actions := h.actions.symm

section Step

variable (core : Core) (s p : TraderTora)

theorem sameBooks_sessionOnly {e : Event} (he : e.sessionOnly = true) :
    SameBooks s (step core s e).1 := by
  have heq := sessionOnly_eq_withBooks core s he
  refine ⟨?_, ?_, (step_oblivious core he).tradingDay s, ?_, ?_⟩ <;> rw [heq] <;> rfl

/-- `p` with the members of `s` that the callbacks about orders use. -/
def TraderTora.withReturned (s p : TraderTora) : TraderTora :=
  { p with toRouting := s.toRouting, tradingDay := s.tradingDay, trades := s.trades }

/-- A callback about an order reads and writes these members only. -/
theorem return_withReturned (a : Return) (r : Readings) :
    step core (s.withReturned p) (a.event r) =
      ((step core s (a.event r)).1.withReturned p, (step core s (a.event r)).2) := by
  have hfind : ∀ orderRef, (s.withReturned p).findOrderRef core orderRef =
      s.findOrderRef core orderRef := fun _ => rfl
  cases a with
  | rspOrderInsert field info =>
    dsimp only [Return.event, step]
    unfold onRspOrderInsert
    rw [hfind]
    cases isError info with
    | true => rfl
    | false =>
      cases s.findOrderRef core field.orderRef with
      | none => rfl
      | some orderId =>
        dsimp only [Bool.false_eq_true, if_false]
        have houtbound : (s.withReturned p).outboundOrders orderId = s.outboundOrders orderId := rfl
        rw [houtbound]
        cases s.outboundOrders orderId <;> rfl
  | rtnOrder field =>
    dsimp only [Return.event, step]
    unfold onRtnOrder
    have haway : (s.withReturned p).turnsAway field.frontId field.sessionId =
        s.turnsAway field.frontId field.sessionId := rfl
    rw [hfind, haway]
    cases s.turnsAway field.frontId field.sessionId with
    | true => rfl
    | false =>
      cases s.findOrderRef core field.orderRef with
      | none => rfl
      | some orderId =>
        dsimp only [Bool.false_eq_true, if_false]
        by_cases hstatus : field.orderStatus = .unknown
        · rw [if_pos hstatus, if_pos hstatus]
          rfl
        · have horders : (s.withReturned p).orders orderId = s.orders orderId := rfl
          rw [if_neg hstatus, if_neg hstatus, horders]
          cases s.orders orderId <;> rfl
  | errRtnOrderInsert field info =>
    dsimp only [Return.event, step]
    unfold onErrRtnOrderInsert
    cases info with
    | none => rfl
    | some rspInfo =>
      dsimp only
      rw [hfind]
      by_cases herror : rspInfo.errorId = 0
      · rw [if_pos herror, if_pos herror]
      · rw [if_neg herror, if_neg herror]
        cases s.findOrderRef core field.orderRef with
        | none => rfl
        | some orderId =>
          dsimp only
          have horders : (s.withReturned p).orders orderId = s.orders orderId := rfl
          rw [horders]
          cases s.orders orderId <;> rfl
  | rtnTrade field =>
    dsimp only [Return.event, step]
    unfold onRtnTrade
    have hsysids : (s.withReturned p).inboundOrderSysids = s.inboundOrderSysids := rfl
    rw [hsysids]
    cases s.inboundOrderSysids (getOrderSysIdKey core field.exchangeId field.orderSysId) with
    | none => rfl
    | some orderId =>
      dsimp only
      have horders : (s.withReturned p).orders orderId = s.orders orderId := rfl
      rw [horders]
      cases s.orders orderId <;> rfl

/-- A callback about an order leaves the other members as they are. -/
theorem return_eq_withReturned (a : Return) (r : Readings) :
    (step core s (a.event r)).1 = (step core s (a.event r)).1.withReturned s :=
  congrArg Prod.fst (return_withReturned core s s a r)

theorem return_withSession (a : Return) (r : Readings) :
    step core (s.withSession p) (a.event r) =
      ((step core s (a.event r)).1.withSession p, (step core s (a.event r)).2) := by
  have hsame : s.withSession p = s.withReturned (s.withSession p) := rfl
  rw [hsame, return_withReturned]
  refine Prod.ext ?_ rfl
  rw [return_eq_withReturned core s a r]
  rfl

/-- What the other members are makes no difference to any call but those about the session. -/
theorem step_withSession {e : Event} (he : e.sessionOnly = false) :
    SameBooks (step core s e).1 (step core (s.withSession p) e).1 ∧
      (step core (s.withSession p) e).2.map Output.withoutId =
        (step core s e).2.map Output.withoutId := by
  by_cases hreturn : e.isReturn = true
  · obtain ⟨a, r, rfl⟩ := Event.exists_return hreturn
    rw [return_withSession]
    exact ⟨⟨rfl, rfl, rfl, rfl, rfl⟩, rfl⟩
  · cases e with
    | onStart | insertOrder => exact ⟨⟨rfl, rfl, rfl, rfl, rfl⟩, rfl⟩
    | onRspUserLogin field info ret =>
      dsimp only [step]
      unfold onRspUserLogin
      cases isError info with
      | true => exact ⟨⟨rfl, rfl, rfl, rfl, rfl⟩, rfl⟩
      | false => cases field <;> exact ⟨⟨rfl, rfl, rfl, rfl, rfl⟩, rfl⟩
    | onRspQryShareholderAccount account info bIsLast stored ret =>
      dsimp only [step]
      unfold onRspQryShareholderAccount
      cases isError info with
      | true => exact ⟨⟨rfl, rfl, rfl, rfl, rfl⟩, rfl⟩
      | false =>
        cases account <;> cases bIsLast <;> cases stored <;>
          exact ⟨⟨rfl, rfl, rfl, rfl, rfl⟩, rfl⟩
    | cancelOrder call =>
      dsimp only [step]
      unfold cancelOrder
      have houtbound : (s.withSession p).outboundOrders call.action.orderId =
          s.outboundOrders call.action.orderId := rfl
      rw [houtbound]
      cases s.outboundOrders call.action.orderId with
      | none => exact ⟨⟨rfl, rfl, rfl, rfl, rfl⟩, rfl⟩
      | some record =>
        by_cases hret : call.ret = 0
        · simp only [hret, if_true]
          exact ⟨⟨rfl, rfl, rfl, rfl, rfl⟩, rfl⟩
        · simp only [hret, if_false]
          exact ⟨⟨rfl, rfl, rfl, rfl, rfl⟩, rfl⟩
    | onRspOrderInsert | onRtnOrder | onErrRtnOrderInsert | onRtnTrade =>
      exact absurd rfl hreturn
    | _ => simp [Event.sessionOnly] at he

end Step

theorem gatewayStep_event (core : Core) (g : Gateway) {e : Event} (he : insertedId e = none) :
    gatewayStep core g (.event e) =
      (⟨(step core g.trader e).1, g.inserting⟩, (step core g.trader e).2) := by
  cases e <;> first | rfl | simp [insertedId] at he

/-- Whether a tick is a call about the session, the connection or a query. -/
def Tick.sessionOnly : Tick → Bool
  | .event e => e.sessionOnly
  | .resume => false

/-- What the other calls put out, apart from request ids. -/
def orderOutputs (core : Core) (g : Gateway) (t : Tick) : List Output :=
  if t.sessionOnly then [] else (gatewayStep core g t).2.map Output.withoutId

/-- A tick other than these does the same whatever the members are that it does not use. -/
theorem gatewayStep_withSession (core : Core) (g : Gateway) (p : TraderTora) {t : Tick}
    (ht : t.sessionOnly = false) :
    let g' : Gateway := ⟨g.trader.withSession p, g.inserting⟩
    (SameBooks (gatewayStep core g t).1.trader (gatewayStep core g' t).1.trader ∧
        (gatewayStep core g' t).1.inserting = (gatewayStep core g t).1.inserting) ∧
      (gatewayStep core g' t).2.map Output.withoutId =
        (gatewayStep core g t).2.map Output.withoutId := by
  intro g'
  obtain ⟨trader, inserting⟩ := g
  have hsame : SameBooks trader (trader.withSession p) := ⟨rfl, rfl, rfl, rfl, rfl⟩
  cases t with
  | event e =>
    cases hid : insertedId e with
    | none =>
      rw [gatewayStep_event core _ hid, gatewayStep_event core _ hid]
      obtain ⟨hbooks, houtputs⟩ := step_withSession core trader p ht
      exact ⟨⟨hbooks, rfl⟩, houtputs⟩
    | some orderId =>
      cases e with
      | insertOrder call =>
        cases inserting with
        | none => exact ⟨⟨⟨rfl, rfl, rfl, rfl, rfl⟩, rfl⟩, rfl⟩
        | some ins => exact ⟨⟨hsame, rfl⟩, rfl⟩
      | _ => simp [insertedId] at hid
  | resume =>
    cases inserting with
    | none => exact ⟨⟨hsame, rfl⟩, rfl⟩
    | some ins =>
      obtain ⟨call, orderRef, stage⟩ := ins
      cases stage <;> exact ⟨⟨⟨rfl, rfl, rfl, rfl, rfl⟩, rfl⟩, rfl⟩

/-- Also between the effects of an insert: without the calls about the connection, the queries
and what only logs, a run ends with the same orders, shareholders, trading day and books, and
each of the other calls puts out the same, apart from request ids. -/
theorem queries_do_not_interfere (core : Core) (ts : List Tick) :
    let orders := ts.filter fun t => !t.sessionOnly
    (SameBooks ((gateway core).exec ts).trader ((gateway core).exec orders).trader ∧
        ((gateway core).exec orders).inserting = ((gateway core).exec ts).inserting) ∧
      (gateway core).log (orderOutputs core) ts = (gateway core).log (orderOutputs core) orders := by
  apply (gateway core).erasure (A := fun _ _ => True)
    (R := fun _ g g' => SameBooks g.trader g'.trader ∧ g'.inserting = g.inserting)
  · exact ⟨SameBooks.refl _, rfl⟩
  · rintro es t g' ⟨hbooks, hins⟩ - ht
    have hsession : t.sessionOnly = true := by simpa using ht
    cases t with
    | event e =>
      have hid : insertedId e = none := by
        cases e <;> first | rfl | simp [Tick.sessionOnly, Event.sessionOnly] at hsession
      show (SameBooks (gatewayStep core _ _).1.trader _ ∧ _ = (gatewayStep core _ _).1.inserting) ∧ _
      rw [gatewayStep_event core _ hid]
      refine ⟨⟨?_, hins⟩, if_pos hsession⟩
      exact (sameBooks_sessionOnly core _ hsession).symm.trans hbooks
    | resume => simp [Tick.sessionOnly] at hsession
  · rintro es t g' ⟨hbooks, hins⟩ - ht
    have hkept : t.sessionOnly = false := by simpa using ht
    obtain ⟨trader, inserting⟩ := g'
    obtain rfl : inserting = _ := hins
    obtain ⟨hstep, houtputs⟩ := gatewayStep_withSession core ((gateway core).exec es) trader hkept
    rw [← hbooks.eq] at hstep houtputs
    refine ⟨hstep, ?_⟩
    unfold orderOutputs
    rw [hkept]
    exact houtputs.symm
  · intro _ _ _ _
    trivial

/-! ## Returns from the counter -/

/-- An output without the exchange number in the request for a cancel. -/
def Output.withoutNumber : Output → Output
  | .reqOrderAction req nRequestID => .reqOrderAction { req with orderSysId := [] } nRequestID
  | o => o

/-- The outputs of the callbacks about orders. -/
def Output.isReport : Output → Bool
  | .order .. | .trade .. | .uncaught => true
  | _ => false

/-- `s` with what returns write as it is in `p`. -/
def TraderTora.withReports (s p : TraderTora) : TraderTora :=
  { s with
    outboundOrders := p.outboundOrders
    inboundOrderSysids := p.inboundOrderSysids
    trades := p.trades }

/-- The members that requests are made of are the same, up to exchange numbers. -/
structure SameSender (s s' : TraderTora) : Prop where
  eq : s' = s.withReports s'
  outbound : ∀ k, (s'.outboundOrders k).map ToraOrder.unnumbered =
    (s.outboundOrders k).map ToraOrder.unnumbered

theorem SameSender.refl (s : TraderTora) : SameSender s s := ⟨rfl, fun _ => rfl⟩

theorem SameSender.symm {s s' : TraderTora} (h : SameSender s s') : SameSender s' s where
  eq := by
    rw [h.eq]
    rfl
  outbound := fun k => (h.outbound k).symm

theorem SameSender.trans {s s' s'' : TraderTora} (h : SameSender s s')
    (h' : SameSender s' s'') : SameSender s s'' where
  eq := by
    rw [h'.eq, h.eq]
    rfl
  outbound := fun k => (h'.outbound k).trans (h.outbound k)

/-- What an insert stores it stores on both sides. -/
theorem SameSender.outbound_set {s p : TraderTora}
    (h : ∀ k, (p.outboundOrders k).map ToraOrder.unnumbered =
      (s.outboundOrders k).map ToraOrder.unnumbered) (orderId : UInt64) (record : ToraOrder)
    (k : UInt64) :
    (p.outboundOrders.set orderId record k).map ToraOrder.unnumbered =
      (s.outboundOrders.set orderId record k).map ToraOrder.unnumbered := by
  rw [Store.set_apply, Store.set_apply]
  split
  · rfl
  · exact h k

section Reports

variable (core : Core) (s : TraderTora) {p : TraderTora}

/-- All that a return writes, and what it puts out. -/
theorem return_spec (a : Return) (r : Readings) :
    (step core s (a.event r)).1 = s.withReports (step core s (a.event r)).1 ∧
      ∀ o ∈ (step core s (a.event r)).2, o.isReport = true := by
  cases a with
  | rspOrderInsert field info =>
    dsimp only [Return.event, step]
    rcases onRspOrderInsert_eq core s field info with ⟨-, h⟩ | ⟨_, -, h⟩ <;> rw [h] <;>
      exact ⟨rfl, by simp⟩
  | rtnOrder field =>
    dsimp only [Return.event, step]
    rcases onRtnOrder_eq core s field r.nowInNano with ⟨-, h⟩ | ⟨_, _, -, -, h⟩ <;> rw [h] <;>
      exact ⟨rfl, by simp [Output.isReport]⟩
  | errRtnOrderInsert field info =>
    dsimp only [Return.event, step]
    rcases onErrRtnOrderInsert_eq core s field info r.nowInNano with
      h | ⟨_, -, ⟨-, h⟩ | ⟨_, _, -, h⟩⟩ <;> rw [h] <;> exact ⟨rfl, by simp [Output.isReport]⟩
  | rtnTrade field =>
    dsimp only [Return.event, step]
    rcases onRtnTrade_eq core s field r.frameUid r.nowInNano with h | ⟨_, _, -, -, h⟩ <;>
      rw [h] <;> exact ⟨rfl, by simp [Output.isReport]⟩

/-- A return changes nothing that requests are made of. -/
theorem sameSender_return (a : Return) (r : Readings) :
    SameSender s (step core s (a.event r)).1 := by
  refine ⟨(return_spec core s a r).1, ?_⟩
  intro k
  have hrouting := congrArg Routing.outboundOrders (return_routing core s a r)
  refine Eq.trans (congrArg (fun m : Store UInt64 ToraOrder => (m k).map _) hrouting) ?_
  exact applyNumbering_unnumbered _ _ k

/-- What a cancel puts out depends on the record of the order, but for the number in it. -/
theorem cancelOrder_withoutNumber (call : CancelCall) :
    (cancelOrder core call s).2.map Output.withoutNumber =
      ((s.outboundOrders call.action.orderId).map ToraOrder.unnumbered).elim [.returned false]
        fun record =>
          .reqOrderAction (cancelRequest record s.orderRef) (s.rid + 1) ::
            if call.ret = 0 then [.returned true]
            else
              [.orderActionError call.source call.genTime
                  { orderId := call.action.orderId
                    orderActionId := call.action.orderActionId
                    errorId := call.ret },
                .returned false] := by
  rw [cancelOrder_outputs]
  cases s.outboundOrders call.action.orderId with
  | none => rfl
  | some record =>
    dsimp only [Option.map_some, Option.elim_some]
    split <;> rfl

/-- What returns have written makes no difference to any other call, up to the exchange number
in a cancel. -/
theorem step_withReports {e : Event} (he : e.isReturn = false)
    (houtbound : ∀ k, (p.outboundOrders k).map ToraOrder.unnumbered =
      (s.outboundOrders k).map ToraOrder.unnumbered) :
    SameSender (step core s e).1 (step core (s.withReports p) e).1 ∧
      (step core (s.withReports p) e).2.map Output.withoutNumber =
        (step core s e).2.map Output.withoutNumber := by
  by_cases hsession : e.sessionOnly = true
  · have hbooks := sameBooks_sessionOnly core s hsession
    have hstep := (sessionOnly_withBooks core s (s.withReports p) hsession).1
    have hstart : s.withBooks (s.withReports p) = s.withReports p := rfl
    rw [hstart] at hstep
    rw [hstep]
    refine ⟨⟨?_, ?_⟩, rfl⟩
    · have heq := hbooks.eq
      generalize (step core s e).1 = s' at heq ⊢
      rw [heq]
      rfl
    · intro k
      rw [hbooks.routing]
      exact houtbound k
  · cases e with
    | onStart => exact ⟨⟨rfl, houtbound⟩, rfl⟩
    | insertOrder call =>
      exact ⟨⟨rfl, SameSender.outbound_set houtbound call.input.orderId _⟩, rfl⟩
    | onRspUserLogin field info ret =>
      dsimp only [step]
      unfold onRspUserLogin
      cases isError info with
      | true => exact ⟨⟨rfl, houtbound⟩, rfl⟩
      | false => cases field <;> exact ⟨⟨rfl, houtbound⟩, rfl⟩
    | onRspQryShareholderAccount account info bIsLast stored ret =>
      dsimp only [step]
      unfold onRspQryShareholderAccount
      cases isError info with
      | true => exact ⟨⟨rfl, houtbound⟩, rfl⟩
      | false =>
        cases account <;> cases bIsLast <;> cases stored <;> exact ⟨⟨rfl, houtbound⟩, rfl⟩
    | cancelOrder call =>
      have hrecord := houtbound call.action.orderId
      have hsome : (p.outboundOrders call.action.orderId).isSome =
          (s.outboundOrders call.action.orderId).isSome := by
        simpa only [Option.isSome_map] using congrArg Option.isSome hrecord
      have hp : (step core (s.withReports p) (.cancelOrder call)).1 =
          (step core s (.cancelOrder call)).1.withReports p := by
        dsimp only [step]
        rw [cancelOrder_state, cancelOrder_state]
        show (if (p.outboundOrders call.action.orderId).isSome then _ else _) = _
        rw [hsome]
        split <;> rfl
      rw [hp]
      refine ⟨⟨rfl, ?_⟩, ?_⟩
      · intro k
        have hs := congrArg Routing.outboundOrders (cancelOrder_routing core s call)
        refine (houtbound k).trans ?_
        exact congrArg (fun m : Store UInt64 ToraOrder => (m k).map ToraOrder.unnumbered) hs.symm
      · show (cancelOrder core call (s.withReports p)).2.map Output.withoutNumber =
          (cancelOrder core call s).2.map Output.withoutNumber
        rw [cancelOrder_withoutNumber, cancelOrder_withoutNumber, ← hrecord]
        rfl
    | onRspOrderInsert | onRtnOrder | onErrRtnOrderInsert | onRtnTrade =>
      simp [Event.isReturn] at he
    | _ => exact absurd rfl hsession

end Reports

/-- Whether a tick is one of the callbacks about an order. -/
def Tick.isReturn : Tick → Bool
  | .event e => e.isReturn
  | .resume => false

/-- What the other calls put out, apart from exchange numbers. -/
def senderOutputs (core : Core) (g : Gateway) (t : Tick) : List Output :=
  if t.isReturn then [] else (gatewayStep core g t).2.map Output.withoutNumber

/-- A tick other than these does the same whatever returns have written. -/
theorem gatewayStep_withReports (core : Core) (g : Gateway) {p : TraderTora} {t : Tick}
    (ht : t.isReturn = false)
    (houtbound : ∀ k, (p.outboundOrders k).map ToraOrder.unnumbered =
      (g.trader.outboundOrders k).map ToraOrder.unnumbered) :
    let g' : Gateway := ⟨g.trader.withReports p, g.inserting⟩
    (SameSender (gatewayStep core g t).1.trader (gatewayStep core g' t).1.trader ∧
        (gatewayStep core g' t).1.inserting = (gatewayStep core g t).1.inserting) ∧
      (gatewayStep core g' t).2.map Output.withoutNumber =
        (gatewayStep core g t).2.map Output.withoutNumber := by
  intro g'
  obtain ⟨trader, inserting⟩ := g
  cases t with
  | event e =>
    cases hid : insertedId e with
    | none =>
      rw [gatewayStep_event core _ hid, gatewayStep_event core _ hid]
      obtain ⟨hsender, houtputs⟩ := step_withReports core trader ht houtbound
      exact ⟨⟨hsender, rfl⟩, houtputs⟩
    | some orderId =>
      cases e with
      | insertOrder call => cases inserting <;> exact ⟨⟨⟨rfl, houtbound⟩, rfl⟩, rfl⟩
      | _ => simp [insertedId] at hid
  | resume =>
    cases inserting with
    | none => exact ⟨⟨⟨rfl, houtbound⟩, rfl⟩, rfl⟩
    | some ins =>
      obtain ⟨call, orderRef, stage⟩ := ins
      cases stage with
      | outbound =>
        exact ⟨⟨⟨rfl, SameSender.outbound_set houtbound call.input.orderId _⟩, rfl⟩, rfl⟩
      | journal | inbound => exact ⟨⟨⟨rfl, houtbound⟩, rfl⟩, rfl⟩

/-- Also between the effects of an insert: what the counter reports about orders has no influence
on the requests, on the initial records or on what Kungfu is answered, but for the exchange
numbers in cancels. All else is as if the counter had never reported anything. -/
theorem returns_do_not_interfere (core : Core) (ts : List Tick) :
    let sent := ts.filter fun t => !t.isReturn
    (SameSender ((gateway core).exec ts).trader ((gateway core).exec sent).trader ∧
        ((gateway core).exec sent).inserting = ((gateway core).exec ts).inserting) ∧
      (gateway core).log (senderOutputs core) ts = (gateway core).log (senderOutputs core) sent := by
  apply (gateway core).erasure (A := fun _ _ => True)
    (R := fun _ g g' => SameSender g.trader g'.trader ∧ g'.inserting = g.inserting)
  · exact ⟨SameSender.refl _, rfl⟩
  · rintro es t g' ⟨hsender, hins⟩ - ht
    have hreturn : t.isReturn = true := by simpa using ht
    cases t with
    | event e =>
      obtain ⟨a, r, rfl⟩ := Event.exists_return hreturn
      show (SameSender (gatewayStep core _ _).1.trader _ ∧ _ = (gatewayStep core _ _).1.inserting) ∧ _
      rw [gatewayStep_return]
      exact ⟨⟨(sameSender_return core _ a r).symm.trans hsender, hins⟩, if_pos hreturn⟩
    | resume => simp [Tick.isReturn] at hreturn
  · rintro es t g' ⟨hsender, hins⟩ - ht
    have hkept : t.isReturn = false := by simpa using ht
    obtain ⟨trader, inserting⟩ := g'
    obtain rfl : inserting = _ := hins
    obtain ⟨hstep, houtputs⟩ :=
      gatewayStep_withReports core ((gateway core).exec es) hkept hsender.outbound
    rw [← hsender.eq] at hstep houtputs
    refine ⟨hstep, ?_⟩
    unfold senderOutputs
    rw [hkept]
    exact houtputs.symm
  · intro _ _ _ _
    trivial

end KungfuTora
