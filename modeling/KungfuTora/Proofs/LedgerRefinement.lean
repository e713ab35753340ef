import KungfuTora.Misc.Simulation
import KungfuTora.Proofs.Attribution
import KungfuTora.Proofs.Noninterference
import KungfuTora.Trader.Ledger

/-!
# The adapter refines the ledger

As long as the hash and the sessions keep the keys that a run uses apart, the adapter with its
order maps cannot be told from the ledger: upon every event it sends the same requests and
journals the same records.
-/

namespace KungfuTora

open TraderTora

/-- What some outputs say about orders, apart from request ids. -/
def businessOf (os : List Output) : List Output :=
  (os.filter fun o => !o.isSession).map Output.withoutId

theorem businessOf_of_isSession {os : List Output} (h : ∀ o ∈ os, o.isSession = true) :
    businessOf os = [] := by
  unfold businessOf
  rw [List.map_eq_nil_iff, List.filter_eq_nil_iff]
  intro o ho
  simp [h o ho]

/-! ## What the ledger finds -/

namespace Fact

/-- The order found for a triple is the last one sent with it. -/
theorem orderOf_eq_some (triple : Int32 × Int32 × Int32) (fs : List Fact) (orderId : UInt64) :
    orderOf triple fs = some orderId ↔
      Store.LastOf (fs.filterMap entry?).reverse Entry.triple triple Entry.orderId orderId := by
  rw [← Store.ofWrites_map_eq_some_iff]
  have heq : orderOf triple fs =
      Store.ofWrites ((fs.filterMap entry?).reverse.map fun w => (w.triple, w.orderId)) triple := by
    induction fs with
    | nil => rfl
    | cons f fs ih =>
      cases f with
      | sent w =>
        simp only [orderOf, entry?, List.filterMap_cons, List.reverse_cons, List.map_append,
          List.map_cons, List.map_nil, Store.ofWrites_concat, Store.set_apply, ih,
          eq_comm (a := triple)]
      | answered orderId orderSysId => exact ih
      | bound b => exact ih
  rw [heq]

/-- The order found for a number is the one it was last reported for. -/
theorem numbered_eq_some (number : TTORATstpExchangeIDType × CharBuf) (fs : List Fact)
    (orderId : UInt64) :
    numbered number fs = some orderId ↔
      Store.LastOf (fs.filterMap binding?).reverse Binding.number number Binding.orderId
        orderId := by
  rw [← Store.ofWrites_map_eq_some_iff]
  have heq : numbered number fs =
      Store.ofWrites ((fs.filterMap binding?).reverse.map fun b => (b.number, b.orderId))
        number := by
    induction fs with
    | nil => rfl
    | cons f fs ih =>
      cases f with
      | bound b =>
        simp only [numbered, binding?, List.filterMap_cons, List.reverse_cons, List.map_append,
          List.map_cons, List.map_nil, Store.ofWrites_concat, Store.set_apply, ih,
          eq_comm (a := number)]
      | sent w => exact ih
      | answered orderId orderSysId => exact ih
  rw [heq]

end Fact

/-- After a run the adapter's members hold what the ledger says. -/
structure Keeps (core : Core) (es : List Event) (s : TraderTora) (l : Ledger) : Prop where
  frontId : l.frontId = s.frontId
  sessionId : l.sessionId = s.sessionId
  orderRef : l.orderRef = s.orderRef
  tradingDay : l.tradingDay = s.tradingDay
  shareholders : l.shareholders = s.exchange2Shareholder
  sent : (adapter core).log entries es = (l.facts.filterMap Fact.entry?).reverse
  bound : (adapter core).log (bindings core) es = (l.facts.filterMap Fact.binding?).reverse
  orders : ∀ k, s.orders k = Fact.stateOf core k l.facts
  records : ∀ k, s.outboundOrders k = Fact.recordOf k l.facts

section Find

variable {core : Core} {run es after : List Event} {e : Event} {l : Ledger}

/-- Where no keys collide, a reference leads the adapter to the order the ledger finds. -/
theorem Keeps.find (h : Keeps core es ((adapter core).exec es) l)
    (hrefs : RefsHashApart core run) (hsessions : SessionsApart core run)
    (hrun : run = es ++ e :: after) {orderRef : Int32}
    (hused : ((((adapter core).exec es).frontId, ((adapter core).exec es).sessionId), orderRef) ∈
      usedRefs ((adapter core).exec es) e) :
    ((adapter core).exec es).findOrderRef core orderRef = l.find orderRef := by
  apply Option.ext
  intro orderId
  rw [findOrderRef_eq_some hrefs hsessions hrun hused, Ledger.find, Fact.orderOf_eq_some,
    ← h.sent, h.frontId, h.sessionId]
  rfl

/-- Nor do numbers. -/
theorem Keeps.numbered (h : Keeps core es ((adapter core).exec es) l)
    (hnumbers : NumbersHashApart core run) (hrun : run = es ++ e :: after)
    {number : TTORATstpExchangeIDType × CharBuf}
    (hused : number ∈ usedNumbers core ((adapter core).exec es) e) :
    ((adapter core).exec es).inboundOrderSysids (getOrderSysIdKey core number.1 number.2) =
      Fact.numbered number l.facts := by
  apply Option.ext
  intro orderId
  have hkey : ∀ b ∈ (adapter core).log (bindings core) es,
      b.key core = getOrderSysIdKey core number.1 number.2 ↔ b.number = number := by
    intro b hb
    constructor
    · exact number_of_key hnumbers hrun hused hb
    · rintro rfl
      rfl
  rw [inboundOrderSysids_eq, Store.ofWrites_map_eq_some_iff, Fact.numbered_eq_some, ← h.bound]
  exact ⟨fun h => h.congr hkey, fun h => h.congr fun b hb => (hkey b hb).symm⟩

end Find

/-! ## One event -/

section Step

variable {core : Core} {run es after : List Event} {l : Ledger}

/-- A step that adds no facts and changes neither orders nor records. -/
theorem Keeps.noFacts (h : Keeps core es ((adapter core).exec es) l) {e : Event} {s' : TraderTora}
    {l' : Ledger} (hsent : entries ((adapter core).exec es) e = [])
    (hbound : bindings core ((adapter core).exec es) e = []) (hfacts : l'.facts = l.facts)
    (horders : s'.orders = ((adapter core).exec es).orders)
    (hrecords : s'.outboundOrders = ((adapter core).exec es).outboundOrders)
    (hfront : l'.frontId = s'.frontId) (hsession : l'.sessionId = s'.sessionId)
    (href : l'.orderRef = s'.orderRef) (hday : l'.tradingDay = s'.tradingDay)
    (hshareholders : l'.shareholders = s'.exchange2Shareholder) :
    Keeps core (es ++ [e]) s' l' where
  frontId := hfront
  sessionId := hsession
  orderRef := href
  tradingDay := hday
  shareholders := hshareholders
  sent := by rw [Machine.log_concat, hsent, List.append_nil, h.sent, hfacts]
  bound := by rw [Machine.log_concat, hbound, List.append_nil, h.bound, hfacts]
  orders := by
    rw [horders, hfacts]
    exact h.orders
  records := by
    rw [hrecords, hfacts]
    exact h.records

/-- An event that changes no order map adds no facts. -/
theorem Keeps.quiet (h : Keeps core es ((adapter core).exec es) l) {e : Event}
    (he : e.quiet = true) {shareholders : Store CStr CStr}
    (hshareholders :
      shareholders = (step core ((adapter core).exec es) e).1.exchange2Shareholder)
    (hday : (step core ((adapter core).exec es) e).1.tradingDay =
      ((adapter core).exec es).tradingDay) :
    Keeps core (es ++ [e]) (step core ((adapter core).exec es) e).1
      { l with shareholders := shareholders } := by
  have hrouting := step_quiet core ((adapter core).exec es) he
  have hsent : entries ((adapter core).exec es) e = [] := by
    cases e <;> first | rfl | simp [Event.quiet] at he
  have hbound : bindings core ((adapter core).exec es) e = [] := by
    cases e <;> first | rfl | simp [Event.quiet] at he
  exact h.noFacts hsent hbound rfl (congrArg Routing.orders hrouting)
    (congrArg Routing.outboundOrders hrouting)
    (h.frontId.trans (congrArg Routing.frontId hrouting).symm)
    (h.sessionId.trans (congrArg Routing.sessionId hrouting).symm)
    (h.orderRef.trans (congrArg Routing.orderRef hrouting).symm) (h.tradingDay.trans hday.symm)
    hshareholders

/-- An insert. -/
theorem Keeps.insert (hcore : core.KeepsOrderId) (h : Keeps core es ((adapter core).exec es) l)
    (call : InsertCall) :
    Keeps core (es ++ [.insertOrder call]) (insertOrder core call ((adapter core).exec es)).1
        (l.insert core call).1 ∧
      businessOf (insertOrder core call ((adapter core).exec es)).2 = (l.insert core call).2 := by
  obtain ⟨frontId, sessionId, orderRef, tradingDay, shareholders, facts⟩ := l
  obtain rfl : frontId = _ := h.frontId
  obtain rfl : sessionId = _ := h.sessionId
  obtain rfl : orderRef = _ := h.orderRef
  obtain rfl : shareholders = _ := h.shareholders
  refine ⟨⟨rfl, rfl, rfl, h.tradingDay, rfl, ?sent, ?bound, ?orders, ?records⟩, rfl⟩
  case sent =>
    rw [Machine.log_concat, h.sent]
    simp [entries, Ledger.insert, Fact.entry?]
  case bound =>
    rw [Machine.log_concat, h.bound]
    exact List.append_nil _
  case orders =>
    intro k
    show ((adapter core).exec es).orders.emplace _ _ k = _
    rw [Store.emplace_apply, initialOrder_uid hcore, h.orders, h.orders]
    show _ = (Fact.stateOf core k facts).or (if call.input.orderId = k then _ else none)
    by_cases hk : k = call.input.orderId
    · rw [if_pos hk, if_pos hk.symm, hk]
      rfl
    · rw [if_neg hk, if_neg (Ne.symm hk), Option.or_none]
  case records =>
    intro k
    show ((adapter core).exec es).outboundOrders.set _ _ k = _
    rw [Store.set_apply, h.records]
    show _ = if call.input.orderId = k then _ else _
    simp only [eq_comm (a := k)]
    rfl

/-- A cancel. -/
theorem Keeps.cancel (h : Keeps core es ((adapter core).exec es) l) (call : CancelCall) :
    Keeps core (es ++ [.cancelOrder call]) (cancelOrder core call ((adapter core).exec es)).1
        (l.cancel call).1 ∧
      businessOf (cancelOrder core call ((adapter core).exec es)).2 = (l.cancel call).2 := by
  have hrecord := h.records call.action.orderId
  rw [cancelOrder_state, cancelOrder_outputs, hrecord]
  unfold Ledger.cancel
  cases Fact.recordOf call.action.orderId l.facts with
  | none =>
    refine ⟨?_, rfl⟩
    exact h.noFacts rfl rfl rfl rfl rfl h.frontId h.sessionId h.orderRef h.tradingDay h.shareholders
  | some record =>
    dsimp only [Option.isSome_some, if_true]
    refine ⟨?_, ?_⟩
    · exact h.noFacts rfl rfl rfl rfl rfl h.frontId h.sessionId (congrArg (· + 1) h.orderRef)
        h.tradingDay h.shareholders
    · rw [h.orderRef]
      split <;> rfl

/-- The answer to an order. -/
theorem Keeps.answer (h : Keeps core es ((adapter core).exec es) l)
    (hintegrity : Integrity ⟨(adapter core).exec es, none⟩) (hrefs : RefsHashApart core run)
    (hsessions : SessionsApart core run) {field : InputOrderField} {info : Option RspInfoField}
    (hrun : run = es ++ .onRspOrderInsert field info :: after) :
    Keeps core (es ++ [.onRspOrderInsert field info])
        (onRspOrderInsert core field info ((adapter core).exec es)).1 (l.answer field info).1 ∧
      businessOf (onRspOrderInsert core field info ((adapter core).exec es)).2 =
        (l.answer field info).2 := by
  have hbindings : bindings core ((adapter core).exec es) (.onRspOrderInsert field info) =
      ((numberedOrder core ((adapter core).exec es) field info).map fun orderId =>
        ⟨((adapter core).exec es).frontId, ((adapter core).exec es).sessionId, field.orderRef,
          field.exchangeId, field.orderSysId, orderId⟩).toList := rfl
  cases herror : isError info with
  | true =>
    have hnone : numberedOrder core ((adapter core).exec es) field info = none := by
      simp [numberedOrder, herror]
    rw [hnone] at hbindings
    unfold onRspOrderInsert Ledger.answer
    rw [herror]
    refine ⟨?_, rfl⟩
    exact h.noFacts rfl hbindings rfl rfl rfl h.frontId h.sessionId h.orderRef h.tradingDay
      h.shareholders
  | false =>
    have hused : ((((adapter core).exec es).frontId, ((adapter core).exec es).sessionId),
        field.orderRef) ∈ usedRefs ((adapter core).exec es) (.onRspOrderInsert field info) := by
      simp [usedRefs, herror]
    have hfind := h.find hrefs hsessions hrun hused
    unfold onRspOrderInsert Ledger.answer
    rw [herror, hfind]
    cases hfound : l.find field.orderRef with
    | none =>
      have hnone : numberedOrder core ((adapter core).exec es) field info = none := by
        simp [numberedOrder, herror, hfind, hfound]
      rw [hnone] at hbindings
      refine ⟨?_, rfl⟩
      exact h.noFacts rfl hbindings rfl rfl rfl h.frontId h.sessionId h.orderRef h.tradingDay
        h.shareholders
    | some orderId =>
      rw [hfound] at hfind
      have hknown : (((adapter core).exec es).outboundOrders orderId).isSome :=
        (hintegrity.refs _ _ hfind).2
      have hsome : numberedOrder core ((adapter core).exec es) field info = some orderId := by
        simp [numberedOrder, herror, hfind, hknown]
      rw [hsome] at hbindings
      simp only [Bool.false_eq_true, if_false, hknown, if_true]
      refine ⟨⟨h.frontId, h.sessionId, h.orderRef, h.tradingDay, h.shareholders, ?sent, ?bound,
        h.orders, ?records⟩, rfl⟩
      case sent =>
        rw [Machine.log_concat, h.sent]
        exact List.append_nil _
      case bound =>
        rw [Machine.log_concat, h.bound, hbindings, h.frontId, h.sessionId]
        simp [Ledger.note, Fact.binding?, List.filterMap_cons]
      case records =>
        intro k
        show ((adapter core).exec es).outboundOrders.modify _ _ k = _
        rw [Store.modify_apply, h.records]
        show _ = if orderId = k then _ else _
        simp only [eq_comm (a := k)]
        rfl

/-- The report of an order's state. -/
theorem Keeps.report (h : Keeps core es ((adapter core).exec es) l)
    (hrefs : RefsHashApart core run) (hsessions : SessionsApart core run) {field : OrderField}
    {now : Int64} (hrun : run = es ++ .onRtnOrder field now :: after) :
    Keeps core (es ++ [.onRtnOrder field now])
        (onRtnOrder core field now ((adapter core).exec es)).1 (l.report core field now).1 ∧
      businessOf (onRtnOrder core field now ((adapter core).exec es)).2 =
        (l.report core field now).2 := by
  have hbindings : bindings core ((adapter core).exec es) (.onRtnOrder field now) =
      if field.orderSysId.strlen = 0 then []
      else
        ((reportedOrder core ((adapter core).exec es) field).map fun orderId =>
          ⟨field.frontId, field.sessionId, field.orderRef, field.exchangeId, field.orderSysId,
            orderId⟩).toList := rfl
  have hfind : ((adapter core).exec es).turnsAway field.frontId field.sessionId = false →
      ((adapter core).exec es).findOrderRef core field.orderRef = l.find field.orderRef := by
    intro hpass
    exact h.find hrefs hsessions hrun (by simp [usedRefs, hpass])
  have hpasses : ¬ (l.sessionId ≠ field.sessionId ∧ l.frontId ≠ field.frontId) ↔
      ((adapter core).exec es).turnsAway field.frontId field.sessionId = false := by
    rw [h.frontId, h.sessionId, turnsAway, Bool.and_eq_false_iff]
    simp only [decide_eq_false_iff_not, not_and_or]
  rcases onRtnOrder_eq core ((adapter core).exec es) field now with
    ⟨hnone, hstep⟩ | ⟨orderId, orderState, hreported, hstate, hstep⟩
  · have hreport : l.report core field now = (l, []) := by
      unfold Ledger.report
      by_cases haway : l.sessionId ≠ field.sessionId ∧ l.frontId ≠ field.frontId
      · exact if_pos haway
      · rw [if_neg haway]
        have hpass := hpasses.mp haway
        cases hfound : l.find field.orderRef with
        | none => rfl
        | some orderId =>
          dsimp only
          cases hstate : Fact.stateOf core orderId l.facts with
          | none => rfl
          | some orderState =>
            by_cases hstatus : field.orderStatus = .unknown
            · exact if_pos hstatus
            · have hsome : reportedOrder core ((adapter core).exec es) field = some orderId := by
                refine (reportedOrder_eq_some core _ field orderId).mpr
                  ⟨(turnsAway_eq_false _ _ _).mp hpass, (hfind hpass).trans hfound, hstatus, ?_⟩
                rw [h.orders, hstate]
                rfl
              simp [hnone] at hsome
    rw [hnone, Option.map_none, Option.toList_none, ite_self] at hbindings
    rw [hstep, hreport]
    exact ⟨h.noFacts rfl hbindings rfl rfl rfl h.frontId h.sessionId h.orderRef h.tradingDay
      h.shareholders, rfl⟩
  · obtain ⟨hpass, hfound, hstatus, -⟩ := (reportedOrder_eq_some core _ field orderId).mp hreported
    rw [← turnsAway_eq_false] at hpass
    have hreport : l.report core field now =
        (l.note
          (if field.orderSysId.strlen = 0 then []
          else
            [.bound ⟨field.frontId, field.sessionId, field.orderRef, field.exchangeId,
              field.orderSysId, orderId⟩]),
          [.order orderState.dest 0 (returnedOrder core field now orderState.data)]) := by
      rw [hfind hpass] at hfound
      rw [h.orders] at hstate
      unfold Ledger.report
      rw [if_neg (hpasses.mpr hpass)]
      simp only [hfound, hstate, hstatus, if_false]
    rw [hreported] at hbindings
    rw [hstep, hreport]
    refine ⟨⟨h.frontId, h.sessionId, h.orderRef, h.tradingDay, h.shareholders, ?sent, ?bound,
      ?orders, ?records⟩, rfl⟩
    case sent =>
      rw [Machine.log_concat, h.sent]
      by_cases hlen : field.orderSysId.strlen = 0 <;>
        simp [Ledger.note, entries, Fact.entry?, List.filterMap_cons, hlen]
    case bound =>
      rw [Machine.log_concat, h.bound, hbindings]
      by_cases hlen : field.orderSysId.strlen = 0 <;>
        simp [Ledger.note, Fact.binding?, hlen]
    case orders =>
      intro k
      refine (h.orders k).trans ?_
      by_cases hlen : field.orderSysId.strlen = 0 <;> simp [Ledger.note, hlen, Fact.stateOf]
    case records =>
      intro k
      refine (h.records k).trans ?_
      by_cases hlen : field.orderSysId.strlen = 0 <;> simp [Ledger.note, hlen, Fact.recordOf]

/-- The refusal of an order. -/
theorem Keeps.refuse (h : Keeps core es ((adapter core).exec es) l)
    (hintegrity : Integrity ⟨(adapter core).exec es, none⟩) (hrefs : RefsHashApart core run)
    (hsessions : SessionsApart core run) {field : InputOrderField} {info : Option RspInfoField}
    {now : Int64} (hrun : run = es ++ .onErrRtnOrderInsert field info now :: after) :
    Keeps core (es ++ [.onErrRtnOrderInsert field info now])
        (step core ((adapter core).exec es) (.onErrRtnOrderInsert field info now)).1 l ∧
      businessOf (step core ((adapter core).exec es) (.onErrRtnOrderInsert field info now)).2 =
        l.refuse core field info now := by
  have hkeeps : ∀ os, (step core ((adapter core).exec es) (.onErrRtnOrderInsert field info now)) =
      ((adapter core).exec es, os) →
      Keeps core (es ++ [.onErrRtnOrderInsert field info now])
        (step core ((adapter core).exec es) (.onErrRtnOrderInsert field info now)).1 l := by
    intro os heq
    rw [heq]
    exact h.noFacts rfl rfl rfl rfl rfl h.frontId h.sessionId h.orderRef h.tradingDay
      h.shareholders
  suffices hstep : ∃ os, step core ((adapter core).exec es) (.onErrRtnOrderInsert field info now) =
      ((adapter core).exec es, os) ∧ businessOf os = l.refuse core field info now by
    obtain ⟨os, hstep, hos⟩ := hstep
    refine ⟨hkeeps os hstep, ?_⟩
    rw [hstep, hos]
  dsimp only [KungfuTora.step]
  unfold onErrRtnOrderInsert Ledger.refuse
  cases info with
  | none => exact ⟨[], rfl, rfl⟩
  | some rspInfo =>
    by_cases herror : rspInfo.errorId = 0
    · simp only [herror, if_true]
      exact ⟨[], rfl, rfl⟩
    · have hused : ((((adapter core).exec es).frontId, ((adapter core).exec es).sessionId),
          field.orderRef) ∈ usedRefs ((adapter core).exec es)
            (.onErrRtnOrderInsert field (some rspInfo) now) := by
        simp [usedRefs, isError, herror]
      have hfind := h.find hrefs hsessions hrun hused
      simp only [herror, if_false, hfind]
      cases hfound : l.find field.orderRef with
      | none => exact ⟨[], rfl, rfl⟩
      | some orderId =>
        rw [hfound] at hfind
        obtain ⟨orderState, hstate⟩ :=
          Option.isSome_iff_exists.mp (hintegrity.refs _ _ hfind).1
        have hstored := h.orders orderId
        rw [hstate] at hstored
        dsimp only at hstate
        simp only [hstate, ← hstored, h.tradingDay]
        exact ⟨_, rfl, rfl⟩

/-- The report of a trade. -/
theorem Keeps.trade (h : Keeps core es ((adapter core).exec es) l)
    (hnumbers : NumbersHashApart core run) {field : TradeField} {frameUid : UInt64} {now : Int64}
    (hrun : run = es ++ .onRtnTrade field frameUid now :: after) :
    Keeps core (es ++ [.onRtnTrade field frameUid now])
        (onRtnTrade core field frameUid now ((adapter core).exec es)).1 l ∧
      businessOf (onRtnTrade core field frameUid now ((adapter core).exec es)).2 =
        l.trade core field frameUid := by
  have hused : (field.exchangeId, field.orderSysId) ∈
      usedNumbers core ((adapter core).exec es) (.onRtnTrade field frameUid now) := by
    simp [usedNumbers]
  have hnumbered := h.numbered hnumbers hrun hused
  dsimp only at hnumbered
  have hnothing : Keeps core (es ++ [.onRtnTrade field frameUid now]) ((adapter core).exec es) l :=
    h.noFacts rfl rfl rfl rfl rfl h.frontId h.sessionId h.orderRef h.tradingDay h.shareholders
  unfold onRtnTrade Ledger.trade
  rw [hnumbered]
  cases Fact.numbered (field.exchangeId, field.orderSysId) l.facts with
  | none => exact ⟨hnothing, rfl⟩
  | some orderId =>
    dsimp only
    rw [h.orders orderId]
    cases Fact.stateOf core orderId l.facts with
    | none => exact ⟨hnothing, rfl⟩
    | some orderState =>
      refine ⟨?_, rfl⟩
      exact h.noFacts rfl rfl rfl rfl rfl h.frontId h.sessionId h.orderRef h.tradingDay
        h.shareholders

/-- The ledger takes an event down as the adapter's maps do, and puts out the same about
orders. -/
theorem Keeps.event (hcore : core.KeepsOrderId) (hrefs : RefsHashApart core run)
    (hsessions : SessionsApart core run) (hnumbers : NumbersHashApart core run) {e : Event}
    (hrun : run = es ++ e :: after) (h : Keeps core es ((adapter core).exec es) l) :
    Keeps core (es ++ [e]) (step core ((adapter core).exec es) e).1 (l.step core e).1 ∧
      businessOf (step core ((adapter core).exec es) e).2 = (l.step core e).2 := by
  have hintegrity := adapter_integrity hcore es
  by_cases hsession : e.sessionOnly = true
  · have hbooks := sameBooks_sessionOnly core ((adapter core).exec es) hsession
    have hquiet : e.quiet = true := by
      cases e <;> first | rfl | simp [Event.sessionOnly] at hsession
    have hstep : l.step core e = (l, []) := by
      cases e <;> first | rfl | simp [Event.sessionOnly] at hsession
    have hkeeps := h.quiet hquiet (h.shareholders.trans hbooks.shareholder.symm) hbooks.tradingDay
    rw [hstep]
    exact ⟨hkeeps, businessOf_of_isSession (step_sessionOnly core _ hsession).outputs⟩
  cases e with
  | onStart config =>
    refine ⟨h.quiet rfl ?_ rfl, rfl⟩
    exact congrArg (configureShareholders config) h.shareholders
  | onRspUserLogin field info ret =>
    dsimp only [KungfuTora.step, Ledger.step]
    unfold onRspUserLogin
    cases isError info with
    | true =>
      refine ⟨?_, rfl⟩
      exact h.noFacts rfl rfl rfl rfl rfl h.frontId h.sessionId h.orderRef h.tradingDay
        h.shareholders
    | false =>
      cases field with
      | none =>
        refine ⟨?_, rfl⟩
        exact h.noFacts rfl rfl rfl rfl rfl h.frontId h.sessionId h.orderRef h.tradingDay
          h.shareholders
      | some login =>
        refine ⟨?_, rfl⟩
        exact h.noFacts rfl rfl rfl rfl rfl rfl rfl rfl rfl h.shareholders
  | onRspQryShareholderAccount account info bIsLast stored ret =>
    obtain ⟨hrouting, hshareholder, houtputs⟩ :=
      onRspQryShareholderAccount_spec ((adapter core).exec es) account info bIsLast stored
    have hday : (onRspQryShareholderAccount account info bIsLast stored
        ((adapter core).exec es)).1.tradingDay = ((adapter core).exec es).tradingDay := by
      unfold onRspQryShareholderAccount
      cases isError info with
      | true => rfl
      | false => cases account <;> cases bIsLast <;> cases stored <;> rfl
    refine ⟨?_, (businessOf_of_isSession houtputs).trans ?_⟩
    · have hkeeps := h.quiet (e := .onRspQryShareholderAccount account info bIsLast stored ret) rfl
        hshareholder.symm hday
      rw [← h.shareholders] at hkeeps
      dsimp only [Ledger.step]
      cases herror : isError info <;> cases haccount : account <;>
        simpa [herror, haccount] using hkeeps
    · dsimp only [Ledger.step]
      cases isError info <;> cases account <;> rfl
  | insertOrder call => exact h.insert hcore call
  | cancelOrder call => exact h.cancel call
  | onRspOrderInsert field info => exact h.answer hintegrity hrefs hsessions hrun
  | onRtnOrder field now => exact h.report hrefs hsessions hrun
  | onErrRtnOrderInsert field info now => exact h.refuse hintegrity hrefs hsessions hrun
  | onRtnTrade field frameUid now => exact h.trade hnumbers hrun
  | _ => exact absurd rfl hsession

end Step

/-- The ledger keeps up with the adapter, event by event. -/
theorem ledger_keeps {core : Core} (hcore : core.KeepsOrderId) {es : List Event}
    (hrefs : RefsHashApart core es) (hsessions : SessionsApart core es)
    (hnumbers : NumbersHashApart core es) :
    Keeps core es ((adapter core).exec es) ((ledger core).exec es) ∧
      (adapter core).log (fun s e => businessOf (step core s e).2) es =
        (ledger core).log (fun l e => (l.step core e).2) es := by
  have hinit : Keeps core [] (adapter core).init (ledger core).init :=
    ⟨rfl, rfl, rfl, rfl, rfl, rfl, rfl, fun _ => rfl, fun _ => rfl⟩
  have hrun : Along (fun before e => ∃ after, es = before ++ e :: after) es :=
    fun _ _ after heq => ⟨after, heq⟩
  exact (adapter core).lockstep (N := ledger core) (R := Keeps core)
    (fun s e => businessOf (step core s e).2) (fun l e => (l.step core e).2) hinit
    (fun before e l h ⟨after, heq⟩ => h.event hcore hrefs hsessions hnumbers heq) es hrun

/-- Where the hash and the sessions keep the keys of a run apart, the adapter cannot be told from
the ledger: it sends the same requests and journals the same records in the same order, and
afterwards its tables hold the states and records that the ledger says. -/
theorem adapter_refines_ledger (core : Core) (hcore : core.KeepsOrderId) (es : List Event)
    (hrefs : RefsHashApart core es) (hsessions : SessionsApart core es)
    (hnumbers : NumbersHashApart core es) :
    (adapter core).log (fun s e => businessOf (step core s e).2) es =
        (ledger core).log (fun l e => (l.step core e).2) es ∧
      ∀ orderId,
        ((adapter core).exec es).orders orderId =
            Fact.stateOf core orderId ((ledger core).exec es).facts ∧
          ((adapter core).exec es).outboundOrders orderId =
            Fact.recordOf orderId ((ledger core).exec es).facts := by
  obtain ⟨hkeeps, hlogs⟩ := ledger_keeps hcore hrefs hsessions hnumbers
  exact ⟨hlogs, fun orderId => ⟨hkeeps.orders orderId, hkeeps.records orderId⟩⟩

/-- Two sessions, an order reported and answered in each, a trade and a cancel. -/
theorem adapter_refines_ledger_relogin :
    let es := [sampleLogin 3 7 10, .insertOrder (.sample 1 100),
      .onRspOrderInsert (.sample 11 65) none, .onRtnOrder (.sample 3 7 11 65) 5,
      sampleLogin 3 8 10, .insertOrder (.sample 2 101), .onRtnOrder (.sample 3 8 11 66) 6,
      .onRtnTrade (.sample 11 65) 1 7, .cancelOrder (.sample 100)]
    (adapter .sample).log (fun s e => businessOf (step .sample s e).2) es =
      (ledger .sample).log (fun l e => (l.step .sample e).2) es := by
  intro es
  exact (adapter_refines_ledger .sample Core.sample_keepsOrderId es (by decide) (by decide)
    (by decide)).1

end KungfuTora
