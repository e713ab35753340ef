import KungfuTora.Proofs.FirstRecord

/-!
# Returns about different orders commute

A return reads the session ids, the reference index, the number index at its own key and
the entries of the order it leads to; it writes the number index at its own key and the
record of its order. So two returns that lead to different orders, with different keys,
see the same whichever comes first, and what they write can be written in either order.
-/

namespace KungfuTora

open TraderTora

/-- A message about an order, without the readings taken while it is handled. -/
inductive Return where
  | rspOrderInsert (field : InputOrderField) (info : Option RspInfoField)
  | rtnOrder (field : OrderField)
  | errRtnOrderInsert (field : InputOrderField) (info : Option RspInfoField)
  | rtnTrade (field : TradeField)

/-- What a callback reads from outside while it runs. -/
structure Readings where
  nowInNano : Int64
  frameUid : UInt64

namespace Return

def event (r : Readings) : Return → Event
  | .rspOrderInsert field info => .onRspOrderInsert field info
  | .rtnOrder field => .onRtnOrder field r.nowInNano
  | .errRtnOrderInsert field info => .onErrRtnOrderInsert field info r.nowInNano
  | .rtnTrade field => .onRtnTrade field r.frameUid r.nowInNano

/-- The order id that the callback acts on; none if it ends early. -/
def resolves (core : Core) (s : TraderTora) : Return → Option UInt64
  | .rspOrderInsert field info => numberedOrder core s field info
  | .rtnOrder field => reportedOrder core s field
  | .errRtnOrderInsert field info =>
    if isError info then s.findOrderRef core field.orderRef else none
  | .rtnTrade field =>
    s.inboundOrderSysids (getOrderSysIdKey core field.exchangeId field.orderSysId)

/-- The key of the message's OrderSysID, where its callback makes one. -/
def sysIdKey (core : Core) : Return → Option UInt64
  | .rspOrderInsert field _ => some (getOrderSysIdKey core field.exchangeId field.orderSysId)
  | .rtnOrder field => some (getOrderSysIdKey core field.exchangeId field.orderSysId)
  | .errRtnOrderInsert .. => none
  | .rtnTrade field => some (getOrderSysIdKey core field.exchangeId field.orderSysId)

/-- The two do not lead to one order, nor have a key in common. -/
structure Independent (core : Core) (s : TraderTora) (a b : Return) : Prop where
  orders : ∀ k ∈ a.resolves core s, k ∉ b.resolves core s
  keys : ∀ key ∈ a.sysIdKey core, key ∉ b.sysIdKey core

theorem Independent.symm {core : Core} {s : TraderTora} {a b : Return}
    (h : Independent core s a b) : Independent core s b a where
  orders := fun k hb ha => h.orders k ha hb
  keys := fun key hb ha => h.keys key ha hb

end Return

/-- A record without the time at which it was written and the id made from its frame. -/
def Output.timeless : Output → Output
  | .order dest trigger data => .order dest trigger { data with updateTime := 0 }
  | .trade dest trigger data => .trade dest trigger { data with tradeId := 0 }
  | o => o

/-! ## What a return sees -/

/-- What returns read of the state, apart from the number index, is the same. -/
structure SameView (s s' : TraderTora) : Prop where
  frontId : s'.frontId = s.frontId
  sessionId : s'.sessionId = s.sessionId
  refs : s'.inboundOrderRefs = s.inboundOrderRefs
  outbound : ∀ k, (s'.outboundOrders k).isSome = (s.outboundOrders k).isSome
  orders : s'.orders = s.orders
  tradingDay : s'.tradingDay = s.tradingDay

section View

variable {core : Core} {s s' : TraderTora}

/-- What a return does to the routing members. -/
theorem return_routing (core : Core) (s : TraderTora) (a : Return) (r : Readings) :
    (step core s (a.event r)).1.toRouting =
      { s.toRouting with
        outboundOrders := applyNumbering s.outboundOrders (numbering core s (a.event r))
        inboundOrderSysids :=
          (bindings core s (a.event r)).foldl (fun m b => m.set (b.key core) b.orderId)
            s.inboundOrderSysids } := by
  rw [step_routing]
  cases a <;> rfl

theorem return_tradingDay (core : Core) (s : TraderTora) (a : Return) (r : Readings) :
    (step core s (a.event r)).1.tradingDay = s.tradingDay := by
  cases a with
  | rspOrderInsert field info =>
    dsimp only [Return.event, step]
    rcases onRspOrderInsert_eq core s field info with ⟨-, h⟩ | ⟨_, -, h⟩ <;> rw [h]
  | rtnOrder field =>
    dsimp only [Return.event, step]
    rcases onRtnOrder_eq core s field r.nowInNano with ⟨-, h⟩ | ⟨_, _, -, -, h⟩ <;> rw [h]
  | errRtnOrderInsert field info =>
    dsimp only [Return.event, step]
    rcases onErrRtnOrderInsert_eq core s field info r.nowInNano with
      h | ⟨_, -, ⟨-, h⟩ | ⟨_, _, -, h⟩⟩ <;> rw [h]
  | rtnTrade field =>
    dsimp only [Return.event, step]
    rcases onRtnTrade_eq core s field r.frameUid r.nowInNano with h | ⟨_, _, -, -, h⟩ <;> rw [h]

/-- A return leaves what other returns read. -/
theorem sameView_return (core : Core) (s : TraderTora) (a : Return) (r : Readings) :
    SameView s (step core s (a.event r)).1 := by
  have hrouting := return_routing core s a r
  have hnew : insertedId (a.event r) = none := by cases a <;> rfl
  have hfront := congrArg Routing.frontId hrouting
  have hsession := congrArg Routing.sessionId hrouting
  have hrefs := congrArg Routing.inboundOrderRefs hrouting
  have horders := congrArg Routing.orders hrouting
  exact ⟨hfront, hsession, hrefs, fun k => (step_tables core s hnew k).2, horders,
    return_tradingDay core s a r⟩

/-- What a return binds has the return's key and the order it leads to. -/
theorem bindings_return {a : Return} {r : Readings} {b : Binding}
    (hb : b ∈ bindings core s (a.event r)) :
    b.key core ∈ a.sysIdKey core ∧ b.orderId ∈ a.resolves core s := by
  cases a with
  | rspOrderInsert field info =>
    simp only [Return.event, bindings, Option.mem_toList, Option.map_eq_some_iff] at hb
    obtain ⟨orderId, hnumbered, rfl⟩ := hb
    exact ⟨rfl, hnumbered⟩
  | rtnOrder field =>
    simp only [Return.event, bindings] at hb
    split at hb
    · simp at hb
    · simp only [Option.mem_toList, Option.map_eq_some_iff] at hb
      obtain ⟨orderId, hreported, rfl⟩ := hb
      exact ⟨rfl, hreported⟩
  | errRtnOrderInsert field info => simp [Return.event, bindings] at hb
  | rtnTrade field => simp [Return.event, bindings] at hb

/-- The number index at another key is left alone. -/
theorem sysids_return {a : Return} {r : Readings} {key : UInt64} (h : key ∉ a.sysIdKey core) :
    (step core s (a.event r)).1.inboundOrderSysids key = s.inboundOrderSysids key := by
  have hrouting := congrArg Routing.inboundOrderSysids (return_routing core s a r)
  refine Eq.trans (congrFun hrouting key) ?_
  apply Store.foldl_set_other
  intro b hb hkey
  rw [← hkey] at h
  exact h (bindings_return hb).1

namespace SameView

theorem findOrderRef (h : SameView s s') (orderRef : Int32) :
    s'.findOrderRef core orderRef = s.findOrderRef core orderRef := by
  unfold TraderTora.findOrderRef
  rw [h.frontId, h.sessionId, h.refs]

theorem numberedOrder (h : SameView s s') (field : InputOrderField)
    (info : Option RspInfoField) :
    TraderTora.numberedOrder core s' field info = TraderTora.numberedOrder core s field info := by
  unfold TraderTora.numberedOrder
  simp only [h.findOrderRef, h.outbound]

theorem reportedOrder (h : SameView s s') (field : OrderField) :
    TraderTora.reportedOrder core s' field = TraderTora.reportedOrder core s field := by
  unfold TraderTora.reportedOrder turnsAway
  simp only [h.findOrderRef, h.orders, h.frontId, h.sessionId]

theorem numbering (h : SameView s s') (a : Return) (r r' : Readings) :
    KungfuTora.numbering core s' (a.event r') = KungfuTora.numbering core s (a.event r) := by
  cases a with
  | rspOrderInsert field info =>
    simp only [Return.event, KungfuTora.numbering, h.numberedOrder]
  | _ => rfl

theorem bindings (h : SameView s s') (a : Return) (r r' : Readings) :
    KungfuTora.bindings core s' (a.event r') = KungfuTora.bindings core s (a.event r) := by
  cases a with
  | rspOrderInsert field info =>
    simp only [Return.event, KungfuTora.bindings, h.numberedOrder, h.frontId, h.sessionId]
  | rtnOrder field => simp only [Return.event, KungfuTora.bindings, h.reportedOrder]
  | _ => rfl

/-- A return publishes the same, apart from times and frame ids, where it sees the same. -/
theorem outputs (h : SameView s s') (a : Return) (r r' : Readings)
    (hsysids : ∀ key ∈ a.sysIdKey core, s'.inboundOrderSysids key = s.inboundOrderSysids key) :
    (step core s' (a.event r')).2.map Output.timeless =
      (step core s (a.event r)).2.map Output.timeless := by
  cases a with
  | rspOrderInsert field info =>
    dsimp only [Return.event, step]
    rcases onRspOrderInsert_eq core s field info with ⟨-, hs⟩ | ⟨_, -, hs⟩ <;>
      rcases onRspOrderInsert_eq core s' field info with ⟨-, hs'⟩ | ⟨_, -, hs'⟩ <;> rw [hs, hs']
  | rtnOrder field =>
    dsimp only [Return.event, step]
    unfold onRtnOrder turnsAway
    rw [h.findOrderRef, h.orders, h.frontId, h.sessionId]
    split
    · rfl
    · cases s.findOrderRef core field.orderRef with
      | none => rfl
      | some orderId =>
        dsimp only
        split
        · rfl
        · cases s.orders orderId <;> rfl
  | errRtnOrderInsert field info =>
    dsimp only [Return.event, step]
    unfold onErrRtnOrderInsert
    cases info with
    | none => rfl
    | some rspInfo =>
      dsimp only
      rw [h.findOrderRef, h.orders, h.tradingDay]
      split_ifs
      · rfl
      · cases s.findOrderRef core field.orderRef with
        | none => rfl
        | some orderId =>
          dsimp only
          cases s.orders orderId <;> rfl
  | rtnTrade field =>
    dsimp only [Return.event, step]
    unfold onRtnTrade
    rw [hsysids _ rfl, h.orders]
    cases s.inboundOrderSysids (getOrderSysIdKey core field.exchangeId field.orderSysId) with
    | none => rfl
    | some orderId =>
      dsimp only
      cases s.orders orderId <;> rfl

end SameView

theorem SameView.refl (s : TraderTora) : SameView s s := ⟨rfl, rfl, rfl, fun _ => rfl, rfl, rfl⟩

/-! ## What two returns write -/

theorem numbering_return {a : Return} {r : Readings} {p : UInt64 × CStr}
    (hp : p ∈ numbering core s (a.event r)) : p.1 ∈ a.resolves core s := by
  cases a with
  | rspOrderInsert field info =>
    simp only [Return.event, numbering, Option.mem_def, Option.map_eq_some_iff] at hp
    obtain ⟨orderId, hnumbered, rfl⟩ := hp
    exact hnumbered
  | _ => simp [Return.event, numbering] at hp

/-- Records of different orders can be numbered in either order. -/
theorem applyNumbering_comm (m : Store UInt64 ToraOrder) {n n' : Option (UInt64 × CStr)}
    (h : ∀ p ∈ n, ∀ p' ∈ n', p.1 ≠ p'.1) :
    applyNumbering (applyNumbering m n) n' = applyNumbering (applyNumbering m n') n := by
  cases n with
  | none => rfl
  | some p =>
    cases n' with
    | none => rfl
    | some p' => exact m.modify_comm _ _ (h p rfl p' rfl)

/-- The routing members after two returns, in terms of the state before both. -/
theorem returns_routing (core : Core) (s : TraderTora) (a b : Return) (ra rb : Readings) :
    (step core (step core s (a.event ra)).1 (b.event rb)).1.toRouting =
      { s.toRouting with
        outboundOrders :=
          applyNumbering (applyNumbering s.outboundOrders (numbering core s (a.event ra)))
            (numbering core s (b.event rb))
        inboundOrderSysids :=
          (bindings core s (b.event rb)).foldl (fun m b => m.set (b.key core) b.orderId)
            ((bindings core s (a.event ra)).foldl (fun m b => m.set (b.key core) b.orderId)
              s.inboundOrderSysids) } := by
  have hview := sameView_return core s a ra
  rw [return_routing core _ b rb, hview.numbering b rb rb, hview.bindings b rb rb,
    return_routing core s a ra]

/-- Independent returns leave the same tables in either order. -/
theorem Return.Independent.routing_comm {a b : Return} (h : Independent core s a b)
    (ra rb ra' rb' : Readings) :
    (step core (step core s (a.event ra)).1 (b.event rb)).1.toRouting =
      (step core (step core s (b.event rb')).1 (a.event ra')).1.toRouting := by
  have hview := SameView.refl s
  rw [returns_routing, returns_routing, hview.numbering a ra ra', hview.numbering b rb rb',
    hview.bindings a ra ra', hview.bindings b rb rb', applyNumbering_comm,
    Store.foldl_set_comm Binding.orderId]
  · intro w hw w' hw' hkey
    have hw := (bindings_return hw).1
    rw [hkey] at hw
    exact h.keys _ hw (bindings_return hw').1
  · intro p hp p' hp' hid
    have hp := numbering_return hp
    rw [hid] at hp
    exact h.orders _ hp (numbering_return hp')

/-! ## What two returns publish -/

/-- The records about an order among some outputs, without times and frame ids. -/
def recordsAbout (orderId : UInt64) (os : List Output) : List Output :=
  (os.filter fun o => o.recordId = some orderId).map Output.timeless

theorem Output.timeless_recordId (o : Output) : o.timeless.recordId = o.recordId := by
  cases o <;> rfl

theorem recordsAbout_append (orderId : UInt64) (os os' : List Output) :
    recordsAbout orderId (os ++ os') = recordsAbout orderId os ++ recordsAbout orderId os' := by
  unfold recordsAbout
  rw [List.filter_append, List.map_append]

/-- What is erased does not say which order a record is about. -/
theorem recordsAbout_congr {os os' : List Output} (orderId : UInt64)
    (h : os.map Output.timeless = os'.map Output.timeless) :
    recordsAbout orderId os = recordsAbout orderId os' := by
  have hfilter : ∀ l : List Output, recordsAbout orderId l =
      (l.map Output.timeless).filter fun o => o.recordId = some orderId := by
    intro l
    rw [List.filter_map]
    simp only [recordsAbout, Function.comp_def, Output.timeless_recordId]
  rw [hfilter, hfilter, h]

/-- A stored order is found under the id that it carries. -/
theorem Integrity.eq_of_recordId {g : Gateway} (h : Integrity g) {orderId k : UInt64}
    {orderState : StateOf Order} (hstate : g.trader.orders orderId = some orderState)
    (hrecord : some orderState.data.orderId = some k) : orderId = k :=
  (h.orders _ _ hstate).symm.trans (Option.some.inj hrecord)

/-- A return publishes about the order it leads to. -/
theorem Integrity.resolves_of_record {g : Gateway} (h : Integrity g) {a : Return} {r : Readings}
    {o : Output} {k : UInt64} (ho : o ∈ (step core g.trader (a.event r)).2)
    (hrecord : o.recordId = some k) : k ∈ a.resolves core g.trader := by
  cases a with
  | rspOrderInsert field info =>
    dsimp only [Return.event, step] at ho
    rcases onRspOrderInsert_eq core g.trader field info with ⟨-, heq⟩ | ⟨_, -, heq⟩ <;>
      simp [heq] at ho
  | rtnOrder field =>
    dsimp only [Return.event, step] at ho
    rcases onRtnOrder_eq core g.trader field r.nowInNano with
      ⟨-, heq⟩ | ⟨orderId, orderState, hreported, hstate, heq⟩
    · simp [heq] at ho
    · rw [heq, List.mem_singleton] at ho
      rw [ho] at hrecord
      obtain rfl := h.eq_of_recordId hstate hrecord
      exact hreported
  | errRtnOrderInsert field info =>
    dsimp only [Return.event, step] at ho
    rcases onErrRtnOrderInsert_eq core g.trader field info r.nowInNano with
      heq | ⟨orderId, hfind, ⟨-, heq⟩ | ⟨orderState, rspInfo, hstate, heq⟩⟩
    · simp [heq] at ho
    · rw [heq, List.mem_singleton] at ho
      rw [ho] at hrecord
      simp [Output.recordId] at hrecord
    · have herror : isError info = true := by
        by_contra hnone
        rw [onErrRtnOrderInsert_of_noError core g.trader field r.nowInNano
          (Bool.eq_false_iff.mpr hnone)] at heq
        simp at heq
      rw [heq, List.mem_singleton] at ho
      rw [ho] at hrecord
      obtain rfl := h.eq_of_recordId hstate hrecord
      exact (if_pos herror).trans hfind
  | rtnTrade field =>
    dsimp only [Return.event, step] at ho
    rcases onRtnTrade_eq core g.trader field r.frameUid r.nowInNano with
      heq | ⟨orderId, orderState, hfind, hstate, heq⟩
    · simp [heq] at ho
    · rw [heq, List.mem_singleton] at ho
      rw [ho] at hrecord
      obtain rfl := h.eq_of_recordId hstate hrecord
      exact hfind

/-- Independent returns publish the same about every order, in the same order. -/
theorem Return.Independent.records_comm {g : Gateway} (hg : Integrity g) {a b : Return}
    (h : Independent core g.trader a b) (ra rb ra' rb' : Readings) (k : UInt64) :
    recordsAbout k ((step core g.trader (a.event ra)).2 ++
        (step core (step core g.trader (a.event ra)).1 (b.event rb)).2) =
      recordsAbout k ((step core g.trader (b.event rb')).2 ++
        (step core (step core g.trader (b.event rb')).1 (a.event ra')).2) := by
  -- what comes second sees what it would see alone
  have ha : recordsAbout k (step core (step core g.trader (b.event rb')).1 (a.event ra')).2 =
      recordsAbout k (step core g.trader (a.event ra)).2 := by
    refine recordsAbout_congr k ((sameView_return core g.trader b rb').outputs a ra ra' ?_)
    intro key hkey
    exact sysids_return (h.keys key hkey)
  have hb : recordsAbout k (step core (step core g.trader (a.event ra)).1 (b.event rb)).2 =
      recordsAbout k (step core g.trader (b.event rb')).2 := by
    refine recordsAbout_congr k ((sameView_return core g.trader a ra).outputs b rb' rb ?_)
    intro key hkey
    exact sysids_return (h.symm.keys key hkey)
  have hnone : ∀ (c : Return) (r : Readings), k ∉ c.resolves core g.trader →
      recordsAbout k (step core g.trader (c.event r)).2 = [] := by
    intro c r hc
    unfold recordsAbout
    rw [List.map_eq_nil_iff, List.filter_eq_nil_iff]
    intro o ho hrecord
    exact hc (hg.resolves_of_record ho (of_decide_eq_true hrecord))
  rw [recordsAbout_append, recordsAbout_append, ha, hb]
  by_cases hk : k ∈ a.resolves core g.trader
  · rw [hnone b rb' (h.orders k hk), List.append_nil, List.nil_append]
  · rw [hnone a ra hk, List.append_nil, List.nil_append]

end View

theorem gatewayStep_return (core : Core) (g : Gateway) (a : Return) (r : Readings) :
    gatewayStep core g (.event (a.event r)) =
      (⟨(step core g.trader (a.event r)).1, g.inserting⟩, (step core g.trader (a.event r)).2) := by
  cases a <;> rfl

/-- In every state that a run reaches, between two effects of an insert too: two returns that
do not lead to one order and have no key in common leave the same tables in either order, and
the same records about every order, apart from times and the ids made from frames. -/
theorem returns_commute (core : Core) (hcore : core.KeepsOrderId) (ts : List Tick)
    (a b : Return) (ra rb ra' rb' : Readings)
    (hind : Return.Independent core ((gateway core).exec ts).trader a b) :
    let ab := ts ++ [.event (a.event ra), .event (b.event rb)]
    let ba := ts ++ [.event (b.event rb'), .event (a.event ra')]
    ((gateway core).exec ab).trader.toRouting = ((gateway core).exec ba).trader.toRouting ∧
      ∀ orderId, (journalOf core ab orderId).map Output.timeless =
        (journalOf core ba orderId).map Output.timeless := by
  have hg := gateway_integrity hcore ts
  have hexec : ∀ (c d : Return) (rc rd : Readings),
      ((gateway core).exec (ts ++ [.event (c.event rc), .event (d.event rd)])).trader =
        (step core (step core ((gateway core).exec ts).trader (c.event rc)).1 (d.event rd)).1 := by
    intro c d rc rd
    rw [List.append_cons, Machine.exec_concat, Machine.exec_concat]
    show (gatewayStep core (gatewayStep core _ _).1 _).1.trader = _
    rw [gatewayStep_return, gatewayStep_return]
  have hjournal : ∀ (c d : Return) (rc rd : Readings) (orderId : UInt64),
      (journalOf core (ts ++ [.event (c.event rc), .event (d.event rd)]) orderId).map
          Output.timeless =
        (journalOf core ts orderId).map Output.timeless ++
          recordsAbout orderId ((step core ((gateway core).exec ts).trader (c.event rc)).2 ++
            (step core (step core ((gateway core).exec ts).trader (c.event rc)).1
              (d.event rd)).2) := by
    intro c d rc rd orderId
    rw [List.append_cons, journalOf_concat, journalOf_concat, List.append_assoc, List.map_append,
      ← List.filter_append]
    unfold Machine.outputs recordsAbout
    rw [Machine.exec_concat]
    show _ ++ (List.filter _ ((gatewayStep core _ _).2 ++
      (gatewayStep core (gatewayStep core _ _).1 _).2)).map _ = _
    rw [gatewayStep_return, gatewayStep_return]
  refine ⟨?_, ?_⟩
  · rw [hexec, hexec]
    exact hind.routing_comm ra rb ra' rb'
  · intro orderId
    rw [hjournal, hjournal, hind.records_comm hg ra rb ra' rb' orderId]

/-- A trade of one order and the answer to another. -/
theorem returns_commute_trade_answer :
    let ts := [.event (sampleLogin 3 7 10)] ++ uninterrupted (.insertOrder (.sample 1 100)) ++
      uninterrupted (.insertOrder (.sample 2 101)) ++ [.event (.onRtnOrder (.sample 3 7 11 65) 5)]
    let a := Return.rtnTrade (.sample 11 65)
    let b := Return.rspOrderInsert (.sample 12 66) none
    let ab := ts ++ [.event (a.event ⟨6, 1⟩), .event (b.event ⟨7, 2⟩)]
    let ba := ts ++ [.event (b.event ⟨8, 3⟩), .event (a.event ⟨9, 4⟩)]
    ((gateway .sample).exec ab).trader.toRouting = ((gateway .sample).exec ba).trader.toRouting ∧
      ∀ orderId, (journalOf .sample ab orderId).map Output.timeless =
        (journalOf .sample ba orderId).map Output.timeless := by
  intro ts a b ab ba
  exact returns_commute .sample Core.sample_keepsOrderId ts a b ⟨6, 1⟩ ⟨7, 2⟩ ⟨9, 4⟩ ⟨8, 3⟩
    ⟨by decide, by decide⟩

end KungfuTora
