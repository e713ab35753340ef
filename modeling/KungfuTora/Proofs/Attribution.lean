import KungfuTora.Proofs.References
import KungfuTora.Proofs.Interleaving

/-!
# Whose order a return is about

A return finds its order through a key made of the adapter's current session ids, not of
the ids in the message. So a published return is about the order it is published for
exactly when the message carries the current ids, which the filter of `OnRtnOrder`
does not ensure: it lets a return through that has only one of them.
-/

namespace KungfuTora

open TraderTora

section Find

variable {core : Core} {es before after : List Event} {e : Event}

/-- The last order sent with the triple is `orderId`. -/
def LastSent (core : Core) (es : List Event) (triple : Int32 × Int32 × Int32)
    (orderId : UInt64) : Prop :=
  Store.LastOf ((adapter core).log entries es) Entry.triple triple Entry.orderId orderId

instance (es : List Event) (triple : Int32 × Int32 × Int32) (orderId : UInt64) :
    Decidable (LastSent core es triple orderId) :=
  inferInstanceAs (Decidable (Store.LastOf _ _ _ _ _))

theorem LastSent.entry {triple : Int32 × Int32 × Int32} {orderId : UInt64}
    (h : LastSent core es triple orderId) :
    ∃ w ∈ (adapter core).log entries es, w.orderId = orderId ∧ w.triple = triple := by
  obtain ⟨before, w, after, hws, htriple, hid, -⟩ := h
  exact ⟨w, by simp [hws], hid, htriple⟩

/-- A reference that a step looks up leads to the last order that was sent with it under
the current session. -/
theorem findOrderRef_eq_some (hrefs : RefsHashApart core es) (hsessions : SessionsApart core es)
    (hes : es = before ++ e :: after) {orderRef : Int32}
    (hused : ((((adapter core).exec before).frontId, ((adapter core).exec before).sessionId),
      orderRef) ∈ usedRefs ((adapter core).exec before) e) (orderId : UInt64) :
    ((adapter core).exec before).findOrderRef core orderRef = some orderId ↔
      LastSent core before (((adapter core).exec before).frontId,
        ((adapter core).exec before).sessionId, orderRef) orderId := by
  have hmem : _ ∈ (adapter core).log usedRefs es :=
    ((adapter core).mem_log usedRefs es _).mpr ⟨before, e, after, hes, hused⟩
  have hkey : ∀ w ∈ (adapter core).log entries before,
      w.key core = getOrderRefKey core ((adapter core).exec before).frontId
          ((adapter core).exec before).sessionId orderRef ↔
        w.triple = (((adapter core).exec before).frontId,
          ((adapter core).exec before).sessionId, orderRef) := by
    intro w hw
    have hsent : ((w.frontId, w.sessionId), w.orderRef) ∈ (adapter core).log usedRefs es := by
      rw [hes]
      exact (adapter core).mem_log_append usedRefs (e :: after) (used_of_entry hw)
    constructor
    · intro heq
      have hsame := used_inj hrefs hsessions hsent hmem heq
      simp only [Prod.mk.injEq] at hsame
      simp only [Entry.triple, hsame]
    · intro heq
      simp only [Entry.triple, Prod.mk.injEq] at heq
      simp only [Entry.key, heq]
  unfold findOrderRef LastSent
  rw [inboundOrderRefs_eq, Store.ofWrites_map_eq_some_iff]
  exact ⟨fun h => h.congr hkey, fun h => h.congr fun w hw => (hkey w hw).symm⟩

/-- With distinct order ids the record of an inserted order is the one its insert wrote. -/
theorem outbound_of_entry (hfresh : FreshOrderIds es) {w : Entry}
    (hw : w ∈ (adapter core).log entries es) :
    ∃ record, ((adapter core).exec es).outboundOrders w.orderId = some record ∧
      record.triple = w.triple := by
  have hwrite : Store.ofWrites (((adapter core).log entries es).map fun w =>
      (w.orderId, w.record)) w.orderId = some w.record := by
    refine Store.ofWrites_of_forall (List.mem_map.mpr ⟨w, hw, rfl⟩) ?_
    intro record hrecord
    obtain ⟨v, hv, heq⟩ := List.mem_map.mp hrecord
    simp only [Prod.mk.injEq] at heq
    rw [← heq.2, entry_eq_of_orderId hfresh v hv w hw heq.1]
  rw [← outboundOrders_eq, Option.map_eq_some_iff] at hwrite
  obtain ⟨record, hrecord, heq⟩ := hwrite
  refine ⟨record, hrecord, ?_⟩
  have htriple : record.unnumbered.triple = w.record.triple := congrArg ToraOrder.triple heq
  exact htriple

/-- With distinct order ids the last order sent with a triple has a record with it. -/
theorem LastSent.record (hfresh : FreshOrderIds es) {triple : Int32 × Int32 × Int32}
    {orderId : UInt64} (h : LastSent core es triple orderId) :
    ∃ record, ((adapter core).exec es).outboundOrders orderId = some record ∧
      record.triple = triple := by
  obtain ⟨w, hw, hid, htriple⟩ := h.entry
  obtain ⟨record, hrecord, hsame⟩ := outbound_of_entry hfresh hw
  rw [hid] at hrecord
  exact ⟨record, hrecord, hsame.trans htriple⟩

end Find

/-! ## Attribution -/

/-- `OnRtnOrder` publishes under an order id only what the message says about the order's
own triple, and `OnRtnTrade` only trades whose exchange number was bound to the order id,
and only ever by messages about the order's own triple. -/
def Attributed (core : Core) (es : List Event) : Prop :=
  Along (fun before e =>
    (∀ field now, e = .onRtnOrder field now → ∀ dest trigger order,
      .order dest trigger order ∈ (adapter core).outputs before e →
      ∃ record, ((adapter core).exec before).outboundOrders order.orderId = some record ∧
        record.triple = (field.frontId, field.sessionId, field.orderRef)) ∧
    (∀ field frameUid now, e = .onRtnTrade field frameUid now → ∀ dest trigger trade,
      .trade dest trigger trade ∈ (adapter core).outputs before e →
      ∃ record, ((adapter core).exec before).outboundOrders trade.orderId = some record ∧
        (∃ b ∈ (adapter core).log (bindings core) before,
          b.number = (field.exchangeId, field.orderSysId) ∧ b.orderId = trade.orderId) ∧
        ∀ b ∈ (adapter core).log (bindings core) before,
          b.number = (field.exchangeId, field.orderSysId) → b.orderId = trade.orderId →
          b.triple = record.triple)) es

/-- A return that gets through the filter, leads to an order and says something about
it carries both of the adapter's current ids. -/
def OwnReturn (core : Core) (before : List Event) (e : Event) : Prop :=
  let s := (adapter core).exec before
  ∀ field now, e = .onRtnOrder field now → s.turnsAway field.frontId field.sessionId = false →
    (s.findOrderRef core field.orderRef).isSome → field.orderStatus ≠ .unknown →
    field.frontId = s.frontId ∧ field.sessionId = s.sessionId

section Attribution

variable {core : Core} {es : List Event}

/-- A message that numbers an order is about the order's own triple. -/
theorem entry_of_binding (hrefs : RefsHashApart core es) (hsessions : SessionsApart core es)
    (hown : Along (OwnReturn core) es) {b : Binding}
    (hb : b ∈ (adapter core).log (bindings core) es) :
    ∃ w ∈ (adapter core).log entries es, w.orderId = b.orderId ∧ w.triple = b.triple := by
  obtain ⟨before, e, after, hes, hstep⟩ := ((adapter core).mem_log (bindings core) es b).mp hb
  have hprefix : ∀ w ∈ (adapter core).log entries before, w ∈ (adapter core).log entries es := by
    intro w hw
    rw [hes]
    exact (adapter core).mem_log_append entries (e :: after) hw
  cases e with
  | onRspOrderInsert field info =>
    simp only [bindings, Option.mem_toList, Option.map_eq_some_iff] at hstep
    obtain ⟨orderId, hnumbered, rfl⟩ := hstep
    obtain ⟨herror, hfind, -⟩ := (numberedOrder_eq_some core _ field info orderId).mp hnumbered
    obtain ⟨w, hw, hid, htriple⟩ := ((findOrderRef_eq_some hrefs hsessions hes
      (by simp [usedRefs, herror]) orderId).mp hfind).entry
    exact ⟨w, hprefix w hw, hid, htriple⟩
  | onRtnOrder field now =>
    simp only [bindings] at hstep
    split at hstep
    · simp at hstep
    · simp only [Option.mem_toList, Option.map_eq_some_iff] at hstep
      obtain ⟨orderId, hreported, rfl⟩ := hstep
      obtain ⟨hpass, hfind, hstatus, -⟩ := (reportedOrder_eq_some core _ field orderId).mp hreported
      have hturn : ((adapter core).exec before).turnsAway field.frontId field.sessionId = false :=
        (turnsAway_eq_false _ _ _).mpr hpass
      obtain ⟨hfront, hsession⟩ := hown before _ after hes field now rfl hturn
        (by simp [hfind]) hstatus
      obtain ⟨w, hw, hid, htriple⟩ := ((findOrderRef_eq_some hrefs hsessions hes
        (by simp [usedRefs, hturn]) orderId).mp hfind).entry
      refine ⟨w, hprefix w hw, hid, ?_⟩
      rw [htriple, ← hfront, ← hsession]
      rfl
  | _ => simp [bindings] at hstep

theorem usedNumber_of_binding {b : Binding} (hb : b ∈ (adapter core).log (bindings core) es) :
    b.number ∈ (adapter core).log (usedNumbers core) es := by
  obtain ⟨before, e, after, hes, hstep⟩ := ((adapter core).mem_log _ es b).mp hb
  refine ((adapter core).mem_log _ es _).mpr ⟨before, e, after, hes, ?_⟩
  exact List.mem_append_left _ (List.mem_map.mpr ⟨b, hstep, rfl⟩)

/-- A binding with the key of a number that the next step looks up is a binding of exactly
that number. -/
theorem number_of_key {before after : List Event} {e : Event}
    (hnumbers : NumbersHashApart core es) (hes : es = before ++ e :: after)
    {number : TTORATstpExchangeIDType × CharBuf}
    (hused : number ∈ usedNumbers core ((adapter core).exec before) e) {b : Binding}
    (hb : b ∈ (adapter core).log (bindings core) before)
    (hkey : b.key core = getOrderSysIdKey core number.1 number.2) : b.number = number := by
  obtain ⟨hexchange, hnumber⟩ := getOrderSysIdKey_inj.mp hkey
  have hmem : number ∈ (adapter core).log (usedNumbers core) es :=
    ((adapter core).mem_log _ es _).mpr ⟨before, e, after, hes, hused⟩
  have hmem' : b.number ∈ (adapter core).log (usedNumbers core) es := by
    rw [hes]
    exact (adapter core).mem_log_append _ (e :: after) (usedNumber_of_binding hb)
  exact hnumbers _ hmem' _ hmem hexchange hnumber

/-- A message that binds a number to an order is about the triple of the order's record. -/
theorem record_of_binding (hrefs : RefsHashApart core es) (hsessions : SessionsApart core es)
    (hfresh : FreshOrderIds es) (hown : Along (OwnReturn core) es) {b : Binding}
    (hb : b ∈ (adapter core).log (bindings core) es) :
    ∃ record, ((adapter core).exec es).outboundOrders b.orderId = some record ∧
      record.triple = b.triple := by
  obtain ⟨w, hw, hid, htriple⟩ := entry_of_binding hrefs hsessions hown hb
  obtain ⟨record, hrecord, hsame⟩ := outbound_of_entry hfresh hw
  rw [hid] at hrecord
  exact ⟨record, hrecord, hsame.trans htriple⟩

/-- Where returns are attributed to the right orders, a published return carries both
current ids: the order it is published for was sent under them. -/
theorem Attributed.ownReturns (hcore : core.KeepsOrderId) (hrefs : RefsHashApart core es)
    (hsessions : SessionsApart core es) (hfresh : FreshOrderIds es) (h : Attributed core es) :
    Along (OwnReturn core) es := by
  intro before e after hes field now he hturn hsome hstatus
  subst he
  obtain ⟨orderId, hfind⟩ := Option.isSome_iff_exists.mp hsome
  obtain ⟨dest, order, houtputs, hid⟩ :=
    ((adapter_integrity hcore before).publishesUnder_iff field now orderId).mpr
      ⟨(turnsAway_eq_false _ _ _).mp hturn, hfind, hstatus⟩
  have ho : .order dest 0 order ∈ (adapter core).outputs before (.onRtnOrder field now) := by
    show _ ∈ (step core ((adapter core).exec before) (.onRtnOrder field now)).2
    rw [houtputs]
    exact List.mem_singleton.mpr rfl
  obtain ⟨record, hrecord, htriple⟩ := (h before _ after hes).1 field now rfl dest 0 order ho
  have hlast := (findOrderRef_eq_some hrefs hsessions hes (by simp [usedRefs, hturn])
    orderId).mp hfind
  rw [hes] at hfresh
  obtain ⟨record', hrecord', htriple'⟩ := hlast.record hfresh.of_append
  rw [← hid, hrecord] at hrecord'
  rw [← Option.some.inj hrecord', htriple] at htriple'
  simp only [Prod.mk.injEq] at htriple'
  exact ⟨htriple'.1, htriple'.2.1⟩

/-- A return that carries both current ids is published under the order of its triple. -/
theorem OwnReturn.order {before after : List Event} {field : OrderField} {now : Int64}
    (hcore : core.KeepsOrderId) (hrefs : RefsHashApart core es)
    (hsessions : SessionsApart core es) (hfresh : FreshOrderIds before)
    (hes : es = before ++ .onRtnOrder field now :: after)
    (hown : OwnReturn core before (.onRtnOrder field now)) {dest : UInt32} {trigger : Int64}
    {order : Order}
    (ho : .order dest trigger order ∈ (adapter core).outputs before (.onRtnOrder field now)) :
    ∃ record, ((adapter core).exec before).outboundOrders order.orderId = some record ∧
      record.triple = (field.frontId, field.sessionId, field.orderRef) := by
  obtain ⟨hpass, hfind, hstatus⟩ := ((adapter_integrity hcore before).publishesUnder_iff
    field now order.orderId).mp (publishesUnder_of_record ho)
  have hturn := (turnsAway_eq_false ((adapter core).exec before) _ _).mpr hpass
  obtain ⟨hfront, hsession⟩ := hown field now rfl hturn (by simp [hfind]) hstatus
  have hlast := (findOrderRef_eq_some hrefs hsessions hes (by simp [usedRefs, hturn])
    order.orderId).mp hfind
  obtain ⟨record, hrecord, htriple⟩ := hlast.record hfresh
  refine ⟨record, hrecord, ?_⟩
  rw [htriple, ← hfront, ← hsession]

/-- A trade that is published was led there by a binding of exactly its number. -/
theorem binding_of_trade {before after : List Event} {field : TradeField} {frameUid : UInt64}
    {now : Int64} (hcore : core.KeepsOrderId) (hnumbers : NumbersHashApart core es)
    (hes : es = before ++ .onRtnTrade field frameUid now :: after) {dest : UInt32}
    {trigger : Int64} {trade : Trade}
    (ho : .trade dest trigger trade ∈
      (adapter core).outputs before (.onRtnTrade field frameUid now)) :
    ∃ b ∈ (adapter core).log (bindings core) before,
      b.number = (field.exchangeId, field.orderSysId) ∧ b.orderId = trade.orderId := by
  have hfind := ((adapter_integrity hcore before).tradesUnder_iff field frameUid now
    trade.orderId).mp (tradesUnder_of_record ho)
  obtain ⟨b, hb, hkey, hid⟩ := binding_of_sysid hfind
  have hused : (field.exchangeId, field.orderSysId) ∈
      usedNumbers core ((adapter core).exec before) (.onRtnTrade field frameUid now) := by
    simp [usedNumbers]
  exact ⟨b, hb, number_of_key hnumbers hes hused hb hkey, hid⟩

/-- In a run that inserts no order id twice, returns and trades are attributed to the right
orders exactly when every return that `OnRtnOrder` publishes carries both current ids. -/
theorem attributed_iff_ownReturns (core : Core) (es : List Event) (hcore : core.KeepsOrderId)
    (hrefs : RefsHashApart core es) (hsessions : SessionsApart core es)
    (hnumbers : NumbersHashApart core es) (hfresh : FreshOrderIds es) :
    Attributed core es ↔ Along (OwnReturn core) es := by
  constructor
  · exact Attributed.ownReturns hcore hrefs hsessions hfresh
  · intro hown before e after hes
    have hfresh' : FreshOrderIds before := by
      rw [hes] at hfresh
      exact hfresh.of_append
    constructor
    · rintro field now rfl dest trigger order ho
      exact (hown before _ after hes).order hcore hrefs hsessions hfresh' hes ho
    · rintro field frameUid now rfl dest trigger trade ho
      obtain ⟨b, hb, hnumber, hid⟩ := binding_of_trade hcore hnumbers hes ho
      subst hes
      have hrecords := fun {b : Binding} =>
        record_of_binding (b := b) hrefs.of_append hsessions.of_append hfresh' hown.of_append
      obtain ⟨record, hrecord, -⟩ := hrecords hb
      rw [hid] at hrecord
      refine ⟨record, hrecord, ⟨b, hb, hnumber, hid⟩, ?_⟩
      -- every message that bound the number to this order was about the same triple
      intro b' hb' _ hid'
      obtain ⟨record', hrecord', htriple'⟩ := hrecords hb'
      rw [hid', hrecord] at hrecord'
      rw [← htriple', ← Option.some.inj hrecord']

end Attribution

/-- A session of the same front sends an order with the same reference: its return is
published under our order, binds its exchange number, and its trade follows. -/
theorem foreign_return_misattributed :
    let es := [sampleLogin 3 7 10, .insertOrder (.sample 1 100),
      .onRtnOrder (.sample 3 8 11 66) 5, .onRtnTrade (.sample 11 66) 1 6]
    (RefsHashApart .sample es ∧ SessionsApart .sample es ∧ NumbersHashApart .sample es ∧
      FreshOrderIds es) ∧ ¬ Attributed .sample es := by
  intro es
  refine ⟨by decide, ?_⟩
  intro h
  obtain ⟨record, hrecord, htriple⟩ :=
    (h [sampleLogin 3 7 10, .insertOrder (.sample 1 100)] _ _ rfl).1 _ 5 rfl 1 0
      (returnedOrder .sample (.sample 3 8 11 66) 5 (initialOrder .sample (.sample 1 100)))
      (by decide)
  have hours : record = outboundRecord (.sample 1 100) 11 3 7 := Option.some.inj hrecord.symm
  rw [hours] at htriple
  exact absurd htriple (by decide)

/-- A return of our own session and the trade that follows it. -/
theorem own_return_attributed :
    let es := [sampleLogin 3 7 10, .insertOrder (.sample 1 100),
      .onRtnOrder (.sample 3 7 11 66) 5, .onRtnTrade (.sample 11 66) 1 6]
    Attributed .sample es ↔ Along (OwnReturn .sample) es :=
  attributed_iff_ownReturns .sample _ Core.sample_keepsOrderId (by decide) (by decide)
    (by decide) (by decide)

/-! ## Returns after a re-login -/

/-- A return about the triple of an order's record is published under that order exactly
when it gets through the filter and the order is the last one sent with its reference
under the adapter's current session. With distinct order ids this says that the triple's
session is still the current one and no later order was sent with the triple. -/
theorem return_published_iff (core : Core) (es : List Event) (field : OrderField)
    (now : Int64) (orderId : UInt64) (record : ToraOrder) (hcore : core.KeepsOrderId)
    (hrefs : RefsHashApart core (es ++ [.onRtnOrder field now]))
    (hsessions : SessionsApart core (es ++ [.onRtnOrder field now]))
    (hrecord : ((adapter core).exec es).outboundOrders orderId = some record)
    (htriple : record.triple = (field.frontId, field.sessionId, field.orderRef))
    (hstatus : field.orderStatus ≠ .unknown) :
    let s := (adapter core).exec es
    (PublishesUnder core s field now orderId ↔
      (field.sessionId = s.sessionId ∨ field.frontId = s.frontId) ∧
        LastSent core es (s.frontId, s.sessionId, field.orderRef) orderId) ∧
    (FreshOrderIds es →
      (PublishesUnder core s field now orderId ↔
        (field.frontId = s.frontId ∧ field.sessionId = s.sessionId) ∧
          LastSent core es record.triple orderId)) := by
  intro s
  have hgeneral : PublishesUnder core s field now orderId ↔
      (field.sessionId = s.sessionId ∨ field.frontId = s.frontId) ∧
        LastSent core es (s.frontId, s.sessionId, field.orderRef) orderId := by
    have hfind : field.sessionId = s.sessionId ∨ field.frontId = s.frontId →
        (s.findOrderRef core field.orderRef = some orderId ↔
          LastSent core es (s.frontId, s.sessionId, field.orderRef) orderId) := by
      intro hpass
      have hturn := (turnsAway_eq_false s _ _).mpr hpass
      exact findOrderRef_eq_some hrefs hsessions rfl (by simp [usedRefs, s, hturn]) orderId
    rw [(adapter_integrity hcore es).publishesUnder_iff field now orderId]
    constructor
    · rintro ⟨hpass, href, -⟩
      exact ⟨hpass, (hfind hpass).mp href⟩
    · rintro ⟨hpass, hlast⟩
      exact ⟨hpass, (hfind hpass).mpr hlast, hstatus⟩
  refine ⟨hgeneral, ?_⟩
  intro hfresh
  rw [hgeneral]
  constructor
  · rintro ⟨-, hlast⟩
    obtain ⟨record', hrecord', htriple'⟩ := hlast.record hfresh
    rw [hrecord] at hrecord'
    have hsame : record.triple = (s.frontId, s.sessionId, field.orderRef) := by
      rw [Option.some.inj hrecord', htriple']
    have hids := htriple.symm.trans hsame
    simp only [Prod.mk.injEq] at hids
    rw [hsame]
    exact ⟨⟨hids.1, hids.2.1⟩, hlast⟩
  · rintro ⟨⟨hfront, hsession⟩, hlast⟩
    rw [htriple, hfront, hsession] at hlast
    exact ⟨Or.inl hsession, hlast⟩

/-- After a re-login that assigns another session id, the return of an order that is still
on the market is dropped. -/
theorem return_dropped_after_relogin :
    let es := [sampleLogin 3 7 10, .insertOrder (.sample 1 100), .onFrontDisconnected 0,
      .onFrontConnected 0, sampleLogin 3 8 10]
    let field := OrderField.sample 3 7 11 66
    RefsHashApart .sample (es ++ [.onRtnOrder field 5]) ∧
      SessionsApart .sample (es ++ [.onRtnOrder field 5]) ∧
      (∃ record, ((adapter .sample).exec es).outboundOrders 100 = some record ∧
        record.triple = (field.frontId, field.sessionId, field.orderRef)) ∧
      field.orderStatus ≠ .unknown ∧
      (adapter .sample).outputs es (.onRtnOrder field 5) = [] ∧
      ¬ PublishesUnder .sample ((adapter .sample).exec es) field 5 100 := by
  intro es field
  have hnothing : (adapter .sample).outputs es (.onRtnOrder field 5) = [] := by decide
  refine ⟨by decide, by decide, ⟨outboundRecord (.sample 1 100) 11 3 7, rfl, rfl⟩, by decide,
    hnothing, ?_⟩
  rintro ⟨dest, order, houtputs, -⟩
  have hnone := houtputs.symm.trans hnothing
  simp at hnone

/-- A re-login that assigns the same ids again keeps the order reachable. -/
theorem return_published_same_session :
    let es := [sampleLogin 3 7 10, .insertOrder (.sample 1 100), .onFrontDisconnected 0,
      sampleLogin 3 7 11]
    let field := OrderField.sample 3 7 11 66
    PublishesUnder .sample ((adapter .sample).exec es) field 5 100 ↔
      (field.sessionId = 7 ∨ field.frontId = 3) ∧ LastSent .sample es (3, 7, 11) 100 :=
  (return_published_iff .sample _ _ 5 100 (outboundRecord (.sample 1 100) 11 3 7)
    Core.sample_keepsOrderId (by decide) (by decide) rfl rfl (by decide)).1

end KungfuTora
