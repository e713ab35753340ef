import KungfuTora.Proofs.FirstRecord

/-!
# Updates are overlays of the initial order

Each update and trade is made from the order as `insert_order` stored it and from the
message at hand, never from an earlier update. So the journal of an order is its initial
record and then one record for each message that leads to the order; a refusal leaves no
mark on later updates, and neither does a lost or repeated message. A second insert under the same
id journals its own initial record, but the order stays as it was first stored.
-/

namespace KungfuTora

open TraderTora

/-- What an insert puts into `orders_`. -/
def InsertCall.stored (core : Core) (call : InsertCall) : StateOf Order :=
  ⟨call.dest, call.source, call.nano, initialOrder core call⟩

/-- What a call adds to the journal of an order that was stored as `st`. -/
def overlayOf (core : Core) (orderId : UInt64) (st : StateOf Order) (s : TraderTora) :
    Event → List Output
  | .onRtnOrder field now =>
    if reportedOrder core s field = some orderId then
      [.order st.dest 0 (returnedOrder core field now st.data)]
    else []
  | .onErrRtnOrderInsert field (some info) now =>
    if info.errorId ≠ 0 ∧ s.findOrderRef core field.orderRef = some orderId then
      [.order st.dest 0 (refusedOrder core field info s.tradingDay now st.data)]
    else []
  | .onRtnTrade field frameUid _ =>
    if s.inboundOrderSysids (getOrderSysIdKey core field.exchangeId field.orderSysId) =
        some orderId then
      [.trade st.dest 0 (returnedTrade core field frameUid orderId)]
    else []
  | _ => []

/-- What a tick adds to it. -/
def overlay (core : Core) (orderId : UInt64) (st : StateOf Order) (g : Gateway) :
    Tick → List Output
  | .event e => overlayOf core orderId st g.trader e
  | .resume =>
    match g.inserting with
    | some ⟨call, _, .journal⟩ =>
      if call.input.orderId = orderId ∧ (g.trader.orders orderId).isSome then
        [.order call.source call.genTime (initialOrder core call)]
      else []
    | _ => []

/-- The outputs that are about an order. -/
def outputsAbout (orderId : UInt64) (os : List Output) : List Output :=
  os.filter fun o => o.recordId = some orderId

section Step

variable {core : Core} {g : Gateway} {orderId : UInt64} {st : StateOf Order}

theorem outputsAbout_singleton (o : Output) :
    outputsAbout orderId [o] = if o.recordId = some orderId then [o] else [] := by
  unfold outputsAbout
  by_cases h : o.recordId = some orderId <;> simp [h]

theorem outputsAbout_session {os : List Output} (h : ∀ o ∈ os, o.isSession = true) :
    outputsAbout orderId os = [] := by
  unfold outputsAbout
  rw [List.filter_eq_nil_iff]
  intro o ho
  have hsession := h o ho
  cases o <;> simp [Output.isSession, Output.recordId] at hsession ⊢

/-- A cancel journals nothing about the order. -/
theorem outputsAbout_cancel (call : CancelCall) :
    outputsAbout orderId (cancelOrder core call g.trader).2 = [] := by
  rw [cancelOrder_outputs]
  cases g.trader.outboundOrders call.action.orderId with
  | none => rfl
  | some record =>
    dsimp only
    split <;> rfl

/-- A call other than an insert adds the overlay of the stored order. -/
theorem Integrity.about_event (h : Integrity g) (hst : g.trader.orders orderId = some st)
    {e : Event} (he : insertedId e = none) :
    outputsAbout orderId (step core g.trader e).2 = overlayOf core orderId st g.trader e := by
  have hid : ∀ {k orderState}, g.trader.orders k = some orderState →
      (some orderState.data.orderId = some orderId ↔ k = orderId) := by
    intro k orderState hstate
    rw [show orderState.data.orderId = k from h.orders k orderState hstate, Option.some.injEq]
  have hstored : ∀ {k orderState}, g.trader.orders k = some orderState → k = orderId →
      orderState = st := by
    rintro k orderState hstate rfl
    exact Option.some.inj (hstate.symm.trans hst)
  cases e with
  | onRtnOrder field now =>
    dsimp only [step, overlayOf]
    rcases onRtnOrder_eq core g.trader field now with
      ⟨hnone, heq⟩ | ⟨k, orderState, hreported, hstate, heq⟩
    · rw [heq, hnone]
      rfl
    · rw [heq, hreported, outputsAbout_singleton]
      by_cases hk : k = orderId
      · have hrecord := (hid hstate).mpr hk
        rw [hstored hstate hk] at hrecord ⊢
        simp only [Output.recordId, returnedOrder, hrecord, hk, if_true]
      · have hrecord := mt (hid hstate).mp hk
        simp only [Output.recordId, returnedOrder, hrecord, Option.some.injEq, hk, if_false]
  | onErrRtnOrderInsert field info now =>
    dsimp only [step]
    cases info with
    | none => rfl
    | some info =>
      unfold onErrRtnOrderInsert
      dsimp only [overlayOf]
      by_cases herror : info.errorId = 0
      · simp [herror, outputsAbout]
      · cases hfind : g.trader.findOrderRef core field.orderRef with
        | none => simp [herror, outputsAbout]
        | some k =>
          -- the reference leads to a stored order, so nothing is thrown
          obtain ⟨orderState, hstate⟩ :=
            Option.isSome_iff_exists.mp (h.refs _ k hfind).1
          simp only [herror, hstate, if_false]
          rw [outputsAbout_singleton]
          by_cases hk : k = orderId
          · have hrecord := (hid hstate).mpr hk
            rw [hstored hstate hk] at hrecord ⊢
            simp only [Output.recordId, refusedOrder, hrecord, hk, ne_eq, herror,
              not_false_eq_true, and_self, if_true]
          · have hrecord := mt (hid hstate).mp hk
            simp only [Output.recordId, refusedOrder, hrecord, Option.some.injEq, hk, and_false,
              if_false]
  | onRtnTrade field frameUid now =>
    dsimp only [step, overlayOf]
    unfold onRtnTrade
    cases hfind :
        g.trader.inboundOrderSysids (getOrderSysIdKey core field.exchangeId field.orderSysId) with
    | none => rfl
    | some k =>
      obtain ⟨orderState, hstate⟩ := Option.isSome_iff_exists.mp (h.sysids _ k hfind).1
      have hkey : orderState.data.orderId = k := h.orders k orderState hstate
      simp only [hstate]
      rw [outputsAbout_singleton]
      by_cases hk : k = orderId
      · rw [hstored hstate hk] at hkey ⊢
        simp only [Output.recordId, returnedTrade, hkey, hk, if_true]
      · simp only [Output.recordId, returnedTrade, hkey, Option.some.injEq, hk, if_false]
  | onRspOrderInsert field info =>
    dsimp only [step]
    rcases onRspOrderInsert_eq core g.trader field info with ⟨-, heq⟩ | ⟨_, -, heq⟩ <;>
      rw [heq] <;> rfl
  | cancelOrder call => exact outputsAbout_cancel call
  | insertOrder call => simp [insertedId] at he
  | onStart config => exact outputsAbout_session (onStart_spec g.trader config).2.2
  | onRspUserLogin field info ret => exact outputsAbout_session (onRspUserLogin_spec core _ field info).2.2
  | onRspQryShareholderAccount account info bIsLast stored ret =>
    exact outputsAbout_session (onRspQryShareholderAccount_spec _ account info bIsLast stored).2.2
  | _ => exact outputsAbout_session (step_sessionOnly core g.trader rfl).outputs

/-- Nothing leads to an order that is not stored. -/
theorem Integrity.overlay_unstored (h : Integrity g) (hnone : g.trader.orders orderId = none)
    (st : StateOf Order) (t : Tick) : overlay core orderId st g t = [] := by
  have hrefs : ∀ key, g.trader.inboundOrderRefs key ≠ some orderId := by
    intro key hkey
    have hknown := (h.refs key orderId hkey).1
    simp [hnone] at hknown
  have hsysids : ∀ key, g.trader.inboundOrderSysids key ≠ some orderId := by
    intro key hkey
    have hknown := (h.sysids key orderId hkey).1
    simp [hnone] at hknown
  cases t with
  | resume =>
    dsimp only [overlay]
    split
    · exact if_neg (by simp [hnone])
    · rfl
  | event e =>
    dsimp only [overlay]
    unfold overlayOf
    split
    · refine if_neg ?_
      intro hreported
      exact hrefs _ ((reportedOrder_eq_some core _ _ _).mp hreported).2.1
    · exact if_neg fun hfind => hrefs _ hfind.2
    · exact if_neg (hsysids _)
    · rfl

/-- A tick adds the overlay of a stored order. -/
theorem Integrity.about_tick (hcore : core.KeepsOrderId) (h : Integrity g)
    (hst : g.trader.orders orderId = some st) (t : Tick) :
    outputsAbout orderId (gatewayStep core g t).2 = overlay core orderId st g t ∧
      (gatewayStep core g t).1.trader.orders orderId = some st := by
  have hstep := gatewayStep_ticks core g t
  generalize gatewayStep core g t = r at hstep ⊢
  cases hstep with
  | event he =>
    refine ⟨h.about_event hst he, ?_⟩
    dsimp only
    rw [(step_tables core _ he orderId).1, hst]
  | begins call hidle => exact ⟨rfl, hst⟩
  | busy call ins hins => exact ⟨rfl, hst⟩
  | idle hidle =>
    refine ⟨?_, hst⟩
    simp [overlay, hidle, outputsAbout]
  | journals call orderRef hins =>
    constructor
    · dsimp only [overlay, journalInsert]
      rw [hins, outputsAbout_singleton]
      simp only [Output.recordId, initialOrder_orderId hcore, Option.some.injEq, hst,
        Option.isSome_some, and_true]
    · dsimp only [journalInsert]
      rw [Store.emplace_apply]
      split
      · rename_i hkey
        rw [← hkey, hst]
        rfl
      · exact hst
  | recordsOutbound call orderRef hins =>
    refine ⟨?_, hst⟩
    simp [overlay, hins, outputsAbout, recordOutbound]
  | recordsInbound call orderRef hins =>
    refine ⟨?_, hst⟩
    simp [overlay, hins, outputsAbout, recordInbound, Output.recordId]

/-- A tick that stores an order journals its initial record and nothing else. -/
theorem Integrity.about_unstored (hcore : core.KeepsOrderId) (h : Integrity g)
    (hnone : g.trader.orders orderId = none) (t : Tick) :
    (outputsAbout orderId (gatewayStep core g t).2 = [] ∧
        (gatewayStep core g t).1.trader.orders orderId = none) ∨
      ∃ ins ∈ g.inserting, ins.call.input.orderId = orderId ∧
        (gatewayStep core g t).1.trader.orders orderId = some (ins.call.stored core) ∧
        outputsAbout orderId (gatewayStep core g t).2 =
          [.order ins.call.source ins.call.genTime (initialOrder core ins.call)] := by
  have hstep := gatewayStep_ticks core g t
  generalize hr : gatewayStep core g t = r at hstep ⊢
  cases hstep with
  | event he =>
    refine Or.inl ⟨?_, ?_⟩
    · unfold outputsAbout
      rw [List.filter_eq_nil_iff]
      intro o ho hrecord
      have hstored := h.stored_of_record he ho (of_decide_eq_true hrecord)
      simp [hnone] at hstored
    · dsimp only
      rw [(step_tables core _ he orderId).1, hnone]
  | journals call orderRef hins =>
    have hid := initialOrder_orderId hcore call
    by_cases hkey : call.input.orderId = orderId
    · refine Or.inr ⟨_, hins, hkey, ?_, ?_⟩
      · dsimp only [journalInsert]
        rw [initialOrder_uid hcore, hkey, Store.emplace_apply, if_pos rfl, hnone]
        rfl
      · dsimp only [journalInsert]
        rw [outputsAbout_singleton]
        simp [Output.recordId, hid, hkey]
    · refine Or.inl ⟨?_, ?_⟩
      · dsimp only [journalInsert]
        rw [outputsAbout_singleton]
        simp [Output.recordId, hid, hkey]
      · dsimp only [journalInsert]
        rw [initialOrder_uid hcore, Store.emplace_apply, if_neg (Ne.symm hkey)]
        exact hnone
  | begins call hidle => exact Or.inl ⟨rfl, hnone⟩
  | busy call ins hins => exact Or.inl ⟨rfl, hnone⟩
  | idle hidle => exact Or.inl ⟨rfl, hnone⟩
  | recordsOutbound call orderRef hins => exact Or.inl ⟨rfl, hnone⟩
  | recordsInbound call orderRef hins => exact Or.inl ⟨rfl, hnone⟩

end Step

/-- Whatever comes in between the effects of the inserts: an order that is not stored has no
journal, and the journal of a stored one is the initial record of the insert that stored it,
followed by the overlays of that order with the messages that lead to it. -/
theorem journal_of_overlays (core : Core) (hcore : core.KeepsOrderId) (ts : List Tick)
    (orderId : UInt64) :
    (((gateway core).exec ts).trader.orders orderId = none ∧ journalOf core ts orderId = []) ∨
      ∃ call ∈ insertCalls core ts, call.input.orderId = orderId ∧
        ((gateway core).exec ts).trader.orders orderId = some (call.stored core) ∧
        journalOf core ts orderId =
          .order call.source call.genTime (initialOrder core call) ::
            (gateway core).log (overlay core orderId (call.stored core)) ts := by
  have hconcat : ∀ ts t, journalOf core (ts ++ [t]) orderId = journalOf core ts orderId ++
      outputsAbout orderId (gatewayStep core ((gateway core).exec ts) t).2 := by
    intro ts t
    exact journalOf_concat core ts t orderId
  -- as long as the order is not stored there are no overlays either
  suffices h : (((gateway core).exec ts).trader.orders orderId = none ∧
      journalOf core ts orderId = [] ∧
        ∀ st, (gateway core).log (overlay core orderId st) ts = []) ∨ _ from
    h.imp_left fun hnone => ⟨hnone.1, hnone.2.1⟩
  induction ts using List.reverseRecOn with
  | nil => exact Or.inl ⟨rfl, rfl, fun _ => rfl⟩
  | append_singleton ts t ih =>
    have hg := gateway_integrity hcore ts
    simp only [Machine.exec_concat, Machine.log_concat, hconcat]
    rcases ih with ⟨hnone, hjournal, hoverlays⟩ | ⟨call, hcall, hid, hstored, hjournal⟩
    · have hoverlay : ∀ st, overlay core orderId st ((gateway core).exec ts) t = [] :=
        fun st => hg.overlay_unstored hnone st t
      rcases hg.about_unstored hcore hnone t with
        ⟨hnothing, hstill⟩ | ⟨ins, hins, hid, hstored, hinitial⟩
      · refine Or.inl ⟨hstill, ?_, ?_⟩
        · rw [hjournal, hnothing]
          rfl
        · intro st
          rw [hoverlays, hoverlay]
          rfl
      · have hcall := (gateway_owned hcore ts).inserting ins hins
        refine Or.inr ⟨ins.call, (gateway core).mem_log_append _ _ hcall, hid, hstored, ?_⟩
        rw [hjournal, hinitial, hoverlays, hoverlay]
        rfl
    · obtain ⟨habout, hstill⟩ := hg.about_tick hcore hstored t
      refine Or.inr ⟨call, (gateway core).mem_log_append _ _ hcall, hid, hstill, ?_⟩
      rw [hjournal, habout]
      rfl

/-- A return comes in between the effects of the insert, a refusal after it, then another
return: the last update is made from the initial record again. -/
theorem journal_of_overlays_refused :
    let ts := [.event (sampleLogin 3 7 10), .event (.insertOrder (.sample 1 100)), .resume,
      .resume, .event (.onRtnOrder (.sample 3 7 11 65) 5), .resume,
      .event (.onErrRtnOrderInsert (.sample 11 65) (some ⟨9, cstr "no"⟩) 6),
      .event (.onRtnOrder (.sample 3 7 11 65) 7)]
    (((gateway .sample).exec ts).trader.orders 100 = none ∧ journalOf .sample ts 100 = []) ∨
      ∃ call ∈ insertCalls .sample ts, call.input.orderId = 100 ∧
        ((gateway .sample).exec ts).trader.orders 100 = some (call.stored .sample) ∧
        journalOf .sample ts 100 =
          .order call.source call.genTime (initialOrder .sample call) ::
            (gateway .sample).log (overlay .sample 100 (call.stored .sample)) ts :=
  journal_of_overlays .sample Core.sample_keepsOrderId _ 100

end KungfuTora
