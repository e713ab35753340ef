import KungfuTora.Proofs.CancelAtomicity

/-!
# The books and the journal

The base class keeps a book of orders, one of trades and one of cancels, none of which the
adapter ever changes an entry of. Each is an index of first entries: the order book of the
order records in the journal, which the initial records come first of, the trade book of the
trades there, the book of cancels of those that Kungfu has been told are accepted. So the books
can be had from the journal at any time, also between the effects of an insert.
-/

namespace KungfuTora

open TraderTora

/-- An entry of a book as the journal has it: the writer's destination, and the record. -/
def StateOf.journaled {α : Type} (st : StateOf α) : UInt32 × α := (st.dest, st.data)

def Output.orderRecord : Output → Option (UInt32 × Order)
  | .order dest _ data => some (dest, data)
  | _ => none

def Output.tradeRecord : Output → Option (UInt32 × Trade)
  | .trade dest _ data => some (dest, data)
  | _ => none

def orderRecords (core : Core) (g : Gateway) (t : Tick) : List (UInt32 × Order) :=
  (gatewayStep core g t).2.filterMap Output.orderRecord

def tradeRecords (core : Core) (g : Gateway) (t : Tick) : List (UInt32 × Trade) :=
  (gatewayStep core g t).2.filterMap Output.tradeRecord

/-- The cancel that a tick accepts, as Kungfu is answered. -/
def acceptedActions (core : Core) (g : Gateway) : Tick → List (StateOf OrderAction)
  | .event (.cancelOrder call) =>
    if .returned true ∈ (gatewayStep core g (.event (.cancelOrder call))).2 then
      [⟨call.dest, call.source, call.genTime, call.action⟩]
    else []
  | _ => []

section Step

variable {core : Core} {g : Gateway}

/-- Records of orders come when the order is stored, or with the order. -/
theorem orders_step (hcore : core.KeepsOrderId) (h : Integrity g) (t : Tick) (k : UInt64) :
    ((gatewayStep core g t).1.trader.orders k).map StateOf.journaled =
      ((g.trader.orders k).map StateOf.journaled).or
        ((orderRecords core g t).find? fun p => core.orderUid p.2 = k) := by
  have hstep := gatewayStep_ticks core g t
  unfold orderRecords
  generalize gatewayStep core g t = r at hstep ⊢
  cases hstep with
  | @event e he =>
    dsimp only
    rw [(step_tables core g.trader he k).1]
    cases hstate : g.trader.orders k with
    | some st => rfl
    | none =>
      rw [Option.map_none, Option.none_or]
      symm
      rw [List.find?_eq_none]
      intro p hp hk
      obtain ⟨o, ho, hrecord⟩ := List.mem_filterMap.mp hp
      cases o with
      | order dest triggerTime data =>
        obtain rfl : (dest, data) = p := Option.some.inj hrecord
        have hid : data.orderId = k := by
          rw [← hcore.uid]
          simpa using hk
        have hstored := h.stored_of_record he ho (congrArg some hid)
        simp [hstate] at hstored
      | _ => simp [Output.orderRecord] at hrecord
  | journals call orderRef hins =>
    show ((g.trader.orders.emplace (core.orderUid (initialOrder core call)) _) k).map _ = _
    rw [Store.emplace_apply]
    by_cases hk : k = core.orderUid (initialOrder core call)
    · rw [if_pos hk, ← hk]
      cases g.trader.orders k with
      | some st => rfl
      | none => simp [journalInsert, Output.orderRecord, StateOf.journaled, hk]
    · rw [if_neg hk]
      simp [journalInsert, Output.orderRecord, Ne.symm hk]
  | begins | busy | idle | recordsOutbound | recordsInbound => exact (Option.or_none).symm

/-- Trades come with `OnRtnTrade` only, which puts them in the book. -/
theorem event_trades (core : Core) (s : TraderTora) {e : Event} (he : insertedId e = none)
    (k : UInt64) :
    ((step core s e).1.trades k).map StateOf.journaled =
      ((s.trades k).map StateOf.journaled).or
        (((step core s e).2.filterMap Output.tradeRecord).find? fun p =>
          core.tradeUid p.2 = k) := by
  have hnone : ∀ r : Effect, r.1.trades = s.trades → r.2.filterMap Output.tradeRecord = [] →
      (r.1.trades k).map StateOf.journaled =
        ((s.trades k).map StateOf.journaled).or
          ((r.2.filterMap Output.tradeRecord).find? fun p => core.tradeUid p.2 = k) := by
    intro r htrades hrecords
    rw [htrades, hrecords, List.find?_nil, Option.or_none]
  have hsessionOutputs : ∀ os : List Output, (∀ o ∈ os, o.isSession = true) →
      os.filterMap Output.tradeRecord = [] := by
    intro os hos
    refine List.filterMap_eq_nil_iff.mpr fun o ho => ?_
    have := hos o ho
    cases o <;> first | rfl | simp [Output.isSession] at this
  by_cases hsession : e.sessionOnly = true
  · exact hnone _ (sameBooks_sessionOnly core s hsession).trades
      (hsessionOutputs _ (step_sessionOnly core s hsession).outputs)
  cases e with
  | onStart config => exact hnone _ rfl rfl
  | onRspUserLogin field info ret =>
    refine hnone _ ?_ (hsessionOutputs _ (onRspUserLogin_spec core s field info).2.2)
    dsimp only [step]
    unfold onRspUserLogin
    cases isError info with
    | true => rfl
    | false => cases field <;> rfl
  | onRspQryShareholderAccount account info bIsLast stored ret =>
    refine hnone _ ?_
      (hsessionOutputs _ (onRspQryShareholderAccount_spec s account info bIsLast stored).2.2)
    dsimp only [step]
    unfold onRspQryShareholderAccount
    cases isError info with
    | true => rfl
    | false => cases account <;> cases bIsLast <;> cases stored <;> rfl
  | onRspOrderInsert field info =>
    dsimp only [step]
    rcases onRspOrderInsert_eq core s field info with ⟨-, h⟩ | ⟨_, -, h⟩ <;> rw [h] <;>
      exact hnone _ rfl rfl
  | onRtnOrder field now =>
    dsimp only [step]
    rcases onRtnOrder_eq core s field now with ⟨-, h⟩ | ⟨_, _, -, -, h⟩ <;> rw [h] <;>
      exact hnone _ rfl rfl
  | onErrRtnOrderInsert field info now =>
    dsimp only [step]
    rcases onErrRtnOrderInsert_eq core s field info now with
      h | ⟨_, -, ⟨-, h⟩ | ⟨_, _, -, h⟩⟩ <;> rw [h] <;> exact hnone _ rfl rfl
  | onRtnTrade field frameUid now =>
    dsimp only [step]
    rcases onRtnTrade_eq core s field frameUid now with h | ⟨orderId, orderState, -, -, h⟩ <;>
      rw [h]
    · exact hnone _ rfl rfl
    · dsimp only
      rw [Store.emplace_apply]
      generalize returnedTrade core field frameUid orderState.data.orderId = trade
      by_cases hk : k = core.tradeUid trade
      · rw [if_pos hk, ← hk]
        cases s.trades k with
        | some st => rfl
        | none => simp [Output.tradeRecord, StateOf.journaled, hk]
      · rw [if_neg hk]
        simp [Output.tradeRecord, Ne.symm hk]
  | cancelOrder call =>
    dsimp only [step]
    rcases cancelOrder_eq core s call with ⟨-, h⟩ | ⟨_, _, -, h⟩ <;> rw [h]
    · exact hnone _ rfl rfl
    · refine hnone _ rfl ?_
      by_cases hret : call.ret = 0 <;> simp [hret, Output.tradeRecord]
  | insertOrder call => simp [insertedId] at he
  | _ => exact absurd rfl hsession

theorem trades_step (g : Gateway) (t : Tick) (k : UInt64) :
    ((gatewayStep core g t).1.trader.trades k).map StateOf.journaled =
      ((g.trader.trades k).map StateOf.journaled).or
        ((tradeRecords core g t).find? fun p => core.tradeUid p.2 = k) := by
  have hstep := gatewayStep_ticks core g t
  unfold tradeRecords
  generalize gatewayStep core g t = r at hstep ⊢
  cases hstep with
  | event he => exact event_trades core g.trader he k
  | _ => exact (Option.or_none).symm

/-- A cancel that Kungfu is told is accepted is put in the book. -/
theorem cancel_actions (core : Core) (g : Gateway) (call : CancelCall) (k : UInt64) :
    (cancelOrder core call g.trader).1.actions k =
      (g.trader.actions k).or
        ((acceptedActions core g (.event (.cancelOrder call))).find? fun st =>
          core.actionUid st.data = k) := by
  have haccepted : acceptedActions core g (.event (.cancelOrder call)) =
      if .returned true ∈ (cancelOrder core call g.trader).2 then
        [⟨call.dest, call.source, call.genTime, call.action⟩]
      else [] := rfl
  rw [haccepted]
  unfold cancelOrder
  cases g.trader.outboundOrders call.action.orderId with
  | none => simp
  | some record =>
    by_cases hret : call.ret = 0
    · simp only [hret, Effect.andThen, if_true]
      rw [if_pos (by simp), Store.emplace_apply]
      by_cases hk : k = core.actionUid call.action
      · rw [if_pos hk, ← hk]
        simp [hk]
      · rw [if_neg hk]
        simp [Ne.symm hk]
    · simp [hret]

theorem actions_step (g : Gateway) (t : Tick) (k : UInt64) :
    (gatewayStep core g t).1.trader.actions k =
      (g.trader.actions k).or
        ((acceptedActions core g t).find? fun st => core.actionUid st.data = k) := by
  have hstep := gatewayStep_ticks core g t
  have hnone : ∀ actions : Store UInt64 (StateOf OrderAction), actions = g.trader.actions →
      acceptedActions core g t = [] →
      actions k = (g.trader.actions k).or
        ((acceptedActions core g t).find? fun st => core.actionUid st.data = k) := by
    intro actions hactions haccepted
    rw [hactions, haccepted, List.find?_nil, Option.or_none]
  generalize gatewayStep core g t = r at hstep ⊢
  cases hstep with
  | @event e he =>
    cases hkungfu : e.fromKungfu with
    | false =>
      refine hnone _ (vendor_actions core g.trader hkungfu g.trader.actions).2 ?_
      cases e <;> first | rfl | simp [Event.fromKungfu] at hkungfu
    | true =>
      cases e with
      | onStart config => exact hnone _ rfl rfl
      | reqPosition ret => exact hnone _ (sameBooks_sessionOnly core g.trader rfl).actions rfl
      | reqAccount ret => exact hnone _ (sameBooks_sessionOnly core g.trader rfl).actions rfl
      | cancelOrder call => exact cancel_actions core g call k
      | insertOrder call => simp [insertedId] at he
      | _ => simp [Event.fromKungfu] at hkungfu
  | _ => exact hnone _ rfl rfl

end Step

/-- For every run, between the effects of an insert too: each book holds under a key the first
order record in the journal, the first trade there or the first accepted cancel that has it. -/
theorem books_from_journal (core : Core) (hcore : core.KeepsOrderId) (ts : List Tick)
    (uid : UInt64) :
    let s := ((gateway core).exec ts).trader
    (s.orders uid).map StateOf.journaled =
        ((gateway core).log (orderRecords core) ts).find? (fun p => core.orderUid p.2 = uid) ∧
      (s.trades uid).map StateOf.journaled =
        ((gateway core).log (tradeRecords core) ts).find? (fun p => core.tradeUid p.2 = uid) ∧
      s.actions uid =
        ((gateway core).log (acceptedActions core) ts).find? fun st =>
          core.actionUid st.data = uid := by
  intro s
  refine ⟨?orders, ?trades, ?actions⟩
  case orders =>
    exact (gateway core).table_eq_first
      (fun g k => (g.trader.orders k).map StateOf.journaled) (fun p => core.orderUid p.2)
      (orderRecords core) (fun _ => rfl)
      (fun before t k => orders_step hcore (gateway_integrity hcore before) t k) ts uid
  case trades =>
    exact (gateway core).table_eq_first
      (fun g k => (g.trader.trades k).map StateOf.journaled) (fun p => core.tradeUid p.2)
      (tradeRecords core) (fun _ => rfl) (fun _ t k => trades_step _ t k) ts uid
  case actions =>
    exact (gateway core).table_eq_first (fun g => g.trader.actions)
      (fun st => core.actionUid st.data) (acceptedActions core) (fun _ => rfl)
      (fun _ t k => actions_step _ t k) ts uid

/-- An order is reported, traded twice and cancelled. -/
theorem books_from_journal_traded :
    let ts := [.event (sampleLogin 3 7 10), .event (.insertOrder (.sample 1 100)), .resume,
      .resume, .resume, .event (.onRtnOrder (.sample 3 7 11 65) 5),
      .event (.onRtnTrade (.sample 11 65) 1 7), .event (.onRtnTrade (.sample 11 65) 2 8),
      .event (.cancelOrder (.sample 100))]
    let s := ((gateway .sample).exec ts).trader
    (s.orders 100).map StateOf.journaled =
        ((gateway .sample).log (orderRecords .sample) ts).find?
          (fun p => Core.sample.orderUid p.2 = 100) ∧
      (s.trades 2).map StateOf.journaled =
        ((gateway .sample).log (tradeRecords .sample) ts).find?
          (fun p => Core.sample.tradeUid p.2 = 2) := by
  intro ts s
  have h := books_from_journal .sample Core.sample_keepsOrderId ts
  exact ⟨(h 100).1, (h 2).2.1⟩

end KungfuTora
