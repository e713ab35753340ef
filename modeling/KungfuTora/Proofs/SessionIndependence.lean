import KungfuTora.Proofs.Noninterference

/-!
# Orders have no influence on the session

The session, its broker state and the records that answer the queries do not depend on what
is ordered, cancelled and reported: a run without inserts, cancels and returns, also those
whose effects are interrupted, has the same session, and every call about it puts out the
same. Order traffic takes request ids and moves the reference counter; neither shows in
anything else.
-/

namespace KungfuTora

open TraderTora

/-- Whether an event is a call about an order. -/
def Event.aboutOrder : Event → Bool
  | .insertOrder _ | .cancelOrder _ => true
  | e => e.isReturn

def Tick.aboutOrder : Tick → Bool
  | .event e => e.aboutOrder
  | .resume => true

/-- `s` with what order traffic writes as it is in `p`. -/
def TraderTora.withOrders (s p : TraderTora) : TraderTora :=
  { s with
    orderRef := p.orderRef
    outboundOrders := p.outboundOrders
    inboundOrderRefs := p.inboundOrderRefs
    inboundOrderSysids := p.inboundOrderSysids
    orders := p.orders
    exchange2Shareholder := p.exchange2Shareholder
    trades := p.trades
    actions := p.actions
    rid := p.rid }

/-- The settings, the session and its state are the same. -/
def SameSession (s s' : TraderTora) : Prop := s' = s.withOrders s'

theorem SameSession.refl (s : TraderTora) : SameSession s s := rfl

theorem SameSession.symm {s s' : TraderTora} (h : SameSession s s') : SameSession s' s := by
  unfold SameSession at *
  rw [h]
  rfl

theorem SameSession.trans {s s' s'' : TraderTora} (h : SameSession s s')
    (h' : SameSession s' s'') : SameSession s s'' := by
  unfold SameSession at *
  rw [h', h]
  rfl

section Step

variable (core : Core) (s p : TraderTora)

theorem sameSession_return (a : Return) (r : Readings) :
    SameSession s (step core s (a.event r)).1 := by
  have hspec := (return_spec core s a r).1
  unfold SameSession
  generalize (step core s (a.event r)).1 = s' at hspec ⊢
  rw [hspec]
  rfl

/-- A call about an order leaves the session alone. -/
theorem sameSession_aboutOrder {e : Event} (he : e.aboutOrder = true) :
    SameSession s (step core s e).1 := by
  by_cases hreturn : e.isReturn = true
  · obtain ⟨a, r, rfl⟩ := Event.exists_return hreturn
    exact sameSession_return core s a r
  · cases e with
    | insertOrder call => rfl
    | cancelOrder call =>
      dsimp only [step]
      rcases cancelOrder_eq core s call with ⟨-, h⟩ | ⟨_, _, -, h⟩ <;> rw [h] <;> rfl
    | _ => exact absurd he hreturn

/-- Any other call does the same whatever order traffic has written. -/
theorem step_withOrders {e : Event} (he : e.aboutOrder = false) :
    SameSession (step core s e).1 (step core (s.withOrders p) e).1 ∧
      (step core (s.withOrders p) e).2.map Output.withoutId =
        (step core s e).2.map Output.withoutId := by
  by_cases hsession : e.sessionOnly = true
  · have hkept := sessionOnly_eq_withBooks core s hsession
    obtain ⟨hstate, houtputs⟩ :=
      sessionOnly_withTraffic core s (s.withOrders p) (p.rid - s.rid) hsession
    have hrid : s.withTraffic (s.withOrders p) (p.rid - s.rid) = s.withOrders p := by
      unfold TraderTora.withTraffic
      rw [Int32.add_comm, Int32.sub_add_cancel]
      rfl
    rw [hrid] at hstate houtputs
    refine ⟨?_, houtputs⟩
    unfold SameSession
    rw [hstate]
    generalize (step core s e).1 = s' at hkept ⊢
    rw [hkept]
    rfl
  · cases e with
    | onStart => exact ⟨rfl, rfl⟩
    | onRspUserLogin field info ret =>
      dsimp only [step]
      unfold onRspUserLogin
      cases isError info with
      | true => exact ⟨rfl, rfl⟩
      | false => cases field <;> exact ⟨rfl, rfl⟩
    | onRspQryShareholderAccount account info bIsLast stored ret =>
      dsimp only [step]
      unfold onRspQryShareholderAccount
      cases isError info with
      | true => exact ⟨rfl, rfl⟩
      | false => cases account <;> cases bIsLast <;> cases stored <;> exact ⟨rfl, rfl⟩
    | insertOrder | cancelOrder | onRspOrderInsert | onRtnOrder | onErrRtnOrderInsert | onRtnTrade =>
      simp [Event.aboutOrder, Event.isReturn] at he
    | _ => exact absurd rfl hsession

end Step

/-- What the calls about the session put out, apart from request ids. -/
def sessionOutputs (core : Core) (g : Gateway) (t : Tick) : List Output :=
  if t.aboutOrder then [] else (gatewayStep core g t).2.map Output.withoutId

/-- A tick about an order leaves the session alone. -/
theorem gatewayStep_sameSession (core : Core) (g : Gateway) {t : Tick} (ht : t.aboutOrder = true) :
    SameSession g.trader (gatewayStep core g t).1.trader := by
  have hstep := gatewayStep_ticks core g t
  generalize gatewayStep core g t = r at hstep ⊢
  cases hstep with
  | event he => exact sameSession_aboutOrder core g.trader ht
  | _ => rfl

/-- Without inserts, cancels and returns a run ends with the same settings, session ids,
trading day, broker state and count of instruments, and each of the other calls puts out the
same, apart from request ids. -/
theorem orders_do_not_interfere (core : Core) (ts : List Tick) :
    let session := ts.filter fun t => !t.aboutOrder
    SameSession ((gateway core).exec ts).trader ((gateway core).exec session).trader ∧
      (gateway core).log (sessionOutputs core) ts =
        (gateway core).log (sessionOutputs core) session := by
  apply (gateway core).erasure (A := fun _ _ => True)
    (R := fun _ g g' => SameSession g.trader g'.trader)
  · exact SameSession.refl _
  · rintro es t g' hsame - ht
    have horder : t.aboutOrder = true := by simpa using ht
    exact ⟨(gatewayStep_sameSession core _ horder).symm.trans hsame, if_pos horder⟩
  · rintro es t g' hsame - ht
    have hkept : t.aboutOrder = false := by simpa using ht
    cases t with
    | event e =>
      have hid : insertedId e = none := by
        cases e <;> first | rfl | simp [Tick.aboutOrder, Event.aboutOrder] at hkept
      obtain ⟨hstep, houtputs⟩ :=
        step_withOrders core ((gateway core).exec es).trader g'.trader hkept
      rw [← hsame] at hstep houtputs
      show SameSession (gatewayStep core _ _).1.trader (gatewayStep core _ _).1.trader ∧ _
      unfold sessionOutputs
      rw [gatewayStep_event core _ hid, gatewayStep_event core _ hid, hkept]
      exact ⟨hstep, houtputs.symm⟩
    | resume => simp [Tick.aboutOrder] at hkept
  · intro _ _ _ _
    trivial

end KungfuTora
