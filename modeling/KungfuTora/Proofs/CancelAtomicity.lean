import KungfuTora.Proofs.Noninterference
import KungfuTora.Trader.Desk

/-!
# Interrupted cancels are atomic

A cancel takes place when it sends its request. What it does afterwards nothing else reads or
writes, so whatever the vendor's thread brings before the cancel returns, a login too, the run
is one in which every cancel is a single call at the time of its request. Requests, journals
and broker states come in the same order, and so does what Kungfu's thread is answered.
-/

namespace KungfuTora

open TraderTora

/-- What a call reports to Kungfu: that it has failed, and the value it returns. -/
def Output.answersKungfu : Output → Bool
  | .orderActionError .. | .returned _ => true
  | _ => false

/-- The answers to Kungfu among some outputs, or the others. -/
def answering (b : Bool) (os : List Output) : List Output :=
  os.filter fun o => o.answersKungfu = b

section Vendor

variable (core : Core) (s : TraderTora)

theorem answering_append (b : Bool) (os ps : List Output) :
    answering b (os ++ ps) = answering b os ++ answering b ps :=
  List.filter_append os ps

/-- Answers and other outputs keep their orders when they change places. -/
theorem answering_comm {os ps : List Output} (hos : ∀ o ∈ os, o.answersKungfu = false)
    (hps : ∀ o ∈ ps, o.answersKungfu = true) (b : Bool) :
    answering b os ++ answering b ps = answering b ps ++ answering b os := by
  cases b with
  | true =>
    have hnone : answering true os = [] := by
      refine List.filter_eq_nil_iff.mpr fun o ho => ?_
      simp [hos o ho]
    rw [hnone, List.nil_append, List.append_nil]
  | false =>
    have hnone : answering false ps = [] := by
      refine List.filter_eq_nil_iff.mpr fun o ho => ?_
      simp [hps o ho]
    rw [hnone, List.nil_append, List.append_nil]

/-- The vendor's thread neither reads nor writes `actions_`. -/
theorem vendor_actions {e : Event} (he : e.fromKungfu = false)
    (actions : Store UInt64 (StateOf OrderAction)) :
    step core { s with actions := actions } e =
        ({ (step core s e).1 with actions := actions }, (step core s e).2) ∧
      (step core s e).1.actions = s.actions := by
  by_cases hreturn : e.isReturn = true
  · obtain ⟨a, r, rfl⟩ := Event.exists_return hreturn
    have hsame := return_eq_withReturned core s a r
    have hactions : (step core s (a.event r)).1.actions = s.actions := by
      rw [hsame]
      rfl
    refine ⟨?_, hactions⟩
    have hframe := return_withReturned core s { s with actions := actions } a r
    rw [show s.withReturned { s with actions := actions } = { s with actions := actions } from rfl]
      at hframe
    rw [hframe]
    refine Prod.ext ?_ rfl
    rw [hsame]
    rfl
  · by_cases hsession : e.sessionOnly = true
    · have hbooks := sameBooks_sessionOnly core s hsession
      refine ⟨?_, hbooks.actions⟩
      have hframe := (sessionOnly_withBooks core s { s with actions := actions } hsession).1
      rw [show s.withBooks { s with actions := actions } = { s with actions := actions } from rfl]
        at hframe
      rw [hframe]
      refine Prod.ext ?_ rfl
      show (step core s e).1.withBooks _ = _
      rw [withBooks, ← hbooks.routing, ← hbooks.shareholder, ← hbooks.trades]
    · cases e with
      | onRspUserLogin field info ret =>
        dsimp only [step]
        unfold onRspUserLogin
        cases isError info with
        | true => exact ⟨rfl, rfl⟩
        | false => cases field <;> exact ⟨rfl, rfl⟩
      | onRspQryShareholderAccount account info bIsLast stored ret =>
        dsimp only [step]
        unfold onRspQryShareholderAccount
        cases isError info with
        | true => exact ⟨rfl, rfl⟩
        | false =>
          cases account <;> cases bIsLast <;> cases stored <;> exact ⟨rfl, rfl⟩
      | onStart | insertOrder | cancelOrder | reqPosition | reqAccount =>
        simp [Event.fromKungfu] at he
      | onRspOrderInsert | onRtnOrder | onErrRtnOrderInsert | onRtnTrade =>
        exact absurd rfl hreturn
      | _ => exact absurd rfl hsession

/-- The vendor's thread answers nothing to Kungfu. -/
theorem vendor_outputs {e : Event} (he : e.fromKungfu = false) :
    ∀ o ∈ (step core s e).2, o.answersKungfu = false := by
  by_cases hreturn : e.isReturn = true
  · obtain ⟨a, r, rfl⟩ := Event.exists_return hreturn
    intro o ho
    have hreport := (return_spec core s a r).2 o ho
    cases o <;> first | rfl | simp [Output.isReport] at hreport
  · cases e with
    | onFrontConnected ret =>
      dsimp only [step]
      unfold onFrontConnected login
      by_cases hret : ret = 0 <;>
        simp [hret, updateBrokerState, request, Output.answersKungfu]
    | onFrontDisconnected | onRspError | onRspOrderAction | onErrRtnOrderAction =>
      simp [step, onFrontDisconnected, onRspOrderAction, onErrRtnOrderAction, updateBrokerState,
        Output.answersKungfu]
    | onRspUserLogin field info ret =>
      dsimp only [step]
      unfold onRspUserLogin
      cases isError info with
      | true => simp [updateBrokerState, Output.answersKungfu]
      | false =>
        cases field <;> simp [updateBrokerState, reqShareholders, request, Output.answersKungfu]
    | onRspQryShareholderAccount account info bIsLast stored ret =>
      dsimp only [step]
      unfold onRspQryShareholderAccount
      cases isError info with
      | true => simp
      | false =>
        cases bIsLast <;> cases stored <;>
          simp [updateBrokerState, reqInstrument, request, Output.answersKungfu]
    | onRspQrySecurity security info bIsLast frame =>
      dsimp only [step]
      unfold onRspQrySecurity
      cases isError info with
      | true => simp
      | false =>
        rcases recordSecurity_eq core s security frame with h | ⟨_, h⟩ <;> rw [h] <;>
          cases bIsLast <;> simp [updateBrokerState, Output.answersKungfu]
    | onRspQryTradingAccount account info now =>
      dsimp only [step]
      rcases onRspQryTradingAccount_eq core s account info now with h | ⟨_, _, h⟩ <;> rw [h] <;>
        simp [Output.answersKungfu]
    | onRspQryPosition position info bIsLast now =>
      dsimp only [step]
      unfold onRspQryPosition
      cases isError info with
      | true => simp
      | false =>
        rcases positionRecords_eq core s position now with h | ⟨_, h⟩ <;> rw [h] <;>
          cases bIsLast <;> simp [Output.answersKungfu]
    | onStart | insertOrder | cancelOrder | reqPosition | reqAccount =>
      simp [Event.fromKungfu] at he
    | onRspOrderInsert | onRtnOrder | onErrRtnOrderInsert | onRtnTrade =>
      exact absurd rfl hreturn

end Vendor

/-! ## The run with atomic cancels -/

/-- The ticks of the gateway that a tick comes to: a cancel as one call when it sends its
request, nothing when it returns. -/
def atomicTicks (d : Desk) : DeskTick → List Tick
  | .tick t => if d.waits t then [] else [t]
  | .settle => []

/-- The run of the gateway that a run comes to. -/
def deskRun (core : Core) (ts : List DeskTick) : List Tick :=
  (desk core).log (fun d t => atomicTicks d t) ts

/-- What the cancel under way has still to put out. -/
def Desk.toAnswer (core : Core) (d : Desk) : List Output :=
  d.cancelling.elim [] fun call => (settleCancel core call d.gateway.trader).2

/-- The gateway with atomic cancels has carried out the cancel under way. -/
structure Settles (core : Core) (d : Desk) (g : Gateway) : Prop where
  trader : g.trader =
    d.cancelling.elim d.gateway.trader fun call => (settleCancel core call d.gateway.trader).1
  inserting : g.inserting = d.gateway.inserting
  one : d.cancelling.isSome → d.gateway.inserting = none

section Step

variable {core : Core} {d : Desk} {g : Gateway}

theorem settleCancel_outputs (call : CancelCall) (s : TraderTora) :
    ∀ o ∈ (settleCancel core call s).2, o.answersKungfu = true := by
  unfold settleCancel
  by_cases hret : call.ret = 0 <;> simp [hret, Output.answersKungfu]

/-- Where no cancel is under way the two are the same. -/
theorem Settles.eq_of_idle (h : Settles core d g) (hidle : d.cancelling = none) :
    g = d.gateway := by
  obtain ⟨htrader, hinserting, -⟩ := h
  rw [hidle] at htrader
  obtain ⟨trader, inserting⟩ := g
  obtain rfl : trader = d.gateway.trader := htrader
  obtain rfl : inserting = d.gateway.inserting := hinserting
  rfl

theorem Settles.of_eq (hidle : d.cancelling = none) : Settles core d d.gateway where
  trader := by rw [hidle]; rfl
  inserting := rfl
  one := by simp [hidle]

theorem deskStep_waits {t : Tick} (h : d.waits t = true) : deskStep core d (.tick t) = (d, []) :=
  if_pos h

theorem deskStep_tick {t : Tick} (h : d.waits t = false)
    (hother : ∀ call, t ≠ .event (.cancelOrder call)) :
    deskStep core d (.tick t) =
      (⟨(gatewayStep core d.gateway t).1, d.cancelling⟩, (gatewayStep core d.gateway t).2) := by
  unfold deskStep
  dsimp only
  rw [if_neg (by simp [h])]
  cases t with
  | resume => rfl
  | event e =>
    cases e with
    | cancelOrder call => exact absurd rfl (hother call)
    | _ => rfl

/-- A cancel and the gateway's. -/
theorem Settles.cancel {call : CancelCall}
    (hwaits : d.waits (.event (.cancelOrder call)) = false) (b : Bool) :
    Settles core (deskStep core d (.tick (.event (.cancelOrder call)))).1
        (gatewayStep core d.gateway (.event (.cancelOrder call))).1 ∧
      answering b (deskStep core d (.tick (.event (.cancelOrder call)))).2 ++
          answering b ((deskStep core d (.tick (.event (.cancelOrder call)))).1.toAnswer core) =
        answering b (gatewayStep core d.gateway (.event (.cancelOrder call))).2 := by
  obtain ⟨⟨trader, inserting⟩, cancelling⟩ := d
  obtain ⟨hcancelling, hinserting⟩ := Bool.or_eq_false_iff.mp hwaits
  obtain rfl : cancelling = none := Option.isNone_iff_eq_none.mp (by simpa using hcancelling)
  obtain rfl : inserting = none := Option.isNone_iff_eq_none.mp (by simpa using hinserting)
  have hgateway : gatewayStep core ⟨trader, none⟩ (.event (.cancelOrder call)) =
      (⟨(cancelOrder core call trader).1, none⟩, (cancelOrder core call trader).2) := rfl
  have hdesk : deskStep core ⟨⟨trader, none⟩, none⟩ (.tick (.event (.cancelOrder call))) =
      (⟨⟨(sendCancel call trader).1, none⟩,
          if (trader.outboundOrders call.action.orderId).isSome then some call else none⟩,
        (sendCancel call trader).2) := rfl
  rw [hgateway, hdesk, cancelOrder_eq_andThen]
  cases (trader.outboundOrders call.action.orderId).isSome with
  | false =>
    refine ⟨.of_eq rfl, ?_⟩
    exact List.append_nil _
  | true =>
    refine ⟨⟨rfl, rfl, fun _ => rfl⟩, ?_⟩
    exact (answering_append b _ _).symm

/-- A call of the vendor's thread comes before a cancel returns or after it. -/
theorem Settles.vendor (h : Settles core d g) {call : CancelCall}
    (hcancelling : d.cancelling = some call) {e : Event} (he : e.fromKungfu = false) (b : Bool) :
    Settles core ⟨⟨(step core d.gateway.trader e).1, d.gateway.inserting⟩, d.cancelling⟩
        ⟨(step core g.trader e).1, g.inserting⟩ ∧
      answering b (step core d.gateway.trader e).2 ++
          answering b (settleCancel core call (step core d.gateway.trader e).1).2 =
        answering b (settleCancel core call d.gateway.trader).2 ++
          answering b (step core g.trader e).2 := by
  obtain ⟨⟨trader, inserting⟩, cancelling⟩ := d
  obtain rfl : cancelling = some call := hcancelling
  obtain ⟨htrader, hinserting, hone⟩ := h
  have hsettled : g.trader =
      { trader with actions := recordedActions core call trader.actions } := htrader
  obtain ⟨hframe, hactions⟩ := vendor_actions core trader he
    (recordedActions core call trader.actions)
  rw [hsettled, hframe]
  refine ⟨⟨?_, hinserting, hone⟩, ?_⟩
  · show _ = { (step core trader e).1 with
      actions := recordedActions core call (step core trader e).1.actions }
    rw [hactions]
  · exact answering_comm (vendor_outputs core trader he) (settleCancel_outputs call trader) b

/-- The gateway with atomic cancels follows the desk. -/
theorem Settles.step (h : Settles core d g) (t : DeskTick) (b : Bool) :
    Settles core (deskStep core d t).1 ((gateway core).execFrom g (atomicTicks d t)) ∧
      answering b (deskStep core d t).2 ++ answering b ((deskStep core d t).1.toAnswer core) =
        answering b (d.toAnswer core) ++
          (gateway core).logFrom (fun g t => answering b (gatewayStep core g t).2) g
            (atomicTicks d t) := by
  cases t with
  | settle =>
    obtain ⟨⟨trader, inserting⟩, cancelling⟩ := d
    cases cancelling with
    | none => exact ⟨h, (List.append_nil _).symm⟩
    | some call => exact ⟨⟨h.trader, h.inserting, by simp [deskStep]⟩, rfl⟩
  | tick t =>
    cases hwaits : d.waits t with
    | true =>
      rw [deskStep_waits hwaits]
      simp only [atomicTicks, hwaits, if_true]
      exact ⟨h, (List.append_nil _).symm⟩
    | false =>
      simp only [atomicTicks, hwaits, Bool.false_eq_true, if_false]
      show Settles core _ (gatewayStep core g t).1 ∧
        _ = _ ++ (answering b (gatewayStep core g t).2 ++ [])
      rw [List.append_nil]
      cases hcancelling : d.cancelling with
      | none =>
        obtain rfl : g = d.gateway := h.eq_of_idle hcancelling
        have hnothing : d.toAnswer core = [] := by
          unfold Desk.toAnswer
          rw [hcancelling]
          rfl
        rw [hnothing]
        by_cases hcancel : ∃ call, t = .event (.cancelOrder call)
        · obtain ⟨call, rfl⟩ := hcancel
          exact Settles.cancel hwaits b
        · rw [deskStep_tick hwaits fun call heq => hcancel ⟨call, heq⟩, hcancelling]
          exact ⟨.of_eq rfl, List.append_nil _⟩
      | some call =>
        have hidle : d.gateway.inserting = none := h.one (by simp [hcancelling])
        have hanswer : d.toAnswer core = (settleCancel core call d.gateway.trader).2 := by
          unfold Desk.toAnswer
          rw [hcancelling]
          rfl
        rw [hanswer]
        cases t with
        | resume =>
          rw [deskStep_tick hwaits (by simp)]
          have hdesk : gatewayStep core d.gateway .resume = (d.gateway, []) := by
            simp [gatewayStep, hidle]
          have hgateway : gatewayStep core g .resume = (g, []) := by
            simp [gatewayStep, h.inserting, hidle]
          rw [hdesk, hgateway]
          refine ⟨h, ?_⟩
          show answering b (d.toAnswer core) = _
          rw [hanswer]
          exact (List.append_nil _).symm
        | event e =>
          have he : e.fromKungfu = false := by
            cases e <;> first | rfl | simp [Desk.waits, Event.fromKungfu, hcancelling] at hwaits
          have hinserted : insertedId e = none := by
            cases e <;> first | rfl | simp [Event.fromKungfu] at he
          have hother : ∀ call, Tick.event e ≠ .event (.cancelOrder call) := by
            rintro call heq
            cases heq
            simp [Event.fromKungfu] at he
          rw [deskStep_tick hwaits hother, gatewayStep_event core _ hinserted,
            gatewayStep_event core _ hinserted]
          have hvendor := h.vendor hcancelling he b
          rw [hcancelling] at hvendor ⊢
          exact hvendor

end Step

/-- The gateway with atomic cancels carries a run out ahead of the desk. -/
theorem desk_settles (core : Core) (ts : List DeskTick) (b : Bool) :
    Settles core ((desk core).exec ts) ((gateway core).exec (deskRun core ts)) ∧
      (desk core).log (fun d t => answering b (deskStep core d t).2) ts ++
          answering b (((desk core).exec ts).toAnswer core) =
        (gateway core).log (fun g t => answering b (gatewayStep core g t).2) (deskRun core ts) :=
  (desk core).simulation_behind (gateway core) (R := Settles core) atomicTicks
    (fun d t => answering b (deskStep core d t).2)
    (fun g t => answering b (gatewayStep core g t).2) (fun d => answering b (d.toAnswer core))
    ⟨rfl, rfl, by simp [desk]⟩ rfl (fun _ t _ h => h.step t b) ts

end KungfuTora
