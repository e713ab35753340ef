import KungfuTora.Trader.Run

/-!
# Interrupted cancels

`cancel_order` sends its request first and then puts the action on record or reports the
error; the vendor's thread can come in between. `Desk` is the gateway with a cancel that may
be under way. Kungfu's thread makes one call at a time, so its next one waits until the cancel
has returned.
-/

namespace KungfuTora

namespace TraderTora

/-- The lookup, the request and the reference it takes. -/
def sendCancel (call : CancelCall) (s : TraderTora) : Effect :=
  match s.outboundOrders call.action.orderId with
  | none => (s, [.returned false])
  | some record =>
    ({ s with orderRef := s.orderRef + 1, rid := s.rid + 1 },
      [.reqOrderAction (cancelRequest record s.orderRef) (s.rid + 1)])

/-- `actions_` after `ReqOrderAction` has returned. -/
def recordedActions (core : Core) (call : CancelCall) (actions : Store UInt64 (StateOf OrderAction)) :
    Store UInt64 (StateOf OrderAction) :=
  if call.ret = 0 then
    actions.emplace (core.actionUid call.action)
      ⟨call.dest, call.source, call.genTime, call.action⟩
  else actions

/-- The rest of `cancel_order`, after `ReqOrderAction` has returned. -/
def settleCancel (core : Core) (call : CancelCall) (s : TraderTora) : Effect :=
  ({ s with actions := recordedActions core call s.actions },
    if call.ret = 0 then [.returned true]
    else
      [.orderActionError call.source call.genTime
          { orderId := call.action.orderId
            orderActionId := call.action.orderActionId
            errorId := call.ret },
        .returned false])

/-- The two effects one after the other are the call. -/
theorem cancelOrder_eq_andThen (core : Core) (call : CancelCall) (s : TraderTora) :
    cancelOrder core call s =
      if (s.outboundOrders call.action.orderId).isSome then
        (sendCancel call s).andThen (settleCancel core call)
      else sendCancel call s := by
  unfold cancelOrder sendCancel
  cases s.outboundOrders call.action.orderId with
  | none => rfl
  | some record =>
    dsimp only [Option.isSome_some]
    rw [if_pos rfl]
    unfold settleCancel recordedActions
    by_cases hret : call.ret = 0
    · simp only [hret, if_true]
    · simp only [hret, if_false]

end TraderTora

open TraderTora

structure Desk where
  gateway : Gateway
  /-- The cancel that has sent its request and not returned yet. -/
  cancelling : Option CancelCall

/-- Whether it is Kungfu's thread that makes the call. -/
def Event.fromKungfu : Event → Bool
  | .onStart _ | .insertOrder _ | .cancelOrder _ | .reqPosition _ | .reqAccount _ => true
  | _ => false

inductive DeskTick where
  | tick (t : Tick)
  /-- `ReqOrderAction` returns to the cancel under way. -/
  | settle

/-- A call of Kungfu's thread has to wait for the cancel under way, a cancel also for an insert. -/
def Desk.waits (desk : Desk) : Tick → Bool
  | .event (.cancelOrder _) => desk.cancelling.isSome || desk.gateway.inserting.isSome
  | .event e => e.fromKungfu && desk.cancelling.isSome
  | .resume => false

def deskStep (core : Core) (desk : Desk) : DeskTick → Desk × List Output
  | .settle =>
    match desk.cancelling with
    | none => (desk, [])
    | some call =>
      let settled := settleCancel core call desk.gateway.trader
      (⟨{ desk.gateway with trader := settled.1 }, none⟩, settled.2)
  | .tick t =>
    if desk.waits t then (desk, [])
    else
      match t with
      | .event (.cancelOrder call) =>
        let sent := sendCancel call desk.gateway.trader
        let known := (desk.gateway.trader.outboundOrders call.action.orderId).isSome
        (⟨{ desk.gateway with trader := sent.1 }, if known then some call else none⟩, sent.2)
      | t =>
        let done := gatewayStep core desk.gateway t
        (⟨done.1, desk.cancelling⟩, done.2)

def desk (core : Core) : Machine Desk DeskTick Output where
  init := ⟨⟨.initial, none⟩, none⟩
  step := deskStep core

end KungfuTora
