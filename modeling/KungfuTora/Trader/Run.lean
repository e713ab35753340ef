import KungfuTora.Misc.Machine
import KungfuTora.Trader.Session
import KungfuTora.Trader.Orders
import KungfuTora.Trader.Returns

/-!
# Runs of the adapter

`adapter` executes every call atomically. `gateway` executes `insert_order` effect by
effect and lets any other call come in between, as the vendor's thread can; the
atomic adapter is the gateway on runs that nothing interrupts
(`gateway_exec_uninterrupted`).
-/

namespace KungfuTora

open TraderTora

/-- One call on the adapter, from its first statement to its return. -/
def step (core : Core) (s : TraderTora) : Event → Effect
  | .onStart config => s.onStart config
  | .onFrontConnected ret => onFrontConnected core ret s
  | .onFrontDisconnected _ => s.onFrontDisconnected
  | .onRspError _ => (s, [])
  | .onRspUserLogin field info _ => onRspUserLogin core field info s
  | .onRspQryShareholderAccount account info bIsLast stored _ =>
    onRspQryShareholderAccount account info bIsLast stored s
  | .onRspQrySecurity security info bIsLast frame =>
    onRspQrySecurity core security info bIsLast frame s
  | .onRspQryTradingAccount account info now => onRspQryTradingAccount core account info now s
  | .onRspQryPosition position info bIsLast now =>
    onRspQryPosition core position info bIsLast now s
  | .onRspOrderInsert field info => onRspOrderInsert core field info s
  | .onRtnOrder field now => onRtnOrder core field now s
  | .onErrRtnOrderInsert field info now =>
    match onErrRtnOrderInsert core field info now s with
    | .ok effect => effect
    | .error _ => (s, [.uncaught])
  | .onRspOrderAction field info => onRspOrderAction field info s
  | .onErrRtnOrderAction field info => onErrRtnOrderAction field info s
  | .onRtnTrade field frameUid now => onRtnTrade core field frameUid now s
  | .insertOrder call => insertOrder core call s
  | .cancelOrder call => cancelOrder core call s
  | .reqPosition ret => reqPosition core ret s
  | .reqAccount ret => reqAccount core ret s

/-- The adapter with atomic calls, from its construction on. -/
def adapter (core : Core) : Machine TraderTora Event Output where
  init := .initial
  step := step core

/-! ## Interrupted inserts -/

/-- The effects of `insert_order` that are still to come. -/
inductive InsertStage where
  | journal
  | outbound
  | inbound
  deriving DecidableEq, Repr

/-- An `insert_order` that has sent its request and not returned yet. -/
structure Inserting where
  call : InsertCall
  orderRef : Int32
  stage : InsertStage
  deriving DecidableEq, Repr

structure Gateway where
  trader : TraderTora
  inserting : Option Inserting

/-- A call on the adapter, or the next effect of the `insert_order` that is under way. -/
inductive Tick where
  | event (e : Event)
  | resume

/-- Kungfu's thread makes one `insert_order` call at a time, so a second one does not
come while the first is under way; every other call may. -/
def gatewayStep (core : Core) (g : Gateway) : Tick → Gateway × List Output
  | .event (.insertOrder call) =>
    match g.inserting with
    | some _ => (g, [])
    | none =>
      let sent := sendInsert core call g.trader
      (⟨sent.1, some ⟨call, g.trader.orderRef, .journal⟩⟩, sent.2)
  | .event e =>
    let done := step core g.trader e
    ({ g with trader := done.1 }, done.2)
  | .resume =>
    match g.inserting with
    | none => (g, [])
    | some ⟨call, orderRef, .journal⟩ =>
      let done := journalInsert core call g.trader
      (⟨done.1, some ⟨call, orderRef, .outbound⟩⟩, done.2)
    | some ⟨call, orderRef, .outbound⟩ =>
      let done := recordOutbound call orderRef g.trader
      (⟨done.1, some ⟨call, orderRef, .inbound⟩⟩, done.2)
    | some ⟨call, orderRef, .inbound⟩ =>
      let done := recordInbound core call orderRef g.trader
      (⟨done.1, none⟩, done.2)

def gateway (core : Core) : Machine Gateway Tick Output where
  init := ⟨.initial, none⟩
  step := gatewayStep core

/-- An atomic call as the gateway executes it when nothing comes in between. -/
def uninterrupted : Event → List Tick
  | .insertOrder call => [.event (.insertOrder call), .resume, .resume, .resume]
  | e => [.event e]

/-- An atomic call leaves what its uninterrupted effects leave. -/
theorem execFrom_uninterrupted (core : Core) (s : TraderTora) (e : Event) :
    (gateway core).execFrom ⟨s, none⟩ (uninterrupted e) = ⟨((adapter core).step s e).1, none⟩ := by
  cases e <;> rfl

/-- Atomic runs are the uninterrupted runs of the gateway. -/
theorem gateway_exec_uninterrupted (core : Core) (es : List Event) :
    (gateway core).exec (es.flatMap uninterrupted) = ⟨(adapter core).exec es, none⟩ :=
  (adapter core).execFrom_expand (gateway core) (fun s => ⟨s, none⟩) uninterrupted
    (execFrom_uninterrupted core) TraderTora.initial es

/-- They put out the same, in the same order. -/
theorem gateway_outputs_uninterrupted (core : Core) (es : List Event) :
    (gateway core).log (fun g t => (gatewayStep core g t).2) (es.flatMap uninterrupted) =
      (adapter core).log (fun s e => (step core s e).2) es := by
  apply (adapter core).logFrom_expand (gateway core) (fun s => ⟨s, none⟩) uninterrupted
    (execFrom_uninterrupted core)
  intro s e
  cases e with
  | insertOrder call => rfl
  | _ => exact List.append_nil _

/-! ## The login in an event -/

/-- The session that an event installs, if it is a successful login. -/
def loginOf : Event → Option RspUserLoginField
  | .onRspUserLogin field info _ => if isError info then none else field
  | _ => none

/-- The order id that an event inserts. -/
def insertedId : Event → Option UInt64
  | .insertOrder call => some call.input.orderId
  | _ => none

/-! ## What a run records

The history of a run as lists: the orders inserted, the references sent, the
bindings of order numbers, the journal. -/

/-- An order as it was inserted: the call, the reference sent with it and the session
it was sent in. -/
structure Entry where
  call : InsertCall
  orderRef : Int32
  frontId : Int32
  sessionId : Int32

namespace Entry

def orderId (w : Entry) : UInt64 := w.call.input.orderId

def triple (w : Entry) : Int32 × Int32 × Int32 := (w.frontId, w.sessionId, w.orderRef)

def record (w : Entry) : ToraOrder := outboundRecord w.call w.orderRef w.frontId w.sessionId

def key (core : Core) (w : Entry) : UInt64 :=
  getOrderRefKey core w.frontId w.sessionId w.orderRef

/-- The key that `orders_` is given. -/
def uid (core : Core) (w : Entry) : UInt64 := core.orderUid (initialOrder core w.call)

def state (core : Core) (w : Entry) : StateOf Order :=
  ⟨w.call.dest, w.call.source, w.call.nano, initialOrder core w.call⟩

end Entry

/-- The key under which returns about the order of a record come in. -/
def ToraOrder.key (core : Core) (record : ToraOrder) : UInt64 :=
  getOrderRefKey core record.frontId record.sessionId record.orderRef

def ToraOrder.triple (record : ToraOrder) : Int32 × Int32 × Int32 :=
  (record.frontId, record.sessionId, record.orderRef)

def entries (s : TraderTora) : Event → List Entry
  | .insertOrder call => [⟨call, s.orderRef, s.frontId, s.sessionId⟩]
  | _ => []

/-- A write of `inbound_order_sysids_`: the order number, the triple of the order the
message was about, the order id it was bound to. -/
structure Binding where
  frontId : Int32
  sessionId : Int32
  orderRef : Int32
  exchangeId : TTORATstpExchangeIDType
  orderSysId : CharBuf
  orderId : UInt64

namespace Binding

def triple (b : Binding) : Int32 × Int32 × Int32 := (b.frontId, b.sessionId, b.orderRef)

def number (b : Binding) : TTORATstpExchangeIDType × CharBuf := (b.exchangeId, b.orderSysId)

def key (core : Core) (b : Binding) : UInt64 := getOrderSysIdKey core b.exchangeId b.orderSysId

end Binding

/-- The order reference and the exchange number that an answer or a return carries. -/
def numberReport : Event → Option (Int32 × TTORATstpExchangeIDType × CharBuf)
  | .onRspOrderInsert field _ => some (field.orderRef, field.exchangeId, field.orderSysId)
  | .onRtnOrder field _ => some (field.orderRef, field.exchangeId, field.orderSysId)
  | _ => none

/-- `OnRspOrderInsert` comes to the session that sent the order and carries no ids, so
it is about that session's order; `OnRtnOrder` names the triple it is about. -/
def bindings (core : Core) (s : TraderTora) : Event → List Binding
  | .onRspOrderInsert field info =>
    ((numberedOrder core s field info).map fun orderId =>
      ⟨s.frontId, s.sessionId, field.orderRef, field.exchangeId, field.orderSysId, orderId⟩).toList
  | .onRtnOrder field _ =>
    if field.orderSysId.strlen = 0 then []
    else
      ((reportedOrder core s field).map fun orderId =>
        ⟨field.frontId, field.sessionId, field.orderRef, field.exchangeId, field.orderSysId,
          orderId⟩).toList
  | _ => []

/-- The reference that a request takes. -/
def Output.takenRef : Output → Option Int32
  | .reqOrderInsert req _ => some req.orderRef
  | .reqOrderAction req _ => some req.orderActionRef
  | _ => none

/-- The references in a step's requests, with the session they are sent under. -/
def sentRefs (core : Core) (s : TraderTora) (e : Event) : List ((Int32 × Int32) × Int32) :=
  ((step core s e).2.filterMap Output.takenRef).map fun r => ((s.frontId, s.sessionId), r)

/-- The order references that a step hashes, with the session of the key. -/
def usedRefs (s : TraderTora) : Event → List ((Int32 × Int32) × Int32)
  | .insertOrder _ => [((s.frontId, s.sessionId), s.orderRef)]
  | .onRspOrderInsert field info =>
    if isError info then [] else [((s.frontId, s.sessionId), field.orderRef)]
  | .onRtnOrder field _ =>
    if s.turnsAway field.frontId field.sessionId then []
    else [((s.frontId, s.sessionId), field.orderRef)]
  | .onErrRtnOrderInsert field info _ =>
    if isError info then [((s.frontId, s.sessionId), field.orderRef)] else []
  | _ => []

/-- The exchange codes and order numbers that a step hashes. -/
def usedNumbers (core : Core) (s : TraderTora) (e : Event) :
    List (TTORATstpExchangeIDType × CharBuf) :=
  (bindings core s e).map Binding.number ++
    match e with
    | .onRtnTrade field _ _ => [(field.exchangeId, field.orderSysId)]
    | _ => []

/-! ## What a run may assume of its environment -/

/-- Inserted order ids are distinct. -/
def FreshOrderIds (es : List Event) : Prop := (es.filterMap insertedId).Nodup

/-- `hash_32` has no collisions on the order references used in a run. -/
def RefsHashApart (core : Core) (es : List Event) : Prop :=
  ∀ u ∈ (adapter core).log usedRefs es, ∀ v ∈ (adapter core).log usedRefs es,
    hashOrderRef core u.2 = hashOrderRef core v.2 → u.2 = v.2

/-- No two different (front, session) pairs under which orders are inserted or looked up
in a run agree modulo 2^16 in both components. -/
def SessionsApart (core : Core) (es : List Event) : Prop :=
  ∀ u ∈ (adapter core).log usedRefs es, ∀ v ∈ (adapter core).log usedRefs es,
    low16 u.1.1 = low16 v.1.1 → low16 u.1.2 = low16 v.1.2 → u.1 = v.1

/-- `hash_32` has no collisions on the exchange codes and order numbers used in a run. -/
def NumbersHashApart (core : Core) (es : List Event) : Prop :=
  ∀ u ∈ (adapter core).log (usedNumbers core) es,
    ∀ v ∈ (adapter core).log (usedNumbers core) es,
      core.hash32 [u.1] = core.hash32 [v.1] → core.hash32 u.2 = core.hash32 v.2 → u = v

/-- Every login's `MaxOrderRef` is at least every reference already sent under the
session it installs. -/
def LoginsRespectRefs (core : Core) (es : List Event) : Prop :=
  Along (fun before e => ∀ login ∈ loginOf e,
    ∀ u ∈ (adapter core).log (sentRefs core) before,
      u.1 = (login.frontId, login.sessionId) → u.2.toInt ≤ login.maxOrderRef.toInt) es

/-- `order_ref_` is never incremented past the largest `int`. -/
def RefsBelowLimit (core : Core) (es : List Event) : Prop :=
  Along (fun before e =>
    (∀ login ∈ loginOf e, login.maxOrderRef ≠ Int32.maxValue) ∧
    (sentRefs core ((adapter core).exec before) e ≠ [] →
      ((adapter core).exec before).orderRef ≠ Int32.maxValue)) es

section Decidable

variable (core : Core) (es : List Event)

instance : Decidable (FreshOrderIds es) := inferInstanceAs (Decidable (List.Nodup _))

instance : Decidable (RefsHashApart core es) :=
  inferInstanceAs (Decidable (∀ u ∈ _, ∀ v ∈ _, _ → _))

instance : Decidable (SessionsApart core es) :=
  inferInstanceAs (Decidable (∀ u ∈ _, ∀ v ∈ _, _ → _ → _))

instance : Decidable (NumbersHashApart core es) :=
  inferInstanceAs (Decidable (∀ u ∈ _, ∀ v ∈ _, _ → _ → _))

instance : Decidable (LoginsRespectRefs core es) := inferInstanceAs (Decidable (Along _ es))

instance : Decidable (RefsBelowLimit core es) := inferInstanceAs (Decidable (Along _ es))

end Decidable

end KungfuTora
