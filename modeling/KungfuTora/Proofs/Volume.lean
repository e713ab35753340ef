import Mathlib.Algebra.BigOperators.Group.List.Basic
import KungfuTora.Proofs.FirstRecord
import KungfuTora.Proofs.Numbers
import KungfuTora.Proofs.Products
import KungfuTora.Proofs.Trades

/-!
# Volume is conserved between orders and trades

Within one login session the last return about an order and the trades about it are all
published under the order, each once. Their volumes are products of a count in the message
and one multiplier. The order's volume and the trades' are multiplied in 32 bits, what is
left of the order in 64, so volume is conserved as long as nothing outgrows 32 bits.
-/

namespace KungfuTora

open TraderTora

/-! ## The messages about an order -/

/-- After `before`, a message of the current session with the reference is about the order:
it is the last one that was sent with it. -/
def About (core : Core) (before : List Event) (orderRef : Int32) (orderId : UInt64) : Prop :=
  LastSent core before
    (((adapter core).exec before).frontId, ((adapter core).exec before).sessionId, orderRef) orderId

instance (core : Core) (before : List Event) (orderRef : Int32) (orderId : UInt64) :
    Decidable (About core before orderRef orderId) :=
  inferInstanceAs (Decidable (LastSent _ _ _ _))

/-- The exchange number that a message reports, and the reference it reports it for: an
answer without error does, and a return that says something and carries a number. -/
def reportedNumber : Event → Option (Int32 × TTORATstpExchangeIDType × CharBuf)
  | .onRspOrderInsert field info =>
    if isError info then none else some (field.orderRef, field.exchangeId, field.orderSysId)
  | .onRtnOrder field _ =>
    if field.orderStatus = .unknown ∨ field.orderSysId.strlen = 0 then none
    else some (field.orderRef, field.exchangeId, field.orderSysId)
  | _ => none

def returnOf : Event → Option OrderField
  | .onRtnOrder field _ => some field
  | _ => none

/-- The reference of an order that is refused. -/
def refusedRef : Event → Option Int32
  | .onErrRtnOrderInsert field info _ => if isError info then some field.orderRef else none
  | _ => none

/-- The trade that a message reports, if it has the exchange number. -/
def tradeWith (number : TTORATstpExchangeIDType × CharBuf) : Event → Option TradeField
  | .onRtnTrade field _ _ =>
    if (field.exchangeId, field.orderSysId) = number then some field else none
  | _ => none

def tradesWith (number : TTORATstpExchangeIDType × CharBuf) (es : List Event) : List TradeField :=
  es.filterMap (tradeWith number)

/-- An order is inserted after `pre`, and `mid` comes after it in the same login session.
Messages with `number` are about this order and no other, the order is not refused, and
its trades come after its number has been reported. -/
structure OrderLife (core : Core) (pre : List Event) (call : InsertCall) (mid : List Event)
    (number : TTORATstpExchangeIDType × CharBuf) : Prop where
  fresh : FreshOrderIds (pre ++ .insertOrder call :: mid)
  refs : RefsHashApart core (pre ++ .insertOrder call :: mid)
  numbers : NumbersHashApart core (pre ++ .insertOrder call :: mid)
  session : ∀ e ∈ mid, loginOf e = none
  current : ∀ e ∈ mid, ∀ field ∈ returnOf e,
    field.frontId = ((adapter core).exec pre).frontId ∧
      field.sessionId = ((adapter core).exec pre).sessionId
  reports : Along (fun before e => ∀ report ∈ reportedNumber e,
    (About core (pre ++ .insertOrder call :: before) report.1 call.input.orderId ↔
      report.2 = number)) mid
  taken : Along (fun before e => ∀ orderRef ∈ refusedRef e,
    ¬ About core (pre ++ .insertOrder call :: before) orderRef call.input.orderId) mid
  traded : Along (fun before e => ∀ field ∈ tradeWith number e,
    ∃ d ∈ before, ∃ report ∈ reportedNumber d, report.2 = number) mid

/-- The return is the last one about the order, says something, counts the order's trades
and names their security and exchange. -/
structure LastReturn (core : Core) (pre : List Event) (call : InsertCall) (mid₁ : List Event)
    (field : OrderField) (now : Int64) (mid₂ : List Event)
    (number : TTORATstpExchangeIDType × CharBuf) : Prop where
  about : About core (pre ++ .insertOrder call :: mid₁) field.orderRef call.input.orderId
  last : Along (fun before e => ∀ field' ∈ returnOf e,
    ¬ About core (pre ++ .insertOrder call :: (mid₁ ++ .onRtnOrder field now :: before))
      field'.orderRef call.input.orderId) mid₂
  status : field.orderStatus ≠ .unknown
  counts : field.volumeTraded.toInt =
    ((tradesWith number (mid₁ ++ .onRtnOrder field now :: mid₂)).map fun t => t.volume.toInt).sum
  names : ∀ t ∈ tradesWith number (mid₁ ++ .onRtnOrder field now :: mid₂),
    t.securityId = field.securityId ∧ t.exchangeId = field.exchangeId

/-! ## What is published under an order -/

def Output.orderUnder (orderId : UInt64) : Output → Option Order
  | .order _ _ data => if data.orderId = orderId then some data else none
  | _ => none

def Output.tradeUnder (orderId : UInt64) : Output → Option Trade
  | .trade _ _ data => if data.orderId = orderId then some data else none
  | _ => none

/-- The orders that a run publishes under an order id, from first to last. -/
def ordersUnder (core : Core) (es : List Event) (orderId : UInt64) : List Order :=
  (adapter core).log (fun s e => (step core s e).2.filterMap (Output.orderUnder orderId)) es

def tradesUnder (core : Core) (es : List Event) (orderId : UInt64) : List Trade :=
  (adapter core).log (fun s e => (step core s e).2.filterMap (Output.tradeUnder orderId)) es

/-- What is left of the last order published and what all trades published have taken make
up the order's volume. -/
def VolumeConserved (core : Core) (es : List Event) (orderId : UInt64) : Prop :=
  ∃ last ∈ (ordersUnder core es orderId).getLast?,
    last.volumeLeft.toInt + ((tradesUnder core es orderId).map fun t => t.volume.toInt).sum =
      last.volume.toInt

instance (core : Core) (es : List Event) (orderId : UInt64) :
    Decidable (VolumeConserved core es orderId) :=
  inferInstanceAs (Decidable (∃ _ ∈ _, _))

/-- What 32 bits drop of the order's volume they also drop of what is left and of the trades. -/
def LossesBalance (core : Core) (field : OrderField) (trades : List TradeField) : Prop :=
  (field.volumeTotalOriginal.toInt * field.multi core).dropped32 =
    (field.volumeTotalOriginal.toInt - field.volumeTraded.toInt).dropped32 * field.multi core +
      (trades.map fun t => (t.volume.toInt * field.multi core).dropped32).sum

instance (core : Core) (field : OrderField) (trades : List TradeField) :
    Decidable (LossesBalance core field trades) :=
  inferInstanceAs (Decidable (_ = _))

/-! ## Before the insert -/

section Stored

variable {core : Core}

/-- The stored orders are the inserted ones. -/
theorem stored_iff_inserted (hcore : core.KeepsOrderId) (es : List Event) (orderId : UInt64) :
    (((adapter core).exec es).orders orderId).isSome ↔ orderId ∈ es.filterMap insertedId := by
  induction es using List.reverseRecOn with
  | nil => simp [adapter, TraderTora.initial]
  | append_singleton es e ih =>
    rw [Machine.exec_concat, List.filterMap_append, List.mem_append]
    cases e with
    | insertOrder call =>
      have huid := initialOrder_uid hcore call
      refine (Store.emplace_isSome _ _ _ _).trans ?_
      show orderId = _ ∨ (((adapter core).exec es).orders orderId).isSome = true ↔ _
      rw [huid, ih, or_comm]
      simp [insertedId]
    | _ =>
      refine (iff_of_eq (congrArg (fun o => Option.isSome o = true)
        (step_tables core _ rfl orderId).1)).trans ?_
      simpa [insertedId] using ih

/-- Nothing is published about an order before it is inserted. -/
theorem not_published_before_insert (hcore : core.KeepsOrderId) {pre mid : List Event}
    {call : InsertCall} (hfresh : FreshOrderIds (pre ++ .insertOrder call :: mid))
    {before after : List Event} {e : Event} (hpre : pre = before ++ e :: after) {o : Output}
    (ho : o ∈ (step core ((adapter core).exec before) e).2) :
    o.recordId ≠ some call.input.orderId := by
  intro hrecord
  have hnot : call.input.orderId ∉ pre.filterMap insertedId := (hfresh.new rfl).1
  have hstored : (((adapter core).exec before).orders call.input.orderId).isSome ∨
      insertedId e = some call.input.orderId := by
    cases hnew : insertedId e with
    | none =>
      left
      exact (adapter_integrity hcore before).stored_of_record hnew ho hrecord
    | some orderId =>
      right
      cases e with
      | insertOrder call' =>
        rw [← hrecord]
        dsimp only [step] at ho
        rw [insertOrder_outputs] at ho
        simp only [List.mem_cons, List.not_mem_nil, or_false] at ho
        rcases ho with rfl | rfl | rfl
        · simp [Output.recordId] at hrecord
        · simp only [insertedId, Option.some.injEq] at hnew
          rw [← hnew, Output.recordId, initialOrder_orderId hcore]
        · simp [Output.recordId] at hrecord
      | _ => simp [insertedId] at hnew
  apply hnot
  rw [hpre, List.filterMap_append, List.mem_append]
  rcases hstored with hstored | hinserts
  · exact Or.inl ((stored_iff_inserted hcore before _).mp hstored)
  · right
    rw [List.filterMap_cons, hinserts]
    exact List.mem_cons_self

end Stored

/-! ## Where the messages lead -/

/-- What binds a number looks the reference up. -/
theorem used_of_binding {core : Core} {s : TraderTora} {e : Event} {b : Binding}
    (hb : b ∈ bindings core s e) :
    ((s.frontId, s.sessionId), b.orderRef) ∈ usedRefs s e ∧
      reportedNumber e = some (b.orderRef, b.number) := by
  cases e with
  | onRspOrderInsert field info =>
    simp only [bindings, Option.mem_toList, Option.map_eq_some_iff] at hb
    obtain ⟨orderId, hnumbered, rfl⟩ := hb
    have herror := ((numberedOrder_eq_some core s field info orderId).mp hnumbered).1
    simp [usedRefs, reportedNumber, herror, Binding.number]
  | onRtnOrder field now =>
    simp only [bindings] at hb
    split at hb
    · simp at hb
    · rename_i hlen
      simp only [Option.mem_toList, Option.map_eq_some_iff] at hb
      obtain ⟨orderId, hreported, rfl⟩ := hb
      obtain ⟨hpass, -, hstatus, -⟩ := (reportedOrder_eq_some core s field orderId).mp hreported
      have hturn := (turnsAway_eq_false s field.frontId field.sessionId).mpr hpass
      simp [usedRefs, reportedNumber, hturn, hstatus, hlen, Binding.number]
  | _ => simp [bindings] at hb

namespace OrderLife

variable {core : Core} {pre mid before after : List Event} {call : InsertCall} {e : Event}
  {number : TTORATstpExchangeIDType × CharBuf}

theorem split (pre : List Event) (call : InsertCall) (hmid : mid = before ++ e :: after) :
    pre ++ .insertOrder call :: mid = (pre ++ .insertOrder call :: before) ++ e :: after := by
  rw [hmid, List.append_assoc, List.cons_append]

/-- A reference that a message looks up leads to the order if and only if the message is
about it. -/
theorem find_iff_about (h : OrderLife core pre call mid number)
    (hmid : mid = before ++ e :: after) (orderRef : Int32) :
    let s := (adapter core).exec (pre ++ .insertOrder call :: before)
    ((s.frontId, s.sessionId), orderRef) ∈ usedRefs s e →
    (s.findOrderRef core orderRef = some call.input.orderId ↔
      About core (pre ++ .insertOrder call :: before) orderRef call.input.orderId) := by
  intro s hused
  have hsplit := split pre call hmid
  have hfresh := h.fresh
  have hrefs := h.refs
  rw [hsplit] at hfresh hrefs
  apply findOrderRef_iff_lastSent hfresh.of_append ?_ hrefs.of_append
  · intro w hw hhash
    have hmem := ((adapter core).mem_log usedRefs _ _).mpr ⟨_, e, after, rfl, hused⟩
    exact hrefs _ ((adapter core).mem_log_append _ _ (used_of_entry hw)) _ hmem hhash
  · intro d hd
    exact h.session d (by rw [hmid]; exact List.mem_append_left _ hd)

/-- A message binds its number to the order if and only if the number is the order's. -/
theorem binding_iff (h : OrderLife core pre call mid number) (hmid : mid = before ++ e :: after)
    {b : Binding}
    (hb : b ∈ bindings core ((adapter core).exec (pre ++ .insertOrder call :: before)) e) :
    b.orderId = call.input.orderId ↔ b.number = number := by
  obtain ⟨hused, hreported⟩ := used_of_binding hb
  have hfind := (bindings_spec hb).2
  rw [← h.reports before e after hmid _ hreported, ← h.find_iff_about hmid b.orderRef hused, hfind,
    Option.some.injEq]

/-- The session at a later message is the one of the insert. -/
theorem session_at (h : OrderLife core pre call mid number) (hmid : mid = before ++ e :: after) :
    let s := (adapter core).exec (pre ++ .insertOrder call :: before)
    s.frontId = ((adapter core).exec pre).frontId ∧
      s.sessionId = ((adapter core).exec pre).sessionId := by
  apply session_of_insert call rfl
  intro d hd
  exact h.session d (by rw [hmid]; exact List.mem_append_left _ hd)

/-- A return of the current session gets through the filter. -/
theorem not_turnedAway (h : OrderLife core pre call mid number) {field : OrderField} {now : Int64}
    (hmid : mid = before ++ .onRtnOrder field now :: after) :
    let s := (adapter core).exec (pre ++ .insertOrder call :: before)
    (field.frontId = s.frontId ∧ field.sessionId = s.sessionId) ∧
      ((s.frontId, s.sessionId), field.orderRef) ∈ usedRefs s (.onRtnOrder field now) := by
  intro s
  obtain ⟨hfront, hsess⟩ := h.session_at hmid
  obtain ⟨hfront', hsess'⟩ :=
    h.current (.onRtnOrder field now) (by rw [hmid]; simp) field rfl
  have hcurrent : field.frontId = s.frontId ∧ field.sessionId = s.sessionId :=
    ⟨hfront'.trans hfront.symm, hsess'.trans hsess.symm⟩
  have hturn := (turnsAway_eq_false s field.frontId field.sessionId).mpr (Or.inl hcurrent.2)
  exact ⟨hcurrent, by simp [usedRefs, hturn]⟩

/-- What reports the order's number leads to the order and binds the number to it. -/
theorem binding_of_reported (h : OrderLife core pre call mid number) (hcore : core.KeepsOrderId)
    (hmid : mid = before ++ e :: after) {report : Int32 × TTORATstpExchangeIDType × CharBuf}
    (hreport : report ∈ reportedNumber e) (hnumber : report.2 = number) :
    ∃ b ∈ bindings core ((adapter core).exec (pre ++ .insertOrder call :: before)) e,
      b.number = number ∧ b.orderId = call.input.orderId := by
  have habout := (h.reports before e after hmid report hreport).mpr hnumber
  cases e with
  | onRspOrderInsert field info =>
    simp only [reportedNumber, Option.mem_def] at hreport
    cases herror : isError info with
    | true => simp [herror] at hreport
    | false =>
      simp only [herror, Bool.false_eq_true, if_false, Option.some.injEq] at hreport
      rw [← hreport] at habout hnumber
      have hfind := (h.find_iff_about hmid _ (by simp [usedRefs, herror])).mpr habout
      exact binding_of_report hcore hfind ⟨herror, rfl, hnumber⟩
  | onRtnOrder field now =>
    simp only [reportedNumber, Option.mem_def, Option.ite_none_left_eq_some, not_or,
      Option.some.injEq] at hreport
    obtain ⟨⟨hstatus, hlen⟩, hreport⟩ := hreport
    rw [← hreport] at habout hnumber
    obtain ⟨⟨hfront, hsess⟩, hused⟩ := h.not_turnedAway hmid
    have hfind := (h.find_iff_about hmid _ hused).mpr habout
    exact binding_of_report hcore hfind
      ⟨hstatus, hlen, by rw [hfront, hsess], hnumber⟩
  | _ => simp [reportedNumber] at hreport

/-- Where a trade leads that comes after the insert: to the order, if it has its number,
and to another order or none, if not. -/
theorem sysid_iff (h : OrderLife core pre call mid number) (hcore : core.KeepsOrderId)
    {field : TradeField} {frameUid : UInt64} {now : Int64}
    (hmid : mid = before ++ .onRtnTrade field frameUid now :: after) :
    ((adapter core).exec (pre ++ .insertOrder call :: before)).inboundOrderSysids
        (getOrderSysIdKey core field.exchangeId field.orderSysId) = some call.input.orderId ↔
      (field.exchangeId, field.orderSysId) = number := by
  have hlog := (adapter core).log_append_cons (bindings core) pre (.insertOrder call) before
  have hkey : ∀ b ∈ (adapter core).log (bindings core) (pre ++ .insertOrder call :: before),
      b.key core = getOrderSysIdKey core field.exchangeId field.orderSysId →
      b.number = (field.exchangeId, field.orderSysId) := by
    intro b hb
    have hused : (field.exchangeId, field.orderSysId) ∈ usedNumbers core
        ((adapter core).exec (pre ++ .insertOrder call :: before))
        (.onRtnTrade field frameUid now) := by simp [usedNumbers]
    exact number_of_key h.numbers (split pre call hmid) hused hb
  -- a binding made since the insert is to the order if and only if it is of its number
  have hsince : ∀ b ∈ (adapter core).logFrom (bindings core)
      ((adapter core).exec (pre ++ [.insertOrder call])) before,
      (b.orderId = call.input.orderId ↔ b.number = number) := by
    intro b hb
    obtain ⟨before', d, after', hbefore, hstep⟩ := binding_after_insert hb
    have hmid' : mid = before' ++ d :: (after' ++ .onRtnTrade field frameUid now :: after) := by
      simp [hmid, hbefore]
    exact h.binding_iff hmid' hstep
  constructor
  · intro hfind
    obtain ⟨b, hb, hsame, hid⟩ := binding_of_sysid hfind
    rw [← hkey b hb hsame]
    rw [hlog] at hb
    rcases List.mem_append.mp hb with hb | hb
    · -- nothing is bound to the order before its insert
      have hstored := (stored_iff_inserted hcore pre _).mp (known_of_binding hcore hb).1
      rw [hid] at hstored
      exact absurd hstored (h.fresh.new rfl).1
    · exact (hsince b hb).mp hid
  · intro hnumber
    refine sysid_of_bound hlog ?_ ?_
    · obtain ⟨d, hd, report, hreport, hsame⟩ :=
        h.traded before _ after hmid field (by simp [tradeWith, hnumber])
      obtain ⟨before', after', hbefore⟩ := List.append_of_mem hd
      have hmid' : mid = before' ++ d :: (after' ++ .onRtnTrade field frameUid now :: after) := by
        simp [hmid, hbefore]
      obtain ⟨b, hb, hbound, hid⟩ := h.binding_of_reported hcore hmid' hreport hsame
      refine ⟨b, binding_of_step hbefore hb, ?_, hid⟩
      rw [← hnumber] at hbound
      simp only [Binding.number, Prod.mk.injEq] at hbound
      rw [Binding.key, hbound.1, hbound.2]
    · intro b hb hsame
      apply (hsince b hb).mpr
      rw [← hnumber]
      exact hkey b (by rw [hlog]; exact List.mem_append_right _ hb) hsame

/-! ## What is published after the insert -/

/-- A call publishes trades under the order if and only if it is a trade with its number. -/
theorem trades_of_step (h : OrderLife core pre call mid number) (hcore : core.KeepsOrderId)
    (hmid : mid = before ++ e :: after) :
    ((step core ((adapter core).exec (pre ++ .insertOrder call :: before)) e).2.filterMap
        (Output.tradeUnder call.input.orderId)).map (fun t => t.volume) =
      ((tradeWith number e).map fun t => (fromToraTrade core t).volume).toList := by
  generalize hs : (adapter core).exec (pre ++ .insertOrder call :: before) = s
  have hintegrity := adapter_integrity hcore (pre ++ .insertOrder call :: before)
  rw [hs] at hintegrity
  cases e with
  | onRtnTrade field frameUid now =>
    have hiff := h.sysid_iff hcore hmid
    rw [hs] at hiff
    dsimp only [step, tradeWith]
    rcases onRtnTrade_eq core s field frameUid now with
      hnone | ⟨orderId, orderState, hfind, hstate, heq⟩
    · -- a bound number leads to a stored order, so the number is not bound to this one
      have hunbound : (field.exchangeId, field.orderSysId) ≠ number := by
        intro hnumber
        obtain ⟨dest, trade, houtputs, -⟩ :=
          (hintegrity.tradesUnder_iff field frameUid now _).mpr (hiff.mpr hnumber)
        dsimp only [step] at houtputs
        rw [hnone] at houtputs
        simp at houtputs
      rw [hnone, if_neg hunbound]
      rfl
    · have hid : orderState.data.orderId = orderId := hintegrity.orders _ _ hstate
      rw [hfind, Option.some.injEq] at hiff
      rw [heq]
      by_cases hnumber : (field.exchangeId, field.orderSysId) = number
      · rw [if_pos hnumber]
        simp [Output.tradeUnder, returnedTrade, hid, hiff.mpr hnumber]
      · rw [if_neg hnumber]
        have hother : orderId ≠ call.input.orderId := fun heq => hnumber (hiff.mp heq)
        simp [Output.tradeUnder, returnedTrade, hid, hother]
  | _ =>
    rw [List.map_eq_nil_iff.mpr ?_]
    · rfl
    · rw [List.filterMap_eq_nil_iff]
      intro o ho
      cases step_emits core s ho with
      | session hsession => cases o <;> simp [Output.isSession, Output.tradeUnder] at hsession ⊢
      | _ => rfl

/-- What is published under the order besides the answers to its returns: nothing. -/
theorem no_order_of_step (h : OrderLife core pre call mid number) (hcore : core.KeepsOrderId)
    (hmid : mid = before ++ e :: after)
    (hreturn : ∀ field ∈ returnOf e,
      ¬ About core (pre ++ .insertOrder call :: before) field.orderRef call.input.orderId) :
    (step core ((adapter core).exec (pre ++ .insertOrder call :: before)) e).2.filterMap
      (Output.orderUnder call.input.orderId) = [] := by
  have hfind := h.find_iff_about hmid
  dsimp only at hfind
  generalize hs : (adapter core).exec (pre ++ .insertOrder call :: before) = s at hfind ⊢
  have hintegrity := adapter_integrity hcore (pre ++ .insertOrder call :: before)
  rw [hs] at hintegrity
  rw [List.filterMap_eq_nil_iff]
  intro o ho
  cases step_emits core s ho with
  | session hsession => cases o <;> simp [Output.isSession, Output.orderUnder] at hsession ⊢
  | inserted call' =>
    have hother : (initialOrder core call').orderId ≠ call.input.orderId := by
      rw [initialOrder_orderId hcore]
      intro heq
      apply (h.fresh.new rfl).2
      rw [hmid, List.filterMap_append, List.mem_append]
      right
      rw [← heq]
      exact List.mem_cons_self
    simp [Output.orderUnder, hother]
  | reported field now orderId orderState hreported hstate =>
    have hid : orderState.data.orderId = orderId := hintegrity.orders _ _ hstate
    have hother : orderId ≠ call.input.orderId := by
      rintro rfl
      obtain ⟨hpass, hleads, -, -⟩ := (reportedOrder_eq_some core s field _).mp hreported
      have hturn := (turnsAway_eq_false s field.frontId field.sessionId).mpr hpass
      exact hreturn field rfl ((hfind field.orderRef (by simp [usedRefs, hturn])).mp hleads)
    simp [Output.orderUnder, returnedOrder, hid, hother]
  | refused field info now orderId orderState rspInfo hleads hstate =>
    have hid : orderState.data.orderId = orderId := hintegrity.orders _ _ hstate
    have hother : orderId ≠ call.input.orderId := by
      rintro rfl
      cases herror : isError info with
      | true =>
        have habout := (hfind field.orderRef (by simp [usedRefs, herror])).mp hleads
        exact h.taken before _ after hmid field.orderRef (by simp [refusedRef, herror]) habout
      | false =>
        dsimp only [step] at ho
        rw [onErrRtnOrderInsert_of_noError core s field now herror] at ho
        simp at ho
    simp [Output.orderUnder, refusedOrder, hid, hother]
  | _ => rfl

/-- The volumes of the trades published under the order are those of the trades about it. -/
theorem tradesUnder_volumes (h : OrderLife core pre call mid number) (hcore : core.KeepsOrderId) :
    (tradesUnder core (pre ++ .insertOrder call :: mid) call.input.orderId).map
        (fun t => t.volume) =
      (tradesWith number mid).map fun t => (fromToraTrade core t).volume := by
  have hpre : (adapter core).log (fun s e => (step core s e).2.filterMap
      (Output.tradeUnder call.input.orderId)) pre = [] := by
    rw [List.eq_nil_iff_forall_not_mem]
    intro trade htrade
    obtain ⟨before, e, after, hsplit, hstep⟩ := ((adapter core).mem_log _ _ _).mp htrade
    obtain ⟨o, ho, hunder⟩ := List.mem_filterMap.mp hstep
    apply not_published_before_insert hcore h.fresh hsplit ho
    cases o with
    | trade dest trigger data =>
      simp only [Output.tradeUnder, Option.ite_none_right_eq_some] at hunder
      rw [Output.recordId, hunder.1]
    | _ => simp [Output.tradeUnder] at hunder
  have hinsert : (step core ((adapter core).exec pre) (.insertOrder call)).2.filterMap
      (Output.tradeUnder call.input.orderId) = [] := rfl
  unfold tradesUnder
  rw [Machine.log_append_cons, hpre, hinsert, List.nil_append, List.nil_append,
    Machine.map_logFrom, Machine.logFrom_eq_flatMap _ _
      (fun e => ((tradeWith number e).map fun t => (fromToraTrade core t).volume).toList)]
  · rw [← List.filterMap_eq_flatMap_toList, tradesWith, List.map_filterMap]
  · intro before e after hmid
    rw [Machine.execFrom_exec_concat]
    exact h.trades_of_step hcore hmid

end OrderLife

section Last

variable {core : Core} {pre mid₁ mid₂ : List Event} {call : InsertCall} {field : OrderField}
  {now : Int64} {number : TTORATstpExchangeIDType × CharBuf}

/-- The last return is published under the order. -/
theorem LastReturn.published (hcore : core.KeepsOrderId)
    (h : OrderLife core pre call (mid₁ ++ .onRtnOrder field now :: mid₂) number)
    (hlast : LastReturn core pre call mid₁ field now mid₂ number) :
    ∃ dest data, data.orderId = call.input.orderId ∧
      (step core ((adapter core).exec (pre ++ .insertOrder call :: mid₁))
        (.onRtnOrder field now)).2 = [.order dest 0 (returnedOrder core field now data)] := by
  have hintegrity := adapter_integrity hcore (pre ++ .insertOrder call :: mid₁)
  obtain ⟨⟨-, hsess⟩, hused⟩ := h.not_turnedAway rfl
  have hfind := (h.find_iff_about rfl _ hused).mpr hlast.about
  have hknown : Known ((adapter core).exec (pre ++ .insertOrder call :: mid₁))
    call.input.orderId := hintegrity.refs _ _ hfind
  have hreported := (reportedOrder_eq_some core _ field _).mpr
    ⟨Or.inl hsess, hfind, hlast.status, hknown.1⟩
  dsimp only [step]
  rcases onRtnOrder_eq core ((adapter core).exec (pre ++ .insertOrder call :: mid₁)) field now with
    ⟨hnone, -⟩ | ⟨orderId, orderState, hsome, hstate, heq⟩
  · rw [hreported] at hnone
    cases hnone
  · rw [hreported] at hsome
    have hid : orderState.data.orderId = orderId := hintegrity.orders _ _ hstate
    rw [heq]
    exact ⟨_, _, hid.trans (Option.some.inj hsome).symm, rfl⟩

/-- The last order published under the order is the one that the last return makes. -/
theorem LastReturn.ordersUnder_getLast? (hcore : core.KeepsOrderId)
    (h : OrderLife core pre call (mid₁ ++ .onRtnOrder field now :: mid₂) number)
    (hlast : LastReturn core pre call mid₁ field now mid₂ number) :
    ∃ data, (ordersUnder core (pre ++ .insertOrder call :: (mid₁ ++ .onRtnOrder field now :: mid₂))
        call.input.orderId).getLast? = some (returnedOrder core field now data) := by
  have hrun : ∀ before, pre ++ .insertOrder call :: mid₁ ++ .onRtnOrder field now :: before =
      pre ++ .insertOrder call :: (mid₁ ++ .onRtnOrder field now :: before) := by simp
  have hafter : (adapter core).logFrom (fun s e => (step core s e).2.filterMap
      (Output.orderUnder call.input.orderId))
      ((adapter core).exec (pre ++ .insertOrder call :: mid₁ ++ [.onRtnOrder field now])) mid₂ =
      [] := by
    rw [Machine.logFrom_eq_flatMap _ _ fun _ => []]
    · simp
    · intro before e after hmid₂
      have hmid : mid₁ ++ .onRtnOrder field now :: mid₂ =
          (mid₁ ++ .onRtnOrder field now :: before) ++ e :: after := by simp [hmid₂]
      rw [Machine.execFrom_exec_concat, hrun]
      exact h.no_order_of_step hcore hmid (hlast.last before e after hmid₂)
  obtain ⟨dest, data, hid, houtputs⟩ := hlast.published hcore h
  refine ⟨data, ?_⟩
  have hunder : (returnedOrder core field now data).orderId = call.input.orderId := hid
  unfold ordersUnder
  rw [← hrun, Machine.log_append_cons, hafter, houtputs, List.append_nil]
  simp [Output.orderUnder, hunder]

end Last

/-! ## The volumes -/

section Volumes

variable (core : Core)

theorem returnedOrder_volume (field : OrderField) (now : Int64) (data : Order) :
    (returnedOrder core field now data).volume.toInt =
      (field.volumeTotalOriginal.toInt * field.multi core).bmod (2 ^ 32) :=
  fromToraOrder_volume core field data

theorem returnedOrder_volumeLeft (field : OrderField) (now : Int64) (data : Order) :
    (returnedOrder core field now data).volumeLeft.toInt =
      (field.volumeTotalOriginal.toInt - field.volumeTraded.toInt).bmod (2 ^ 32) *
        field.multi core :=
  fromToraOrder_volumeLeft core field data

/-- A trade's volume is multiplied in 32 bits, by the multiplier of the security it names. -/
theorem fromToraTrade_volume {field : OrderField} {t : TradeField}
    (hsame : t.securityId = field.securityId ∧ t.exchangeId = field.exchangeId) :
    (fromToraTrade core t).volume.toInt =
      (t.volume.toInt * field.multi core).bmod (2 ^ 32) := by
  show (Int32.toInt64 (_ * _)).toInt = _
  rw [Int32.toInt_toInt64, Int32.toInt_mul, hsame.1, hsame.2]
  rfl

/-- Nothing is dropped of counts whose multiples fit in 32 bits. -/
theorem lossesBalance_of_fits {field : OrderField} {trades : List TradeField}
    (hvolume : -2 ^ 31 ≤ field.volumeTotalOriginal.toInt * field.multi core ∧
      field.volumeTotalOriginal.toInt * field.multi core < 2 ^ 31)
    (hleft : -2 ^ 31 ≤ field.volumeTotalOriginal.toInt - field.volumeTraded.toInt ∧
      field.volumeTotalOriginal.toInt - field.volumeTraded.toInt < 2 ^ 31)
    (htrades : ∀ t ∈ trades, -2 ^ 31 ≤ t.volume.toInt * field.multi core ∧
      t.volume.toInt * field.multi core < 2 ^ 31) :
    LossesBalance core field trades := by
  have hnone : (trades.map fun t => (t.volume.toInt * field.multi core).dropped32).sum = 0 := by
    apply List.sum_eq_zero
    intro x hx
    obtain ⟨t, ht, rfl⟩ := List.mem_map.mp hx
    exact Int.dropped32_eq_zero (htrades t ht).1 (htrades t ht).2
  unfold LossesBalance
  rw [Int.dropped32_eq_zero hvolume.1 hvolume.2, Int.dropped32_eq_zero hleft.1 hleft.2, hnone]
  omega

end Volumes

/-- Within a login session, volume is conserved between an order that is not refused and its
trades, whatever the interleaving, if and only if what 32-bit arithmetic drops of the
order's volume it drops of the rest too; so it is where nothing outgrows 32 bits
(`lossesBalance_of_fits`). -/
theorem volume_conserved_iff (core : Core) (hcore : core.KeepsOrderId) (pre : List Event)
    (call : InsertCall) (mid₁ : List Event) (field : OrderField) (now : Int64)
    (mid₂ : List Event) (number : TTORATstpExchangeIDType × CharBuf)
    (hlife : OrderLife core pre call (mid₁ ++ .onRtnOrder field now :: mid₂) number)
    (hlast : LastReturn core pre call mid₁ field now mid₂ number) :
    VolumeConserved core (pre ++ .insertOrder call :: (mid₁ ++ .onRtnOrder field now :: mid₂))
        call.input.orderId ↔
      LossesBalance core field (tradesWith number (mid₁ ++ .onRtnOrder field now :: mid₂)) := by
  obtain ⟨data, hgetLast⟩ := hlast.ordersUnder_getLast? hcore hlife
  have hvolumes := congrArg (List.map Int64.toInt) (hlife.tradesUnder_volumes hcore)
  rw [List.map_map, List.map_map] at hvolumes
  have hcounts := hlast.counts
  have hnames := hlast.names
  generalize tradesWith number (mid₁ ++ .onRtnOrder field now :: mid₂) = trades at *
  have htrades : ((tradesUnder core
      (pre ++ .insertOrder call :: (mid₁ ++ .onRtnOrder field now :: mid₂))
      call.input.orderId).map fun t => t.volume.toInt).sum =
      field.volumeTraded.toInt * field.multi core -
        (trades.map fun t => (t.volume.toInt * field.multi core).dropped32).sum := by
    have hmap : trades.map (Int64.toInt ∘ fun t => (fromToraTrade core t).volume) =
        (trades.map fun t => t.volume.toInt).map fun v =>
          (v * field.multi core).bmod (2 ^ 32) := by
      rw [List.map_map]
      exact List.map_congr_left fun t ht => fromToraTrade_volume core (hnames t ht)
    have hsum := Int.sum_bmod_mul (trades.map fun t => t.volume.toInt) (field.multi core)
    rw [← hmap, ← hvolumes, ← hcounts, List.map_map] at hsum
    exact hsum
  unfold VolumeConserved LossesBalance
  rw [hgetLast]
  simp only [Option.mem_some_iff, exists_eq_left', returnedOrder_volume, returnedOrder_volumeLeft,
    htrades]
  generalize (trades.map fun t => (t.volume.toInt * field.multi core).dropped32).sum = lost
  -- what the two sides differ in is linear in the products
  have hproduct : (field.volumeTotalOriginal.toInt - field.volumeTraded.toInt).dropped32 *
      field.multi core =
      field.volumeTotalOriginal.toInt * field.multi core -
        field.volumeTraded.toInt * field.multi core -
        (field.volumeTotalOriginal.toInt - field.volumeTraded.toInt).bmod (2 ^ 32) *
          field.multi core := by
    rw [Int.dropped32, Int.sub_mul, Int.sub_mul]
  rw [hproduct, Int.dropped32]
  constructor
  · intro h
    omega
  · intro h
    omega

/-- A bond repo whose volume in lots fits in 32 bits and whose volume does not: the published
volume is negative, what is left of it is not. -/
theorem repo_volume_lost :
    let pre := [sampleLogin 3 7 10]
    let call : InsertCall :=
      { InsertCall.sample 1 100 with
        input :=
          { OrderInput.sample 100 with instrumentId := cstr "204001", volume := 2147484000 } }
    let field : OrderField :=
      { OrderField.sample 3 7 11 66 with
        securityId := cstr "204001", volumeTotalOriginal := 2147484 }
    let number := (field.exchangeId, field.orderSysId)
    (OrderLife .sample pre call [.onRtnOrder field 5] number ∧
      LastReturn .sample pre call [] field 5 [] number) ∧
      ¬ VolumeConserved .sample (pre ++ .insertOrder call :: [.onRtnOrder field 5]) 100 := by
  intro pre call field number
  refine ⟨⟨⟨?_, ?_, ?_, ?_, ?_, ?_, ?_, ?_⟩, ⟨?_, ?_, ?_, ?_, ?_⟩⟩, ?_⟩ <;> decide

/-- A trade comes between the answer and the last return. -/
theorem volume_conserved_traded :
    let pre := [sampleLogin 3 7 10]
    let mid₁ := [.onRspOrderInsert (.sample 11 66) none, .insertOrder (.sample 2 101),
      .onRtnTrade (.sample 11 66) 1 5]
    let field : OrderField :=
      { OrderField.sample 3 7 11 66 with volumeTraded := 100, orderStatus := .allTraded }
    VolumeConserved .sample
        (pre ++ .insertOrder (.sample 1 100) :: (mid₁ ++ .onRtnOrder field 6 :: [])) 100 ↔
      LossesBalance .sample field
        (tradesWith (field.exchangeId, field.orderSysId) (mid₁ ++ .onRtnOrder field 6 :: [])) := by
  intro pre mid₁ field
  refine volume_conserved_iff .sample Core.sample_keepsOrderId pre (.sample 1 100) mid₁ field 6 []
    (field.exchangeId, field.orderSysId) ⟨?_, ?_, ?_, ?_, ?_, ?_, ?_, ?_⟩ ⟨?_, ?_, ?_, ?_, ?_⟩ <;>
      decide

end KungfuTora
