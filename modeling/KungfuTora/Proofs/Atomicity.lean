import KungfuTora.Misc.Simulation
import KungfuTora.Proofs.Commutation
import KungfuTora.Proofs.SessionFrame
import KungfuTora.Proofs.Shareholder

/-!
# Interrupted inserts are atomic

The vendor's thread may come in between the effects of an `insert_order`. As long as it brings
neither a login nor a shareholder account there, the run is one of the adapter with atomic
calls in which the insert takes place at its last effect: a return that comes in between
cannot see the order, and the effects already carried out commute with it. The two runs
reach the same state, and each channel, that of the requests as well as the journal of each
order, gets the same in the same order.
-/

namespace KungfuTora

open TraderTora

/-! ## What a channel gets -/

/-- Where an output goes: to the counter as a request about an order, to the journal of an
order, or elsewhere. -/
inductive Channel where
  | requests
  | journal (orderId : UInt64)
  | rest
  deriving DecidableEq, Repr

def Output.channel : Output → Channel
  | .reqOrderInsert .. | .reqOrderAction .. => .requests
  | .order _ _ data => .journal data.orderId
  | .trade _ _ data => .journal data.orderId
  | _ => .rest

/-- What of some outputs goes to a channel, apart from request ids. -/
def onChannel (c : Channel) (os : List Output) : List Output :=
  (os.filter fun o => o.channel = c).map Output.withoutId

section Channels

variable (c : Channel) {os ps : List Output}

theorem onChannel_append (os ps : List Output) :
    onChannel c (os ++ ps) = onChannel c os ++ onChannel c ps := by
  unfold onChannel
  rw [List.filter_append, List.map_append]

theorem Output.withoutId_channel (o : Output) : o.withoutId.channel = o.channel := by
  cases o <;> rfl

theorem onChannel_congr (h : os.map Output.withoutId = ps.map Output.withoutId) :
    onChannel c os = onChannel c ps := by
  have hmap : ∀ l : List Output,
      onChannel c l = (l.map Output.withoutId).filter fun o => o.channel = c := by
    intro l
    rw [List.filter_map]
    simp only [onChannel, Function.comp_def, Output.withoutId_channel]
  rw [hmap, hmap, h]

theorem onChannel_eq_nil (h : ∀ o ∈ os, o.channel ≠ c) : onChannel c os = [] := by
  unfold onChannel
  rw [List.map_eq_nil_iff, List.filter_eq_nil_iff]
  intro o ho
  simp [h o ho]

/-- Outputs of different channels can come in either order. -/
theorem onChannel_comm (h : ∀ o ∈ os, ∀ p ∈ ps, o.channel ≠ p.channel) :
    onChannel c os ++ onChannel c ps = onChannel c ps ++ onChannel c os := by
  by_cases hp : ∃ p ∈ ps, p.channel = c
  · obtain ⟨p, hp, rfl⟩ := hp
    rw [onChannel_eq_nil _ fun o ho => h o ho p hp]
    simp
  · rw [onChannel_eq_nil c fun p (hps : p ∈ ps) hc => hp ⟨p, hps, hc⟩]
    simp

end Channels

theorem Output.channel_eq_journal {o : Output} {orderId : UInt64} :
    o.channel = .journal orderId ↔ o.recordId = some orderId := by
  cases o <;> simp [Output.channel, Output.recordId]

theorem Output.channel_of_isSession {o : Output} (h : o.isSession = true) : o.channel = .rest := by
  cases o <;> first | rfl | simp [Output.isSession] at h

/-! ## An insert halfway through -/

namespace Inserting

/-- `orders_` after the effects of the insert that have been carried out. -/
def ordersAfter (core : Core) (ins : Inserting) (m : Store UInt64 (StateOf Order)) :
    Store UInt64 (StateOf Order) :=
  match ins.stage with
  | .journal => m
  | _ =>
    m.emplace (core.orderUid (initialOrder core ins.call))
      ⟨ins.call.dest, ins.call.source, ins.call.nano, initialOrder core ins.call⟩

/-- `outbound_orders_` after them. -/
def outboundAfter (ins : Inserting) (frontId sessionId : Int32) (m : Store UInt64 ToraOrder) :
    Store UInt64 ToraOrder :=
  match ins.stage with
  | .inbound =>
    m.set ins.call.input.orderId (outboundRecord ins.call ins.orderRef frontId sessionId)
  | _ => m

/-- What the effects that have been carried out make of a state. -/
def applied (core : Core) (ins : Inserting) (s : TraderTora) : TraderTora :=
  { s with
    orderRef := s.orderRef + 1
    rid := s.rid + 1
    exchange2Shareholder := s.exchange2Shareholder.emplace ins.call.input.exchangeId []
    orders := ins.ordersAfter core s.orders
    outboundOrders := ins.outboundAfter s.frontId s.sessionId s.outboundOrders }

/-- What they put out. -/
def putOut (core : Core) (ins : Inserting) (s : TraderTora) : List Output :=
  .reqOrderInsert (insertRequest core ins.call.input s) (s.rid + 1) ::
    match ins.stage with
    | .journal => []
    | _ => [.order ins.call.source ins.call.genTime (initialOrder core ins.call)]

variable {core : Core} {ins : Inserting} {s : TraderTora}

theorem ordersAfter_other (hcore : core.KeepsOrderId) (m : Store UInt64 (StateOf Order))
    {k : UInt64} (h : k ≠ ins.call.input.orderId) : ins.ordersAfter core m k = m k := by
  unfold ordersAfter
  cases ins.stage with
  | journal => rfl
  | outbound | inbound =>
    dsimp only
    rw [Store.emplace_apply, initialOrder_uid hcore, if_neg h]

theorem outboundAfter_other (frontId sessionId : Int32) (m : Store UInt64 ToraOrder) {k : UInt64}
    (h : k ≠ ins.call.input.orderId) : ins.outboundAfter frontId sessionId m k = m k := by
  unfold outboundAfter
  cases ins.stage with
  | inbound => exact Store.set_other m _ h
  | journal | outbound => rfl

/-- Another order's record can be changed before the insert or after it. -/
theorem outboundAfter_modify (frontId sessionId : Int32) (m : Store UInt64 ToraOrder) {k : UInt64}
    (h : k ≠ ins.call.input.orderId) (f : ToraOrder → ToraOrder) :
    (ins.outboundAfter frontId sessionId m).modify k f =
      ins.outboundAfter frontId sessionId (m.modify k f) := by
  unfold outboundAfter
  cases ins.stage with
  | inbound => exact Store.set_modify_comm m _ f (Ne.symm h)
  | journal | outbound => rfl

end Inserting

/-! ## What comes in between -/

/-- The callbacks about an order. -/
def Event.isReturn : Event → Bool
  | .onRspOrderInsert .. | .onRtnOrder .. | .onErrRtnOrderInsert .. | .onRtnTrade .. => true
  | _ => false

theorem Event.exists_return {e : Event} (h : e.isReturn = true) :
    ∃ (a : Return) (r : Readings), e = a.event r := by
  cases e with
  | onRspOrderInsert field info => exact ⟨.rspOrderInsert field info, ⟨0, 0⟩, rfl⟩
  | onRtnOrder field now => exact ⟨.rtnOrder field, ⟨now, 0⟩, rfl⟩
  | onErrRtnOrderInsert field info now => exact ⟨.errRtnOrderInsert field info, ⟨now, 0⟩, rfl⟩
  | onRtnTrade field frameUid now => exact ⟨.rtnTrade field, ⟨now, frameUid⟩, rfl⟩
  | _ => simp [isReturn] at h

/-- No index leads to the order. -/
structure Unseen (s : TraderTora) (orderId : UInt64) : Prop where
  refs : ∀ key, s.inboundOrderRefs key ≠ some orderId
  sysids : ∀ key, s.inboundOrderSysids key ≠ some orderId

/-- An order that is not stored is led to by nothing. -/
theorem Integrity.unseen {s : TraderTora} (h : Integrity ⟨s, none⟩) {orderId : UInt64}
    (hnew : s.orders orderId = none) : Unseen s orderId := by
  have hknown : ¬ Known s orderId := by
    rintro ⟨hstored, -⟩
    simp [hnew] at hstored
  exact ⟨fun key hkey => hknown (h.refs key _ hkey), fun key hkey => hknown (h.sysids key _ hkey)⟩

section Between

variable {core : Core} {ins : Inserting} {s : TraderTora}

/-- A return commutes with the effects of an insert whose order it cannot see. -/
theorem applied_return (hcore : core.KeepsOrderId) (h : Unseen s ins.call.input.orderId)
    (a : Return) (r : Readings) :
    step core (ins.applied core s) (a.event r) =
      (ins.applied core (step core s (a.event r)).1, (step core s (a.event r)).2) := by
  have hrefs : ∀ orderRef k, s.findOrderRef core orderRef = some k →
      k ≠ ins.call.input.orderId := by
    rintro orderRef k hfind rfl
    exact h.refs _ hfind
  have horders : ∀ k, k ≠ ins.call.input.orderId →
      (ins.applied core s).orders k = s.orders k := fun k hk =>
    Inserting.ordersAfter_other hcore s.orders hk
  have houtbound : ∀ k, k ≠ ins.call.input.orderId →
      (ins.applied core s).outboundOrders k = s.outboundOrders k := fun k hk =>
    Inserting.outboundAfter_other s.frontId s.sessionId s.outboundOrders hk
  have hfindRef : ∀ orderRef, (ins.applied core s).findOrderRef core orderRef =
      s.findOrderRef core orderRef := fun _ => rfl
  cases a with
  | rspOrderInsert field info =>
    dsimp only [Return.event, step]
    unfold onRspOrderInsert
    rw [hfindRef]
    split
    · rfl
    · cases hfind : s.findOrderRef core field.orderRef with
      | none => rfl
      | some orderId =>
        have hne := hrefs _ _ hfind
        dsimp only
        rw [houtbound orderId hne]
        split
        · have hmodify := Inserting.outboundAfter_modify s.frontId s.sessionId
            s.outboundOrders hne
            fun record => { record with orderSysId := field.orderSysId.text }
          unfold Inserting.applied
          dsimp only
          rw [hmodify]
        · rfl
  | rtnOrder field =>
    dsimp only [Return.event, step]
    unfold onRtnOrder
    rw [hfindRef]
    split
    · rename_i haway
      rw [if_pos (show s.turnsAway field.frontId field.sessionId = true from haway)]
    · rename_i haway
      rw [if_neg (show ¬ s.turnsAway field.frontId field.sessionId = true from haway)]
      cases hfind : s.findOrderRef core field.orderRef with
      | none => rfl
      | some orderId =>
        dsimp only
        split
        · rfl
        · rw [horders orderId (hrefs _ _ hfind)]
          cases s.orders orderId <;> rfl
  | errRtnOrderInsert field info =>
    dsimp only [Return.event, step]
    unfold onErrRtnOrderInsert
    rw [hfindRef]
    cases info with
    | none => rfl
    | some rspInfo =>
      dsimp only
      split_ifs
      · rfl
      · cases hfind : s.findOrderRef core field.orderRef with
        | none => rfl
        | some orderId =>
          dsimp only
          rw [horders orderId (hrefs _ _ hfind)]
          cases s.orders orderId <;> rfl
  | rtnTrade field =>
    dsimp only [Return.event, step]
    unfold onRtnTrade
    have hsysids : (ins.applied core s).inboundOrderSysids = s.inboundOrderSysids := rfl
    rw [hsysids]
    cases hfind :
        s.inboundOrderSysids (getOrderSysIdKey core field.exchangeId field.orderSysId) with
    | none => rfl
    | some orderId =>
      have hne : orderId ≠ ins.call.input.orderId := by
        rintro rfl
        exact h.sysids _ hfind
      dsimp only
      rw [horders orderId hne]
      cases s.orders orderId <;> rfl

/-- So does a call that has nothing to do with orders, apart from request ids. -/
theorem applied_sessionOnly {e : Event} (he : e.sessionOnly = true) :
    (step core (ins.applied core s) e).1 = ins.applied core (step core s e).1 ∧
      (step core (ins.applied core s) e).2.map Output.withoutId =
        (step core s e).2.map Output.withoutId := by
  have hkept := sessionOnly_eq_withBooks core s he
  obtain ⟨hstate, houtputs⟩ := sessionOnly_withTraffic core s (ins.applied core s) 1 he
  refine ⟨?_, houtputs⟩
  refine Eq.trans hstate ?_
  generalize (step core s e).1 = s' at hkept ⊢
  rw [hkept]
  rfl

/-- Such a call sends no request about an order; what it journals is about stored orders. -/
theorem channel_between (hstored : Integrity ⟨s, none⟩) {e : Event}
    (he : e.isReturn = true ∨ e.sessionOnly = true) {o : Output} (ho : o ∈ (step core s e).2) :
    o.channel = .rest ∨ ∃ k, (s.orders k).isSome ∧ o.channel = .journal k := by
  have hnew : insertedId e = none := by
    cases e <;> first | rfl | simp [Event.isReturn, Event.sessionOnly] at he
  cases hc : o.channel with
  | requests =>
    cases step_emits core s ho with
    | session hsession => simp [Output.channel_of_isSession hsession] at hc
    | sent call | cancelled call => simp [Event.isReturn, Event.sessionOnly] at he
    | _ => simp [Output.channel] at hc
  | journal k =>
    exact Or.inr ⟨k, hstored.stored_of_record hnew ho (Output.channel_eq_journal.mp hc), rfl⟩
  | rest => exact Or.inl rfl

/-- Such a call leaves alone what the request of an insert is made of. -/
theorem request_between {e : Event} (he : e.isReturn = true ∨ e.sessionOnly = true) :
    (step core s e).1.orderRef = s.orderRef ∧
      (step core s e).1.exchange2Shareholder = s.exchange2Shareholder := by
  rcases he with he | he
  · obtain ⟨a, r, rfl⟩ := Event.exists_return he
    have href := congrArg Routing.orderRef (return_routing core s a r)
    refine ⟨href, ?_⟩
    rw [step_shareholder core s (by cases a <;> simp [Return.event])]
    cases a <;> rfl
  · have h := step_sessionOnly core s he
    exact ⟨congrArg Routing.orderRef h.routing, h.shareholder⟩

/-- What an insert puts out is the same before such a call and after it. -/
theorem putOut_between {e : Event} (he : e.isReturn = true ∨ e.sessionOnly = true) :
    (ins.putOut core (step core s e).1).map Output.withoutId =
      (ins.putOut core s).map Output.withoutId := by
  obtain ⟨href, hshareholder⟩ : (step core s e).1.orderRef = s.orderRef ∧
      (step core s e).1.exchange2Shareholder = s.exchange2Shareholder := request_between he
  have hrequest : insertRequest core ins.call.input (step core s e).1 =
      insertRequest core ins.call.input s := by
    unfold insertRequest
    rw [href, hshareholder]
  unfold Inserting.putOut
  rw [hrequest]
  rfl

/-- The insert and the call write to different channels. -/
theorem channels_between (hcore : core.KeepsOrderId) (hstored : Integrity ⟨s, none⟩)
    (hnew : s.orders ins.call.input.orderId = none) {e : Event}
    (he : e.isReturn = true ∨ e.sessionOnly = true) :
    ∀ p ∈ ins.putOut core s, ∀ o ∈ (step core s e).2, p.channel ≠ o.channel := by
  intro p hp o ho
  have hp : p.channel = .requests ∨ p.channel = .journal ins.call.input.orderId := by
    unfold Inserting.putOut at hp
    rcases List.mem_cons.mp hp with rfl | hp
    · exact Or.inl rfl
    · cases hstage : ins.stage with
      | journal => simp [hstage] at hp
      | outbound | inbound =>
        rw [hstage, List.mem_singleton] at hp
        rw [hp]
        exact Or.inr (congrArg Channel.journal (initialOrder_orderId hcore ins.call))
  rcases channel_between hstored he ho with ho | ⟨k, hk, ho⟩ <;> rw [ho]
  · rcases hp with hp | hp <;> rw [hp] <;> simp
  · rcases hp with hp | hp <;> rw [hp]
    · simp
    · rintro heq
      rw [← Channel.journal.inj heq, hnew] at hk
      simp at hk

end Between

/-! ## The run with atomic inserts -/

/-- Whether a call may come in between the effects of an insert: a return, or a call that
has nothing to do with orders, shareholders and the session's ids. A second insert has to
wait. -/
def Tick.comesBetween : Tick → Bool
  | .event e => e.isReturn || e.sessionOnly || (insertedId e).isSome
  | .resume => true

/-- Only such calls come in between the effects of the inserts of a run. -/
def Undisturbed (core : Core) (ts : List Tick) : Prop :=
  Along (fun before t =>
    ((gateway core).exec before).inserting.isSome → t.comesBetween = true) ts

instance (core : Core) (ts : List Tick) : Decidable (Undisturbed core ts) :=
  inferInstanceAs (Decidable (Along _ ts))

/-- The atomic calls that a tick completes: an insert with its last effect. -/
def completes (g : Gateway) : Tick → List Event
  | .event (.insertOrder _) => []
  | .event e => [e]
  | .resume =>
    match g.inserting with
    | some ⟨call, _, .inbound⟩ => [.insertOrder call]
    | _ => []

/-- The run of atomic calls that a run comes to. -/
def atomicRun (core : Core) (ts : List Tick) : List Event := (gateway core).log completes ts

/-- The state of the gateway is the atomic one with the effects of the insert under way. -/
structure Ahead (core : Core) (g : Gateway) (s : TraderTora) : Prop where
  trader : g.trader = g.inserting.elim s fun ins => ins.applied core s
  orderRef : ∀ ins ∈ g.inserting, ins.orderRef = s.orderRef
  integrity : Integrity ⟨s, none⟩
  unseen : ∀ ins ∈ g.inserting, s.orders ins.call.input.orderId = none

/-- What the insert under way has put out. -/
def Gateway.putOut (core : Core) (g : Gateway) (s : TraderTora) : List Output :=
  g.inserting.elim [] fun ins => ins.putOut core s

section Simulation

variable {core : Core} {g : Gateway} {s : TraderTora}

/-- A call that the gateway carries out is carried out by the atomic adapter, too. -/
theorem Ahead.event (hcore : core.KeepsOrderId) (h : Ahead core g s) {e : Event}
    (he : insertedId e = none)
    (hbetween : g.inserting.isSome → e.isReturn = true ∨ e.sessionOnly = true) (c : Channel) :
    Ahead core ⟨(step core g.trader e).1, g.inserting⟩ (step core s e).1 ∧
      onChannel c (g.putOut core s) ++ onChannel c (step core g.trader e).2 =
        onChannel c (step core s e).2 ++
          onChannel c (Gateway.putOut core ⟨(step core g.trader e).1, g.inserting⟩
            (step core s e).1) := by
  have hintegrity : Integrity ⟨(step core s e).1, none⟩ := h.integrity.event he
  obtain ⟨trader, inserting⟩ := g
  cases inserting with
  | none =>
    obtain rfl : trader = s := h.trader
    refine ⟨⟨rfl, by simp, hintegrity, by simp⟩, ?_⟩
    exact (List.append_nil _).symm
  | some ins =>
    have hcall := hbetween rfl
    have hnew : s.orders ins.call.input.orderId = none := h.unseen ins rfl
    obtain rfl : trader = ins.applied core s := h.trader
    have hstep : (step core (ins.applied core s) e).1 = ins.applied core (step core s e).1 ∧
        (step core (ins.applied core s) e).2.map Output.withoutId =
          (step core s e).2.map Output.withoutId := by
      rcases hcall with hreturn | hsession
      · obtain ⟨a, r, rfl⟩ := Event.exists_return hreturn
        rw [applied_return hcore (h.integrity.unseen hnew) a r]
        exact ⟨rfl, rfl⟩
      · exact applied_sessionOnly hsession
    refine ⟨⟨hstep.1, ?_, hintegrity, ?_⟩, ?_⟩
    · intro ins' hins'
      rw [(request_between hcall).1]
      exact h.orderRef ins' hins'
    · intro ins' hins'
      obtain rfl := Option.some.inj hins'
      rw [(step_tables core s he _).1]
      exact hnew
    · show onChannel c (ins.putOut core s) ++ _ = _ ++ onChannel c (ins.putOut core _)
      rw [onChannel_congr c hstep.2, onChannel_congr c (putOut_between hcall)]
      exact onChannel_comm c (channels_between hcore h.integrity hnew hcall)

/-- The next stage of the insert under way is about the same order. -/
theorem Ahead.next (h : Ahead core g s) {call : InsertCall} {orderRef : Int32}
    {stage stage' : InsertStage} (hins : g.inserting = some ⟨call, orderRef, stage⟩) :
    ∀ ins ∈ some (Inserting.mk call orderRef stage'), ins.orderRef = s.orderRef := by
  intro ins hins'
  rw [← Option.some.inj hins']
  exact h.orderRef ⟨call, orderRef, stage⟩ hins

theorem Ahead.stillUnseen (h : Ahead core g s) {call : InsertCall} {orderRef : Int32}
    {stage stage' : InsertStage} (hins : g.inserting = some ⟨call, orderRef, stage⟩) :
    ∀ ins ∈ some (Inserting.mk call orderRef stage'),
      s.orders ins.call.input.orderId = none := by
  intro ins hins'
  rw [← Option.some.inj hins']
  exact h.unseen ⟨call, orderRef, stage⟩ hins

/-- The calls of the atomic adapter that a tick comes to keep it one insert behind. -/
theorem Ahead.tick (hcore : core.KeepsOrderId) (h : Ahead core g s) (t : Tick)
    (hbetween : g.inserting.isSome → t.comesBetween = true)
    (hfresh : ∀ call ∈ beginsInsert g t, g.trader.orders call.input.orderId = none)
    (c : Channel) :
    Ahead core (gatewayStep core g t).1 ((adapter core).execFrom s (completes g t)) ∧
      onChannel c (g.putOut core s) ++ onChannel c (gatewayStep core g t).2 =
        (adapter core).logFrom (fun s e => onChannel c (step core s e).2) s (completes g t) ++
          onChannel c ((gatewayStep core g t).1.putOut core
            ((adapter core).execFrom s (completes g t))) := by
  have hstep := gatewayStep_ticks core g t
  generalize gatewayStep core g t = r at hstep ⊢
  cases hstep with
  | @event e he =>
    have hcompletes : completes g (.event e) = [e] := by
      cases e <;> first | rfl | simp [insertedId] at he
    rw [hcompletes]
    have hcall : g.inserting.isSome → e.isReturn = true ∨ e.sessionOnly = true := by
      intro hins
      have := hbetween hins
      simpa [Tick.comesBetween, he] using this
    obtain ⟨hahead, hlogs⟩ := h.event hcore he hcall c
    refine ⟨hahead, ?_⟩
    rw [hlogs]
    simp [Machine.logFrom, Machine.execFrom, adapter]
  | begins call hidle =>
    obtain ⟨trader, inserting⟩ := g
    obtain rfl : inserting = none := hidle
    obtain rfl : trader = s := h.trader
    have hnew : trader.orders call.input.orderId = none :=
      hfresh call (by simp [beginsInsert])
    refine ⟨⟨rfl, ?_, h.integrity, ?_⟩, rfl⟩
    · intro ins hins
      rw [← Option.some.inj hins]
      rfl
    · intro ins hins
      rw [← Option.some.inj hins]
      exact hnew
  | busy call ins hins => exact ⟨h, List.append_nil _⟩
  | idle hidle =>
    obtain ⟨trader, inserting⟩ := g
    obtain rfl : inserting = none := hidle
    exact ⟨h, List.append_nil _⟩
  | journals call orderRef hins =>
    obtain ⟨trader, inserting⟩ := g
    obtain rfl : inserting = some ⟨call, orderRef, .journal⟩ := hins
    obtain rfl : trader = Inserting.applied core ⟨call, orderRef, .journal⟩ s := h.trader
    refine ⟨⟨rfl, h.next rfl, h.integrity, h.stillUnseen rfl⟩, ?_⟩
    rw [← onChannel_append]
    rfl
  | recordsOutbound call orderRef hins =>
    obtain ⟨trader, inserting⟩ := g
    obtain rfl : inserting = some ⟨call, orderRef, .outbound⟩ := hins
    obtain rfl : trader = Inserting.applied core ⟨call, orderRef, .outbound⟩ s := h.trader
    refine ⟨⟨rfl, h.next rfl, h.integrity, h.stillUnseen rfl⟩, ?_⟩
    rw [← onChannel_append]
    rfl
  | recordsInbound call orderRef hins =>
    obtain ⟨trader, inserting⟩ := g
    obtain rfl : inserting = some ⟨call, orderRef, .inbound⟩ := hins
    obtain rfl : trader = Inserting.applied core ⟨call, orderRef, .inbound⟩ s := h.trader
    obtain rfl : orderRef = s.orderRef := h.orderRef _ rfl
    have hsend : Integrity ⟨(sendInsert core call s).1, some ⟨call, s.orderRef, .journal⟩⟩ :=
      h.integrity.send call
    have hintegrity : Integrity ⟨(insertOrder core call s).1, none⟩ :=
      ((hsend.journal hcore call s.orderRef).outbound rfl).inbound rfl
    refine ⟨⟨rfl, by simp, hintegrity, by simp⟩, ?_⟩
    rw [← onChannel_append]
    show onChannel c (insertOrder core call s).2 =
      (onChannel c (insertOrder core call s).2 ++ []) ++ []
    rw [List.append_nil, List.append_nil]

end Simulation

/-- The gateway stays one insert ahead of the atomic run, on every channel. -/
theorem gateway_ahead {core : Core} (hcore : core.KeepsOrderId) {ts : List Tick}
    (hfresh : ((insertCalls core ts).map fun call => call.input.orderId).Nodup)
    (hundisturbed : Undisturbed core ts) (c : Channel) :
    Ahead core ((gateway core).exec ts) ((adapter core).exec (atomicRun core ts)) ∧
      (gateway core).log (fun g t => onChannel c (gatewayStep core g t).2) ts =
        (adapter core).log (fun s e => onChannel c (step core s e).2) (atomicRun core ts) ++
          onChannel c (((gateway core).exec ts).putOut core
            ((adapter core).exec (atomicRun core ts))) := by
  have hnew : Along (fun before t => ∀ call ∈ beginsInsert ((gateway core).exec before) t,
      ((gateway core).exec before).trader.orders call.input.orderId = none) ts := by
    rintro before t after rfl call hcall
    by_contra hstored
    obtain ⟨st, hst⟩ := Option.ne_none_iff_exists'.mp hstored
    obtain ⟨earlier, hearlier, hby⟩ := (gateway_owned hcore before).stored _ _ hst
    have hid : call.input.orderId = earlier.input.orderId :=
      ((gateway_integrity hcore before).orders _ _ hst).symm.trans hby.orderId
    unfold insertCalls at hfresh
    rw [Machine.log_append_cons, List.map_append, List.map_append, List.nodup_append] at hfresh
    refine hfresh.2.2 earlier.input.orderId (List.mem_map_of_mem hearlier) call.input.orderId ?_
      hid.symm
    exact List.mem_append_left _ (List.mem_map_of_mem hcall)
  exact (gateway core).simulation_ahead (adapter core) (R := fun _ g s => Ahead core g s) completes
    (fun g t => onChannel c (gatewayStep core g t).2)
    (fun s e => onChannel c (step core s e).2) (fun g s => onChannel c (g.putOut core s))
    ⟨rfl, by simp [gateway], adapter_integrity hcore [], by simp [gateway]⟩ rfl
    (fun _ t _ h hA => by
      obtain ⟨hahead, hlogs⟩ := h.tick hcore t hA.1 hA.2 c
      exact ⟨hahead, hlogs⟩)
    ts (hundisturbed.and hnew)

/-- Whatever of the vendor's returns comes in between the effects of the inserts, the run is one
of atomic calls: the state is that of the atomic run, with the effects of the insert under way,
and each channel has got what the atomic run puts out there, in the same order, and what the
insert under way has. -/
theorem interleaved_as_atomic (core : Core) (hcore : core.KeepsOrderId) (ts : List Tick)
    (hfresh : ((insertCalls core ts).map fun call => call.input.orderId).Nodup)
    (hundisturbed : Undisturbed core ts) :
    let g := (gateway core).exec ts
    let s := (adapter core).exec (atomicRun core ts)
    g.trader = g.inserting.elim s (fun ins => ins.applied core s) ∧
      ∀ c, (gateway core).log (fun g t => onChannel c (gatewayStep core g t).2) ts =
        (adapter core).log (fun s e => onChannel c (step core s e).2) (atomicRun core ts) ++
          onChannel c (g.inserting.elim [] fun ins => ins.putOut core s) := by
  intro g s
  have hrun := fun c => gateway_ahead hcore hfresh hundisturbed c
  exact ⟨(hrun .rest).1.trader, fun c => (hrun c).2⟩

/-- Two returns come in between the effects of an insert, one about an order that was inserted
before and one about the order itself; then the next insert is under way. -/
theorem interleaved_as_atomic_two :
    let ts := [.event (sampleLogin 3 7 10)] ++ uninterrupted (.insertOrder (.sample 1 100)) ++
      [.event (.insertOrder (.sample 2 101)), .event (.onRtnOrder (.sample 3 7 11 65) 5), .resume,
        .event (.onRtnOrder (.sample 3 7 12 66) 6), .resume, .resume,
        .event (.insertOrder (.sample 1 102)), .resume]
    let g := (gateway .sample).exec ts
    let s := (adapter .sample).exec (atomicRun .sample ts)
    g.trader = g.inserting.elim s (fun ins => ins.applied .sample s) ∧
      ∀ c, (gateway .sample).log (fun g t => onChannel c (gatewayStep .sample g t).2) ts =
        (adapter .sample).log (fun s e => onChannel c (step .sample s e).2)
            (atomicRun .sample ts) ++
          onChannel c (g.inserting.elim [] fun ins => ins.putOut .sample s) := by
  intro ts
  exact interleaved_as_atomic .sample Core.sample_keepsOrderId ts (by decide) (by decide)

end KungfuTora
