import KungfuTora.Misc.Overwriting
import KungfuTora.Proofs.Streams

/-!
# Messages delivered again

A block of returns that is delivered twice leaves the tables that one delivery leaves: what
the second delivery writes is what the first has written last. From then on every delivery
publishes the same. The order updates are the same the first time already; trades are not,
as the first delivery may register their number only later in the block. Nothing is
recognised as a duplicate.
-/

namespace KungfuTora

open TraderTora

/-- The outputs of a block of returns. -/
def delivered (core : Core) (ts : List Tick) (ms : List (Return × Readings)) : List Output :=
  (gateway core).logFrom (fun g t => (gatewayStep core g t).2) ((gateway core).exec ts)
    (ms.map delivery)

def Output.isTrade : Output → Bool
  | .trade .. => true
  | _ => false

/-- The outputs other than trades, without times. -/
def updatesAmong (os : List Output) : List Output :=
  (os.map Output.timeless).filter fun o => !o.isTrade

section Block

variable {core : Core}

theorem SameView.trans {s s' s'' : TraderTora} (h : SameView s s') (h' : SameView s' s'') :
    SameView s s'' where
  frontId := h'.frontId.trans h.frontId
  sessionId := h'.sessionId.trans h.sessionId
  refs := h'.refs.trans h.refs
  outbound := fun k => (h'.outbound k).trans (h.outbound k)
  orders := h'.orders.trans h.orders
  tradingDay := h'.tradingDay.trans h.tradingDay

/-- The readings that what a message writes is read off with; any others would do. -/
def Return.plain (a : Return) : Event := a.event ⟨0, 0⟩

/-- The records that a block numbers, read off the state before it. -/
def blockNumberings (core : Core) (s : TraderTora) (rs : List Return) : List (UInt64 × CStr) :=
  rs.flatMap fun a => (numbering core s a.plain).toList

/-- The numbers that a block binds, read off the state before it. -/
def blockBindings (core : Core) (s : TraderTora) (rs : List Return) : List Binding :=
  rs.flatMap fun a => bindings core s a.plain

theorem SameView.blockNumberings {s s' : TraderTora} (h : SameView s s') (rs : List Return) :
    KungfuTora.blockNumberings core s' rs = KungfuTora.blockNumberings core s rs := by
  simp only [KungfuTora.blockNumberings, Return.plain, h.numbering _ ⟨0, 0⟩ ⟨0, 0⟩]

theorem SameView.blockBindings {s s' : TraderTora} (h : SameView s s') (rs : List Return) :
    KungfuTora.blockBindings core s' rs = KungfuTora.blockBindings core s rs := by
  simp only [KungfuTora.blockBindings, Return.plain, h.bindings _ ⟨0, 0⟩ ⟨0, 0⟩]

def numberRecord (m : Store UInt64 ToraOrder) (n : UInt64 × CStr) : Store UInt64 ToraOrder :=
  m.modify n.1 fun record => { record with orderSysId := n.2 }

theorem numberRecord_overwrites : Overwrites numberRecord Prod.fst :=
  Store.modify_overwrites Prod.fst
    (fun n (record : ToraOrder) => { record with orderSysId := n.2 }) fun _ _ _ => rfl

theorem bind_overwrites (core : Core) :
    Overwrites (fun (m : Store UInt64 UInt64) b => m.set (b.key core) b.orderId)
      (Binding.key core) :=
  Store.set_overwrites (Binding.key core) Binding.orderId

theorem applyNumbering_eq (m : Store UInt64 ToraOrder) (n : Option (UInt64 × CStr)) :
    applyNumbering m n = n.toList.foldl numberRecord m := by
  cases n <;> rfl

/-- What a block leaves of the routing members and of what returns read. -/
theorem block_routing (core : Core) (g : Gateway) (ms : List (Return × Readings)) :
    ((gateway core).execFrom g (ms.map delivery)).trader.toRouting =
        { g.trader.toRouting with
          outboundOrders :=
            (blockNumberings core g.trader (ms.map Prod.fst)).foldl numberRecord
              g.trader.outboundOrders
          inboundOrderSysids :=
            (blockBindings core g.trader (ms.map Prod.fst)).foldl
              (fun m b => m.set (b.key core) b.orderId) g.trader.inboundOrderSysids } ∧
      SameView g.trader ((gateway core).execFrom g (ms.map delivery)).trader := by
  induction ms generalizing g with
  | nil => exact ⟨rfl, SameView.refl g.trader⟩
  | cons m ms ih =>
    obtain ⟨a, r⟩ := m
    have hstep : (gateway core).step g (delivery (a, r)) = _ := gatewayStep_delivery g (a, r)
    have hfirst : ((gateway core).step g (delivery (a, r))).1.trader =
        (step core g.trader (a.event r)).1 := by rw [hstep]
    obtain ⟨hrouting, hview⟩ := ih ((gateway core).step g (delivery (a, r))).1
    have hseen : SameView g.trader ((gateway core).step g (delivery (a, r))).1.trader := by
      rw [hfirst]
      exact sameView_return core g.trader a r
    refine ⟨?_, hseen.trans hview⟩
    refine hrouting.trans ?_
    have hself := SameView.refl g.trader
    rw [hseen.blockNumberings, hseen.blockBindings, hfirst, return_routing, applyNumbering_eq,
      hself.numbering a ⟨0, 0⟩ r, hself.bindings a ⟨0, 0⟩ r]
    simp only [blockNumberings, blockBindings, Return.plain, List.map_cons, List.flatMap_cons,
      List.foldl_append]

/-- The same messages leave the same routing and publish the same where it is the same. -/
theorem block_congr {g g' : Gateway} (h : routingView g = routingView g')
    {ms ms' : List (Return × Readings)} (hms : ms.map Prod.fst = ms'.map Prod.fst) :
    ((gateway core).logFrom (fun g t => (gatewayStep core g t).2) g (ms.map delivery)).map
        Output.timeless =
      ((gateway core).logFrom (fun g t => (gatewayStep core g t).2) g' (ms'.map delivery)).map
        Output.timeless := by
  induction ms generalizing g g' ms' with
  | nil =>
    obtain rfl : ms' = [] := List.map_eq_nil_iff.mp hms.symm
    rfl
  | cons m ms ih =>
    obtain ⟨m', ms', rfl, hmessage, hrest⟩ := List.map_eq_cons_iff.mp hms.symm
    obtain ⟨hnext, houtputs⟩ := delivery_congr h hmessage.symm
    have htail := ih hnext hrest.symm
    simp only [List.map_cons, Machine.logFrom, List.map_append]
    rw [houtputs]
    exact congrArg (_ ++ ·) htail

theorem updatesAmong_append (os os' : List Output) :
    updatesAmong (os ++ os') = updatesAmong os ++ updatesAmong os' := by
  unfold updatesAmong
  rw [List.map_append, List.filter_append]

/-- Updates do not depend on the number index. -/
theorem SameView.updates {s s' : TraderTora} (h : SameView s s') (a : Return) (r r' : Readings) :
    updatesAmong (step core s' (a.event r')).2 = updatesAmong (step core s (a.event r)).2 := by
  cases a with
  | rspOrderInsert field info =>
    dsimp only [Return.event, step]
    rcases onRspOrderInsert_eq core s field info with ⟨-, hs⟩ | ⟨_, -, hs⟩ <;>
      rcases onRspOrderInsert_eq core s' field info with ⟨-, hs'⟩ | ⟨_, -, hs'⟩ <;> rw [hs, hs']
  | rtnOrder field =>
    dsimp only [Return.event, step]
    unfold onRtnOrder turnsAway
    rw [h.findOrderRef, h.orders, h.frontId, h.sessionId]
    split
    · rfl
    · cases s.findOrderRef core field.orderRef with
      | none => rfl
      | some orderId =>
        dsimp only
        split
        · rfl
        · cases s.orders orderId <;> rfl
  | errRtnOrderInsert field info =>
    refine congrArg (List.filter fun o => !o.isTrade)
      (h.outputs (.errRtnOrderInsert field info) r r' ?_)
    intro key hkey
    simp [Return.sysIdKey] at hkey
  | rtnTrade field =>
    have hnone : ∀ (t : TraderTora) (readings : Readings),
        updatesAmong (step core t ((Return.rtnTrade field).event readings)).2 = [] := by
      intro t readings
      dsimp only [Return.event, step]
      rcases onRtnTrade_eq core t field readings.frameUid readings.nowInNano with
        heq | ⟨_, _, -, -, heq⟩ <;> rw [heq] <;> rfl
    rw [hnone, hnone]

theorem SameView.symm {s s' : TraderTora} (h : SameView s s') : SameView s' s where
  frontId := h.frontId.symm
  sessionId := h.sessionId.symm
  refs := h.refs.symm
  outbound := fun k => (h.outbound k).symm
  orders := h.orders.symm
  tradingDay := h.tradingDay.symm

/-- The updates of a block depend on what its first message sees. -/
theorem block_updates_congr {g g' : Gateway} (h : SameView g.trader g'.trader)
    {ms ms' : List (Return × Readings)} (hms : ms.map Prod.fst = ms'.map Prod.fst) :
    updatesAmong
        ((gateway core).logFrom (fun g t => (gatewayStep core g t).2) g (ms.map delivery)) =
      updatesAmong
        ((gateway core).logFrom (fun g t => (gatewayStep core g t).2) g' (ms'.map delivery)) := by
  induction ms generalizing g g' ms' with
  | nil =>
    obtain rfl : ms' = [] := List.map_eq_nil_iff.mp hms.symm
    rfl
  | cons m ms ih =>
    obtain ⟨m', ms', rfl, hmessage, hrest⟩ := List.map_eq_cons_iff.mp hms.symm
    obtain ⟨a, r⟩ := m
    obtain ⟨a', r'⟩ := m'
    obtain rfl : a' = a := hmessage
    have hnext : SameView (gatewayStep core g (delivery (a', r))).1.trader
        (gatewayStep core g' (delivery (a', r'))).1.trader := by
      rw [gatewayStep_delivery, gatewayStep_delivery]
      exact (sameView_return core g.trader a' r).symm.trans
        (h.trans (sameView_return core g'.trader a' r'))
    have hfirst : updatesAmong (gatewayStep core g (delivery (a', r))).2 =
        updatesAmong (gatewayStep core g' (delivery (a', r'))).2 := by
      rw [gatewayStep_delivery, gatewayStep_delivery]
      exact (h.updates a' r r').symm
    have htail := ih hnext hrest.symm
    simp only [List.map_cons, Machine.logFrom, updatesAmong_append]
    rw [hfirst]
    exact congrArg (_ ++ ·) htail

end Block

/-- After any run: a second delivery of a block of returns changes none of the tables, it
publishes the updates of the first, and a third publishes what the second does, apart from
times and frame ids. -/
theorem redelivery (core : Core) (ts : List Tick) (ms ms' ms'' : List (Return × Readings))
    (hsecond : ms'.map Prod.fst = ms.map Prod.fst) (hthird : ms''.map Prod.fst = ms.map Prod.fst) :
    let once := ts ++ ms.map delivery
    let twice := once ++ ms'.map delivery
    ((gateway core).exec twice).trader.toRouting = ((gateway core).exec once).trader.toRouting ∧
      updatesAmong (delivered core once ms') = updatesAmong (delivered core ts ms) ∧
      (delivered core twice ms'').map Output.timeless =
        (delivered core once ms').map Output.timeless := by
  intro once twice
  have honce : (gateway core).exec once =
      (gateway core).execFrom ((gateway core).exec ts) (ms.map delivery) :=
    (gateway core).exec_append ts _
  have htwice : (gateway core).exec twice =
      (gateway core).execFrom ((gateway core).exec once) (ms'.map delivery) :=
    (gateway core).exec_append once _
  obtain ⟨hrouting, hview⟩ := block_routing core ((gateway core).exec ts) ms
  obtain ⟨hrouting', hview'⟩ := block_routing core ((gateway core).exec once) ms'
  rw [← honce] at hrouting hview
  rw [← htwice] at hrouting' hview'
  -- the second delivery writes what the first has written
  have htables : ((gateway core).exec twice).trader.toRouting =
      ((gateway core).exec once).trader.toRouting := by
    rw [hrouting', hsecond, hview.blockNumberings, hview.blockBindings, hrouting]
    dsimp only
    rw [numberRecord_overwrites.foldl_idem, (bind_overwrites core).foldl_idem]
  refine ⟨htables, ?_, ?_⟩
  · exact block_updates_congr hview.symm hsecond
  · refine block_congr (Prod.ext htables hview'.tradingDay) ?_
    rw [hthird, hsecond]

/-- A fill that comes before the answer to its order is published from the second delivery on. -/
theorem redelivery_fill_first :
    let ts := [.event (sampleLogin 3 7 10)] ++ uninterrupted (.insertOrder (.sample 1 100))
    let block (now : Int64) (frame : UInt64) : List (Return × Readings) :=
      [(.rtnTrade (.sample 11 65), ⟨now, frame⟩),
        (.rspOrderInsert (.sample 11 65) none, ⟨now, frame⟩)]
    let once := ts ++ (block 1 1).map delivery
    let twice := once ++ (block 2 2).map delivery
    ((gateway .sample).exec twice).trader.toRouting =
        ((gateway .sample).exec once).trader.toRouting ∧
      updatesAmong (delivered .sample once (block 2 2)) =
        updatesAmong (delivered .sample ts (block 1 1)) ∧
      (delivered .sample twice (block 3 3)).map Output.timeless =
        (delivered .sample once (block 2 2)).map Output.timeless := by
  intro ts block
  exact redelivery .sample ts (block 1 1) (block 2 2) (block 3 3) rfl rfl

end KungfuTora
