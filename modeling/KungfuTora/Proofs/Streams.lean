import KungfuTora.Misc.Streams
import KungfuTora.Proofs.Commutation

/-!
# The counter's streams in any merge

The counter reports each order in a stream of answers, returns and trades of its own. A block
of such messages may come merged in any way. As long as the callbacks attribute each message
to the order it is about, and no two orders share a number, the tables and the journal of
each order depend on the streams only, not on how they are merged.
-/

namespace KungfuTora

open TraderTora

/-- The delivery of a message, with what its callback reads. -/
def delivery (m : Return × Readings) : Tick := .event (m.1.event m.2)

/-- What the callbacks make of every message of a block is the order it is about. -/
def ResolvedAs (core : Core) (about : Return → UInt64) (rs : List Return) (s : TraderTora) :
    Prop :=
  ∀ a ∈ rs, ∀ k ∈ a.resolves core s, k = about a

/-- Messages about different orders have no number in common. -/
def NumbersApart (core : Core) (about : Return → UInt64) (rs : List Return) : Prop :=
  ∀ a ∈ rs, ∀ b ∈ rs, ∀ key ∈ a.sysIdKey core, key ∈ b.sysIdKey core → about a = about b

instance (core : Core) (about : Return → UInt64) (rs : List Return) (s : TraderTora) :
    Decidable (ResolvedAs core about rs s) :=
  inferInstanceAs (Decidable (∀ a ∈ rs, ∀ k ∈ a.resolves core s, k = about a))

instance (core : Core) (about : Return → UInt64) (rs : List Return) :
    Decidable (NumbersApart core about rs) :=
  inferInstanceAs
    (Decidable (∀ a ∈ rs, ∀ b ∈ rs, ∀ key ∈ a.sysIdKey core, key ∈ b.sysIdKey core → _))

section Merge

variable {core : Core} {about : Return → UInt64} {rs : List Return} {s s' : TraderTora}

/-- A message leads to the same order wherever its callback reads the same. -/
theorem SameView.resolves (h : SameView s s') (a : Return)
    (hsysids : ∀ key ∈ a.sysIdKey core, s'.inboundOrderSysids key = s.inboundOrderSysids key) :
    a.resolves core s' = a.resolves core s := by
  cases a with
  | rspOrderInsert field info => exact h.numberedOrder field info
  | rtnOrder field => exact h.reportedOrder field
  | errRtnOrderInsert field info =>
    simp only [Return.resolves, h.findOrderRef]
  | rtnTrade field => exact hsysids _ rfl

/-- A message of the block leaves the others attributed, also the trades whose number
it registers. -/
theorem ResolvedAs.event (h : ResolvedAs core about rs s) (hkeys : NumbersApart core about rs)
    {a : Return} (ha : a ∈ rs) (r : Readings) :
    ResolvedAs core about rs (step core s (a.event r)).1 := by
  have hview := sameView_return core s a r
  intro b hb k hk
  cases b with
  | rtnTrade field =>
    -- the entry at the trade's key is an old one or the one that `a` makes
    have hentries : (step core s (a.event r)).1.inboundOrderSysids.All fun key k =>
        key ∈ (Return.rtnTrade field).sysIdKey core → k = about (.rtnTrade field) := by
      have hsysids := congrArg Routing.inboundOrderSysids (return_routing core s a r)
      dsimp only at hsysids
      rw [hsysids]
      refine Store.All.foldl_set ?_ ?_
      · intro key k hk hkey
        refine h _ hb k ?_
        simp only [Return.sysIdKey, Option.mem_def, Option.some.injEq] at hkey
        subst hkey
        exact hk
      · intro w hw hkey
        obtain ⟨hwkey, hwid⟩ := bindings_return hw
        rw [h a ha _ hwid]
        exact hkeys a ha _ hb _ hwkey hkey
    exact hentries _ _ hk rfl
  | _ =>
    refine h _ hb k ?_
    first
      | rwa [Return.resolves, hview.numberedOrder] at hk
      | rwa [Return.resolves, hview.reportedOrder] at hk
      | rwa [Return.resolves, hview.findOrderRef] at hk

/-- Messages about different orders are independent. -/
theorem ResolvedAs.independent (h : ResolvedAs core about rs s)
    (hkeys : NumbersApart core about rs) {a b : Return} (ha : a ∈ rs) (hb : b ∈ rs)
    (hne : about a ≠ about b) : Return.Independent core s a b where
  orders := by
    intro k hka hkb
    exact hne ((h a ha k hka).symm.trans (h b hb k hkb))
  keys := by
    intro key hka hkb
    exact hne (hkeys a ha b hb key hka hkb)

/-- What is compared of two states: the routing members and the trading day. -/
def routingView (g : Gateway) : Routing × CStr := (g.trader.toRouting, g.trader.tradingDay)

theorem sameView_of_routingView {g g' : Gateway} (h : routingView g = routingView g') :
    SameView g.trader g'.trader := by
  obtain ⟨hrouting, hday⟩ := Prod.ext_iff.mp h
  have hrouting : g'.trader.toRouting = g.trader.toRouting := hrouting.symm
  refine ⟨congrArg Routing.frontId hrouting, congrArg Routing.sessionId hrouting,
    congrArg Routing.inboundOrderRefs hrouting, ?_, congrArg Routing.orders hrouting, hday.symm⟩
  intro k
  rw [show g'.trader.outboundOrders = g.trader.outboundOrders from
    congrArg Routing.outboundOrders hrouting]

/-- Equal messages leave the same routing where it is the same before. -/
theorem return_routing_congr (h : s'.toRouting = s.toRouting) (hview : SameView s s') (a : Return)
    (r r' : Readings) :
    (step core s' (a.event r')).1.toRouting = (step core s (a.event r)).1.toRouting := by
  rw [return_routing, return_routing, hview.numbering a r r', hview.bindings a r r', h]

/-- The records about an order that a tick puts out. -/
def recordsOf (core : Core) (orderId : UInt64) (g : Gateway) (t : Tick) : List Output :=
  recordsAbout orderId (gatewayStep core g t).2

theorem gatewayStep_delivery (g : Gateway) (m : Return × Readings) :
    gatewayStep core g (delivery m) =
      (⟨(step core g.trader (m.1.event m.2)).1, g.inserting⟩,
        (step core g.trader (m.1.event m.2)).2) :=
  gatewayStep_return core g m.1 m.2

theorem recordsOf_delivery (orderId : UInt64) (g : Gateway) (m : Return × Readings) :
    recordsOf core orderId g (delivery m) =
      recordsAbout orderId (step core g.trader (m.1.event m.2)).2 := by
  unfold recordsOf
  rw [gatewayStep_delivery]

/-- The journal of an order, apart from times and frame ids, as a log of its records. -/
theorem journalOf_timeless (core : Core) (ts : List Tick) (orderId : UInt64) :
    (journalOf core ts orderId).map Output.timeless =
      (gateway core).log (recordsOf core orderId) ts := by
  induction ts using List.reverseRecOn with
  | nil => rfl
  | append_singleton ts t ih =>
    rw [journalOf_concat, List.map_append, ih, Machine.log_concat]
    rfl

/-- Equal messages act alike where the routing is the same. -/
theorem delivery_congr {g g' : Gateway} (h : routingView g = routingView g')
    {m m' : Return × Readings} (hmessage : m.1 = m'.1) :
    routingView (gatewayStep core g (delivery m)).1 =
        routingView (gatewayStep core g' (delivery m')).1 ∧
      (gatewayStep core g (delivery m)).2.map Output.timeless =
        (gatewayStep core g' (delivery m')).2.map Output.timeless := by
  obtain ⟨a, r⟩ := m
  obtain ⟨a', r'⟩ := m'
  obtain rfl : a = a' := hmessage
  have hview := sameView_of_routingView h
  obtain ⟨hrouting, hday⟩ := Prod.ext_iff.mp h
  rw [gatewayStep_delivery, gatewayStep_delivery]
  refine ⟨Prod.ext ?_ ?_, ?_⟩
  · exact (return_routing_congr hrouting.symm hview a r r').symm
  · show (step core g.trader (a.event r)).1.tradingDay =
      (step core g'.trader (a.event r')).1.tradingDay
    rw [return_tradingDay, return_tradingDay]
    exact hday
  · refine (hview.outputs a r r' ?_).symm
    intro key _
    exact congrFun (congrArg Routing.inboundOrderSysids hrouting.symm) key

/-- The counter's messages about the orders of a block can be merged in any way. -/
theorem gateway_merging (hcore : core.KeepsOrderId) (hkeys : NumbersApart core about rs) :
    Machine.Merging ((gateway core).through delivery) Prod.fst about routingView
      (fun orderId g m => recordsOf core orderId g (delivery m))
      (fun g => Integrity g ∧ ResolvedAs core about rs g.trader) (fun m => m.1 ∈ rs) where
  keeps := by
    rintro g ⟨a, r⟩ ⟨hg, hleads⟩ ha
    show Integrity (gatewayStep core g (delivery (a, r))).1 ∧
      ResolvedAs core about rs (gatewayStep core g (delivery (a, r))).1.trader
    refine ⟨hg.tick hcore _, ?_⟩
    rw [gatewayStep_delivery]
    exact hleads.event hkeys ha r
  alike := by
    rintro g g' m m' - - hview - hmessage
    obtain ⟨hnext, houtputs⟩ := delivery_congr hview hmessage
    refine ⟨hnext, ?_⟩
    intro orderId
    exact recordsAbout_congr orderId houtputs
  commute := by
    rintro g ⟨a, ra⟩ ⟨b, rb⟩ ⟨hg, hleads⟩ ha hb hne
    have hind := hleads.independent hkeys ha hb hne
    refine ⟨Prod.ext ?_ ?_, ?_⟩
    · show (gatewayStep core (gatewayStep core g (delivery (a, ra))).1
          (delivery (b, rb))).1.trader.toRouting =
        (gatewayStep core (gatewayStep core g (delivery (b, rb))).1
          (delivery (a, ra))).1.trader.toRouting
      simp only [gatewayStep_delivery]
      exact hind.routing_comm ra rb ra rb
    · show (gatewayStep core (gatewayStep core g (delivery (a, ra))).1
          (delivery (b, rb))).1.trader.tradingDay =
        (gatewayStep core (gatewayStep core g (delivery (b, rb))).1
          (delivery (a, ra))).1.trader.tradingDay
      simp only [gatewayStep_delivery, return_tradingDay]
    · intro orderId
      show recordsOf core orderId g (delivery (a, ra)) ++
          recordsOf core orderId (gatewayStep core g (delivery (a, ra))).1 (delivery (b, rb)) =
        recordsOf core orderId g (delivery (b, rb)) ++
          recordsOf core orderId (gatewayStep core g (delivery (b, rb))).1 (delivery (a, ra))
      simp only [recordsOf_delivery, gatewayStep_delivery, ← recordsAbout_append]
      exact hind.records_comm hg ra rb ra rb orderId

end Merge

/-- After any run, between two effects of an insert too: a block of returns with the same
stream of messages about each order leaves the same tables, and the same journal of every
order apart from times and frame ids, however the streams are merged. -/
theorem merged_streams (core : Core) (hcore : core.KeepsOrderId) (ts : List Tick)
    (ms ms' : List (Return × Readings)) (about : Return → UInt64)
    (hleads : ResolvedAs core about (ms.map Prod.fst) ((gateway core).exec ts).trader)
    (hkeys : NumbersApart core about (ms.map Prod.fst))
    (hstreams : ∀ orderId, (ms.map Prod.fst).filter (fun a => about a = orderId) =
      (ms'.map Prod.fst).filter fun a => about a = orderId) :
    let run := ts ++ ms.map delivery
    let run' := ts ++ ms'.map delivery
    ((gateway core).exec run).trader.toRouting = ((gateway core).exec run').trader.toRouting ∧
      ∀ orderId, (journalOf core run orderId).map Output.timeless =
        (journalOf core run' orderId).map Output.timeless := by
  have hinv : Integrity ((gateway core).exec ts) ∧
      ResolvedAs core about (ms.map Prod.fst) ((gateway core).exec ts).trader :=
    ⟨gateway_integrity hcore ts, hleads⟩
  have hadmitted' : ∀ m ∈ ms', m.1 ∈ ms.map Prod.fst := by
    intro m hm
    have hmem : m.1 ∈ (ms'.map Prod.fst).filter fun a => about a = about m.1 :=
      List.mem_filter.mpr ⟨List.mem_map_of_mem hm, by simp⟩
    rw [← hstreams (about m.1)] at hmem
    exact (List.mem_filter.mp hmem).1
  have hagree := (gateway_merging hcore hkeys).agree hinv hinv rfl
    (fun m hm => List.mem_map_of_mem hm) hadmitted' hstreams
  have hview := hagree.view
  rw [Machine.execFrom_through, Machine.execFrom_through, ← Machine.exec_append,
    ← Machine.exec_append] at hview
  refine ⟨(Prod.ext_iff.mp hview).1, ?_⟩
  intro orderId
  have hobserved := hagree.observed orderId
  rw [Machine.logFrom_through _ _ (recordsOf core orderId),
    Machine.logFrom_through _ _ (recordsOf core orderId)] at hobserved
  rw [journalOf_timeless, journalOf_timeless, Machine.log_append, Machine.log_append, hobserved]

/-- Two orders, each answered, then filled; the fills and the answers cross. -/
theorem merged_streams_two :
    let ts := [.event (sampleLogin 3 7 10)] ++ uninterrupted (.insertOrder (.sample 1 100)) ++
      uninterrupted (.insertOrder (.sample 2 101))
    let answer (ref : Int32) (c : UInt8) : Return := .rspOrderInsert (.sample ref c) none
    let fill (ref : Int32) (c : UInt8) : Return := .rtnTrade (.sample ref c)
    let ms := [(answer 11 65, ⟨1, 1⟩), (fill 11 65, ⟨2, 2⟩), (answer 12 66, ⟨3, 3⟩),
      (fill 12 66, ⟨4, 4⟩)]
    let ms' := [(answer 12 66, ⟨5, 5⟩), (answer 11 65, ⟨6, 6⟩), (fill 12 66, ⟨7, 7⟩),
      (fill 11 65, ⟨8, 8⟩)]
    let run := ts ++ ms.map delivery
    let run' := ts ++ ms'.map delivery
    ((gateway .sample).exec run).trader.toRouting =
        ((gateway .sample).exec run').trader.toRouting ∧
      ∀ orderId, (journalOf .sample run orderId).map Output.timeless =
        (journalOf .sample run' orderId).map Output.timeless := by
  intro ts answer fill ms ms'
  let about : Return → UInt64
    | .rspOrderInsert field _ => if field.orderRef = 11 then 100 else 101
    | .rtnTrade field => if field.orderRef = 11 then 100 else 101
    | _ => 0
  refine merged_streams .sample Core.sample_keepsOrderId ts ms ms' about (by decide) (by decide) ?_
  intro orderId
  by_cases h : orderId = 100
  · subst h
    rfl
  · by_cases h' : orderId = 101
    · subst h'
      rfl
    · simp [ms, ms', about, answer, fill, InputOrderField.sample, TradeField.sample, Ne.symm h,
        Ne.symm h']

end KungfuTora
