import Mathlib.Data.List.Nodup
import KungfuTora.Proofs.Interleaving

/-!
# Strategies are isolated from each other

A stored order state names the source that inserted the order, the order's id and the
time of the insert, and no callback changes a stored state. So a record goes to the
source that inserted the id it carries, wherever a message was misrouted to.
-/

namespace KungfuTora

open TraderTora

/-- The `insert_order` calls that a tick begins. -/
def beginsInsert (g : Gateway) : Tick → List InsertCall
  | .event (.insertOrder call) => if g.inserting.isNone then [call] else []
  | _ => []

/-- The `insert_order` calls of a run. -/
def insertCalls (core : Core) (ts : List Tick) : List InsertCall :=
  (gateway core).log beginsInsert ts

/-- `st` is the state that the call stores. -/
structure StoredBy (call : InsertCall) (st : StateOf Order) : Prop where
  dest : st.dest = call.source
  orderId : st.data.orderId = call.input.orderId
  insertTime : st.data.insertTime = call.nano

/-- Every stored order and the order under way are from one of `calls`. -/
structure Owned (calls : List InsertCall) (g : Gateway) : Prop where
  stored : g.trader.orders.All fun _ st => ∃ call ∈ calls, StoredBy call st
  inserting : ∀ ins ∈ g.inserting, ins.call ∈ calls

section Step

variable {core : Core} {g : Gateway} {calls : List InsertCall}

/-- The initial order belongs to the call that writes it. -/
theorem storedBy_initialOrder (hcore : core.KeepsOrderId) (call : InsertCall) :
    StoredBy call ⟨call.dest, call.source, call.nano, initialOrder core call⟩ :=
  ⟨rfl, initialOrder_orderId hcore call, initialOrder_insertTime core call⟩

theorem Owned.mono (h : Owned calls g) (calls' : List InsertCall) : Owned (calls ++ calls') g where
  stored := h.stored.mono fun _ _ ⟨call, hcall, hst⟩ => ⟨call, List.mem_append_left _ hcall, hst⟩
  inserting := fun ins hins => List.mem_append_left _ (h.inserting ins hins)

theorem Owned.tick (hcore : core.KeepsOrderId) (h : Owned calls g) (t : Tick) :
    Owned (calls ++ beginsInsert g t) (gatewayStep core g t).1 := by
  have hstep := gatewayStep_ticks core g t
  generalize gatewayStep core g t = r at hstep ⊢
  have hmore := h.mono (beginsInsert g t)
  cases hstep with
  | event he =>
    refine ⟨?_, hmore.inserting⟩
    have hsame : (step core g.trader _).1.orders = g.trader.orders :=
      funext fun k => (step_tables core g.trader he k).1
    dsimp only
    rw [hsame]
    exact hmore.stored
  | begins call hidle =>
    refine ⟨hmore.stored, ?_⟩
    intro ins hins
    rw [← Option.some.inj hins]
    simp [beginsInsert, hidle]
  | busy call ins hins => exact hmore
  | idle hidle => exact hmore
  | journals call orderRef hins =>
    have hcall := hmore.inserting _ hins
    refine ⟨hmore.stored.emplace ⟨call, hcall, storedBy_initialOrder hcore call⟩, ?_⟩
    intro ins hins'
    rw [← Option.some.inj hins']
    exact hcall
  | recordsOutbound call orderRef hins =>
    have hcall := hmore.inserting _ hins
    refine ⟨hmore.stored, ?_⟩
    intro ins hins'
    rw [← Option.some.inj hins']
    exact hcall
  | recordsInbound call orderRef hins => exact ⟨hmore.stored, by simp⟩

/-- `o` is a record about the order of the call, in the channel of the call's source. -/
def RecordOf (call : InsertCall) : Output → Prop
  | .order dest _ order =>
    dest = call.source ∧ order.orderId = call.input.orderId ∧ order.insertTime = call.nano
  | .trade dest _ trade => dest = call.source ∧ trade.orderId = call.input.orderId
  | _ => False

/-- Whether an output is a record of an order or a trade. -/
def Output.isRecord : Output → Bool
  | .order .. | .trade .. => true
  | _ => false

/-- A call other than an insert publishes only about stored orders. -/
theorem Owned.record (h : Owned calls g) {e : Event} (he : insertedId e = none) {o : Output}
    (ho : o ∈ (step core g.trader e).2) (hrecord : o.isRecord = true) :
    ∃ call ∈ calls, RecordOf call o := by
  cases step_emits core g.trader ho with
  | session hsession => cases o <;> simp [Output.isSession, Output.isRecord] at hsession hrecord
  | inserted call => simp [insertedId] at he
  | reported field now orderId orderState hreported hstate =>
    obtain ⟨call, hcall, hst⟩ := h.stored _ _ hstate
    exact ⟨call, hcall, hst.dest, hst.orderId, hst.insertTime⟩
  | refused field info now orderId orderState rspInfo hfind hstate =>
    obtain ⟨call, hcall, hst⟩ := h.stored _ _ hstate
    exact ⟨call, hcall, hst.dest, hst.orderId, hst.insertTime⟩
  | traded field frameUid now orderId orderState hfind hstate =>
    obtain ⟨call, hcall, hst⟩ := h.stored _ _ hstate
    exact ⟨call, hcall, hst.dest, hst.orderId⟩
  | _ => simp [Output.isRecord] at hrecord

/-- Every record that a tick writes is about the order of a call and goes to its source. -/
theorem Owned.tick_record (hcore : core.KeepsOrderId) (h : Owned calls g) {t : Tick} {o : Output}
    (ho : o ∈ (gatewayStep core g t).2) (hrecord : o.isRecord = true) :
    ∃ call ∈ calls, RecordOf call o := by
  have hstep := gatewayStep_ticks core g t
  generalize gatewayStep core g t = r at hstep ho
  cases hstep with
  | event he => exact h.record he ho hrecord
  | begins call hidle =>
    rw [List.mem_singleton.mp ho] at hrecord
    simp [Output.isRecord] at hrecord
  | journals call orderRef hins =>
    rw [List.mem_singleton.mp ho]
    exact ⟨call, h.inserting _ hins, rfl, initialOrder_orderId hcore call,
      initialOrder_insertTime core call⟩
  | recordsInbound call orderRef hins =>
    rw [List.mem_singleton.mp ho] at hrecord
    simp [Output.isRecord] at hrecord
  | _ => simp [recordOutbound] at ho

end Step

theorem gateway_owned {core : Core} (hcore : core.KeepsOrderId) (ts : List Tick) :
    Owned (insertCalls core ts) ((gateway core).exec ts) := by
  have hinit : Owned [] (gateway core).init := ⟨Store.All.empty, by simp [gateway]⟩
  apply (gateway core).always (I := fun ts g => Owned (insertCalls core ts) g) hinit
  intro ts t h
  have hnext := h.tick hcore t
  rw [insertCalls, Machine.log_concat]
  exact hnext

/-- With distinct order ids, every record carrying an order id goes to the source that
inserted it, whatever callback writes it and whatever comes in between the effects of an
insert; order records carry the time of that insert. Every record carries an id that was
inserted, so a source's channel holds only its own orders. -/
theorem sources_isolated (core : Core) (hcore : core.KeepsOrderId) (ts : List Tick) (t : Tick)
    (hfresh : ((insertCalls core ts).map fun call => call.input.orderId).Nodup) :
    (∀ dest trigger order, .order dest trigger order ∈ (gateway core).outputs ts t →
      (∃ call ∈ insertCalls core ts, call.input.orderId = order.orderId) ∧
      ∀ call ∈ insertCalls core ts, call.input.orderId = order.orderId →
        dest = call.source ∧ order.insertTime = call.nano) ∧
    (∀ dest trigger trade, .trade dest trigger trade ∈ (gateway core).outputs ts t →
      (∃ call ∈ insertCalls core ts, call.input.orderId = trade.orderId) ∧
      ∀ call ∈ insertCalls core ts, call.input.orderId = trade.orderId → dest = call.source) := by
  have howned := gateway_owned hcore ts
  have hsame : ∀ call ∈ insertCalls core ts, ∀ call' ∈ insertCalls core ts,
      call'.input.orderId = call.input.orderId → call' = call :=
    fun _ hcall _ hcall' heq => List.inj_on_of_nodup_map hfresh hcall' hcall heq
  refine ⟨?_, ?_⟩
  · intro dest trigger order ho
    obtain ⟨call, hcall, hdest, hid, htime⟩ := howned.tick_record hcore ho rfl
    refine ⟨⟨call, hcall, hid.symm⟩, ?_⟩
    intro call' hcall' hid'
    rw [hsame call hcall call' hcall' (hid'.trans hid)]
    exact ⟨hdest, htime⟩
  · intro dest trigger trade ho
    obtain ⟨call, hcall, hdest, hid⟩ := howned.tick_record hcore ho rfl
    refine ⟨⟨call, hcall, hid.symm⟩, ?_⟩
    intro call' hcall' hid'
    rw [hsame call hcall call' hcall' (hid'.trans hid)]
    exact hdest

/-- Two strategies, and a return for the order of the second one. -/
theorem sources_isolated_two :
    let ts := .event (sampleLogin 3 7 10) ::
      (uninterrupted (.insertOrder (.sample 1 100)) ++ uninterrupted (.insertOrder (.sample 2 101)))
    ∀ dest trigger order, .order dest trigger order ∈
        (gateway .sample).outputs ts (.event (.onRtnOrder (.sample 3 7 12 65) 5)) →
      (∃ call ∈ insertCalls .sample ts, call.input.orderId = order.orderId) ∧
      ∀ call ∈ insertCalls .sample ts, call.input.orderId = order.orderId →
        dest = call.source ∧ order.insertTime = call.nano :=
  (sources_isolated .sample Core.sample_keepsOrderId _ _ (by decide)).1

end KungfuTora
