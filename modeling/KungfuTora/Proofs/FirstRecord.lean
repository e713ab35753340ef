import KungfuTora.Proofs.Isolation

/-!
# The initial record comes first

The journal is filled by `insert_order` and by callbacks that come in between its effects.
An update or a trade is published for an order that `orders_` holds, and an order gets
there by the effect that journals its initial record. So the journal of an order begins
with that record, whichever keys collide.
-/

namespace KungfuTora

open TraderTora

/-- The order that a record of an order or a trade is about. -/
def Output.recordId : Output → Option UInt64
  | .order _ _ data => some data.orderId
  | .trade _ _ data => some data.orderId
  | _ => none

/-- What the run has journaled about an order, in the order in which it was written. -/
def journalOf (core : Core) (ts : List Tick) (orderId : UInt64) : List Output :=
  ((gateway core).log (fun g t => (gatewayStep core g t).2) ts).filter
    fun o => o.recordId = some orderId

/-- Something has been journaled about every stored order. -/
def Journaled (core : Core) (ts : List Tick) (g : Gateway) : Prop :=
  ∀ orderId, (g.trader.orders orderId).isSome → journalOf core ts orderId ≠ []

section Journal

variable {core : Core} {g : Gateway} {ts : List Tick} {orderId : UInt64}

theorem journalOf_concat (core : Core) (ts : List Tick) (t : Tick) (orderId : UInt64) :
    journalOf core (ts ++ [t]) orderId =
      journalOf core ts orderId ++
        ((gateway core).outputs ts t).filter fun o => o.recordId = some orderId := by
  unfold journalOf
  rw [Machine.log_concat, List.filter_append]
  rfl

/-- A journal never loses a record. -/
theorem journalOf_concat_ne_nil (t : Tick) (h : journalOf core ts orderId ≠ []) :
    journalOf core (ts ++ [t]) orderId ≠ [] := by
  rw [journalOf_concat]
  exact List.append_ne_nil_of_left_ne_nil h _

/-- A call other than an insert publishes only about orders that are stored. -/
theorem Integrity.stored_of_record (h : Integrity g) {e : Event} (he : insertedId e = none)
    {o : Output} (ho : o ∈ (step core g.trader e).2) (hrecord : o.recordId = some orderId) :
    (g.trader.orders orderId).isSome := by
  have hstored : ∀ k orderState, g.trader.orders k = some orderState →
      orderState.data.orderId = orderId → (g.trader.orders orderId).isSome := by
    intro k orderState hstate hid
    have hkey : orderState.data.orderId = k := h.orders k orderState hstate
    rw [← hid, hkey, hstate]
    rfl
  cases step_emits core g.trader ho with
  | session hsession => cases o <;> simp [Output.isSession, Output.recordId] at hsession hrecord
  | inserted call => simp [insertedId] at he
  | reported field now k orderState hreported hstate =>
    exact hstored k orderState hstate (Option.some.inj hrecord)
  | refused field info now k orderState rspInfo hfind hstate =>
    exact hstored k orderState hstate (Option.some.inj hrecord)
  | traded field frameUid now k orderState hfind hstate =>
    exact hstored k orderState hstate (Option.some.inj hrecord)
  | _ => simp [Output.recordId] at hrecord

/-- A tick that writes a record about an order which is not stored is the effect of
`insert_order` that journals the initial order. -/
theorem Integrity.initial_of_record (hcore : core.KeepsOrderId) (h : Integrity g) {t : Tick}
    {o : Output} (ho : o ∈ (gatewayStep core g t).2) (hrecord : o.recordId = some orderId)
    (hnew : g.trader.orders orderId = none) :
    ∃ call orderRef, t = .resume ∧ g.inserting = some ⟨call, orderRef, .journal⟩ ∧
      call.input.orderId = orderId ∧
      (gatewayStep core g t).2 = [.order call.source call.genTime (initialOrder core call)] := by
  have hstep := gatewayStep_ticks core g t
  generalize gatewayStep core g t = r at hstep ho ⊢
  cases hstep with
  | event he =>
    have hstored := h.stored_of_record he ho hrecord
    simp [hnew] at hstored
  | begins call hidle =>
    rw [List.mem_singleton.mp ho] at hrecord
    simp [Output.recordId] at hrecord
  | journals call orderRef hins =>
    rw [List.mem_singleton.mp ho] at hrecord
    have hid := initialOrder_orderId hcore call
    exact ⟨call, orderRef, rfl, hins, hid.symm.trans (Option.some.inj hrecord), rfl⟩
  | recordsInbound call orderRef hins =>
    rw [List.mem_singleton.mp ho] at hrecord
    simp [Output.recordId] at hrecord
  | _ => simp [recordOutbound] at ho

/-- An order is stored by the effect that journals it. -/
theorem Journaled.tick (hcore : core.KeepsOrderId)
    (h : Journaled core ts ((gateway core).exec ts)) (t : Tick) :
    Journaled core (ts ++ [t]) (gatewayStep core ((gateway core).exec ts) t).1 := by
  intro orderId hstored
  have hconcat := journalOf_concat core ts t orderId
  have hstep := gatewayStep_ticks core ((gateway core).exec ts) t
  unfold Machine.outputs at hconcat
  change _ = _ ++ List.filter _ (gatewayStep core ((gateway core).exec ts) t).2 at hconcat
  generalize gatewayStep core ((gateway core).exec ts) t = r at hstep hstored hconcat
  cases hstep with
  | event he =>
    rw [(step_tables core _ he orderId).1] at hstored
    exact journalOf_concat_ne_nil _ (h orderId hstored)
  | journals call orderRef hins =>
    rcases (Store.emplace_isSome _ _ _ _).mp hstored with rfl | hstored
    · rw [hconcat]
      apply List.append_ne_nil_of_right_ne_nil
      simp [journalInsert, Output.recordId, hcore.uid]
    · exact journalOf_concat_ne_nil _ (h orderId hstored)
  | _ => exact journalOf_concat_ne_nil _ (h orderId hstored)

theorem gateway_journaled (hcore : core.KeepsOrderId) (ts : List Tick) :
    Journaled core ts ((gateway core).exec ts) := by
  have hinit : Journaled core [] (gateway core).init := by
    intro orderId hstored
    simp [gateway, TraderTora.initial] at hstored
  apply (gateway core).always (I := fun ts g => Journaled core ts g) hinit
  intro ts t h
  exact h.tick hcore t

/-- The first record about an order is the initial one, however the run goes on. -/
theorem initial_of_journalOf_nil (hcore : core.KeepsOrderId) {t : Tick} {o : Output}
    (hnone : journalOf core ts orderId = []) (ho : o ∈ (gateway core).outputs ts t)
    (hrecord : o.recordId = some orderId) :
    ∃ call orderRef, t = .resume ∧
      ((gateway core).exec ts).inserting = some ⟨call, orderRef, .journal⟩ ∧
      call.input.orderId = orderId ∧
      (gateway core).outputs ts t =
        [.order call.source call.genTime (initialOrder core call)] := by
  have hnew : ((gateway core).exec ts).trader.orders orderId = none := by
    by_contra hsome
    exact gateway_journaled hcore ts orderId (Option.isSome_iff_ne_none.mpr hsome) hnone
  exact (gateway_integrity hcore ts).initial_of_record hcore ho hrecord hnew

end Journal

/-- Where a journal begins: an `insert_order` call for the order, halfway through, writes
its initial record, and everything else about the order comes later. -/
structure BeginsWith (core : Core) (ts : List Tick) (orderId : UInt64) (call : InsertCall) :
    Prop where
  inserts : call.input.orderId = orderId
  written : ∃ before orderRef after, ts = before ++ .resume :: after ∧
    ((gateway core).exec before).inserting = some ⟨call, orderRef, .journal⟩ ∧
    journalOf core before orderId = [] ∧
    (gateway core).outputs before .resume =
      [.order call.source call.genTime (initialOrder core call)]
  first : (journalOf core ts orderId).head? =
    some (.order call.source call.genTime (initialOrder core call))

theorem BeginsWith.concat {core : Core} {ts : List Tick} {orderId : UInt64} {call : InsertCall}
    (h : BeginsWith core ts orderId call) (t : Tick) :
    BeginsWith core (ts ++ [t]) orderId call where
  inserts := h.inserts
  written := by
    obtain ⟨before, orderRef, after, hts, hwritten⟩ := h.written
    exact ⟨before, orderRef, after ++ [t], by simp [hts], hwritten⟩
  first := by
    rw [journalOf_concat, List.head?_append, h.first]
    rfl

/-- Whatever is interleaved with the effects of the inserts, and whichever keys collide: the
journal of an order is empty or begins with the record that `insert_order` itself writes. No
update of the order and no trade comes before it. -/
theorem initial_record_first (core : Core) (hcore : core.KeepsOrderId) (ts : List Tick)
    (orderId : UInt64) :
    journalOf core ts orderId = [] ∨
      ∃ call ∈ insertCalls core ts, BeginsWith core ts orderId call := by
  induction ts using List.reverseRecOn with
  | nil => exact Or.inl rfl
  | append_singleton ts t ih =>
    rcases ih with hnone | ⟨call, hcall, hbegins⟩
    · by_cases hnothing : journalOf core (ts ++ [t]) orderId = []
      · exact Or.inl hnothing
      · right
        have hconcat := journalOf_concat core ts t orderId
        rw [hnone, List.nil_append] at hconcat
        obtain ⟨o, ho⟩ := List.exists_mem_of_ne_nil _ hnothing
        rw [hconcat, List.mem_filter, decide_eq_true_eq] at ho
        obtain ⟨call, orderRef, rfl, hins, hid, houtputs⟩ :=
          initial_of_journalOf_nil hcore hnone ho.1 ho.2
        have hcall := (gateway_owned hcore ts).inserting _ hins
        refine ⟨call, (gateway core).mem_log_append _ _ hcall, hid, ?_, ?_⟩
        · exact ⟨ts, orderRef, [], rfl, hins, hnone, houtputs⟩
        · have hrecord : (initialOrder core call).orderId = orderId :=
            (initialOrder_orderId hcore call).trans hid
          rw [hconcat, houtputs]
          simp [Output.recordId, hrecord]
    · exact Or.inr ⟨call, (gateway core).mem_log_append _ _ hcall, hbegins.concat t⟩

/-- A return comes in between the request and the initial record, a second one between the
record of the order and its reference. -/
theorem initial_record_first_interrupted :
    let ts := [.event (sampleLogin 3 7 10), .event (.insertOrder (.sample 1 100)),
      .event (.onRtnOrder (.sample 3 7 11 65) 5), .resume, .resume,
      .event (.onRtnOrder (.sample 3 7 11 65) 6), .resume,
      .event (.onRtnOrder (.sample 3 7 11 65) 7)]
    journalOf .sample ts 100 = [] ∨
      ∃ call ∈ insertCalls .sample ts, BeginsWith .sample ts 100 call :=
  initial_record_first .sample Core.sample_keepsOrderId _ 100

end KungfuTora
