import KungfuTora.Proofs.Attribution

/-!
# Exchange numbers

Two callbacks learn the exchange's number of an order. `OnRspOrderInsert` writes it into
the order's record and into the number index, also when there is none yet; `OnRtnOrder`
writes it into the index only, and only when there is one. So the record and the index
drift apart when a return comes before its answer, and an entry of the index is taken
over by answers that come without a number.
-/

namespace KungfuTora

open TraderTora

/-- The code of an order's exchange in the requests about it. -/
def ToraOrder.exchangeCode (record : ToraOrder) : TTORATstpExchangeIDType :=
  toToraExchange record.exchangeId

def Entry.exchangeCode (w : Entry) : TTORATstpExchangeIDType :=
  toToraExchange w.call.input.exchangeId

/-- No number of an exchange is reported for two orders. -/
def NumbersUnique (core : Core) (es : List Event) : Prop :=
  ∀ b ∈ (adapter core).log (bindings core) es, ∀ b' ∈ (adapter core).log (bindings core) es,
    b.orderSysId.strlen ≠ 0 → b.number = b'.number → b.orderId = b'.orderId

instance (core : Core) (es : List Event) : Decidable (NumbersUnique core es) :=
  inferInstanceAs (Decidable (∀ b ∈ _, ∀ b' ∈ _, _ → _ → _))

section Bindings

variable {core : Core} {es before after : List Event}

/-- A binding of a step comes from an answer that numbers the order, or from a return
with a number that reports it. -/
theorem binding_source {s : TraderTora} {e : Event} {b : Binding} (hb : b ∈ bindings core s e) :
    (∃ field info, e = .onRspOrderInsert field info ∧
      numberedOrder core s field info = some b.orderId ∧
      (b.exchangeId, b.orderSysId) = (field.exchangeId, field.orderSysId)) ∨
    ∃ field now, e = .onRtnOrder field now ∧ field.orderSysId.strlen ≠ 0 ∧
      reportedOrder core s field = some b.orderId ∧
      (b.exchangeId, b.orderSysId) = (field.exchangeId, field.orderSysId) := by
  cases e with
  | onRspOrderInsert field info =>
    simp only [bindings, Option.mem_toList, Option.map_eq_some_iff] at hb
    obtain ⟨orderId, hnumbered, rfl⟩ := hb
    exact Or.inl ⟨field, info, rfl, hnumbered, rfl⟩
  | onRtnOrder field now =>
    simp only [bindings] at hb
    by_cases hlen : field.orderSysId.strlen = 0
    · simp [hlen] at hb
    · simp only [if_neg hlen, Option.mem_toList, Option.map_eq_some_iff] at hb
      obtain ⟨orderId, hreported, rfl⟩ := hb
      exact Or.inr ⟨field, now, rfl, hlen, hreported, rfl⟩
  | _ => simp [bindings] at hb

/-- The binding that an answer makes for the order it numbers. -/
theorem binding_of_answer {s : TraderTora} {field : InputOrderField} {info : Option RspInfoField}
    {orderId : UInt64} (hnumbered : numberedOrder core s field info = some orderId) :
    ⟨s.frontId, s.sessionId, field.orderRef, field.exchangeId, field.orderSysId, orderId⟩ ∈
      bindings core s (.onRspOrderInsert field info) := by
  simp [bindings, hnumbered]

/-- A step makes at most one binding. -/
theorem binding_unique {s : TraderTora} {e : Event} {b b' : Binding}
    (hb : b ∈ bindings core s e) (hb' : b' ∈ bindings core s e) : b = b' := by
  have htoList : ∀ o : Option Binding, b ∈ o.toList → b' ∈ o.toList → b = b' := by
    intro o h h'
    rw [Option.mem_toList] at h h'
    exact Option.some.inj (h.symm.trans h')
  rcases binding_source hb with ⟨field, info, rfl, -, -⟩ | ⟨field, now, rfl, hlen, -, -⟩
  · exact htoList _ hb hb'
  · simp only [bindings, if_neg hlen] at hb hb'
    exact htoList _ hb hb'

/-- Bindings with one key are bindings of one number. -/
theorem number_eq_of_key (hnumbers : NumbersHashApart core es) {b b' : Binding}
    (hb : b ∈ (adapter core).log (bindings core) es)
    (hb' : b' ∈ (adapter core).log (bindings core) es) (hkey : b.key core = b'.key core) :
    b.number = b'.number := by
  obtain ⟨hexchange, hnumber⟩ := getOrderSysIdKey_inj.mp hkey
  exact hnumbers _ (usedNumber_of_binding hb) _ (usedNumber_of_binding hb') hexchange hnumber

/-- The order of a binding is known. -/
theorem known_of_binding (hcore : core.KeepsOrderId) {b : Binding}
    (hb : b ∈ (adapter core).log (bindings core) es) :
    Known ((adapter core).exec es) b.orderId := by
  induction es using List.reverseRecOn with
  | nil => simp at hb
  | append_singleton es e ih =>
    rw [Machine.log_concat, List.mem_append] at hb
    have hknown : Known ((adapter core).exec es) b.orderId := by
      rcases hb with hb | hb
      · exact ih hb
      · exact (adapter_integrity hcore es).refs _ _ (bindings_spec hb).2
    rw [Machine.exec_concat]
    exact known_stays core _ e hknown

end Bindings

/-! ## Entries of the index are not taken over -/

/-- An answer without a number does not take over the entry of another order. -/
def KeepsEntry (core : Core) (before : List Event) (e : Event) : Prop :=
  let s := (adapter core).exec before
  ∀ field info, e = .onRspOrderInsert field info → field.orderSysId.strlen = 0 →
    ∀ orderId, numberedOrder core s field info = some orderId →
    ∀ orderId', s.inboundOrderSysids
        (getOrderSysIdKey core field.exchangeId field.orderSysId) = some orderId' →
      orderId' = orderId

/-- The orders that an exchange's answers without a number reach are one order. -/
def OneUnnumbered (core : Core) (es : List Event) : Prop :=
  ∀ b ∈ (adapter core).log (bindings core) es, ∀ b' ∈ (adapter core).log (bindings core) es,
    b.orderSysId.strlen = 0 → b'.orderSysId.strlen = 0 → b.exchangeId = b'.exchangeId →
      b.orderId = b'.orderId

/-- An entry of the number index, once made, stays; so trades with one number are never
published under two orders. -/
structure BindingsStable (core : Core) (es : List Event) : Prop where
  entry : ∀ before mid after, es = before ++ mid ++ after → ∀ key orderId,
    ((adapter core).exec before).inboundOrderSysids key = some orderId →
    ((adapter core).exec (before ++ mid)).inboundOrderSysids key = some orderId
  trade : ∀ before mid after field frameUid now field' frameUid' now',
    es = before ++ .onRtnTrade field frameUid now :: mid ++
      .onRtnTrade field' frameUid' now' :: after →
    (field.exchangeId, field.orderSysId) = (field'.exchangeId, field'.orderSysId) →
    ∀ orderId orderId',
    TradesUnder core ((adapter core).exec before) field frameUid now orderId →
    TradesUnder core ((adapter core).exec (before ++ .onRtnTrade field frameUid now :: mid))
      field' frameUid' now' orderId' →
    orderId = orderId'

section Stable

variable {core : Core} {es : List Event}

theorem sysid_of_agreeing
    (h : ∀ b ∈ (adapter core).log (bindings core) es,
      ∀ b' ∈ (adapter core).log (bindings core) es, b.key core = b'.key core →
        b.orderId = b'.orderId)
    {b : Binding} (hb : b ∈ (adapter core).log (bindings core) es) :
    ((adapter core).exec es).inboundOrderSysids (b.key core) = some b.orderId := by
  rw [inboundOrderSysids_eq]
  apply Store.ofWrites_of_forall
  · exact List.mem_map.mpr ⟨b, hb, rfl⟩
  · intro orderId hmem
    obtain ⟨b', hb', heq⟩ := List.mem_map.mp hmem
    simp only [Prod.mk.injEq] at heq
    rw [← heq.2]
    exact h b' hb' b hb heq.1

/-- Where no answer takes over an entry, bindings with one key are to one order. -/
theorem agreeing_of_keepsEntry (hnumbers : NumbersHashApart core es)
    (hunique : NumbersUnique core es) (hkeeps : Along (KeepsEntry core) es) :
    ∀ b ∈ (adapter core).log (bindings core) es,
      ∀ b' ∈ (adapter core).log (bindings core) es, b.key core = b'.key core →
        b.orderId = b'.orderId := by
  induction es using List.reverseRecOn with
  | nil => simp
  | append_singleton es e ih =>
    obtain ⟨hkeeps, hlast⟩ := (Along.concat_iff es e).mp hkeeps
    have hold : ∀ {b : Binding}, b ∈ (adapter core).log (bindings core) es →
        b ∈ (adapter core).log (bindings core) (es ++ [e]) :=
      fun hb => (adapter core).mem_log_append _ [e] hb
    specialize ih hnumbers.of_append (fun b hb b' hb' => hunique b (hold hb) b' (hold hb')) hkeeps
    -- a new binding against an old one
    have hcross : ∀ b ∈ bindings core ((adapter core).exec es) e,
        ∀ b' ∈ (adapter core).log (bindings core) es, b.key core = b'.key core →
          b.orderId = b'.orderId := by
      intro b hb b' hb' hkey
      have hmem : b ∈ (adapter core).log (bindings core) (es ++ [e]) := by
        rw [Machine.log_concat]
        exact List.mem_append_right _ hb
      by_cases hlen : b.orderSysId.strlen = 0
      · have hentry := sysid_of_agreeing ih hb'
        rw [← hkey] at hentry
        rcases binding_source hb with ⟨field, info, rfl, hnumbered, hnumber⟩ |
          ⟨field, now, rfl, hlen', -, hnumber⟩
        · simp only [Prod.mk.injEq] at hnumber
          rw [Binding.key, hnumber.1, hnumber.2] at hentry
          rw [hnumber.2] at hlen
          exact (hlast field info rfl hlen b.orderId hnumbered _ hentry).symm
        · simp only [Prod.mk.injEq] at hnumber
          rw [hnumber.2] at hlen
          exact absurd hlen hlen'
      · exact hunique b hmem b' (hold hb') hlen (number_eq_of_key hnumbers hmem (hold hb') hkey)
    intro b hb b' hb' hkey
    rw [Machine.log_concat, List.mem_append] at hb hb'
    rcases hb with hb | hb
    · rcases hb' with hb' | hb'
      · exact ih b hb b' hb' hkey
      · exact (hcross b' hb' b hb hkey.symm).symm
    · rcases hb' with hb' | hb'
      · exact hcross b hb b' hb' hkey
      · rw [binding_unique hb hb']

/-- Where bindings with one key are to one order, entries stay. -/
theorem stable_of_agreeing (hcore : core.KeepsOrderId)
    (hagree : ∀ b ∈ (adapter core).log (bindings core) es,
      ∀ b' ∈ (adapter core).log (bindings core) es, b.key core = b'.key core →
        b.orderId = b'.orderId) :
    BindingsStable core es := by
  have hentry : ∀ before mid after, es = before ++ mid ++ after → ∀ key orderId,
      ((adapter core).exec before).inboundOrderSysids key = some orderId →
      ((adapter core).exec (before ++ mid)).inboundOrderSysids key = some orderId := by
    intro before mid after hes key orderId hfind
    obtain ⟨b, hb, rfl, rfl⟩ := binding_of_sysid hfind
    apply sysid_of_agreeing
    · intro b hb b' hb'
      rw [hes] at hagree
      exact hagree b ((adapter core).mem_log_append _ _ hb) b'
        ((adapter core).mem_log_append _ _ hb')
    · exact (adapter core).mem_log_append _ mid hb
  refine ⟨hentry, ?_⟩
  intro before mid after field frameUid now field' frameUid' now' hes hsame orderId orderId'
    htrade htrade'
  simp only [Prod.mk.injEq] at hsame
  have hfind := ((adapter_integrity hcore _).tradesUnder_iff _ _ _ _).mp htrade
  have hfind' := ((adapter_integrity hcore _).tradesUnder_iff _ _ _ _).mp htrade'
  rw [← hsame.1, ← hsame.2] at hfind'
  have hstays := hentry before (.onRtnTrade field frameUid now :: mid) _ hes _ _ hfind
  exact Option.some.inj (hstays.symm.trans hfind')

/-- By the messages alone: if the answers without a number that reach an order reach one order
on each exchange, entries stay. -/
theorem stable_of_oneUnnumbered (hcore : core.KeepsOrderId) (hnumbers : NumbersHashApart core es)
    (hunique : NumbersUnique core es) (hone : OneUnnumbered core es) : BindingsStable core es := by
  apply stable_of_agreeing hcore
  intro b hb b' hb' hkey
  have hnumber : b.number = b'.number := number_eq_of_key hnumbers hb hb' hkey
  by_cases hlen : b.orderSysId.strlen = 0
  · obtain ⟨hexchange, hsysid⟩ := Prod.mk.inj hnumber
    exact hone b hb b' hb' hlen (hsysid ▸ hlen) hexchange
  · exact hunique b hb b' hb' hlen hnumber

end Stable

/-- In a run that reports no number for two orders, the entries of the number index stay
exactly when no answer without a number takes over the entry of another order. -/
theorem bindings_stable_iff (core : Core) (es : List Event) (hcore : core.KeepsOrderId)
    (hnumbers : NumbersHashApart core es) (hunique : NumbersUnique core es) :
    BindingsStable core es ↔ Along (KeepsEntry core) es := by
  constructor
  · rintro hstable before e after hes field info rfl hlen orderId hnumbered orderId' hentry
    have hstays := hstable.entry before [.onRspOrderInsert field info] after (by simp [hes])
      _ _ hentry
    have hset : ((adapter core).exec (before ++ [.onRspOrderInsert field info])).inboundOrderSysids
        (getOrderSysIdKey core field.exchangeId field.orderSysId) = some orderId := by
      rw [inboundOrderSysids_eq, Machine.log_concat, List.map_append]
      simp [bindings, hnumbered, Binding.key]
    exact Option.some.inj (hstays.symm.trans hset)
  · intro hkeeps
    exact stable_of_agreeing hcore (agreeing_of_keepsEntry hnumbers hunique hkeeps)

/-- Two orders are answered before they have a number: the second answer takes over the
entry of the first one. -/
theorem empty_answer_takes_over :
    let es := [sampleLogin 3 7 10, .insertOrder (.sample 1 100), .insertOrder (.sample 2 101),
      .onRspOrderInsert (.sample 11 0) none, .onRspOrderInsert (.sample 12 0) none]
    (NumbersHashApart .sample es ∧ NumbersUnique .sample es) ∧ ¬ BindingsStable .sample es := by
  intro es
  refine ⟨by decide, ?_⟩
  intro h
  have hstays := h.entry (es.take 4) (es.drop 4) [] rfl
    (getOrderSysIdKey .sample toraTstpExdSSE (sampleNumber 0)) 100 (by decide)
  exact absurd hstays (by decide)

/-- Two orders are answered with their numbers, and a return repeats one of them. -/
theorem bindings_stable_numbered :
    let es := [sampleLogin 3 7 10, .insertOrder (.sample 1 100), .insertOrder (.sample 2 101),
      .onRspOrderInsert (.sample 11 66) none, .onRspOrderInsert (.sample 12 67) none,
      .onRtnOrder (.sample 3 7 11 66) 5, .onRtnTrade (.sample 11 66) 1 6]
    BindingsStable .sample es ↔ Along (KeepsEntry .sample) es :=
  bindings_stable_iff .sample _ Core.sample_keepsOrderId (by decide) (by decide)

end KungfuTora
