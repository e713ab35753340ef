import Mathlib.Data.List.Nodup
import KungfuTora.Proofs.History
import KungfuTora.Trader.Sample

/-!
# The reference counter

Inserts and cancels take references from one counter, and a login resets it. As long
as logins name a `MaxOrderRef` that covers what was sent under their session, and the
counter does not run over, every reference sent under the current session is below the
counter (`sent_lt_orderRef`). Hence references are not reused within a session, no two
orders share a triple, and the order maps are inverse to each other.
-/

namespace KungfuTora

open TraderTora

theorem toInt_add_one {r : Int32} (h : r ≠ Int32.maxValue) : (r + 1).toInt = r.toInt + 1 := by
  have hlt : r.toInt < 2 ^ 31 := r.toInt_lt
  have hle : -2 ^ 31 ≤ r.toInt := r.le_toInt
  have hone : (1 : Int32).toInt = 1 := by decide
  have hmax : Int32.maxValue.toInt = 2 ^ 31 - 1 := by decide
  have hne : r.toInt ≠ 2 ^ 31 - 1 := by
    intro heq
    exact h (Int32.toInt_inj.mp (heq.trans hmax.symm))
  rw [Int32.toInt_add, hone]
  exact Int.bmod_eq_of_le (by omega) (by omega)

theorem takenRef_of_isSession {o : Output} (h : o.isSession = true) : o.takenRef = none := by
  cases o <;> first | rfl | simp [Output.isSession] at h

theorem takenRefs_of_isSession {outs : List Output} (h : ∀ o ∈ outs, o.isSession = true) :
    outs.filterMap Output.takenRef = [] := by
  rw [List.filterMap_eq_nil_iff]
  exact fun o ho => takenRef_of_isSession (h o ho)

/-- A step sends at most one reference, the one the counter stands at. -/
theorem sentRefs_eq (core : Core) (s : TraderTora) (e : Event) :
    sentRefs core s e =
      if takesRef s e then [((s.frontId, s.sessionId), s.orderRef)] else [] := by
  have hrefs : (step core s e).2.filterMap Output.takenRef =
      if takesRef s e then [s.orderRef] else [] := by
    cases e with
    | insertOrder call => rfl
    | cancelOrder call =>
      dsimp only [step]
      rw [cancelOrder_outputs]
      cases hrecord : s.outboundOrders call.action.orderId with
      | none => simp [takesRef, hrecord, Output.takenRef]
      | some record =>
        dsimp only
        split <;> simp [takesRef, hrecord, Output.takenRef, cancelRequest]
    | onStart config => exact takenRefs_of_isSession (onStart_spec s config).2.2
    | onRspUserLogin field info _ =>
      exact takenRefs_of_isSession (onRspUserLogin_spec core s field info).2.2
    | onRspQryShareholderAccount account info bIsLast stored _ =>
      exact takenRefs_of_isSession
        (onRspQryShareholderAccount_spec s account info bIsLast stored).2.2
    | onRspOrderInsert field info =>
      dsimp only [step]
      rcases onRspOrderInsert_eq core s field info with ⟨_, h⟩ | ⟨_, _, h⟩ <;> rw [h] <;> rfl
    | onRtnOrder field now =>
      dsimp only [step]
      rcases onRtnOrder_eq core s field now with ⟨_, h⟩ | ⟨_, _, _, _, h⟩ <;> rw [h] <;> rfl
    | onErrRtnOrderInsert field info now =>
      dsimp only [step]
      rcases onErrRtnOrderInsert_eq core s field info now with
        h | ⟨_, _, ⟨_, h⟩ | ⟨_, _, _, h⟩⟩ <;> rw [h] <;> rfl
    | onRtnTrade field frameUid now =>
      dsimp only [step]
      rcases onRtnTrade_eq core s field frameUid now with h | ⟨_, _, -, -, h⟩ <;> rw [h] <;> rfl
    | _ => exact takenRefs_of_isSession (step_sessionOnly core s rfl).outputs
  rw [sentRefs, hrefs]
  split <;> rfl

section Counter

variable {core : Core} {es : List Event}

/-- Every reference sent under the current session is below the counter. -/
theorem sent_lt_orderRef (hlogins : LoginsRespectRefs core es) (hlimit : RefsBelowLimit core es) :
    ∀ r, ((((adapter core).exec es).frontId, ((adapter core).exec es).sessionId), r) ∈
        (adapter core).log (sentRefs core) es →
      r.toInt < ((adapter core).exec es).orderRef.toInt := by
  refine (adapter core).invariant
    (I := fun es s => ∀ r, ((s.frontId, s.sessionId), r) ∈ (adapter core).log (sentRefs core) es →
      r.toInt < s.orderRef.toInt) ?init ?step es (hlogins.and hlimit)
  case init =>
    intro r h
    simp at h
  case step =>
    intro es e ih hA r hr
    obtain ⟨hlogin, hlimit⟩ := hA
    generalize hs : (adapter core).exec es = s at *
    have hstep := step_routing core s e
    change ((((step core s e).1.toRouting).frontId, ((step core s e).1.toRouting).sessionId), r) ∈
      _ at hr
    show r.toInt < ((step core s e).1.toRouting).orderRef.toInt
    rw [hstep] at hr ⊢
    rw [Machine.log_concat, hs, List.mem_append] at hr
    cases hl : loginOf e with
    | some login =>
      have hnone : sentRefs core s e = [] := by
        rw [sentRefs_eq]
        cases e with
        | onRspUserLogin => rfl
        | _ => simp [loginOf] at hl
      simp only [hl, Option.elim_some, hnone, List.not_mem_nil, or_false] at hr ⊢
      have hle : r.toInt ≤ login.maxOrderRef.toInt := hlogin login hl _ hr rfl
      have hadd := toInt_add_one (hlimit.1 login hl)
      omega
    | none =>
      simp only [hl, Option.elim_none] at hr ⊢
      rw [sentRefs_eq] at hr hlimit
      by_cases htake : takesRef s e = true
      · simp only [htake, if_true, List.mem_singleton, Prod.mk.injEq, true_and] at hr ⊢
        have hadd := toInt_add_one (hlimit.2 (by simp [htake]))
        rcases hr with hr | rfl
        · have := ih r hr
          omega
        · omega
      · simp only [htake, Bool.false_eq_true, if_false, List.not_mem_nil, or_false] at hr ⊢
        exact ih r hr

end Counter

/-! ## Assumptions about a run hold of its beginning -/

section Prefix

variable {core : Core} {es es' : List Event}

theorem FreshOrderIds.of_append (h : FreshOrderIds (es ++ es')) : FreshOrderIds es := by
  unfold FreshOrderIds at h ⊢
  rw [List.filterMap_append] at h
  exact h.of_append_left

/-- The order id of an insert is inserted neither before nor after it. -/
theorem FreshOrderIds.new {e : Event} {orderId : UInt64} (h : FreshOrderIds (es ++ e :: es'))
    (he : insertedId e = some orderId) :
    orderId ∉ es.filterMap insertedId ∧ orderId ∉ es'.filterMap insertedId := by
  unfold FreshOrderIds at h
  rw [List.filterMap_append, List.filterMap_cons_some he, List.nodup_append, List.nodup_cons] at h
  obtain ⟨-, ⟨hafter, -⟩, hbefore⟩ := h
  exact ⟨fun hmem => hbefore _ hmem _ List.mem_cons_self rfl, hafter⟩

theorem RefsHashApart.of_append (h : RefsHashApart core (es ++ es')) : RefsHashApart core es := by
  intro u hu v hv
  exact h u ((adapter core).mem_log_append _ es' hu) v ((adapter core).mem_log_append _ es' hv)

theorem NumbersHashApart.of_append (h : NumbersHashApart core (es ++ es')) :
    NumbersHashApart core es := by
  intro u hu v hv
  exact h u ((adapter core).mem_log_append _ es' hu) v ((adapter core).mem_log_append _ es' hv)

theorem SessionsApart.of_append (h : SessionsApart core (es ++ es')) : SessionsApart core es := by
  intro u hu v hv
  exact h u ((adapter core).mem_log_append _ es' hu) v ((adapter core).mem_log_append _ es' hv)

/-- Ids that all fit in 16 bits, signed or unsigned, keep the sessions of a run apart. -/
theorem sessionsApart_of_fit {lo : Int}
    (hfit : ∀ u ∈ (adapter core).log usedRefs es,
      (lo ≤ u.1.1.toInt ∧ u.1.1.toInt < lo + 2 ^ 16) ∧
        lo ≤ u.1.2.toInt ∧ u.1.2.toInt < lo + 2 ^ 16) : SessionsApart core es := by
  intro u hu v hv hfront hsession
  obtain ⟨hufront, husession⟩ := hfit u hu
  obtain ⟨hvfront, hvsession⟩ := hfit v hv
  exact Prod.ext (eq_of_low16_eq hufront hvfront hfront)
    (eq_of_low16_eq husession hvsession hsession)

end Prefix

/-! ## The orders of a run -/

section Entries

variable {core : Core} {es : List Event}

theorem eq_of_mem_entries {s : TraderTora} {e : Event} {w : Entry} (hw : w ∈ entries s e) :
    ∃ call, e = .insertOrder call ∧ w = ⟨call, s.orderRef, s.frontId, s.sessionId⟩ := by
  cases e with
  | insertOrder call => exact ⟨call, rfl, List.mem_singleton.mp hw⟩
  | _ => simp [entries] at hw

/-- An order of the history was inserted by one of the run's calls, under the session and
with the reference that the adapter had then. -/
theorem mem_entries {w : Entry} (hw : w ∈ (adapter core).log entries es) :
    ∃ before call after, es = before ++ .insertOrder call :: after ∧
      w = ⟨call, ((adapter core).exec before).orderRef, ((adapter core).exec before).frontId,
        ((adapter core).exec before).sessionId⟩ := by
  obtain ⟨before, e, after, rfl, hstep⟩ := ((adapter core).mem_log entries es w).mp hw
  obtain ⟨call, rfl, hentry⟩ := eq_of_mem_entries hstep
  exact ⟨before, call, after, rfl, hentry⟩

/-- Every insert of a run is an order of its history. -/
theorem entry_of_insert (core : Core) {before after : List Event} {call : InsertCall}
    (hes : es = before ++ .insertOrder call :: after) :
    (⟨call, ((adapter core).exec before).orderRef, ((adapter core).exec before).frontId,
      ((adapter core).exec before).sessionId⟩ : Entry) ∈ (adapter core).log entries es :=
  ((adapter core).mem_log entries es _).mpr
    ⟨before, .insertOrder call, after, hes, List.mem_singleton.mpr rfl⟩

theorem sent_of_entry {w : Entry} (hw : w ∈ (adapter core).log entries es) :
    ((w.frontId, w.sessionId), w.orderRef) ∈ (adapter core).log (sentRefs core) es := by
  obtain ⟨before, call, after, hes, rfl⟩ := mem_entries hw
  refine ((adapter core).mem_log _ es _).mpr ⟨before, .insertOrder call, after, hes, ?_⟩
  rw [sentRefs_eq]
  exact List.mem_singleton.mpr rfl

theorem used_of_entry {w : Entry} (hw : w ∈ (adapter core).log entries es) :
    ((w.frontId, w.sessionId), w.orderRef) ∈ (adapter core).log usedRefs es := by
  obtain ⟨before, call, after, hes, rfl⟩ := mem_entries hw
  exact ((adapter core).mem_log _ es _).mpr
    ⟨before, .insertOrder call, after, hes, List.mem_singleton.mpr rfl⟩

/-- The orders of the history are the inserted ones. -/
theorem entries_orderIds (core : Core) (es : List Event) :
    ((adapter core).log entries es).map Entry.orderId = es.filterMap insertedId := by
  induction es using List.reverseRecOn with
  | nil => rfl
  | append_singleton es e ih =>
    rw [Machine.log_concat, List.map_append, List.filterMap_append, ih]
    cases e <;> rfl

/-- No two orders of the history have the same triple. -/
theorem entries_triple_nodup (hlogins : LoginsRespectRefs core es)
    (hlimit : RefsBelowLimit core es) :
    (((adapter core).log entries es).map Entry.triple).Nodup := by
  induction es using List.reverseRecOn with
  | nil => simp
  | append_singleton es e ih =>
    have hlogins' := hlogins.of_append
    have hlimit' := hlimit.of_append
    rw [Machine.log_concat, List.map_append, List.nodup_append]
    refine ⟨ih hlogins' hlimit', ?_, ?_⟩
    · cases e <;> simp [entries]
    · intro t ht t' ht' heq
      cases e with
      | insertOrder call =>
        obtain ⟨w, hw, rfl⟩ := List.mem_map.mp ht
        have htriple : w.triple = (((adapter core).exec es).frontId,
            ((adapter core).exec es).sessionId, ((adapter core).exec es).orderRef) :=
          heq.trans (List.mem_singleton.mp ht')
        simp only [Entry.triple, Prod.mk.injEq] at htriple
        have hsent := sent_of_entry hw
        rw [htriple.1, htriple.2.1] at hsent
        have hlt := sent_lt_orderRef hlogins' hlimit' w.orderRef hsent
        rw [htriple.2.2] at hlt
        omega
      | _ => simp [entries] at ht'

/-- An outbound record was written by an order of the history. -/
theorem entry_of_outbound {k : UInt64} {record : ToraOrder}
    (hrecord : ((adapter core).exec es).outboundOrders k = some record) :
    ∃ w ∈ (adapter core).log entries es, w.orderId = k ∧ record.unnumbered = w.record := by
  have h := outboundOrders_eq core es k
  rw [hrecord] at h
  obtain ⟨w, hw, hwk⟩ := List.mem_map.mp (Store.mem_of_ofWrites h.symm)
  simp only [Prod.mk.injEq] at hwk
  exact ⟨w, hw, hwk.1, hwk.2.symm⟩

/-- Orders of the history with one order id are one order. -/
theorem entry_eq_of_orderId (hfresh : FreshOrderIds es) :
    ∀ v ∈ (adapter core).log entries es, ∀ w ∈ (adapter core).log entries es,
      v.orderId = w.orderId → v = w := by
  have hnodup : (((adapter core).log entries es).map Entry.orderId).Nodup := by
    rw [entries_orderIds]
    exact hfresh
  exact fun _ hv _ hw => List.inj_on_of_nodup_map hnodup hv hw

/-- Orders of the history with one triple are one order. -/
theorem entry_eq_of_triple (hlogins : LoginsRespectRefs core es)
    (hlimit : RefsBelowLimit core es) :
    ∀ v ∈ (adapter core).log entries es, ∀ w ∈ (adapter core).log entries es,
      v.triple = w.triple → v = w := by
  have hnodup := entries_triple_nodup hlogins hlimit
  exact fun _ hv _ hw => List.inj_on_of_nodup_map hnodup hv hw

/-- Equal keys of references that a run uses come from one session and one reference. -/
theorem used_inj (hrefs : RefsHashApart core es) (hsessions : SessionsApart core es)
    {u v : (Int32 × Int32) × Int32} (hu : u ∈ (adapter core).log usedRefs es)
    (hv : v ∈ (adapter core).log usedRefs es)
    (hkey : getOrderRefKey core u.1.1 u.1.2 u.2 = getOrderRefKey core v.1.1 v.1.2 v.2) :
    u = v := by
  obtain ⟨⟨hfront, hsession⟩, hhash⟩ := getOrderRefKey_inj.mp hkey
  have hpair : u.1 = v.1 := hsessions u hu v hv hfront hsession
  have href : u.2 = v.2 := hrefs u hu v hv hhash
  exact Prod.ext hpair href

/-- Orders of the history with one reference key have one triple. -/
theorem entry_triple_of_key (hrefs : RefsHashApart core es) (hsessions : SessionsApart core es)
    {v w : Entry} (hv : v ∈ (adapter core).log entries es)
    (hw : w ∈ (adapter core).log entries es) (hkey : v.key core = w.key core) :
    v.triple = w.triple := by
  have h := used_inj hrefs hsessions (used_of_entry hv) (used_of_entry hw) hkey
  simp only [Prod.mk.injEq] at h
  simp only [Entry.triple, h]

end Entries

/-! ## The indexes -/

/-- After every run the two order indexes are inverse: the key of an inserted order's
record leads to the order, and every entry of the reference index is the key of the
record of exactly one order id, the one it holds. -/
theorem orderIndexes_inverse (core : Core) (es : List Event) (hfresh : FreshOrderIds es)
    (hrefs : RefsHashApart core es) (hsessions : SessionsApart core es)
    (hlogins : LoginsRespectRefs core es) (hlimit : RefsBelowLimit core es) :
    let s := (adapter core).exec es
    (∀ call, .insertOrder call ∈ es → ∃ record,
      s.outboundOrders call.input.orderId = some record ∧
        s.inboundOrderRefs (record.key core) = some call.input.orderId) ∧
    (∀ key k, s.inboundOrderRefs key = some k →
      (∃ record, s.outboundOrders k = some record ∧ record.key core = key) ∧
        ∀ k' record', s.outboundOrders k' = some record' → record'.key core = key → k' = k) := by
  intro s
  have hinverse := Store.inverse_of_nodup ((adapter core).log entries es) Entry.orderId
    Entry.record (ToraOrder.key core) (entry_eq_of_orderId hfresh) (by
      intro v hv w hw hkey
      exact entry_eq_of_triple hlogins hlimit v hv w hw
        (entry_triple_of_key hrefs hsessions hv hw hkey))
  have houtbound : ∀ k, (s.outboundOrders k).map ToraOrder.unnumbered =
      Store.ofWrites (((adapter core).log entries es).map fun w => (w.orderId, w.record)) k :=
    outboundOrders_eq core es
  have hinbound : s.inboundOrderRefs =
      Store.ofWrites
        (((adapter core).log entries es).map fun w => (w.record.key core, w.orderId)) :=
    inboundOrderRefs_eq core es
  obtain ⟨hforward, hback⟩ := hinverse
  simp only [← hinbound, ← houtbound, Option.map_eq_some_iff] at hforward hback
  constructor
  · intro call hcall
    obtain ⟨before, after, hes⟩ := List.append_of_mem hcall
    obtain ⟨-, ⟨record, hrecord, rfl⟩, hkey⟩ := hforward _ (entry_of_insert core hes)
    exact ⟨record, hrecord, hkey⟩
  · intro key k hk
    obtain ⟨⟨-, ⟨record, hrecord, rfl⟩, hkey⟩, hunique⟩ := hback key k hk
    refine ⟨⟨record, hrecord, hkey⟩, ?_⟩
    intro k' record' hrecord' hkey'
    exact hunique k' record'.unnumbered ⟨record', hrecord', rfl⟩ hkey'

/-- Two orders, a re-login to another session, a third order there. -/
theorem orderIndexes_inverse_relogin :
    let es := [sampleLogin 3 7 10, .insertOrder (.sample 1 100), .insertOrder (.sample 2 101),
      sampleLogin 3 8 10, .insertOrder (.sample 1 102)]
    let s := (adapter .sample).exec es
    (∀ call, .insertOrder call ∈ es → ∃ record,
      s.outboundOrders call.input.orderId = some record ∧
        s.inboundOrderRefs (record.key .sample) = some call.input.orderId) ∧
    (∀ key k, s.inboundOrderRefs key = some k →
      (∃ record, s.outboundOrders k = some record ∧ record.key .sample = key) ∧
        ∀ k' record', s.outboundOrders k' = some record' → record'.key .sample = key → k' = k) :=
  orderIndexes_inverse .sample _ (by decide) (by decide) (by decide) (by decide) (by decide)

/-! ## Cancels -/

/-- A cancel request names an order that was inserted earlier: it carries the session in
which the order was sent, the reference and exchange it was sent with. No order with
another id has that triple, and the cancel's own reference was not sent before under
the current session. -/
theorem cancel_names_order (core : Core) (es : List Event) (call : CancelCall)
    (req : InputOrderActionField) (rid : Int32) (hlogins : LoginsRespectRefs core es)
    (hlimit : RefsBelowLimit core es)
    (hreq : .reqOrderAction req rid ∈ (adapter core).outputs es (.cancelOrder call)) :
    (∃ before ins after, es = before ++ .insertOrder ins :: after ∧
      ins.input.orderId = call.action.orderId ∧
      req.frontId = ((adapter core).exec before).frontId ∧
      req.sessionId = ((adapter core).exec before).sessionId ∧
      ∃ sent sentRid,
        .reqOrderInsert sent sentRid ∈ (adapter core).outputs before (.insertOrder ins) ∧
          req.orderRef = sent.orderRef ∧ req.exchangeId = sent.exchangeId) ∧
    (∀ before ins after, es = before ++ .insertOrder ins :: after →
      ∀ sent sentRid,
        .reqOrderInsert sent sentRid ∈ (adapter core).outputs before (.insertOrder ins) →
      req.frontId = ((adapter core).exec before).frontId →
      req.sessionId = ((adapter core).exec before).sessionId → req.orderRef = sent.orderRef →
      ins.input.orderId = call.action.orderId) ∧
    ∀ r, ((((adapter core).exec es).frontId, ((adapter core).exec es).sessionId), r) ∈
        (adapter core).log (sentRefs core) es →
      r ≠ req.orderActionRef := by
  obtain ⟨record, hrecord, rfl, rfl⟩ := (cancelOrder_request core _ call req rid).mp hreq
  obtain ⟨w, hw, hid, hunnumbered⟩ := entry_of_outbound hrecord
  have hfront : record.frontId = w.frontId := congrArg ToraOrder.frontId hunnumbered
  have hsession : record.sessionId = w.sessionId := congrArg ToraOrder.sessionId hunnumbered
  have href : record.orderRef = w.orderRef := congrArg ToraOrder.orderRef hunnumbered
  have hexchange : record.exchangeId = w.call.input.exchangeId :=
    congrArg ToraOrder.exchangeId hunnumbered
  refine ⟨?_, ?_, ?_⟩
  · obtain ⟨before, ins, after, hes, rfl⟩ := mem_entries hw
    refine ⟨before, ins, after, hes, hid, hfront, hsession,
      insertRequest core ins.input ((adapter core).exec before), _,
      List.mem_cons_self, href, ?_⟩
    exact congrArg toToraExchange hexchange
  · intro before ins after hes sent sentRid hsent hfront' hsession' href'
    have hv := entry_of_insert core hes
    obtain ⟨hsent', -⟩ := (insertOrder_request core _ ins sent sentRid).mp hsent
    have htriple := entry_eq_of_triple hlogins hlimit _ hv w hw (by
      simp only [Entry.triple, Prod.mk.injEq]
      refine ⟨?_, ?_, ?_⟩
      · rw [← hfront', ← hfront]; rfl
      · rw [← hsession', ← hsession]; rfl
      · rw [← href]
        exact (href'.trans (congrArg InputOrderField.orderRef hsent')).symm)
    rw [← hid, ← htriple]
    rfl
  · intro r hr heq
    have hlt := sent_lt_orderRef hlogins hlimit r hr
    rw [heq] at hlt
    exact Int.lt_irrefl _ hlt

/-- An order, a re-login to another session, and its cancel from there. -/
theorem cancel_names_order_relogin :
    let es := [sampleLogin 3 7 10, .insertOrder (.sample 1 100), sampleLogin 3 8 10]
    let req := cancelRequest (outboundRecord (.sample 1 100) 11 3 7) 11
    (∃ before ins after, es = before ++ .insertOrder ins :: after ∧ ins.input.orderId = 100 ∧
      req.frontId = ((adapter .sample).exec before).frontId ∧
      req.sessionId = ((adapter .sample).exec before).sessionId ∧
      ∃ sent sentRid,
        .reqOrderInsert sent sentRid ∈ (adapter .sample).outputs before (.insertOrder ins) ∧
          req.orderRef = sent.orderRef ∧ req.exchangeId = sent.exchangeId) ∧
    ∀ r, ((3, 8), r) ∈ (adapter .sample).log (sentRefs .sample) es → r ≠ req.orderActionRef := by
  intro es req
  have hreq :
      .reqOrderAction req 4 ∈ (adapter .sample).outputs es (.cancelOrder (.sample 100)) := by
    decide
  have h := cancel_names_order .sample es _ req 4 (by decide) (by decide) hreq
  exact ⟨h.1, h.2.2⟩

end KungfuTora
