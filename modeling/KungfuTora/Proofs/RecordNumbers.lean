import KungfuTora.Proofs.Numbers

/-!
# The exchange number in an order's record

A cancel carries the number in the order's record, which only `OnRspOrderInsert` writes,
and always does; trades are routed by the index, which `OnRtnOrder` fills too. The two
agree on an order exactly as long as the answer with the number comes first and is not
followed by one without it.
-/

namespace KungfuTora

open TraderTora

/-- `hash_32` has no collisions on the order numbers of a run, nor on the exchange codes
of its messages and orders. -/
def NumberPartsHashApart (core : Core) (es : List Event) : Prop :=
  (∀ u ∈ (adapter core).log (usedNumbers core) es,
    ∀ v ∈ (adapter core).log (usedNumbers core) es,
      core.hash32 u.2 = core.hash32 v.2 → u.2 = v.2) ∧
  ∀ u ∈ (adapter core).log (usedNumbers core) es, ∀ w ∈ (adapter core).log entries es,
    core.hash32 [u.1] = core.hash32 [w.exchangeCode] → u.1 = w.exchangeCode

/-- Buffers of a run that hold the same number are byte-identical. -/
def BuffersIdentical (core : Core) (es : List Event) : Prop :=
  ∀ u ∈ (adapter core).log (usedNumbers core) es,
    ∀ v ∈ (adapter core).log (usedNumbers core) es, u.2.text = v.2.text → u.2 = v.2

/-- The hash and the text of a buffer tell it from the other numbers of a run. -/
def ToldApart (core : Core) (es : List Event) (orderSysId : CharBuf) : Prop :=
  ∀ u ∈ (adapter core).log (usedNumbers core) es,
    (core.hash32 u.2 = core.hash32 orderSysId → u.2 = orderSysId) ∧
      (u.2.text = orderSysId.text → u.2 = orderSysId)

section Decidable

variable (core : Core) (es : List Event)

instance : Decidable (NumberPartsHashApart core es) :=
  inferInstanceAs (Decidable ((∀ u ∈ _, ∀ v ∈ _, _ → _) ∧ ∀ u ∈ _, ∀ w ∈ _, _ → _))

instance : Decidable (BuffersIdentical core es) :=
  inferInstanceAs (Decidable (∀ u ∈ _, ∀ v ∈ _, _ → _))

end Decidable

/-- After the beginning `before` of the run `es`: the record of an order holds a number
exactly when the index leads from it, on the order's exchange, to the order; and a cancel
of an order carries what was reported for it. -/
structure NumbersAgree (core : Core) (es before : List Event) : Prop where
  index : ∀ orderId record orderSysId,
    ((adapter core).exec before).outboundOrders orderId = some record →
    orderSysId.strlen ≠ 0 → ToldApart core es orderSysId →
    (record.orderSysId = orderSysId.text ↔
      ((adapter core).exec before).inboundOrderSysids
        (getOrderSysIdKey core record.exchangeCode orderSysId) = some orderId)
  cancel : ∀ b ∈ (adapter core).log (bindings core) before, b.orderSysId.strlen ≠ 0 →
    ∀ call req rid, call.action.orderId = b.orderId →
    .reqOrderAction req rid ∈ (adapter core).outputs before (.cancelOrder call) →
    req.orderSysId = b.orderSysId.text

/-- An answer brings the number that the order's record holds, or finds none in it and
names the order's exchange. A return brings no number or the one that the record holds. An
insert does not repeat the id of an order for which a number has been reported. -/
structure MatchesRecord (core : Core) (before : List Event) (e : Event) : Prop where
  answer : ∀ field info, e = .onRspOrderInsert field info →
    ∀ orderId record,
    numberedOrder core ((adapter core).exec before) field info = some orderId →
    ((adapter core).exec before).outboundOrders orderId = some record →
    record.orderSysId = field.orderSysId.text ∨
      (record.orderSysId = [] ∧ field.exchangeId = record.exchangeCode)
  report : ∀ field now, e = .onRtnOrder field now → field.orderSysId.strlen ≠ 0 →
    ∀ orderId record, reportedOrder core ((adapter core).exec before) field = some orderId →
    ((adapter core).exec before).outboundOrders orderId = some record →
    record.orderSysId = field.orderSysId.text
  insert : ∀ call, e = .insertOrder call → ∀ b ∈ (adapter core).log (bindings core) before,
    b.orderId = call.input.orderId → b.orderSysId.strlen = 0

section Record

variable {core : Core} {es before : List Event}

theorem text_ne_nil {buf : CharBuf} (h : buf.strlen ≠ 0) : buf.text ≠ [] :=
  fun hnil => h (congrArg List.length hnil)

/-- Where the record of an order comes from in one step: a new insert, an answer that
numbers it, or the step before. -/
theorem outbound_concat {e : Event} {orderId : UInt64} {record : ToraOrder}
    (h : ((adapter core).exec (es ++ [e])).outboundOrders orderId = some record) :
    (∃ call, e = .insertOrder call ∧ call.input.orderId = orderId ∧ record.orderSysId = []) ∨
      (∃ field info old, e = .onRspOrderInsert field info ∧
        numberedOrder core ((adapter core).exec es) field info = some orderId ∧
        ((adapter core).exec es).outboundOrders orderId = some old ∧
        record = { old with orderSysId := field.orderSysId.text }) ∨
      (((adapter core).exec es).outboundOrders orderId = some record ∧
        ∀ field info, e = .onRspOrderInsert field info →
          numberedOrder core ((adapter core).exec es) field info ≠ some orderId) := by
  rw [Machine.exec_concat] at h
  generalize (adapter core).exec es = s at h ⊢
  have hstep := congrFun (congrArg Routing.outboundOrders (step_routing core s e)) orderId
  have h := hstep.symm.trans h
  dsimp only at h
  cases e with
  | insertOrder call =>
    simp only [entries, numbering, applyNumbering, List.foldl_cons, List.foldl_nil,
      Store.set_apply] at h
    by_cases hid : orderId = call.input.orderId
    · have hid' : orderId = Entry.orderId ⟨call, s.orderRef, s.frontId, s.sessionId⟩ := hid
      rw [if_pos hid'] at h
      refine Or.inl ⟨call, rfl, hid.symm, ?_⟩
      rw [← Option.some.inj h]
      rfl
    · have hid' : orderId ≠ Entry.orderId ⟨call, s.orderRef, s.frontId, s.sessionId⟩ := hid
      rw [if_neg hid'] at h
      exact Or.inr (Or.inr ⟨h, by simp⟩)
  | onRspOrderInsert field info =>
    cases hnumbered : numberedOrder core s field info with
    | none =>
      simp only [entries, numbering, hnumbered, applyNumbering, List.foldl_nil,
        Option.map_none] at h
      refine Or.inr (Or.inr ⟨h, ?_⟩)
      intro field' info' heq
      cases heq
      simp [hnumbered]
    | some numbered =>
      simp only [entries, numbering, hnumbered, applyNumbering, List.foldl_nil,
        Option.map_some, Store.modify_apply] at h
      by_cases hid : orderId = numbered
      · rw [if_pos hid, Option.map_eq_some_iff] at h
        obtain ⟨old, hold, rfl⟩ := h
        exact Or.inr (Or.inl ⟨field, info, old, rfl, by rw [hnumbered, hid], hold, rfl⟩)
      · rw [if_neg hid] at h
        refine Or.inr (Or.inr ⟨h, ?_⟩)
        intro field' info' heq
        cases heq
        rw [hnumbered]
        exact fun hsome => hid (Option.some.inj hsome).symm
  | _ => exact Or.inr (Or.inr ⟨h, by simp⟩)

/-- The number in a record was brought by a message that was bound to the order. -/
theorem number_origin {orderId : UInt64} {record : ToraOrder}
    (h : ((adapter core).exec es).outboundOrders orderId = some record)
    (hnumber : record.orderSysId ≠ []) :
    ∃ b ∈ (adapter core).log (bindings core) es,
      b.orderId = orderId ∧ b.orderSysId.text = record.orderSysId := by
  induction es using List.reverseRecOn generalizing record with
  | nil => simp [adapter, TraderTora.initial] at h
  | append_singleton es e ih =>
    rw [Machine.log_concat]
    rcases outbound_concat h with ⟨call, rfl, -, hnil⟩ |
      ⟨field, info, old, rfl, hnumbered, -, rfl⟩ | ⟨hold, -⟩
    · exact absurd hnil hnumber
    · exact ⟨_, List.mem_append_right _ (binding_of_answer hnumbered), rfl, rfl⟩
    · obtain ⟨b, hb, hid, htext⟩ := ih hold hnumber
      exact ⟨b, List.mem_append_left _ hb, hid, htext⟩

/-- What the record of an order and the messages bound to it have in common, where every
message matches the record it reaches. -/
structure Numbered (core : Core) (before : List Event) : Prop where
  reported : ∀ b ∈ (adapter core).log (bindings core) before, b.orderSysId.strlen ≠ 0 →
    ∀ record, ((adapter core).exec before).outboundOrders b.orderId = some record →
      record.orderSysId = b.orderSysId.text
  answered : ∀ orderId record,
    ((adapter core).exec before).outboundOrders orderId = some record →
    record.orderSysId ≠ [] → ∃ b ∈ (adapter core).log (bindings core) before,
      b.orderId = orderId ∧ b.orderSysId.text = record.orderSysId ∧
        b.exchangeId = record.exchangeCode

theorem Numbered.nil (core : Core) : Numbered core [] where
  reported := by simp
  answered := by simp [adapter, TraderTora.initial]

/-- One step on: a message that matches the record it reaches keeps record and messages
together, and so does the insert of an order without a number. -/
theorem Numbered.concat {e : Event} (hmatch : MatchesRecord core before e)
    (h : Numbered core before) : Numbered core (before ++ [e]) := by
  obtain ⟨hanswer, hreturn, hinsert⟩ := hmatch
  refine ⟨?reported, ?answered⟩
  case reported =>
    intro b hb hlen record hrecord
    rw [Machine.log_concat, List.mem_append] at hb
    rcases outbound_concat hrecord with ⟨call, rfl, hid, -⟩ |
      ⟨field, info, old, rfl, hnumbered, hold, rfl⟩ | ⟨hold, hothers⟩
    · rcases hb with hb | hb
      · exact absurd (hinsert call rfl b hb hid.symm) hlen
      · simp [bindings] at hb
    · rcases hb with hb | hb
      · have htext := h.reported b hb hlen old hold
        rcases hanswer field info rfl b.orderId old hnumbered hold with hsame | ⟨hnil, -⟩
        · rw [← htext, hsame]
        · exact absurd (htext.symm.trans hnil) (text_ne_nil hlen)
      · rw [binding_unique hb (binding_of_answer hnumbered)]
    · rcases hb with hb | hb
      · exact h.reported b hb hlen record hold
      · rcases binding_source hb with ⟨field, info, rfl, hnumbered, -⟩ |
          ⟨field, now, rfl, hlen', hreported, hnumber⟩
        · exact absurd hnumbered (hothers field info rfl)
        · simp only [Prod.mk.injEq] at hnumber
          rw [hnumber.2]
          exact hreturn field now rfl hlen' b.orderId record hreported hold
  case answered =>
    intro orderId record hrecord hne
    rw [Machine.log_concat]
    rcases outbound_concat hrecord with ⟨call, rfl, -, hnil⟩ |
      ⟨field, info, old, rfl, hnumbered, hold, rfl⟩ | ⟨hold, -⟩
    · exact absurd hnil hne
    · rcases hanswer field info rfl orderId old hnumbered hold with hsame | ⟨-, hexchange⟩
      · rw [← hsame] at hne
        obtain ⟨b, hb, hid, htext, hcode⟩ := h.answered orderId old hold hne
        exact ⟨b, List.mem_append_left _ hb, hid, htext.trans hsame, hcode⟩
      · exact ⟨_, List.mem_append_right _ (binding_of_answer hnumbered), rfl, rfl, hexchange⟩
    · obtain ⟨b, hb, hid, htext, hcode⟩ := h.answered orderId record hold hne
      exact ⟨b, List.mem_append_left _ hb, hid, htext, hcode⟩

theorem numbered_of_matches (hmatch : Along (MatchesRecord core) es) : Numbered core es := by
  induction es using List.reverseRecOn with
  | nil => exact .nil core
  | append_singleton es e ih =>
    obtain ⟨hmatch, hlast⟩ := (Along.concat_iff es e).mp hmatch
    exact (ih hmatch).concat hlast

/-- A binding whose key is that of a number on an order's exchange is of this number. -/
theorem number_of_record_key {after : List Event} (hes : es = before ++ after)
    (hparts : NumberPartsHashApart core es) {orderId : UInt64} {record : ToraOrder}
    {orderSysId : CharBuf}
    (hrecord : ((adapter core).exec before).outboundOrders orderId = some record)
    (htold : ToldApart core es orderSysId) {b : Binding}
    (hb : b ∈ (adapter core).log (bindings core) before)
    (hkey : b.key core = getOrderSysIdKey core record.exchangeCode orderSysId) :
    b.number = (record.exchangeCode, orderSysId) := by
  obtain ⟨hcode, hnumber⟩ := getOrderSysIdKey_inj.mp hkey
  obtain ⟨w, hw, -, hunnumbered⟩ := entry_of_outbound hrecord
  have hexchange : record.exchangeCode = w.exchangeCode :=
    congrArg (fun r : ToraOrder => r.exchangeCode) hunnumbered
  have hused : b.number ∈ (adapter core).log (usedNumbers core) es := by
    rw [hes]
    exact (adapter core).mem_log_append _ after (usedNumber_of_binding hb)
  have hentry : w ∈ (adapter core).log entries es := by
    rw [hes]
    exact (adapter core).mem_log_append _ after hw
  apply Prod.ext
  · rw [hexchange] at hcode
    exact (hparts.2 _ hused w hentry hcode).trans hexchange.symm
  · exact (htold _ hused).1 hnumber

/-- Numbers that the records and the bound messages share are shared with the index, and
go into cancels. -/
theorem Numbered.agree {after : List Event} (hes : es = before ++ after)
    (hparts : NumberPartsHashApart core es) (hunique : NumbersUnique core es)
    (h : Numbered core before) : NumbersAgree core es before where
  index := by
    intro orderId record orderSysId hrecord hlen htold
    have hkeys : ∀ b ∈ (adapter core).log (bindings core) before,
        b.key core = getOrderSysIdKey core record.exchangeCode orderSysId →
        b.number = (record.exchangeCode, orderSysId) :=
      fun b hb hkey => number_of_record_key hes hparts hrecord htold hb hkey
    have hmem : ∀ b ∈ (adapter core).log (bindings core) before,
        b ∈ (adapter core).log (bindings core) es := by
      intro b hb
      rw [hes]
      exact (adapter core).mem_log_append _ after hb
    constructor
    · intro hnumber
      obtain ⟨b, hb, hid, htext, hcode⟩ :=
        h.answered orderId record hrecord (by rw [hnumber]; exact text_ne_nil hlen)
      have hbuf : b.orderSysId = orderSysId := by
        have hused := usedNumber_of_binding (hmem b hb)
        exact (htold _ hused).2 (htext.trans hnumber)
      have hkey : b.key core = getOrderSysIdKey core record.exchangeCode orderSysId := by
        rw [Binding.key, hcode, hbuf]
      rw [inboundOrderSysids_eq]
      apply Store.ofWrites_of_forall
      · exact List.mem_map.mpr ⟨b, hb, by rw [hkey, hid]⟩
      · intro orderId' hwrite
        obtain ⟨b', hb', heq⟩ := List.mem_map.mp hwrite
        simp only [Prod.mk.injEq] at heq
        have hsame : b.number = b'.number :=
          (hkeys b hb hkey).trans (hkeys b' hb' heq.1).symm
        have hids := hunique b (hmem b hb) b' (hmem b' hb') (by rw [hbuf]; exact hlen) hsame
        rw [← heq.2, ← hids, hid]
    · intro hfind
      obtain ⟨b, hb, hkey, rfl⟩ := binding_of_sysid hfind
      have hbuf : b.orderSysId = orderSysId := congrArg Prod.snd (hkeys b hb hkey)
      rw [← hbuf] at hlen ⊢
      exact h.reported b hb hlen record hrecord
  cancel := by
    intro b hb hlen call req rid hid hreq
    obtain ⟨record, hrecord, rfl, -⟩ := (cancelOrder_request core _ call req rid).mp hreq
    rw [hid] at hrecord
    exact h.reported b hb hlen record hrecord

/-- What a cancel of an order would carry is the number in the order's record. -/
theorem NumbersAgree.reported (h : NumbersAgree core es before) {b : Binding}
    (hb : b ∈ (adapter core).log (bindings core) before) (hlen : b.orderSysId.strlen ≠ 0)
    {record : ToraOrder}
    (hrecord : ((adapter core).exec before).outboundOrders b.orderId = some record) :
    record.orderSysId = b.orderSysId.text := by
  let call : CancelCall := ⟨0, 0, 0, ⟨b.orderId, 0⟩, 0⟩
  have hreq := (cancelOrder_request core ((adapter core).exec before) call _ _).mpr
    ⟨record, hrecord, rfl, rfl⟩
  exact h.cancel b hb hlen call _ _ rfl hreq

/-- The record of an order that an answer numbers. -/
theorem outbound_answered {field : InputOrderField} {info : Option RspInfoField}
    {orderId : UInt64} {record : ToraOrder}
    (hnumbered : numberedOrder core ((adapter core).exec es) field info = some orderId)
    (hrecord : ((adapter core).exec es).outboundOrders orderId = some record) :
    ((adapter core).exec (es ++ [.onRspOrderInsert field info])).outboundOrders orderId =
      some { record with orderSysId := field.orderSysId.text } := by
  rw [Machine.exec_concat]
  refine Eq.trans (congrFun (congrArg Routing.outboundOrders (step_routing core _ _)) orderId) ?_
  simp [entries, numbering, hnumbered, applyNumbering, Store.modify_apply, hrecord]

/-- A return leaves the records alone. -/
theorem outbound_returned (core : Core) (es : List Event) (field : OrderField) (now : Int64) :
    ((adapter core).exec (es ++ [.onRtnOrder field now])).outboundOrders =
      ((adapter core).exec es).outboundOrders := by
  rw [Machine.exec_concat]
  have hstep := congrArg Routing.outboundOrders
    (step_routing core ((adapter core).exec es) (.onRtnOrder field now))
  exact hstep

/-- An insert leaves a record without a number. -/
theorem outbound_inserted (core : Core) (es : List Event) (call : InsertCall) :
    ((adapter core).exec (es ++ [.insertOrder call])).outboundOrders call.input.orderId =
      some (outboundRecord call ((adapter core).exec es).orderRef ((adapter core).exec es).frontId
        ((adapter core).exec es).sessionId) := by
  rw [Machine.exec_concat]
  exact Store.set_same _ _ _

/-- Where records and index agree after an event, the event matched the record. -/
theorem NumbersAgree.matches {e : Event} {after : List Event} (hes : es = before ++ e :: after)
    (hparts : NumberPartsHashApart core es) (hbuffers : BuffersIdentical core es)
    (h : NumbersAgree core es before) (h' : NumbersAgree core es (before ++ [e])) :
    MatchesRecord core before e := by
  have hes' : es = (before ++ [e]) ++ after := by simp [hes]
  refine ⟨?answer, ?report, ?insert⟩
  case answer =>
    rintro field info rfl orderId record hnumbered hrecord
    have hrecord' := outbound_answered hnumbered hrecord
    have hnew := binding_of_answer hnumbered
    by_cases hnil : record.orderSysId = []
    · by_cases hlen : field.orderSysId.strlen = 0
      · left
        rw [hnil, List.length_eq_zero_iff.mp hlen]
      · right
        refine ⟨hnil, ?_⟩
        have hmem := List.mem_append_right ((adapter core).log (bindings core) before) hnew
        rw [← Machine.log_concat] at hmem
        have htold : ToldApart core es field.orderSysId := by
          intro u hu
          have hused : (field.exchangeId, field.orderSysId) ∈
              (adapter core).log (usedNumbers core) es := by
            rw [hes']
            exact (adapter core).mem_log_append _ after (usedNumber_of_binding hmem)
          exact ⟨hparts.1 u hu _ hused, hbuffers u hu _ hused⟩
        have hfind := (h'.index orderId _ _ hrecord' hlen htold).mp rfl
        obtain ⟨b, hb, hkey, rfl⟩ := binding_of_sysid hfind
        have hnumber := number_of_record_key hes' hparts hrecord' htold hb hkey
        rw [Machine.log_concat, List.mem_append] at hb
        rcases hb with hb | hb
        · -- bound before, so the record would hold the number already
          have hbuf : b.orderSysId = field.orderSysId := congrArg Prod.snd hnumber
          rw [← hbuf] at hlen
          have htext := h.reported hb hlen hrecord
          exact absurd (htext.symm.trans hnil) (text_ne_nil hlen)
        · have hcode : b.exchangeId = record.exchangeCode := congrArg Prod.fst hnumber
          rw [← hcode, binding_unique hb hnew]
    · left
      obtain ⟨b, hb, rfl, htext⟩ := number_origin hrecord hnil
      have hlen : b.orderSysId.strlen ≠ 0 := by
        intro hzero
        rw [← htext] at hnil
        exact hnil (List.length_eq_zero_iff.mp hzero)
      have hsame := h'.reported ((adapter core).mem_log_append _ _ hb) hlen hrecord'
      exact htext.symm.trans hsame.symm
  case report =>
    rintro field now rfl hlen orderId record hreported hrecord
    have hb : (⟨field.frontId, field.sessionId, field.orderRef, field.exchangeId,
        field.orderSysId, orderId⟩ : Binding) ∈
          (adapter core).log (bindings core) (before ++ [.onRtnOrder field now]) := by
      rw [Machine.log_concat]
      apply List.mem_append_right
      simp [bindings, hlen, hreported]
    exact h'.reported hb hlen (by rw [outbound_returned]; exact hrecord)
  case insert =>
    rintro call rfl b hb hid
    by_contra hlen
    have hrecord := outbound_inserted core before call
    rw [← hid] at hrecord
    have htext := h'.reported ((adapter core).mem_log_append _ _ hb) hlen hrecord
    exact text_ne_nil hlen htext.symm

end Record

/-- In a run that reports no number for two orders, records and index agree in every state
exactly when every message matches the record it reaches. -/
theorem numbers_agree_iff (core : Core) (es : List Event)
    (hparts : NumberPartsHashApart core es)
    (hbuffers : BuffersIdentical core es) (hunique : NumbersUnique core es) :
    (∀ before after, es = before ++ after → NumbersAgree core es before) ↔
      Along (MatchesRecord core) es := by
  constructor
  · intro hagree before e after hes
    exact (hagree before _ hes).matches hes hparts hbuffers
      (hagree (before ++ [e]) after (by simp [hes]))
  · intro hmatch before after hes
    rw [hes] at hmatch
    exact (numbered_of_matches hmatch.of_append).agree hes hparts hunique

/-- The return comes before the answer: the index knows the number, the record does not,
and a cancel goes out without it. -/
theorem return_leaves_record_unnumbered :
    let es := [sampleLogin 3 7 10, .insertOrder (.sample 1 100), .onRtnOrder (.sample 3 7 11 66) 5]
    (NumberPartsHashApart .sample es ∧ BuffersIdentical .sample es ∧
      NumbersUnique .sample es) ∧
    ¬ ∀ before after, es = before ++ after → NumbersAgree .sample es before := by
  intro es
  refine ⟨by decide, ?_⟩
  intro h
  have hcancel := (h es [] rfl).cancel ⟨3, 7, 11, toraTstpExdSSE, sampleNumber 66, 100⟩
    (.head _) (by decide) (.sample 100)
    (cancelRequest (outboundRecord (.sample 1 100) 11 3 7) 12) 3 rfl (by decide)
  exact absurd hcancel (by decide)

/-- The answer with the number comes first, the return repeats it. -/
theorem numbers_agree_answered_first :
    let es := [sampleLogin 3 7 10, .insertOrder (.sample 1 100),
      .onRspOrderInsert (.sample 11 66) none, .onRtnOrder (.sample 3 7 11 66) 5]
    (∀ before after, es = before ++ after → NumbersAgree .sample es before) ↔
      Along (MatchesRecord .sample) es :=
  numbers_agree_iff .sample _ (by decide) (by decide) (by decide)

end KungfuTora
